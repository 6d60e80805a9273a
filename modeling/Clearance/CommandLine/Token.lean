import Clearance.CommandLine.Complaint
import Clearance.Text.Number

/-
  Arguments as tokens: what each argument is taken for, by
  its own text alone.

  An argument is an operand unless it starts with a dash and
  has more behind it. A long option may be shortened as far
  as no other one starts alike, and may carry its value behind
  an equals sign. Negative numbers are operands, and so is
  whatever is no option and holds a space.

  Key definitions include:
    * `CommandLine.Token`
    * `CommandLine.Token.bundle`
    * `CommandLine.Token.shortHelp`
    * `CommandLine.Token.ofLong`
    * `CommandLine.Token.ofArgument`
    * `CommandLine.Token.ofArguments`
-/

------------------------------------------------------------
-- Tokens
------------------------------------------------------------

namespace Clearance

namespace CommandLine

/-
  What an argument is taken for, where `α` has the options
  that take a value.
-/
inductive Token (α : Type) where
  | operand (text : String)
  /- It looks like an option, but there is no such option. -/
  | stray (text : String)
  | help
  /- A request for help that was given a value. -/
  | helpWith (value : String)
  /- The value of the option is the next argument. -/
  | awaiting (name : α)
  | valued (name : α) (value : String)

end CommandLine

end Clearance

------------------------------------------------------------
-- Classification
------------------------------------------------------------

namespace Clearance

namespace CommandLine

namespace Token

variable {α : Type}

/-
  Letters in one argument with the short help option. Each
  may be the letter of that option again; from the first that
  is not, what is left is a value.
-/
def bundle : List Char → Token α
  | [] => .help
  | c :: rest =>
    if c = 'h' then
      bundle rest
    else
      .helpWith (String.ofList (c :: rest))

/-
  The short help option, with what stands behind its letter.
  An equals sign there may come before letters, but not stand
  alone.
-/
def shortHelp : List Char → Token α
  | ['='] => .helpWith ""
  | '=' :: letters => bundle letters
  | letters => bundle letters

/- An argument with a dash in front that is no option. -/
def unmatched (argument : String) : Token α :=
  if
    Text.isNegativeNumber argument.toList ||
      argument.toList.contains ' '
  then
    .operand argument
  else
    .stray argument

/- The long options: the one for help, and those given. -/
def longOptions
    (options : List (String × α)) :
    List (String × Option α) :=
  ("--help", none) ::
    options.map fun (word, name) => (word, some name)

/- The text in front of the first equals sign. -/
def stem (argument : List Char) : List Char :=
  argument.takeWhile (· ≠ '=')

/- The text behind the first equals sign, if there is one. -/
def attached? (argument : List Char) : Option String :=
  match argument.dropWhile (· ≠ '=') with
  | [] => none
  | _ :: value => some (String.ofList value)

/- A long option, with the value that is attached to it. -/
def ofOption :
    Option α →
    Option String →
    Token α
  | none, none => .help
  | none, some value => .helpWith value
  | some name, none => .awaiting name
  | some name, some value => .valued name value

/- An argument that starts with two dashes. -/
def ofLong
    (options : List (String × α))
    (argument : String) : Except Complaint (Token α) :=
  let start := stem argument.toList
  let matching :=
    (longOptions options).filter fun option =>
      start.isPrefixOf option.1.toList
  match matching with
  | [] =>
    .ok (unmatched argument)
  | [option] =>
    .ok (ofOption option.2 (attached? argument.toList))
  | several =>
    .error (.ambiguous argument (several.map Prod.fst))

/- What an argument is taken for. -/
def ofArgument
    (options : List (String × α))
    (argument : String) : Except Complaint (Token α) :=
  match argument.toList with
  | first :: second :: rest =>
    if first ≠ '-' then
      .ok (.operand argument)
    else if second = '-' then
      ofLong options argument
    else if second = 'h' then
      .ok (shortHelp rest)
    else
      .ok (unmatched argument)
  | _ =>
    .ok (.operand argument)

/- What each of several arguments is taken for. -/
def ofArguments
    (options : List (String × α)) :
    List String → Except Complaint (List (Token α))
  | [] => .ok []
  | argument :: rest =>
    match ofArgument options argument with
    | .error complaint => .error complaint
    | .ok token => (ofArguments options rest).map (token :: ·)

end Token

end CommandLine

end Clearance
