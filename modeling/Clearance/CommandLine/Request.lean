import Clearance.CommandLine.Token

/-
  Requests: what the arguments of a command line ask for.

  The arguments are read from left to right. The first of
  them that is an operand has to be a command, and all behind
  it belong to the command. The argument `--` ends the
  options: what follows are operands, whatever they look
  like. It is itself taken up by the name of a helper next to
  it, and is left over if there is none.

  Key definitions include:
    * `CommandLine.Format`
    * `CommandLine.Request`
    * `CommandLine.Halt`
    * `CommandLine.Selection`
    * `CommandLine.Selection.scan`
    * `CommandLine.Request.read`
-/

------------------------------------------------------------
-- Requests
------------------------------------------------------------

namespace Clearance

namespace CommandLine

/- How helpers are written. -/
inductive Format where
  | text
  | json
  deriving DecidableEq

namespace Format

/- The format if none is chosen. -/
def initial : Format :=
  .text

/- The format for which a word stands. -/
def ofWord? (word : String) : Option Format :=
  if word = "text" then
    some .text
  else if word = "json" then
    some .json
  else
    none

end Format

/- What a command line asks for. -/
inductive Request where
  /- There are no arguments. -/
  | nothing
  | behaviors (format : Format)
  | resolve (format : Format) (name : String)
  deriving DecidableEq

/- Why reading ends before all arguments are read. -/
inductive Halt where
  | help (topic : Topic)
  | misuse (topic : Topic) (complaint : Complaint)
  deriving DecidableEq

/- The argument that ends the options. -/
def separator : String :=
  "--"

end CommandLine

end Clearance

------------------------------------------------------------
-- Selections
------------------------------------------------------------

namespace Clearance

namespace CommandLine

/- The options of a command that take a value. -/
inductive Setting where
  | format
  deriving DecidableEq

/- The words for the options that take a value. -/
def Setting.options : List (String × Setting) :=
  [("--format", .format)]

/-
  What the arguments of a command have chosen so far, and
  those among them for which there was no use.
-/
structure Selection where
  format : Format
  name : Option String
  /- Was the name the last of the arguments so far? -/
  endsInName : Bool
  surplus : List String
  deriving DecidableEq

namespace Selection

/- Nothing is chosen yet. -/
def initial : Selection where
  format := .initial
  name := none
  endsInName := false
  surplus := []

/- Leave an argument over. -/
def leave
    (selection : Selection)
    (argument : String) : Selection :=
  { selection with
    endsInName := false
    surplus := selection.surplus ++ [argument] }

/- Choose a format. -/
def choose
    (selection : Selection)
    (format : Format) : Selection :=
  { selection with
    format := format
    endsInName := false }

/- Does the command still want a name? -/
def wantsName
    (command : Command)
    (selection : Selection) : Bool :=
  command = .resolve && selection.name.isNone

/- Take an operand as the name, or leave it over. -/
def offer
    (command : Command)
    (selection : Selection)
    (operand : String) : Selection :=
  if selection.wantsName command then
    { selection with
      name := some operand
      endsInName := true }
  else
    selection.leave operand

/-
  Take the value of the format option. A separator in place
  of the value takes back any earlier choice.
-/
def setFormat
    (command : Command)
    (selection : Selection)
    (value : String) : Except Halt Selection :=
  if value = separator then
    .ok (selection.choose .initial)
  else
    match Format.ofWord? value with
    | some format =>
      .ok (selection.choose format)
    | none =>
      .error
        (.misuse (.command command) (.unknownFormat value))

/- Take the tokens in front of the separator. -/
def scan (command : Command) :
    List (Token Setting) →
    Selection →
    Except Halt Selection
  | [], selection =>
    .ok selection
  | .operand text :: rest, selection =>
    scan command rest (selection.offer command text)
  | .stray text :: rest, selection =>
    scan command rest (selection.leave text)
  | .help :: _, _ =>
    .error (.help (.command command))
  | .helpWith value :: _, _ =>
    .error (.misuse (.command command) (.helpValue value))
  | .valued .format value :: rest, selection =>
    match selection.setFormat command value with
    | .ok chosen => scan command rest chosen
    | .error halt => .error halt
  | .awaiting .format :: .operand value :: rest, selection =>
    match selection.setFormat command value with
    | .ok chosen => scan command rest chosen
    | .error halt => .error halt
  | .awaiting .format :: _, _ =>
    .error (.misuse (.command command) .formatMissing)

/-
  Take the operands behind the separator. A name next to the
  separator takes it up.
-/
def close
    (command : Command)
    (selection : Selection)
    (operands : List String) : Selection :=
  if selection.endsInName then
    operands.foldl leave selection
  else
    match selection.wantsName command, operands with
    | true, name :: rest =>
      rest.foldl leave (selection.offer command name)
    | _, _ =>
      (separator :: operands).foldl leave selection

/- Read the arguments of a command. -/
def read
    (command : Command)
    (arguments : List String) : Except Halt Selection :=
  let front := arguments.takeWhile (· ≠ separator)
  match Token.ofArguments Setting.options front with
  | .error complaint =>
    .error (.misuse (.command command) complaint)
  | .ok tokens =>
    (scan command tokens initial).map fun selection =>
      match arguments.dropWhile (· ≠ separator) with
      | [] => selection
      | _ :: operands => selection.close command operands

end Selection

end CommandLine

end Clearance

------------------------------------------------------------
-- Reading
------------------------------------------------------------

namespace Clearance

namespace CommandLine

namespace Request

/- Grant a request if no arguments are left over. -/
def grant
    (surplus : List String)
    (request : Request) : Except Halt Request :=
  match surplus with
  | [] =>
    .ok request
  | _ =>
    .error (.misuse .overview (.unrecognized surplus))

/- The request that a selection makes of a command. -/
def ofSelection
    (command : Command)
    (selection : Selection) : Except Halt Request :=
  match command, selection.name with
  | .behaviors, _ =>
    .ok (.behaviors selection.format)
  | .resolve, some name =>
    .ok (.resolve selection.format name)
  | .resolve, none =>
    .error (.misuse (.command .resolve) .nameMissing)

/- The command for which a word stands. -/
def command? (word : String) : Option Command :=
  [Command.behaviors, .resolve].find? (·.word == word)

/-
  Read a command and its arguments, given those that were
  left over in front of it.
-/
def readCommand
    (surplus : List String)
    (word : String)
    (arguments : List String) : Except Halt Request :=
  match command? word with
  | none =>
    .error (.misuse .overview (.unknownCommand word))
  | some command =>
    match Selection.read command arguments with
    | .error halt =>
      .error halt
    | .ok selection =>
      (ofSelection command selection).bind
        (grant (surplus ++ selection.surplus))

/-
  Read a separator in front of any command. It is taken for
  the command if something follows it.
-/
def readSeparator
    (surplus : List String) :
    List String → Except Halt Request
  | [] =>
    grant (surplus ++ [separator]) .nothing
  | _ =>
    .error (.misuse .overview (.unknownCommand separator))

/-
  Read the arguments in front of the command, given those
  that were left over.
-/
def readFront :
    List String →
    List String →
    Except Halt Request
  | surplus, [] =>
    grant surplus .nothing
  | surplus, argument :: rest =>
    if argument = separator then
      readSeparator surplus rest
    else
      match
        Token.ofArgument ([] : List (String × Empty)) argument
      with
      | .error complaint =>
        .error (.misuse .overview complaint)
      | .ok (.operand word) =>
        readCommand surplus word rest
      | .ok (.stray text) =>
        readFront (surplus ++ [text]) rest
      | .ok .help =>
        .error (.help .overview)
      | .ok (.helpWith value) =>
        .error (.misuse .overview (.helpValue value))

/- What the arguments ask for. -/
def read (arguments : List String) : Except Halt Request :=
  readFront [] arguments

end Request

end CommandLine

end Clearance
