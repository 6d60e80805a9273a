import Clearance.Text.Quoted

/-
  Plain layouts of text: truth values, sequences and tables
  in one line, lines, columns, and words from a name.

  Key definitions include:
    * `Text.truth`
    * `Text.sequence`
    * `Text.table`
    * `Text.spaced`
    * `Text.column`
    * `Text.lines`
-/

------------------------------------------------------------
-- Values In One Line
------------------------------------------------------------

namespace Clearance

namespace Text

/- A truth value as a capitalised word. -/
def truth : Bool → String
  | true => "True"
  | false => "False"

/-
  A sequence of texts, quoted, between round brackets. The
  only item of a sequence keeps a comma behind it.
-/
def sequence : List String → String
  | [] => "()"
  | [item] => "(" ++ quote item ++ ",)"
  | items =>
    "(" ++ ", ".intercalate (items.map quote) ++ ")"

/- An entry of a table: its quoted key and its truth. -/
def tableEntry (entry : String × Bool) : String :=
  quote entry.1 ++ ": " ++ truth entry.2

/- A table of truth values between curly brackets. -/
def table (entries : List (String × Bool)) : String :=
  "\x7b" ++ ", ".intercalate (entries.map tableEntry) ++
    "\x7d"

end Text

end Clearance

------------------------------------------------------------
-- Words, Columns And Lines
------------------------------------------------------------

namespace Clearance

namespace Text

/- A name with a space for each underscore. -/
def spaced (name : String) : String :=
  String.ofList
    (name.toList.map fun c => if c = '_' then ' ' else c)

/- Fill a text with spaces up to a width. -/
def column
    (width : Nat)
    (text : String) : String :=
  text ++
    String.ofList (List.replicate (width - text.length) ' ')

/- Each line with a line break behind it. -/
def lines : List String → String
  | [] => ""
  | line :: rest => line ++ "\n" ++ lines rest

end Text

end Clearance
