/-
  Documents of texts, lists and records, laid out over
  several lines with two spaces for each level.

  Each item of a list and each field of a record has a line
  of its own; an empty list stays on one line.

  Key definitions include:
    * `Text.Document`
    * `Text.Document.render`
-/

------------------------------------------------------------
-- Documents
------------------------------------------------------------

namespace Clearance

namespace Text

/-
  A document. The texts and field names that it holds are
  plain words, which need no escape between double quotes.
-/
inductive Document where
  | word (text : String)
  | list (items : List Document)
  | record (fields : List (String × Document))

end Text

end Clearance

------------------------------------------------------------
-- Layout
------------------------------------------------------------

namespace Clearance

namespace Text

namespace Document

/- A line break and the indentation of a level. -/
def newline (level : Nat) : String :=
  "\n" ++ String.ofList (List.replicate (2 * level) ' ')

/- A word between double quotes. -/
def quoteWord (text : String) : String :=
  "\x22" ++ text ++ "\x22"

/-
  Parts between brackets, each on a line of its own one
  level further in; no parts stay on one line.
-/
def enclose
    (opening closing : String)
    (level : Nat) : List String → String
  | [] => opening ++ closing
  | parts =>
    opening ++ newline (level + 1) ++
      ("," ++ newline (level + 1)).intercalate parts ++
      newline level ++ closing

mutual

/- A document as text, at a level of indentation. -/
def renderAt
    (level : Nat) : Document → String
  | .word text => quoteWord text
  | .list items =>
    enclose "[" "]" level (renderItems (level + 1) items)
  | .record fields =>
    enclose "\x7b" "\x7d" level
      (renderFields (level + 1) fields)

/- The items of a list, each as text. -/
def renderItems
    (level : Nat) : List Document → List String
  | [] => []
  | item :: rest =>
    renderAt level item :: renderItems level rest

/- The fields of a record, each as text. -/
def renderFields
    (level : Nat) : List (String × Document) → List String
  | [] => []
  | (name, value) :: rest =>
    (quoteWord name ++ ": " ++ renderAt level value) ::
      renderFields level rest

end

/- A document as text. -/
def render (document : Document) : String :=
  renderAt 0 document

end Document

end Text

end Clearance
