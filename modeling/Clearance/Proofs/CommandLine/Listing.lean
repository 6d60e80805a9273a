import Clearance.CommandLine.Listing

/-
  What is listed of helpers, written out.

  In words, a helper is two rows below each other. As an
  object, it has five fields, each on a line of its own, and
  each action of a field is on a line of its own. A list of
  objects has each of them two spaces further in.

  Key definitions include:
    * `Listing.rows`
    * `Listing.array`
    * `Listing.object`
    * `Listing.single`
    * `Listing.whole`

  Key theorems include:
    * `Text.lines_append`
    * `Listing.one_eq`
    * `Listing.every_eq`
-/

------------------------------------------------------------
-- Lines
------------------------------------------------------------

namespace Clearance

namespace Text

/- A line alone is followed by one line break. -/
theorem lines_singleton
    (line : String) :
    lines [line] = line ++ "\n" := by
  rw [lines, lines, String.append_empty]

theorem lines_append
    (first second : List String) :
    lines (first ++ second) =
      lines first ++ lines second := by
  induction first with
  | nil =>
      rw [List.nil_append, lines, String.empty_append]
  | cons line rest ih =>
      simp only [List.cons_append, lines, ih,
        String.append_assoc]

end Text

end Clearance

------------------------------------------------------------
-- Listings Written Out
------------------------------------------------------------

namespace Clearance

namespace CommandLine

namespace Listing

/-
  A helper in words. The name is filled up to seventeen
  places, and actions are between commas, or are a dash if
  there are none.
-/
def rows (helper : Helper) : String :=
  let listed := fun actions : List Action =>
    if actions = [] then "-" else ", ".intercalate actions
  helper.name ++
    String.ofList
      (List.replicate (17 - helper.name.length) ' ') ++
    " actions: " ++ listed helper.expected ++ "\n" ++
    "                  negated: " ++ listed helper.denied ++
    "\n"

/-
  The actions in a field of an object; `lineBreak` ends a line
  and leads to the margin of the object.
-/
def array
    (lineBreak : String)
    (actions : List Action) : String :=
  if actions = [] then
    "[]"
  else
    "[" ++ lineBreak ++ "    " ++
      ("," ++ lineBreak ++ "    ").intercalate
        (actions.map fun action =>
          "\x22" ++ action ++ "\x22") ++
      lineBreak ++ "  ]"

/- A helper as an object. -/
def object
    (lineBreak : String)
    (helper : Helper) : String :=
  "\x7b" ++ lineBreak ++
    "  \x22name\x22: \x22" ++ helper.name ++
    "\x22," ++ lineBreak ++
    "  \x22prefix\x22: \x22" ++ helper.focus.word ++
    "\x22," ++ lineBreak ++
    "  \x22behavior\x22: \x22" ++ helper.behavior.word ++
    "\x22," ++ lineBreak ++
    "  \x22actions\x22: " ++
    array lineBreak helper.expected ++ "," ++ lineBreak ++
    "  \x22negated_actions\x22: " ++
    array lineBreak helper.denied ++ lineBreak ++
    "\x7d"

/- One helper in a format. -/
def single : Format → Helper → String
  | .text, helper => rows helper
  | .json, helper => object "\n" helper ++ "\n"

/- Every helper in a format. -/
def whole : Format → String
  | .text => String.join (Helper.all.map rows)
  | .json =>
    "[" ++ "\n  " ++
      ("," ++ "\n  ").intercalate
        (Helper.all.map (object "\n  ")) ++
      "\n" ++ "]" ++ "\n"

end Listing

end CommandLine

end Clearance

------------------------------------------------------------
-- Helpers In Words
------------------------------------------------------------

namespace Clearance

namespace CommandLine

namespace Listing

theorem actionLine_eq
    (actions : List Action) :
    actionLine actions =
      if actions = [] then
        "-"
      else
        ", ".intercalate actions := by
  cases actions with
  | nil => rfl
  | cons action rest => rfl

theorem lines_textLines
    (helper : Helper) :
    Text.lines (textLines helper) = rows helper := by
  have hBlank :
      Text.column nameWidth "" ++ " negated: " =
        "                  negated: " :=
    rfl
  rw [textLines, hBlank]
  simp only [Text.lines, actionLine_eq, rows, Text.column,
    nameWidth, String.append_empty, String.append_assoc]

theorem lines_flatMap_textLines
    (helpers : List Helper) :
    Text.lines (helpers.flatMap textLines) =
      String.join (helpers.map rows) := by
  induction helpers with
  | nil => rfl
  | cons helper rest ih =>
      rw [List.flatMap_cons, Text.lines_append, ih,
        lines_textLines, List.map_cons, String.join_cons]

end Listing

end CommandLine

end Clearance

------------------------------------------------------------
-- Helpers As Objects
------------------------------------------------------------

namespace Clearance

namespace CommandLine

namespace Listing

open Text.Document

/- One level further in, a line starts with two more spaces. -/
theorem newline_succ
    (level : Nat) :
    newline (level + 1) = newline level ++ "  " := by
  have hBlanks :
      List.replicate (2 * (level + 1)) ' ' =
        List.replicate (2 * level) ' ' ++ [' ', ' '] := by
    rw [Nat.mul_add, ← List.replicate_append_replicate]
    rfl
  rw [newline, newline, hBlanks, String.ofList_append,
    ← String.append_assoc]

/- Some parts are on lines of their own. -/
theorem enclose_of_ne_nil
    {parts : List String}
    (hParts : parts ≠ [])
    (opening closing : String)
    (level : Nat) :
    enclose opening closing level parts =
      opening ++ newline (level + 1) ++
        ("," ++ newline (level + 1)).intercalate parts ++
        newline level ++ closing := by
  cases parts with
  | nil => exact absurd rfl hParts
  | cons part rest => rfl

theorem renderItems_words
    (level : Nat)
    (words : List String) :
    renderItems level (words.map .word) =
      words.map quoteWord := by
  induction words with
  | nil => rfl
  | cons word rest ih =>
      rw [List.map_cons, renderItems, ih, renderAt,
        List.map_cons]

/- A list of actions, two levels above its items. -/
theorem renderAt_actionList
    (level : Nat)
    (actions : List Action) :
    renderAt (level + 1) (actionList actions) =
      array (newline level) actions := by
  rw [actionList, renderAt, renderItems_words]
  cases actions with
  | nil => rfl
  | cons action rest =>
      have hSpaces : "  " ++ "  " = "    " :=
        rfl
      have hClosing : "  " ++ "]" = "  ]" :=
        rfl
      have hWord :
          quoteWord =
            fun word => "\x22" ++ word ++ "\x22" :=
        rfl
      rw [array, if_neg (List.cons_ne_nil _ _), List.map_cons,
        enclose_of_ne_nil (List.cons_ne_nil _ _), hWord]
      simp only [List.map_cons, newline_succ,
        String.append_assoc, hSpaces, hClosing]

theorem renderAt_document
    (level : Nat)
    (helper : Helper) :
    renderAt level (document helper) =
      object (newline level) helper := by
  unfold object
  simp only [document, renderAt, renderFields,
    renderAt_actionList, enclose, newline_succ,
    String.intercalate_cons_cons,
    String.intercalate_singleton]
  -- The two texts are cut into pieces in different places.
  apply String.toList_inj.mp
  simp [quoteWord]

theorem renderItems_documents
    (level : Nat)
    (helpers : List Helper) :
    renderItems level (helpers.map document) =
      helpers.map (object (newline level)) := by
  induction helpers with
  | nil => rfl
  | cons helper rest ih =>
      rw [List.map_cons, renderItems, ih, renderAt_document,
        List.map_cons]

end Listing

end CommandLine

end Clearance

------------------------------------------------------------
-- Both Formats
------------------------------------------------------------

namespace Clearance

namespace CommandLine

namespace Listing

open Text.Document

theorem newline_zero : newline 0 = "\n" :=
  rfl

theorem newline_one : newline 1 = "\n  " :=
  rfl

/- One helper is listed as it is written out. -/
theorem one_eq
    (format : Format)
    (helper : Helper) :
    one format helper = single format helper := by
  cases format with
  | text =>
      rw [one, single, lines_textLines]
  | json =>
      rw [one, single, Text.lines_singleton, render,
        renderAt_document, newline_zero]

/- So is every helper. -/
theorem every_eq
    (format : Format) :
    every format = whole format := by
  cases format with
  | text =>
      rw [every, whole, lines_flatMap_textLines]
  | json =>
      have hSome :
          Helper.all.map (object (newline 1)) ≠ [] := by
        rw [Ne, List.map_eq_nil_iff]
        decide
      rw [every, whole, Text.lines_singleton, render,
        renderAt, Nat.zero_add, renderItems_documents,
        enclose_of_ne_nil hSome, Nat.zero_add, newline_zero,
        newline_one]

end Listing

end CommandLine

end Clearance
