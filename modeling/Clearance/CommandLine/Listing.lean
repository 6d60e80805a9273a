import Clearance.CommandLine.Request
import Clearance.Helper
import Clearance.Text.Document

/-
  Helpers as the command line lists them, in two formats.

  As text, a helper is two lines: its name with the expected
  actions, and below it the denied ones. As a document, it is
  a record of its name, parts and actions.

  Key definitions include:
    * `CommandLine.Listing.textLines`
    * `CommandLine.Listing.document`
    * `CommandLine.Listing.one`
    * `CommandLine.Listing.every`
-/

namespace Clearance

namespace CommandLine

namespace Listing

/- Actions in a line; a dash stands for there being none. -/
def actionLine : List Action → String
  | [] => "-"
  | actions => ", ".intercalate actions

/- How wide the column of names is. -/
def nameWidth : Nat :=
  17

/- A helper in two lines of text. -/
def textLines (helper : Helper) : List String :=
  [ Text.column nameWidth helper.name ++ " actions: " ++
      actionLine helper.expected,
    Text.column nameWidth "" ++ " negated: " ++
      actionLine helper.denied
  ]

/- Actions as a list of words. -/
def actionList (actions : List Action) : Text.Document :=
  .list (actions.map .word)

/- A helper as a record. -/
def document (helper : Helper) : Text.Document :=
  .record
    [ ("name", .word helper.name),
      ("prefix", .word helper.focus.word),
      ("behavior", .word helper.behavior.word),
      ("actions", actionList helper.expected),
      ("negated_actions", actionList helper.denied)
    ]

/- One helper in a format. -/
def one
    (format : Format)
    (helper : Helper) : String :=
  match format with
  | .text => Text.lines (textLines helper)
  | .json => Text.lines [(document helper).render]

/- Every helper in a format. -/
def every : Format → String
  | .text => Text.lines (Helper.all.flatMap textLines)
  | .json =>
    Text.lines
      [(Text.Document.list (Helper.all.map document)).render]

end Listing

end CommandLine

end Clearance
