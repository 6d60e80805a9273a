import Clearance.Text.Layout

/-
  The manual of the command line: for the whole of it and for
  each command, the usage in one line and the full help.

  Key definitions include:
    * `CommandLine.Command`
    * `CommandLine.Command.word`
    * `CommandLine.Topic`
    * `CommandLine.Topic.program`
    * `CommandLine.Topic.usage`
    * `CommandLine.Topic.help`
-/

------------------------------------------------------------
-- Topics
------------------------------------------------------------

namespace Clearance

namespace CommandLine

/- The commands: list every helper, or look up one. -/
inductive Command where
  | behaviors
  | resolve
  deriving DecidableEq

/- The word for a command. -/
def Command.word : Command → String
  | .behaviors => "behaviors"
  | .resolve => "resolve"

/- What a page of the manual is about. -/
inductive Topic where
  | overview
  | command (chosen : Command)
  deriving DecidableEq

namespace Topic

/- The words that call for what a topic is about. -/
def program : Topic → String
  | .overview => "permitspec"
  | .command chosen => "permitspec " ++ chosen.word

/- The usage of a topic, in one line. -/
def usage : Topic → String
  | .overview =>
    "usage: permitspec [-h] \x7bbehaviors,resolve\x7d ..."
  | .command .behaviors =>
    "usage: permitspec behaviors [-h] " ++
      "[--format \x7btext,json\x7d]"
  | .command .resolve =>
    "usage: permitspec resolve [-h] " ++
      "[--format \x7btext,json\x7d] name"

end Topic

end CommandLine

end Clearance

------------------------------------------------------------
-- Help
------------------------------------------------------------

namespace Clearance

namespace CommandLine

namespace Topic

/- The lines on the options of a command. -/
def optionLines : List String :=
  [ "options:",
    "  -h, --help            " ++
      "show this help message and exit",
    "  --format \x7btext,json\x7d  Output format"
  ]

/- The lines of the help below the usage. -/
def helpLines : Topic → List String
  | .overview =>
    [ "permitspec — inspect RESTful helper methods",
      "",
      "positional arguments:",
      "  \x7bbehaviors,resolve\x7d",
      "    behaviors          " ++
        "List every helper method and its actions",
      "    resolve            Resolve a helper method name",
      "",
      "options:",
      "  -h, --help           " ++
        "show this help message and exit"
    ]
  | .command .behaviors =>
    optionLines
  | .command .resolve =>
    [ "positional arguments:",
      "  name                  " ++
        "Helper method, e.g. only_to_read",
      ""
    ] ++ optionLines

/- The full help on a topic. -/
def help (topic : Topic) : String :=
  Text.lines (topic.usage :: "" :: topic.helpLines)

end Topic

end CommandLine

end Clearance
