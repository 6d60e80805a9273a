import Clearance.CommandLine.Manual

/-
  The pages of the manual, written out.

  Each topic has one line of usage and the words that call for
  it, and a page of help that starts with this line. The pages
  on the two commands end in the same options.

  Key definitions include:
    * `Topic.page`

  Key theorems include:
    * `Topic.mem_usages`
    * `Topic.help_eq`
-/

namespace Clearance

namespace CommandLine

namespace Topic

/- The usage of each topic, with the words that call for it. -/
theorem mem_usages
    (topic : Topic) :
    (topic.usage, topic.program) ∈
      [ ("usage: permitspec [-h] " ++
            "\x7bbehaviors,resolve\x7d ...",
          "permitspec"),
        ("usage: permitspec behaviors [-h] " ++
            "[--format \x7btext,json\x7d]",
          "permitspec behaviors"),
        ("usage: permitspec resolve [-h] " ++
            "[--format \x7btext,json\x7d] name",
          "permitspec resolve")
      ] := by
  cases topic with
  | overview => decide
  | command chosen => cases chosen <;> decide

/- The page of help on a topic. -/
def page : Topic → String
  | .overview =>
    "usage: permitspec [-h] \x7bbehaviors,resolve\x7d ...\n" ++
      "\n" ++
      "permitspec — inspect RESTful helper methods\n" ++
      "\n" ++
      "positional arguments:\n" ++
      "  \x7bbehaviors,resolve\x7d\n" ++
      "    behaviors          " ++
      "List every helper method and its actions\n" ++
      "    resolve            " ++
      "Resolve a helper method name\n" ++
      "\n" ++
      "options:\n" ++
      "  -h, --help           " ++
      "show this help message and exit\n"
  | .command .behaviors =>
    "usage: permitspec behaviors [-h] " ++
      "[--format \x7btext,json\x7d]\n" ++
      "\n" ++
      "options:\n" ++
      "  -h, --help            " ++
      "show this help message and exit\n" ++
      "  --format \x7btext,json\x7d  Output format\n"
  | .command .resolve =>
    "usage: permitspec resolve [-h] " ++
      "[--format \x7btext,json\x7d] name\n" ++
      "\n" ++
      "positional arguments:\n" ++
      "  name                  " ++
      "Helper method, e.g. only_to_read\n" ++
      "\n" ++
      "options:\n" ++
      "  -h, --help            " ++
      "show this help message and exit\n" ++
      "  --format \x7btext,json\x7d  Output format\n"

/- The help on a topic is its page. -/
theorem help_eq
    (topic : Topic) :
    topic.help = topic.page := by
  cases topic with
  | overview => decide +kernel
  | command chosen => cases chosen <;> decide +kernel

end Topic

end CommandLine

end Clearance
