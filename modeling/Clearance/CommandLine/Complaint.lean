import Clearance.CommandLine.Manual

/-
  What may be wrong with the arguments of a command line.

  Key definitions include:
    * `CommandLine.Complaint`
    * `CommandLine.Complaint.text`
    * `CommandLine.Complaint.report`
-/

namespace Clearance

namespace CommandLine

/- A reason to refuse the arguments. -/
inductive Complaint where
  /- A shortened option could be any of several. -/
  | ambiguous (argument : String) (options : List String)
  /- The help option was given a value. -/
  | helpValue (value : String)
  /- The format option has no value behind it. -/
  | formatMissing
  | unknownFormat (value : String)
  | unknownCommand (word : String)
  | nameMissing
  /- Arguments for which there is no use. -/
  | unrecognized (arguments : List String)
  deriving DecidableEq

namespace Complaint

/- A complaint in words. -/
def text : Complaint → String
  | .ambiguous argument options =>
    "ambiguous option: " ++ argument ++
      " could match " ++ ", ".intercalate options
  | .helpValue value =>
    "argument -h/--help: ignored explicit argument " ++
      Text.quote value
  | .formatMissing =>
    "argument --format: expected one argument"
  | .unknownFormat value =>
    "argument --format: invalid choice: " ++
      Text.quote value ++ " (choose from 'text', 'json')"
  | .unknownCommand word =>
    "argument command: invalid choice: " ++
      Text.quote word ++
      " (choose from 'behaviors', 'resolve')"
  | .nameMissing =>
    "the following arguments are required: name"
  | .unrecognized arguments =>
    "unrecognized arguments: " ++
      " ".intercalate arguments

/- A complaint below the usage that it refers to. -/
def report
    (complaint : Complaint)
    (topic : Topic) : String :=
  Text.lines
    [ topic.usage,
      topic.program ++ ": error: " ++ complaint.text
    ]

end Complaint

end CommandLine

end Clearance
