import Clearance.CommandLine.Listing

/-
  The command line, from its arguments to what it prints and
  the status that it exits with.

  Key definitions include:
    * `CommandLine.Output`
    * `CommandLine.answer`
    * `CommandLine.run`
-/

namespace Clearance

namespace CommandLine

/- The exit status, and the text on each of two streams. -/
structure Output where
  status : Nat
  out : String
  err : String
  deriving DecidableEq

/- The output for a request. -/
def answer : Request → Output
  | .nothing =>
    ⟨1, Topic.overview.help, ""⟩
  | .behaviors format =>
    ⟨0, Listing.every format, ""⟩
  | .resolve format name =>
    match Helper.resolve name with
    | .ok helper =>
      ⟨0, Listing.one format helper, ""⟩
    | .error failure =>
      ⟨1, "", Text.lines ["Error: " ++ failure.message]⟩

/- The output when reading has ended early. -/
def excuse : Halt → Output
  | .help topic =>
    ⟨0, topic.help, ""⟩
  | .misuse topic complaint =>
    ⟨2, "", complaint.report topic⟩

/- The output for arguments. -/
def run (arguments : List String) : Output :=
  match Request.read arguments with
  | .ok request => answer request
  | .error halt => excuse halt

end CommandLine

end Clearance
