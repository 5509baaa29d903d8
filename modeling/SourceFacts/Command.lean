import SourceFacts.Command.Arguments
import SourceFacts.Command.Follow
import SourceFacts.Command.Parse
import SourceFacts.Command.Stats

/-!
The program as a function from what it finds around it to what it writes. The clock and elapsed time
are given from outside, and a watch goes as far as the point where it would begin to wait.
-/
namespace SourceFacts.Command

/-- The name of the program and its version. -/
def versionLine : String := "code-facts 0.1.0"

/-- How the program is called. -/
def usage : String :=
  "Usage: code-facts [--config <FILE>] <COMMAND>\n\nCommands:\n  parse [PATH] [--json]\n"
    ++ "  watch [PATH]\n  stats [PATH] [--json]"

/-- What is written when the arguments make no sense. -/
def Report.misused : Report := ⟨2, [], [usage]⟩

/-- What an action writes. -/
def act (world : World) (clock : Nat → Clock) (elapsed : Float) (config : Option String) :
    Action → Attempt (Except Error Report)
  | .version => .done (.ok ⟨0, [.plain versionLine], []⟩)
  | .help => .done (.ok ⟨0, [.plain usage], []⟩)
  | .parse path json =>
    (parseBelow world clock path config).map (Except.map fun run => run.report elapsed json)
  | .stats path json => .done ((scanBelow world path config).map fun scan => scan.report json)
  | .watch path => .done ((follow world path config).map Prod.fst)

/-- Runs the program. -/
def run (world : World) (clock : Nat → Clock) (elapsed : Float) (arguments : List String) :
    Attempt Report :=
  match read? arguments with
  | none => .done .misused
  | some ⟨action, config⟩ =>
    (act world clock elapsed config action).map fun outcome =>
      match outcome with
      | .ok report => report
      | .error error => .ofError error

end SourceFacts.Command
