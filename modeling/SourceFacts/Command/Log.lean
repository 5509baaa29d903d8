import SourceFacts.Command.World
import SourceFacts.Text.Blank

/-!
How much is logged. A variable may hold a filter: parts between commas, each a level, or a name and
the level for messages under it.
-/
namespace SourceFacts.Command

/-- How much is logged. -/
inductive LogLevel where
  | off
  | error
  | warning
  | info
  deriving DecidableEq, Repr, Inhabited

/-- The rank of a level: a higher one logs more. -/
def LogLevel.rank : LogLevel → Nat
  | off => 0
  | error => 1
  | warning => 2
  | info => 3

/-- The level that a word names. Beyond `info` nothing more is logged. -/
def LogLevel.ofWord? (word : String) : Option LogLevel :=
  match Path.lowerCase word with
  | "off" | "0" => some .off
  | "error" | "1" => some .error
  | "warn" | "2" => some .warning
  | "info" | "3" | "debug" | "4" | "trace" | "5" => some .info
  | _ => none

/-- The name that messages are logged under. -/
def logTarget : String := "code_facts::worker"

/-- What one part of a log filter says: how long a name it gives, and the level. A part that is
about other names says nothing. -/
def directive? (text : String) : Option (Nat × LogLevel) :=
  match (text.toList.splitOn '=').map String.ofList with
  | [word] =>
    match LogLevel.ofWord? word with
    | some level => some (0, level)
    | none => if word.toList.isPrefixOf logTarget.toList then some (word.length, .info) else none
  | [name, word] =>
    if name.toList.isPrefixOf logTarget.toList then
      (LogLevel.ofWord? word).map (name.length, ·)
    else none
  | _ => none

/-- The level that a log filter sets: the part with the longest name counts, of equals the last. A
filter that says nothing lets errors through. -/
def LogLevel.ofFilter (filter : String) : LogLevel :=
  let parts := (filter.toList.splitOn ',').map fun part => Text.trim (String.ofList part)
  let said := parts.filterMap directive?
  (said.foldl (fun best next => if best.1 ≤ next.1 then next else best) (0, .error)).2

/-- The variable that holds the log filter. -/
def logVariable : String := "RUST_LOG"

/-- The level at which a run logs. -/
def World.logLevel (world : World) : LogLevel :=
  match world.lookup logVariable with
  | some filter => .ofFilter filter
  | none => .info

end SourceFacts.Command
