import SourceFacts.Task

/-!
How far a run has come: how many files were read, how many failed, and how many facts there are.
-/
namespace SourceFacts

/-- The counts of a run. -/
structure Progress where
  running : Bool
  total : Nat
  parsed : Nat
  failed : Nat
  facts : Nat
  deriving DecidableEq, Repr, Inhabited

namespace Progress

/-- Nothing begun. -/
def new : Progress := ⟨false, 0, 0, 0, 0⟩

/-- Begins a run over so many files. -/
def start (_ : Progress) (total : Nat) : Progress := ⟨true, total, 0, 0, 0⟩

/-- Counts a finished task; only a successful one adds facts. -/
def record (progress : Progress) (result : TaskResult) : Progress :=
  if result.isOk then
    { progress with
      parsed := progress.parsed + 1
      facts := progress.facts + result.facts.count }
  else { progress with failed := progress.failed + 1 }

/-- Ends the run. -/
def finish (progress : Progress) : Progress := { progress with running := false }

/-- How many tasks are finished. -/
def done (progress : Progress) : Nat := progress.parsed + progress.failed

/-- The finished share in percent; zero if there is nothing to do. -/
def percent (progress : Progress) : Float :=
  if progress.total = 0 then 0 else progress.done.toFloat * 100 / progress.total.toFloat

end Progress

end SourceFacts
