import SourceFacts.Error
import SourceFacts.Router

/-!
Tasks: one file to read each. A task never fails as such; what goes wrong is written into its
result. Only a reader that crashes keeps a task from having a result of its own.
-/
namespace SourceFacts

/-- How something ends that may crash. A crash need not leave a message. -/
inductive Attempt (α : Type) where
  | done (value : α)
  | crash (message : Option String)
  deriving Inhabited

namespace Attempt

variable {α β : Type}

/-- Goes on with a value, unless there was a crash. -/
def bind (attempt : Attempt α) (next : α → Attempt β) : Attempt β :=
  match attempt with
  | .done value => next value
  | .crash message => .crash message

/-- An attempt at something that is made of the value. -/
def map (f : α → β) (attempt : Attempt α) : Attempt β := attempt.bind fun value => .done (f value)

@[simp] theorem bind_done (value : α) (next : α → Attempt β) : bind (.done value) next = next value :=
  rfl

@[simp] theorem bind_crash (message : Option String) (next : α → Attempt β) :
    bind (.crash message) next = .crash message :=
  rfl

@[simp] theorem map_done (f : α → β) (value : α) : map f (.done value) = .done (f value) := rfl

@[simp] theorem map_crash (f : α → β) (message : Option String) :
    map f (.crash message) = .crash message :=
  rfl

end Attempt

/-- A reader of single files: it is given a content and the path that names it. -/
abbrev Reader := String → String → Attempt (Except Error Facts)

/-- A grammar as a reader; it never crashes. -/
def Grammar.reader (grammar : Grammar) : Reader := fun content _ =>
  .done (.ok (grammar.facts content))

/-- One file to read. A language may be named instead of being found by the path. -/
structure Task where
  path : String
  content : String
  language : Option String
  deriving DecidableEq, Repr, Inhabited

/-- What came of a task. The duration is in milliseconds. -/
structure TaskResult where
  path : String
  facts : Facts
  duration : Float
  error : Option String
  deriving Inhabited

namespace TaskResult

/-- A result without facts. -/
def failed (path reason : String) : TaskResult := ⟨path, .empty, 0, some reason⟩

/-- Whether the task succeeded. -/
def isOk (result : TaskResult) : Bool := result.error.isNone

/-- The result of reading a file. -/
def ofOutcome (path : String) : Except Error Facts → TaskResult
  | .ok facts => ⟨path, facts, 0, none⟩
  | .error error => failed path error.message

end TaskResult

namespace Task

/-- Who reads a task: the named language if there is one, else whoever takes the path. -/
def readerIn (task : Task) (router : Router Reader) : Option (Registration Reader) :=
  (task.language.bind router.get?).or (router.forPath? task.path)

/-- Does a task. -/
def run (router : Router Reader) (task : Task) : Attempt TaskResult :=
  match task.readerIn router with
  | none => .done (.ofOutcome task.path (.error (.unsupportedLanguage task.path)))
  | some registration =>
    match registration.reader task.content task.path with
    | .done outcome => .done (.ofOutcome task.path outcome)
    | .crash message => .crash message

/-- Does tasks one after the other, until one crashes. -/
def runAll (router : Router Reader) : List Task → Attempt (List TaskResult)
  | [] => .done []
  | task :: rest =>
    match task.run router with
    | .crash message => .crash message
    | .done result =>
      match runAll router rest with
      | .crash message => .crash message
      | .done results => .done (result :: results)

end Task

end SourceFacts
