import SourceFacts.Config
import SourceFacts.FileTree

/-!
What a command finds around it and what it leaves behind: files, variables and settings on one side,
lines of output and an exit code on the other. Time is not among what is found.
-/
namespace SourceFacts.Command

/-- What the program finds around it: files, the directory it runs in, variables, and the number of
processors. -/
structure World where
  tree : FileTree
  current : List String
  lookup : String → Option String
  processors : Nat

/-- The components of a path from where the program runs. -/
def World.place (world : World) (path : String) : List String :=
  if path.toList.head? = some '/' then Path.parts path else world.current ++ Path.parts path

/-- The text of a file. -/
def World.readText (world : World) (path : String) : Except Error String :=
  match world.tree.readText (world.place path) with
  | .ok text => .ok text
  | .error error => .error (.io error.message)

/-- The settings of a directory: those of its settings file, or the defaults. -/
def discover (world : World) (root : String) : Except Error Config := do
  let path := Path.join root Config.fileName
  if world.tree.isFile (world.place path) then Config.ofFile path (← world.readText path)
  else return {}

/-- The settings for a run, with what is overridden from outside. -/
def loadConfig (world : World) (root : String) (path : Option String) : Except Error Config := do
  let config ← match path with
    | some path => do Config.ofFile path (← world.readText path)
    | none => discover world root
  match config.applyOverrides world.lookup with
  | (config, none) => .ok config
  | (_, some error) => .error error

/-- A line of output. -/
inductive Line where
  | plain (text : String)
  | info (text : String)
  | warning (text : String)
  deriving DecidableEq, Repr, Inhabited

/-- What a command writes, and the code it ends with. -/
structure Report where
  exit : Nat
  output : List Line
  errors : List String
  deriving DecidableEq, Repr, Inhabited

/-- How the program ends after an error. -/
def Report.ofError (error : Error) : Report :=
  let cause := match error with
    | .io text => "\n\nCaused by:\n    " ++ text
    | _ => ""
  ⟨1, [], ["Error: " ++ error.message ++ cause]⟩

end SourceFacts.Command
