/-!
The command line: three commands, a path each, and few options. Arguments are taken from left to
right, and the first one that makes no sense ends the reading.
-/
namespace SourceFacts.Command

/-- What is asked for. -/
inductive Action where
  | parse (path : String) (json : Bool)
  | watch (path : String)
  | stats (path : String) (json : Bool)
  | version
  | help
  deriving DecidableEq, Repr, Inhabited

/-- What is asked for, and the settings file to use. -/
structure Invocation where
  action : Action
  config : Option String
  deriving DecidableEq, Repr, Inhabited

/-- The commands. -/
inductive Word where
  | parse
  | watch
  | stats
  deriving DecidableEq, Repr, Inhabited

/-- The command that a word names. -/
def Word.of? : String → Option Word
  | "parse" => some .parse
  | "watch" => some .watch
  | "stats" => some .stats
  | _ => none

/-- What has been read so far. An option may be given once in front of the command and once behind
it; the latter counts. -/
structure Reading where
  command : Option Word := none
  path : Option String := none
  json : Bool := false
  configBefore : Option String := none
  configAfter : Option String := none
  /-- Whether all that follows is a path. -/
  onlyPaths : Bool := false
  deriving DecidableEq, Repr, Inhabited

/-- Whether an argument looks like an option. -/
def isOption (argument : String) : Bool :=
  argument.toList.head? = some '-' && argument ≠ "-"

/-- Takes the path of a settings file. -/
def Reading.setConfig (reading : Reading) (value : String) : Option Reading :=
  if value = "" then none
  else if reading.command.isNone then
    if reading.configBefore.isSome then none
    else some { reading with configBefore := some value }
  else if reading.configAfter.isSome then none
  else some { reading with configAfter := some value }

/-- Takes an argument that is no option: first the command, then its path. -/
def Reading.setWord (reading : Reading) (word : String) : Option Reading :=
  match reading.command with
  | none =>
    if reading.onlyPaths then none
    else (Word.of? word).map fun command => { reading with command := some command }
  | some _ =>
    if word = "" || reading.path.isSome then none else some { reading with path := some word }

/-- What has been asked for when all arguments are read. -/
def Reading.finish? (reading : Reading) : Option Invocation := do
  let path := reading.path.getD "."
  let action := match ← reading.command with
    | .parse => .parse path reading.json
    | .watch => .watch path
    | .stats => .stats path reading.json
  return ⟨action, reading.configAfter.or reading.configBefore⟩

/-- The text of an option behind its equals sign. -/
def optionValue? (name argument : String) : Option String :=
  let start := (name ++ "=").toList
  if start.isPrefixOf argument.toList then
    some (String.ofList (argument.toList.drop start.length))
  else none

/-- Reads arguments, given what has been read so far. -/
def readFrom (reading : Reading) : List String → Option Invocation
  | [] => reading.finish?
  | argument :: rest =>
    if reading.onlyPaths || !isOption argument then do
      if argument = "help" && reading.command.isNone && !reading.onlyPaths then
        return ⟨.help, none⟩
      readFrom (← reading.setWord argument) rest
    else if argument = "--" then readFrom { reading with onlyPaths := true } rest
    else if argument = "-h" || argument = "--help" then some ⟨.help, none⟩
    else if (argument = "-V" || argument = "--version") && reading.command.isNone then
      some ⟨.version, none⟩
    else if argument = "--json" then
      if reading.json || reading.command.isNone || reading.command = some .watch then none
      else readFrom { reading with json := true } rest
    else if argument = "--config" then
      match rest with
      | value :: rest =>
        if isOption value then none
        else do readFrom (← reading.setConfig value) rest
      | [] => none
    else
      match optionValue? "--config" argument with
      | some value => do readFrom (← reading.setConfig value) rest
      | none => none

/-- What the arguments ask for, if they make sense. -/
def read? (arguments : List String) : Option Invocation := readFrom {} arguments

end SourceFacts.Command
