import SourceFacts.Command

/-!
The command line. Files are read into a tree, the commands work on the tree, and their reports are
written out.
-/
namespace SourceFacts.Command

/-- Reads an entry of a directory, and all below it. A link is kept as a link to where it leads;
what leads nowhere, and what is neither file nor directory, is left out. -/
partial def loadEntry (entry : IO.FS.DirEntry) : IO (Option FileTree) := do
  match (← entry.path.symlinkMetadata).type with
  | .file => return some (.file (String.fromUTF8? (← IO.FS.readBinFile entry.path)))
  | .symlink =>
    try return some (.link (← IO.FS.realPath entry.path).toString)
    catch _ => return none
  | .dir =>
    let mut entries : List (String × FileTree) := []
    for below in ← entry.path.readDir do
      if let some node ← loadEntry below then entries := (below.fileName, node) :: entries
    return some (.directory entries)
  | .other => return none

/-- Reads what is at a place, and all below it. -/
def loadAt (place : List String) : IO (Option FileTree) := do
  let path ← IO.FS.realPath (fullPath place)
  if ← path.isDir then
    let mut entries : List (String × FileTree) := []
    for below in ← path.readDir do
      if let some node ← loadEntry below then entries := (below.fileName, node) :: entries
    return some (.directory entries)
  else return some (.file (String.fromUTF8? (← IO.FS.readBinFile path)))

/-- Follows a path from a place, and keeps the links on the way. Gives the place it leads to. -/
def trace (tree : FileTree) (place : List String) :
    List String → IO (FileTree × Option (List String))
  | [] => return (tree, some place)
  | name :: rest => do
    if name = "" || name = "." then trace tree place rest
    else if name = ".." then trace tree place.dropLast rest
    else
      let next := place ++ [name]
      let found ← try pure (some (← IO.FS.realPath (fullPath next)).toString)
        catch _ => pure none
      match found with
      | none => return (tree, none)
      | some target =>
        let real := Path.parts target
        let real := real.filter (· ≠ "")
        let tree := if real = next then tree else FileTree.insert (.link target) next tree
        trace tree real rest

/-- Adds the ignore files of the directories above a place. -/
def loadAbove (tree : FileTree) (place : List String) : IO FileTree := do
  let mut tree := tree
  for length in List.range place.length do
    for file in [[".ignore"], [".gitignore"], [".git", "info", "exclude"]] do
      let place := place.take length ++ file
      let node ← try loadAt place catch _ => pure none
      if let some (.file text) := node then tree := FileTree.insert (.file text) place tree
  return tree

/-- Adds what a path leads to. -/
def loadPath (tree : FileTree) (current : List String) (path : String) : IO FileTree := do
  let start := if path.toList.head? = some '/' then [] else current
  match ← trace tree start (Path.parts path) with
  | (tree, none) => return tree
  | (tree, some place) =>
    match ← try loadAt place catch _ => pure none with
    | none => return tree
    | some node => loadAbove (FileTree.insert node place tree) place

/-- The number of processors that the system tells of. -/
def countProcessors : IO Nat := do
  try
    let text ← IO.FS.readFile "/proc/cpuinfo"
    return max 1 ((text.splitOn "\n").filter ("processor".toList.isPrefixOf ·.toList)).length
  catch _ => return 1

/-- The variables that the program looks at. -/
def loadVariables : IO (List (String × String)) := do
  let mut found : List (String × String) := []
  for name in [Config.poolSizeVariable, Config.maxTreesVariable, logVariable] do
    if let some value ← IO.getEnv name then found := (name, value) :: found
  return found

/-- The program's surroundings, as far as a path and a settings file reach. -/
def loadWorld (path : String) (config : Option String) : IO World := do
  let current := (Path.parts (← IO.FS.realPath ".").toString).filter (· ≠ "")
  let tree ← loadPath .empty current path
  let tree ← match config with
    | some config => loadPath tree current config
    | none => pure tree
  let values ← loadVariables
  return ⟨tree, current, fun name => values.lookup name, ← countProcessors⟩

/-- A line as it is written. -/
def Line.text : Line → String
  | plain text => text
  | info text => "INFO " ++ text
  | warning text => "WARN " ++ text

/-- Writes a report out. -/
def Report.write (report : Report) : IO UInt32 := do
  for line in report.errors do IO.eprintln line
  for line in report.output do IO.println line.text
  (← IO.getStdout).flush
  return report.exit.toUInt32

/-- Milliseconds since some moment. -/
def now : IO Float := return (← IO.monoNanosNow).toFloat / 1000000

/-- Does something and tells how long it took. -/
def timed {α : Type} (work : Unit → α) : IO (α × Float) := do
  let start ← now
  let value ← IO.lazyPure work
  return (value, (← now) - start)

/-- Reads files through a coordinator, and charges it with the time they take. -/
def timedPass (world : World) (coordinator : Coordinator SyntaxTree) :
    List String → IO (Coordinator SyntaxTree × List String)
  | [] => return (coordinator, [])
  | path :: rest => do
    let ((outcome, coordinator), elapsed) ← timed fun _ => parseOne world coordinator path
    match outcome with
    | .ok (some outcome) => timedPass world (coordinator.charge outcome.route elapsed) rest
    | .ok none => timedPass world coordinator rest
    | .error error =>
      let (coordinator, errors) ← timedPass world coordinator rest
      return (coordinator, parseErrorLine path error :: errors)

/-- Reads every file below a directory twice, and measures it. -/
def timedScan (world : World) (root : String) (config : Option String) :
    IO (Except Error Scan) := do
  match loadConfig world root config with
  | .error error => return .error error
  | .ok config =>
    let files := Walk.files world.tree Router.standard world.current root
    let (coordinator, cold) ← timedPass world (.new config.parser) files
    let (coordinator, warm) ← timedPass world coordinator files
    return .ok ⟨files.length, coordinator, cold ++ warm⟩

/-- How long a watch waits between two looks, in milliseconds. -/
def watchPause : UInt32 := 250

/-- Looks at the files again and again, and reads those that have changed. -/
partial def keepWatching (world : World) (following : Following) : IO UInt32 := do
  IO.sleep watchPause
  let node ← try loadAt following.root catch _ => pure none
  let tree := FileTree.insert (node.getD .empty) following.root world.tree
  let look (tree : FileTree) := ((tree.node? following.root).getD .empty).texts following.root
  let next := { world with tree }
  let mut following := following
  for (place, event) in Watch.compare (look world.tree) (look tree) do
    let (_, elapsed) ← timed fun _ => following.update next 0 place event
    let (report, after) := following.update next elapsed place event
    let _ ← report.write
    following := after
  keepWatching next following

/-- The clock of the program, whose seconds are a signed word. -/
def loadClock : IO Clock := return ⟨← IO.monoNanosNow, 1000000000 * Nat.pow 2 63 - 1⟩

/-- The code that the program ends with when it crashes. -/
def crashCode : UInt32 := 101

/-- Writes out what came of an action. -/
def finish (outcome : Attempt (Except Error Report)) : IO UInt32 := do
  match outcome with
  | .done (.ok report) => report.write
  | .done (.error error) => (Report.ofError error).write
  | .crash message =>
    IO.eprintln (message.getD "the program crashed")
    return crashCode

/-- Carries an action out. -/
def perform (config : Option String) (action : Action) : IO UInt32 := do
  let clock ← loadClock
  match action with
  | .version | .help => finish (act ⟨.empty, [], fun _ => none, 1⟩ (fun _ => clock) 0 config action)
  | .parse path json =>
    let world ← loadWorld path config
    let (run, elapsed) ← timed fun _ => parseBelow world (fun _ => clock) path config
    finish (run.map (Except.map fun run => run.report elapsed json))
  | .stats path json =>
    let scan ← timedScan (← loadWorld path config) path config
    finish (.done (scan.map fun scan => scan.report json))
  | .watch path =>
    let world ← loadWorld path config
    match follow world path config with
    | .ok (report, following) =>
      let _ ← report.write
      keepWatching world following
    | .error error => (Report.ofError error).write

end SourceFacts.Command

/-- Runs the program on its arguments. -/
def main (arguments : List String) : IO UInt32 :=
  match SourceFacts.Command.read? arguments with
  | none => SourceFacts.Command.Report.misused.write
  | some invocation => SourceFacts.Command.perform invocation.config invocation.action
