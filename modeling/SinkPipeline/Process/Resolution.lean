import SinkPipeline.Site
import SinkPipeline.Text.Case

/-! # Resolution

  A stage token or a sink becomes a stage by trying **strategies** on
  **candidate** files.  The candidates of a token are the files of its name in
  the sink's directory and then in each search directory; a sink is its own
  only candidate.  The first candidate for which a strategy gives a stage wins,
  and of its strategies the first that does.  If none does, a token is left as
  the name of a command and a sink as its own command.

  There are two strategies of the library's own: a file that can be run is its
  own command, and any other file is run by the **launcher** for its suffix.
-/

namespace SinkPipeline

/-- The command lines that run a file, by the file's suffix in small letters
    and without its point. -/
abbrev Launchers : Type := List (String × (String → List String))

/-- The launcher that puts some words in front of the file. -/
def launcherOf (words : List String) (file : String) : List String := words ++ [file]

/-- The launchers in use unless others are given. -/
def Launchers.standard : Launchers :=
  [("ts", launcherOf ["deno", "run", "-A"]), ("py", launcherOf ["python"]),
    ("sh", launcherOf ["bash"]), ("rb", launcherOf ["ruby"]), ("js", launcherOf ["node"])]

namespace Resolution

/-- What a strategy knows besides the file. -/
structure Context where
  /-- The directory that the stage will run from. -/
  cwd : Path
  /-- The launchers. -/
  launchers : Launchers := Launchers.standard

/-- A way to run a file: it gives a stage, or nothing if it does not apply. -/
abbrev Strategy : Type := Machine → Context → Path → Except Fault (Option Stage)

/-! ### The library's own strategies -/

/-- Does the mode of the entry at a path let anybody run it? -/
def hasExecBit (m : Machine) (file : Path) : Except Fault Bool := do
  return Tree.modeOf (← m.tree.stat m.home file.toString) &&& 0o111 != 0

/-- Does the file at a path begin with `#!`?  A file that the operating system
    does not open does not. -/
def hasShebang (m : Machine) (file : Path) : Except Fault Bool :=
  match m.tree.readFile m.home file.toString with
  | .ok bytes => .ok (Machine.startsScript bytes)
  | .error f => if f.isOs then .ok false else .error f

/-- Is there a regular file at a path? -/
def isFile (m : Machine) (file : Path) : Except Fault Bool := m.tree.isFile? m.home file.toString

/-- A file that can be run is its own command. -/
def direct : Strategy := fun m c file => do
  if !(← isFile m file) then return none
  -- The mode is looked at first: a file that may be run need not be readable.
  let canRun ← if ← hasExecBit m file then pure true else hasShebang m file
  if canRun then return some { command := file.toString, cwd := some c.cwd.toString }
  else return none

/-- The suffix that launchers are looked up by. -/
def launcherKey (file : Path) : String :=
  String.ofList ((Text.lower file.suffix).toList.dropWhile (· == '.'))

/-- A file is run by the launcher for its suffix. -/
def byLauncher : Strategy := fun m c file => do
  if !(← isFile m file) then return none
  match c.launchers.lookup (launcherKey file) with
  | none => return none
  | some launch => return some (← Stage.ofArgv (launch file.toString) (some c.cwd.toString))

/-- The strategies in use unless others are given. -/
def standard : List Strategy := [direct, byLauncher]

/-! ### Resolving -/

/-- What the strategies give for one file, and the error of the operating
    system that ended the attempt, if one did. -/
def tryFile (m : Machine) (c : Context) (file : Path) :
    List Strategy → Except Fault (Option Stage × Option Fault)
  | [] => .ok (none, none)
  | s :: rest =>
    match s m c file with
    | .ok (some stage) => .ok (some stage, none)
    | .ok none => tryFile m c file rest
    -- An error of the operating system ends the attempt on this file, not the resolution.
    | .error f => if f.isOs then .ok (none, some f) else .error f

/-- The files that a token may mean. -/
def candidates (m : Machine) (sinkDir : Path) (token : String) (searchDirs : List String) :
    List Path :=
  (sinkDir :: searchDirs.map fun d => m.absolute (.ofString d)).map (· / Path.ofString token)

/-- The stage of a token that no file was found for. -/
def fallbackForToken (token : String) (sinkDir : Path) : Stage :=
  { command := token, cwd := some sinkDir.toString }

/-- The stage of a sink that no strategy runs. -/
def fallbackForSink (sink : Path) : Stage :=
  { command := sink.toString, cwd := some sink.parent.toString }

variable {ν : Type}

/-- The logger of resolutions. -/
def logger : String := "capexec.resolve"

/-- The stage for one file. -/
def resolveFile (c : Context) (strategies : List Strategy) (file : Path) :
    Act (Site ν) (Option Stage) := do
  let (stage, failure) ← Act.ofExcept (tryFile (← Act.machine) c file strategies)
  match failure with
  | none => pure ()
  | some f =>
    Act.log logger "debug" "resolve.probe_failed"
      [("path", .str file.toString), ("error", .str f.message)]
  return stage

/-- The stage for the first of some files that has one. -/
def resolveFirst (c : Context) (strategies : List Strategy) :
    List Path → Act (Site ν) (Option Stage)
  | [] => return none
  | file :: rest => do
    match ← resolveFile c strategies file with
    | some stage => return some stage
    | none => resolveFirst c strategies rest

/-- The stage of a token of a sink. -/
def resolveToken (token : String) (sink : Path) (searchDirs : List String) (launchers : Launchers)
    (strategies : List Strategy) : Act (Site ν) Stage := do
  let m ← Act.machine
  let sinkDir := m.absolute sink.parent
  match ← resolveFirst ⟨sinkDir, launchers⟩ strategies (candidates m sinkDir token searchDirs) with
  | some stage =>
    Act.log logger "debug" "resolve.stage"
      [("token", .str token), ("argv", Json.strings stage.argv)]
    return stage
  | none =>
    Act.log logger "debug" "resolve.stage_fallback" [("token", .str token)]
    return fallbackForToken token sinkDir

/-- The stage of a sink. -/
def resolveSink (sink : Path) (launchers : Launchers) (strategies : List Strategy) :
    Act (Site ν) Stage := do
  let sink := (← Act.machine).absolute sink
  match ← resolveFile ⟨sink.parent, launchers⟩ strategies sink with
  | some stage => return stage
  | none => return fallbackForSink sink

end Resolution

end SinkPipeline
