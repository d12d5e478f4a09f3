import SinkPipeline.FileTree.Access
import SinkPipeline.Process.Stage
import SinkPipeline.Process.Stream
import SinkPipeline.Text.Cut

/-! # Starting processes

  A **machine** is what processes run on: a file tree, a working directory, an
  environment, and what the programs in files do.

  A command with a slash names a file; any other is looked for in the
  directories of the `PATH` of the new process.  The operating system refuses a
  command for the last reason that is not mere absence, or else for the last
  reason.  A process that is started gets its whole input as it is fed, and
  from then on its output is known: bytes, then the end or a fault, of which
  the earliest one counts.
-/

namespace SinkPipeline

/-- What processes run on. -/
structure Machine where
  /-- The file tree. -/
  tree : Tree
  /-- The working directory, an absolute path without links and points. -/
  cwd : Path
  /-- The environment. -/
  env : Env := []
  /-- What the program in a file does, if the file holds one. -/
  programs : Bytes → Option Behaviour := fun _ => none
  /-- The modification time of the next file that is written. -/
  now : Nat := 0

namespace Machine

/-- The place of the working directory. -/
def home (m : Machine) : Place := m.cwd.parts

/-- The absolute path that a path means. -/
def absolute (m : Machine) (p : Path) : Path := Path.absolute m.cwd p

/-! ### Finding a program -/

/-- Do the bytes start like a script, with `#!`? -/
def startsScript : Bytes → Bool
  | 35 :: 33 :: _ => true
  | _ => false

/-- Does the first line of a script name an interpreter? -/
def namesInterpreter (bytes : Bytes) : Bool :=
  ((bytes.drop 2).takeWhile (· != 10)).any fun b => b != 32 && b != 9 && b != 0

/-- The program in the file at a path, or why the file cannot be run. -/
def programAt (m : Machine) (start : Place) (path : String) : Except Errno Behaviour := do
  match ← m.tree.entryAt start true path with
  | (_, .file f) =>
    if f.mode &&& 0o111 = 0 then throw .denied
    if !startsScript f.bytes then throw .execFormat
    -- A script whose interpreter is not there counts as not there itself.
    match m.programs f.bytes with
    | some b => return b
    | none => if namesInterpreter f.bytes then throw .noEntry else throw .execFormat
  | _ => throw .denied

/-- A name in a directory of the search path. -/
def inDirectory (dir name : String) : String :=
  -- An empty part of the search path means the directory that the process starts in.
  if dir = "" then name
  else if dir.toList.getLast? = some '/' then dir ++ name
  else dir ++ "/" ++ name

/-- Where programs are looked for when `PATH` is not set. -/
def defaultSearchPath : String := "/bin:/usr/bin"

/-- The files that a command may mean, in order. -/
def candidates (env : Env) (command : String) : List String :=
  if command.toList.contains '/' then [command]
  else
    (Text.cutAt ':' ((env.get? "PATH").getD defaultSearchPath).toList).map fun dir =>
      inDirectory (String.ofList dir) command

/-- Is the error a mere absence? -/
def isAbsence (e : Errno) : Bool := e == .noEntry || e == .notDirectory

/-- The first candidate that can be run, `reason` being why those before it
    could not: the first reason that is more than an absence, or else the last
    one. -/
def firstProgram (m : Machine) (start : Place) (reason : Errno) :
    List String → Except Errno Behaviour
  | [] => .error reason
  | path :: rest =>
    match m.programAt start path with
    | .ok b => .ok b
    | .error e =>
      firstProgram m start (if isAbsence reason then e else reason) rest

/-! ### What a process is given -/

/-- The environment of a stage's process. -/
def envOf (m : Machine) (overlay : Env) (inherit : Bool) (stage : Stage) : Env :=
  Env.layered m.env overlay (stage.env.getD []) inherit

/-- Why a variable cannot be handed to a process: a surrogate without a byte, or
    an equals sign in its name. -/
def variableRefusal? (name value : String) : Option Fault :=
  (Fault.ofSystemText? name).or
    (if name.toList.contains '=' then some (.plain .value "illegal environment variable name")
      else Fault.ofSystemText? value)

/-- Why no process can be given to a stage: its variables, its arguments or its
    directory cannot be handed over.  NUL characters in variables are found
    after all else in them and in the arguments. -/
def refusal? (env : Env) (stage : Stage) : Option Fault :=
  (env.findSome? fun p => variableRefusal? p.1 p.2).or <|
    (Fault.ofSystemText? stage.command).or <|
    (stage.argv.findSome? Tree.refusal?).or <|
    (env.findSome? fun p => Tree.refusal? (p.1 ++ p.2)).or <|
    stage.cwd.bind Tree.refusal?

/-- The place that a process starts in. -/
def startPlace (m : Machine) (stage : Stage) : Except Fault Place :=
  match stage.cwd with
  | none => .ok m.home
  | some dir =>
    match m.tree.entryAt m.home true dir with
    | .ok (p, .dir) => .ok p
    | .ok _ => .error (.os .notDirectory [dir])
    | .error e => .error (.os e [dir])

/-- The text of a place. -/
def placeText (p : Place) : String := (Path.mk .root p).toString

/-- The program of a stage and how it is called, or why it cannot be run. -/
def launch (m : Machine) (env : Env) (stage : Stage) : Except Fault (Behaviour × Call) := do
  match refusal? env stage with
  | some f => throw f
  | none => pure ()
  let start ← m.startPlace stage
  match m.firstProgram start .noEntry (candidates env stage.command) with
  | .error e => throw (.os e [stage.command])
  | .ok b =>
    return (b, {
      args := stage.args
      env := env
      cwd := placeText start
      -- What the program opens is seen from where it starts.
      file := fun path => (m.tree.readFile start path).toOption })

/-- The fault that reports why the operating system refused a stage. -/
def spawnFault (stage : Stage) (cause : Fault) : Fault :=
  let message :=
    match cause with
    | .os .noEntry _ => "Command not found: " ++ stage.command
    | .os .denied _ => "Permission denied: " ++ stage.command
    | cause => "Failed to start " ++ stage.command ++ ": " ++ cause.message
  Fault.ofKind .spawn message
    { argv := Json.strings stage.argv, path := .ofOption (stage.cwd.map .str) } (some cause)

/-! ### Feeding a process -/

/-- The most bytes that can wait on the way into a process that does not read:
    what the pipe holds, and as much again in the feeder's buffer. -/
def waitingCapacity : Nat := 131072

/-- What a process writes, given all that it can read, and how that ended. -/
def outputOf (stage : Stage) (r : Reaction) (input : Bytes) (arriving : Option Fault) :
    List StreamEvent :=
  -- Its feeder stops at the broken pipe, so a fault that is still to come never arrives.
  let arriving := if r.closesInput && waitingCapacity < input.length then none else arriving
  let own := if r.status = 0 then none else some (Fault.stageExit stage.argv r.status)
  (if r.output = [] then [] else [.chunk r.output]) ++
    (match arriving.or own with
      | none => []
      | some f => [.fault f])

/-- The stream of a process that was just started.  Starting it made the
    program wait, so the feeders of the processes before it have begun. -/
def streamOf (stage : Stage) (env : Env) (b : Behaviour) (call : Call) (input : Stream) : Stream :=
  let fed := input.readAll
  let r := b call fed.value
  { unread := outputOf stage r fed.value fed.fault
    lineage := .process
      { argv := stage.argv, cwd := stage.cwd, env := env, verdict := r.status }
      input.lineage.startFeeders }

/-- Start a stage on an input.  An input that cannot be used is given back with
    the fault: the operating system's refusals close it, a value that no
    process can be given does not. -/
def spawn (m : Machine) (overlay : Env) (inherit : Bool) (stage : Stage) (input : Stream) :
    Except (Fault × Stream) Stream :=
  let env := m.envOf overlay inherit stage
  match m.launch env stage with
  | .ok (b, call) => .ok (streamOf stage env b call input)
  | .error f => .error (if f.isOs then (spawnFault stage f, input.close) else (f, input))

/-- Start stages one after the other, each on the output of the one before. -/
def chain (m : Machine) (overlay : Env) (inherit : Bool) :
    List Stage → Stream → Except (Fault × Stream) Stream
  | [], input => .ok input
  | stage :: stages, input =>
    m.spawn overlay inherit stage input >>= fun s => chain m overlay inherit stages s

end Machine

end SinkPipeline
