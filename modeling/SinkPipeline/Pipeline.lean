import SinkPipeline.DirectoryWalk
import SinkPipeline.Output.Materialize
import SinkPipeline.Process.Projection
import SinkPipeline.Process.Resolution

/-! # Pipelines

  A sink is **prepared** by resolving its pre stages, itself and its post stages
  into a plan; no process is started for that.  A plan is **executed** by
  running the empty stream through the pre stages, the sink and the post stages
  and materializing what comes out.

  Each of these decisions can be taken over by a **hook** of the caller.
-/

namespace SinkPipeline

/-- What the caller decides in place of the library.  Each hook is given the
    sink and the caller's context. -/
structure Hooks (ν : Type) where
  /-- The stage of a token. -/
  resolveStage : Option (String → FileSink → Json → Mode → Act (Site ν) Stage) := none
  /-- The stage of the sink. -/
  resolveSink : Option (FileSink → Json → Mode → Act (Site ν) Stage) := none
  /-- The environment projected onto all processes. -/
  projectEnv : Option (FileSink → Json → Mode → Act (Site ν) Env) := none
  /-- What is attached to the pre stages. -/
  prePayload : Option (FileSink → Json → Act (Site ν) Json) := none
  /-- What is attached to the post stages. -/
  postPayload : Option (FileSink → Json → Act (Site ν) Json) := none
  /-- What becomes of the output of a sink of one output; the path is the one
      that the library would write to. -/
  materializeSingle : Option (Stream → FileSink → Json → Mode → Path → Act (Site ν) Json) := none
  /-- What becomes of the output of a sink of many outputs; the path is the
      directory that the library would write below. -/
  materializeMulti : Option (Stream → FileSink → Json → Mode → Path → Act (Site ν) Json) := none

/-- How sinks are prepared and executed. -/
structure PipelineOptions (ν : Type) where
  /-- Where stages are looked for besides the sink's directory. -/
  searchDirs : List String := []
  /-- The launchers. -/
  launchers : Launchers := Launchers.standard
  /-- The strategies. -/
  strategies : List Resolution.Strategy := Resolution.standard
  /-- Do processes inherit the environment of the machine? -/
  inheritEnv : Bool := true
  /-- The caller's hooks. -/
  hooks : Hooks ν := {}

/-- A sink that has been prepared. -/
structure Plan where
  /-- The sink. -/
  source : FileSink
  /-- The stages whose output it reads. -/
  pre : List Stage
  /-- The sink's own stage. -/
  sink : Stage
  /-- The stages that read its output. -/
  post : List Stage
  /-- What is attached to the pre stages. -/
  prePayload : Json := .null
  /-- What is attached to the post stages. -/
  postPayload : Json := .null
  /-- The caller's context. -/
  context : Json := .null
  /-- What the run is for. -/
  mode : Mode

/-- All stages of a plan, in the order in which they run. -/
def Plan.stages (p : Plan) : List Stage := p.pre ++ p.sink :: p.post

/-- What executing a plan gives. -/
inductive Delivered where
  /-- Files were written, or would have been. -/
  | files (m : Materialized)
  /-- A hook decided. -/
  | custom (v : Json)

namespace Pipeline

variable {ν : Type}

/-- The path of a sink. -/
def sinkPath (s : FileSink) : Path := Projection.sinkPath (some s.item.path.toString) s.key

/-- The directory of a sink. -/
def sinkDir (s : FileSink) : Path := (sinkPath s).parent

/-- The file that a sink of one output writes. -/
def outputPath (s : FileSink) : Path := sinkDir s / Path.ofString s.parsed.outputName

/-! ### Preparing -/

/-- The stage of a token. -/
def resolveStage (o : PipelineOptions ν) (context : Json) (s : FileSink) (mode : Mode)
    (token : String) : Act (Site ν) Stage :=
  match o.hooks.resolveStage with
  | some hook => hook token s context mode
  | none => Resolution.resolveToken token (sinkPath s) o.searchDirs o.launchers o.strategies

/-- The stage of the sink. -/
def resolveSink (o : PipelineOptions ν) (context : Json) (s : FileSink) (mode : Mode) :
    Act (Site ν) Stage :=
  match o.hooks.resolveSink with
  | some hook => hook s context mode
  | none => Resolution.resolveSink (sinkPath s) o.launchers o.strategies

/-- What a payload hook attaches; without a hook it is null. -/
def payload (hook : Option (FileSink → Json → Act (Site ν) Json)) (context : Json) (s : FileSink) :
    Act (Site ν) Json :=
  match hook with
  | some hook => hook s context
  | none => return .null

/-- Make the plan of a sink. -/
def prepare (o : PipelineOptions ν) (context : Json) (s : FileSink) (mode : Mode) :
    Act (Site ν) Plan := do
  let pre ← s.parsed.preStages.mapM (resolveStage o context s mode)
  let sink ← resolveSink o context s mode
  let post ← s.parsed.postStages.mapM (resolveStage o context s mode)
  -- Payloads are asked for last, so a sink that cannot be resolved gets none.
  let prePayload ← payload o.hooks.prePayload context s
  let postPayload ← payload o.hooks.postPayload context s
  return ⟨s, pre, sink, post, prePayload, postPayload, context, mode⟩

/-! ### Executing -/

/-- The environment projected onto the processes of a plan. -/
def overlayOf (o : PipelineOptions ν) (p : Plan) : Act (Site ν) Env :=
  match o.hooks.projectEnv with
  | some hook => hook p.source p.context p.mode
  | none => return Projection.entries (sinkPath p.source) p.source.parsed p.mode.word

/-- The stream of what was started; a fault ends the execution, and the stream
    that comes with it is left to itself. -/
def orFail (x : Act (Site ν) (Except (Fault × Stream) Stream)) : Act (Site ν) Stream := do
  match ← x with
  | .ok s => return s
  | .error (f, _) => Act.fail f

/-- Start the processes of a plan, the pre stages on the empty stream, then the
    sink, then the post stages: the stream of the last one. -/
def start (o : PipelineOptions ν) (overlay : Env) (p : Plan) : Act (Site ν) Stream := do
  let given ← orFail (Act.chain overlay o.inheritEnv p.pre .empty)
  let made ← orFail (Act.spawn overlay o.inheritEnv p.sink given)
  orFail (Act.chain overlay o.inheritEnv p.post made)

/-- Do something with the last stream of a plan.  Without a hook it is
    materialized. -/
def deliver (o : PipelineOptions ν) (p : Plan) (s : Stream) : Act (Site ν) Delivered := do
  if p.source.parsed.isMulti then
    match o.hooks.materializeMulti with
    | some hook => return .custom (← hook s p.source p.context p.mode (sinkDir p.source))
    | none =>
      return .files (← Act.ofExcept (← Materialize.multi p.mode (sinkDir p.source) s).1)
  else
    match o.hooks.materializeSingle with
    | some hook => return .custom (← hook s p.source p.context p.mode (outputPath p.source))
    | none =>
      return .files (← Act.ofExcept (← Materialize.single p.mode (outputPath p.source) s).1)

/-- How the execution of a plan is logged. -/
def stepOptions : Act.StepOptions := { level := "debug", errorLevel := "debug" }

/-- Carry a plan out. -/
def execute (o : PipelineOptions ν) (p : Plan) : Act (Site ν) Delivered := do
  let overlay ← overlayOf o p
  Act.logStep "fs.execute" stepOptions
    [("capexec", .str p.source.name), ("multi", .bool p.source.parsed.isMulti)] fun _ => do
      deliver o p (← start o overlay p)

/-- The output adapter of pipelines. -/
def adapter (o : PipelineOptions ν) (context : Json) :
    OutputAdapter (Site ν) FileSink Plan Delivered where
  kind := "filesystem"
  prepare s mode := prepare o context s mode
  execute p := execute o p

/-! ### Whole runs -/

/-- The name of a found file: its own, which it always has. -/
def nameOf (e : Encountered Root FoundFile String) : Option String := some e.item.name

/-- The name that an item is known by: its own, or else the last name of its
    path. -/
def itemName (name path : Option String) : Option String :=
  match name with
  | some n => some n
  | none => path.map fun p => (Path.ofString p).name

/-- Is an item of this name no file that sinks of one output write? -/
def isNotGenerated (name : Option String) : Bool :=
  match name with
  | none => true
  | some n => !SinkName.isGenerated n

/-- The filter that leaves out the files that sinks of one output write. -/
def skipGenerated (e : Encountered Root FoundFile String) : Act (Site ν) Bool :=
  return isNotGenerated (nameOf e)

/-- The report about a refused spec is kept at the site. -/
def keepRefused (r : InvalidSpec) : Act (Site ν) Unit :=
  Act.modifyState fun s => { s with refused := s.refused ++ [r] }

/-- Where the discovery of sinks below some roots stands. -/
abbrev SinkCursor : Type := Walk.Cursor Root DirectoryWalk.Cursor (List RootSpec)

/-- The sinks below some roots. -/
def sinks (filter : Option (Encountered Root FoundFile String → Act (Site ν) Bool))
    (hook : Option (InvalidSpec → Act (Site ν) Unit)) : Source (Site ν) SinkCursor FileSink :=
  Discovery.sinks ⟨filter, fun e => return nameOf e⟩
    (Walk.items (DirectoryWalk.plain false) (Source.ofList (Site ν) RootSpec) hook)

/-- Where a run over the sinks below some roots stands. -/
abbrev RunCursor : Type := Orchestrator.Cursor FileSink Plan SinkCursor

/-- The events of a run over the sinks below some roots. -/
def events (o : PipelineOptions ν) (context : Json) (s : Orchestrator.Settings FileSink)
    (filter : Option (Encountered Root FoundFile String → Act (Site ν) Bool))
    (hook : Option (InvalidSpec → Act (Site ν) Unit)) :
    Source (Site ν) RunCursor (RunEvent Plan Delivered) :=
  Orchestrator.events s (adapter o context) (sinks filter hook)

/-- Where the run over the sinks below some roots begins. -/
def beginAt (specs : List RootSpec) : RunCursor := .unstarted { specs := specs }

end Pipeline

end SinkPipeline
