import SinkPipeline.Pipeline
import SinkPipeline.Settings.Basic

/-! # Passes

  A **pass** goes once over every sink below some roots: each is prepared and
  executed in turn, and a summary says what became of them.  A fault of this
  library ends the pass and is part of the summary; any other fault ends the
  program.

  In a pass every process is told the context of the run beside the variables
  of its sink.
-/

namespace SinkPipeline

/-- What a pass is to do. -/
structure RunOptions where
  /-- Where sinks are looked for. -/
  roots : List Path := [.ofString "."]
  /-- The include globs. -/
  includes : List String := []
  /-- The exclude globs. -/
  excludes : List String := []
  /-- Where stages are looked for, before the places in the settings. -/
  searchDirs : List Path := []
  /-- What a fault does to the pass, as it was given. -/
  onError : String := "abort"
  /-- What the pass is for, as it was given. -/
  mode : String := "build"

namespace RunOptions

/-- What the hooks and processes of a pass are told about it. -/
def context (o : RunOptions) : Json :=
  .obj [("mode", .str o.mode), ("roots", Json.strings (o.roots.map (·.toString))),
    ("include", Json.strings o.includes), ("exclude", Json.strings o.excludes),
    ("search_dirs", Json.strings (o.searchDirs.map (·.toString))), ("on_error", .str o.onError)]

/-- The roots with their globs, seen from a working directory. -/
def specs (o : RunOptions) (cwd : Path) : List RootSpec :=
  o.roots.map fun root => ⟨root, cwd, o.includes, o.excludes⟩

end RunOptions

/-- A sink that was executed in a pass. -/
structure ExecutedSink where
  /-- Its name. -/
  name : String
  /-- Its path. -/
  sink : String
  /-- The files that were written for it. -/
  written : List Path := []
  /-- Was it a dry run? -/
  dryRun : Bool := false
  /-- How many lines of its output were dropped. -/
  dropped : Nat := 0
  /-- How many milliseconds it took. -/
  elapsed : Float := 0.0

/-- What became of a pass. -/
structure RunSummary where
  /-- The sinks that were executed, in order. -/
  executed : List ExecutedSink := []
  /-- The roots that were refused, in order. -/
  invalid : List InvalidSpec := []
  /-- The fault that ended the pass. -/
  error : Option Fault := none

namespace RunSummary

/-- Did the pass go to its end? -/
def ok (s : RunSummary) : Bool := s.error.isNone

/-- How many files were written. -/
def filesWritten (s : RunSummary) : Nat := (s.executed.flatMap fun e => e.written).length

end RunSummary

namespace Pass

variable {ν : Type}

/-- The environment projected onto all processes of a plan: that of its sink,
    and the context of the run. -/
def projectEnv (s : FileSink) (context : Json) (mode : Mode) : Env :=
  Projection.withContext (Projection.entries (Pipeline.sinkPath s) s.parsed mode.word) context

/-- How the sinks of a pass are prepared and executed. -/
def pipeline (o : RunOptions) (s : Settings) : PipelineOptions ν where
  searchDirs := (o.searchDirs ++ s.searchDirs).map (·.toString)
  inheritEnv := s.inheritEnv
  hooks := { projectEnv := some fun sink context mode => return projectEnv sink context mode }

/-- How the orchestrator goes through a pass. -/
def orchestration (o : RunOptions) : Orchestrator.Settings FileSink where
  mode := .str o.mode
  onError := .str o.onError
  nameOf s := .str s.name

/-- The events of a pass. -/
def events (o : RunOptions) (s : Settings) :
    Source (Site ν) Pipeline.RunCursor (RunEvent Plan Delivered) :=
  Pipeline.events (pipeline o s) o.context (orchestration o) (some Pipeline.skipGenerated)
    (some Pipeline.keepRefused)

/-- What the summary says about an event. -/
def executedOf? : RunEvent Plan Delivered → Option ExecutedSink
  | .prepared _ => none
  | .executed p (.files m) elapsed =>
    some ⟨p.source.name, p.source.key, m.written, m.dryRun, m.dropped, elapsed⟩
  | .executed p (.custom _) elapsed =>
    some { name := p.source.name, sink := p.source.key, elapsed := elapsed }

/-- One pass.  At most `fuel` steps are made. -/
def run (fuel : Nat) (o : RunOptions) (s : Settings) : Act (Site ν) RunSummary := do
  -- What an earlier pass refused is forgotten.
  Act.modifyState fun site => { site with refused := [] }
  let start := Pipeline.beginAt (o.specs (← Act.machine).cwd)
  let taken ← (events o s).takeWith (fun e => return executedOf? e) fuel none start []
  let refused := (← Act.state).refused
  let executed := taken.items.filterMap id
  match taken.fault with
  | none => return { executed := executed, invalid := refused }
  | some f =>
    if f.isEngine then return { executed := executed, invalid := refused, error := some f }
    else Act.fail f

end Pass

end SinkPipeline
