import SinkPipeline.Log.Timing
import SinkPipeline.Source

/-! # The orchestrator

  The orchestrator takes discoveries one at a time, in order, and has an output
  adapter **prepare** a plan for each and then, if the run is to run anything,
  **execute** it.  It gives an event after each step that went well.  A fault of
  the adapter is logged; then the run goes on with the next discovery, or ends
  with that fault, as the policy says.

  The run is lazy: nothing is executed before the event after its preparation
  is asked for.  While the adapter works, the log context names the run and the
  sink; between events it is what it was before.
-/

namespace SinkPipeline

/-- What a run is for. -/
inductive Mode where
  /-- Write the outputs. -/
  | build
  /-- Write the outputs, and again after changes. -/
  | watch
  /-- Run everything and write nothing. -/
  | dryRun
  deriving DecidableEq, Repr, Inhabited

/-- The word for a mode. -/
def Mode.word : Mode → String
  | .build => "build"
  | .watch => "watch"
  | .dryRun => "dry-run"

/-- Every mode. -/
def Mode.all : List Mode := [.build, .watch, .dryRun]

/-- What a fault does to a run. -/
inductive Policy where
  /-- The run ends. -/
  | abort
  /-- The run goes on with the next discovery. -/
  | skip
  deriving DecidableEq, Repr, Inhabited

/-- The word for a policy. -/
def Policy.word : Policy → String
  | .abort => "abort"
  | .skip => "skip"

/-- Every policy. -/
def Policy.all : List Policy := [.abort, .skip]

/-- The mode that a value spells. -/
def Mode.ofValue (v : Json) : Except Fault Mode :=
  match Mode.all.find? fun m => v.str? == some m.word with
  | some m => .ok m
  | none => .error (Fault.invalidOption "mode" v (Mode.all.map Mode.word))

/-- The policy that a value spells. -/
def Policy.ofValue (v : Json) : Except Fault Policy :=
  match Policy.all.find? fun p => v.str? == some p.word with
  | some p => .ok p
  | none => .error (Fault.invalidOption "on_error" v (Policy.all.map Policy.word))

/-- What prepares and executes. -/
structure OutputAdapter (τ δ plan result : Type) where
  /-- The kind of outputs. -/
  kind : String
  /-- Make the plan of a discovery. -/
  prepare : δ → Mode → Act τ plan
  /-- Carry a plan out. -/
  execute : plan → Act τ result

/-- What the orchestrator gives. -/
inductive RunEvent (plan result : Type) where
  /-- A discovery was prepared. -/
  | prepared (p : plan)
  /-- A plan was executed, in so many milliseconds. -/
  | executed (p : plan) (r : result) (elapsed : Float)

namespace Orchestrator

variable {τ δ plan result γ : Type}

/-- The logger of the orchestrator. -/
def logger : String := "capexec.run"

/-- How a run goes. -/
structure Settings (δ : Type) where
  /-- What the run is for, as it was given. -/
  mode : Json := .str "build"
  /-- What a fault does to the run, as it was given. -/
  onError : Json := .str "abort"
  /-- Are plans executed? -/
  run : Bool := true
  /-- The logger for what happens to each discovery. -/
  logger : String := Orchestrator.logger
  /-- The name of a discovery; null for none. -/
  nameOf : δ → Json

/-- The valid options of a run that has begun. -/
structure Run where
  /-- Its id. -/
  id : Json
  /-- What it is for. -/
  mode : Mode
  /-- What a fault does to it. -/
  policy : Policy
  /-- How many discoveries went well. -/
  processed : Nat := 0
  /-- How many ended in a fault. -/
  failed : Nat := 0

/-- Where a run stands. -/
inductive Cursor (δ plan γ : Type) where
  /-- It has not begun. -/
  | unstarted (discoveries : γ)
  /-- The next discovery is to be prepared. -/
  | seeking (r : Run) (discoveries : γ)
  /-- A plan has been prepared and is to be executed. -/
  | holding (r : Run) (d : δ) (p : plan) (discoveries : γ)

/-- Log the fault of a discovery. -/
def report (s : Settings δ) (kind : String) (name : Json) (f : Fault) : Act τ Unit :=
  Act.log s.logger "error" "capexec.error"
    [("kind", .str kind), ("name", name), ("error", .str f.message), ("error_type", .str f.word)]

/-- The log context while the adapter works. -/
def workContext (r : Run) (name : Json) (phase : String) : Fields :=
  [("run_id", r.id), ("mode", .str r.mode.word), ("capexec", name), ("phase", .str phase)]

/-- What a fault of the adapter leads to. -/
def onFault {ε : Type} (s : Settings δ) (kind : String) (name : Json) (r : Run) (rest : γ) (f : Fault) :
    Act τ (Poll (Cursor δ plan γ) ε) := do
  -- A cancellation is no fault of the discovery, and no policy is asked about it.
  if f.isOrdinary then
    report s kind name f
    match r.policy with
    | .abort => Act.fail f
    | .skip => return .skip (.seeking { r with failed := r.failed + 1 } rest)
  else Act.fail f

/-- Begin a run: the options are looked at, the policy first. -/
def start (s : Settings δ) : Act τ Run := do
  let policy ← Act.ofExcept (Policy.ofValue s.onError)
  let mode ← Act.ofExcept (Mode.ofValue s.mode)
  return { id := ← Act.newRunId, mode := mode, policy := policy }

/-- Prepare a discovery. -/
def prepareStep (s : Settings δ) (a : OutputAdapter τ δ plan result) (r : Run) (d : δ) (rest : γ) :
    Act τ (Poll (Cursor δ plan γ) (RunEvent plan result)) := do
  let name := s.nameOf d
  match ← Act.withContext (workContext r name "prepare") (a.prepare d r.mode) with
  | .error f => onFault s a.kind name r rest f
  | .ok p =>
    Act.log s.logger "debug" "capexec.prepared"
      [("kind", .str a.kind), ("name", name), ("mode", .str r.mode.word)]
    -- A run that executes nothing is done with the discovery here.
    if s.run then return .item (.prepared p) (.holding r d p rest)
    else return .item (.prepared p) (.seeking { r with processed := r.processed + 1 } rest)

/-- Execute a plan. -/
def executeStep (s : Settings δ) (a : OutputAdapter τ δ plan result) (r : Run) (d : δ) (p : plan)
    (rest : γ) : Act τ (Poll (Cursor δ plan γ) (RunEvent plan result)) := do
  let name := s.nameOf d
  let body := do
    let (n, outcome) ← Act.timedBlock (.str "capexec.execute") fun _ => a.execute p
    return (n, ← Act.ofExcept outcome)
  match ← Act.withContext (workContext r name "execute") body with
  | .error f => onFault s a.kind name r rest f
  | .ok (n, result) =>
    let now := (← Act.diary).clock
    let elapsed := Number.round2 (((← Act.timer? n).map (·.elapsed now)).getD 0.0)
    Act.log s.logger "info" "capexec.executed"
      [("kind", .str a.kind), ("name", name), ("elapsed_ms", .float elapsed)]
    return .item (.executed p result elapsed) (.seeking { r with processed := r.processed + 1 } rest)

/-- One step of a run. -/
def step (s : Settings δ) (a : OutputAdapter τ δ plan result) (discoveries : Source τ γ δ) :
    Cursor δ plan γ → Act τ (Poll (Cursor δ plan γ) (RunEvent plan result))
  | .unstarted rest => do return .skip (.seeking (← start s) rest)
  | .holding r d p rest => executeStep s a r d p rest
  | .seeking r rest => do
    match ← discoveries.step rest with
    | .skip rest => return .skip (.seeking r rest)
    | .item d rest => prepareStep s a r d rest
    | .done =>
      Act.log logger "debug" "capexec.run_complete"
        [("run_id", r.id), ("processed", .int r.processed), ("failed", .int r.failed)]
      return .done

/-- The events of a run. -/
def events (s : Settings δ) (a : OutputAdapter τ δ plan result) (discoveries : Source τ γ δ) :
    Source τ (Cursor δ plan γ) (RunEvent plan result) := ⟨step s a discoveries⟩

end Orchestrator

end SinkPipeline
