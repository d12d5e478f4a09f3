import SinkPipeline.Log.Diary
import SinkPipeline.Process.Machine

/-! # Sites

  Work on files and processes is done at a **site**: on a machine, with a list
  of the specs that the pass under way has refused, and with notes of a type
  that the caller chooses.  The library never looks at the notes; they are for
  the caller's own hooks.
-/

namespace SinkPipeline

/-- The report about a spec that was refused. -/
structure InvalidSpec where
  /-- The kind of place. -/
  kind : String
  /-- Why it was refused. -/
  reason : String
  deriving DecidableEq, Repr

/-- Where work on files and processes is done. -/
structure Site (ν : Type) where
  /-- What it is done on. -/
  machine : Machine
  /-- The specs that the pass under way has refused. -/
  refused : List InvalidSpec := []
  /-- The caller's notes. -/
  notes : ν

namespace Act

variable {ν α : Type}

/-- The machine. -/
def machine : Act (Site ν) Machine := do return (← state).machine

/-- Change the machine. -/
def modifyMachine (f : Machine → Machine) : Act (Site ν) Unit :=
  modifyState fun s => { s with machine := f s.machine }

/-- The caller's notes. -/
def notes : Act (Site ν) ν := do return (← state).notes

/-- Change the caller's notes. -/
def modifyNotes (f : ν → ν) : Act (Site ν) Unit := modifyState fun s => { s with notes := f s.notes }

/-! ### Starting processes -/

/-- The logger of processes. -/
def processLogger : String := "capexec.process"

/-- Start a stage on an input. -/
def spawn (overlay : Env) (inherit : Bool) (stage : Stage) (input : Stream) :
    Act (Site ν) (Except (Fault × Stream) Stream) := do
  log processLogger "debug" "process.spawn"
    [("argv", Json.strings stage.argv), ("cwd", .ofOption (stage.cwd.map .str))]
  return (← machine).spawn overlay inherit stage input

/-- Start stages one after the other, each on the output of the one before. -/
def chain (overlay : Env) (inherit : Bool) :
    List Stage → Stream → Act (Site ν) (Except (Fault × Stream) Stream)
  | [], input => return .ok input
  | stage :: stages, input => do
    match ← spawn overlay inherit stage input with
    | .error e => return .error e
    | .ok s => chain overlay inherit stages s

end Act

/-- Read a stream to its end, an action for each chunk.  Reading stops at the
    first fault, of the stream or of an action. -/
def Stream.foldAct {τ α : Type} (step : α → Bytes → Act τ α) (s : Stream) (init : α) :
    Act τ (Stream.Outcome α) :=
  let rec go : List StreamEvent → α → Act τ (Stream.Outcome α)
    | [], acc => return ⟨acc, none, ⟨[], s.lineage.finish⟩⟩
    | .fault f :: rest, acc => return ⟨acc, some f, ⟨rest, s.lineage.finish⟩⟩
    | .chunk bytes :: rest, acc => do
      match ← Act.attempt (step acc bytes) with
      | .ok acc => go rest acc
      | .error f => return ⟨acc, some f, ⟨rest, s.lineage.startFeeders⟩⟩
  go s.unread init

end SinkPipeline
