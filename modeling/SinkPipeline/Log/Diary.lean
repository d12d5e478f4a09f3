import SinkPipeline.Log.Context

/-! # The diary of a run

  Everything that a run keeps beside its own work: the log context, the log
  records, the counters that ids are drawn from, the clock and the timers.

  `Act τ` is work on a diary and on a further state of type `τ` that gives a
  value or ends in a fault.  What was done before a fault stays done.
-/

namespace SinkPipeline

/-- A log record as it is handed to the logger. -/
structure LogRecord where
  /-- The logger. -/
  logger : String
  /-- The level. -/
  level : String
  /-- The event. -/
  event : String
  /-- The values that belong to the event. -/
  fields : Fields
  /-- The log context in force, which is not yet part of the values. -/
  context : LogContext

/-- A time in seconds. -/
inductive Instant where
  /-- A whole number of seconds, as it was given. -/
  | whole (n : Int)
  /-- What a clock showed. -/
  | read (x : Float)

/-- A timed piece of work. -/
structure Timer where
  /-- What is timed. -/
  step : Json
  /-- The id of its span. -/
  spanId : Json
  /-- The id of the span around it. -/
  parentSpanId : Json
  /-- When it began. -/
  startedAt : Instant
  /-- When it ended. -/
  endedAt : Option Instant := none
  /-- Values that are logged with it. -/
  metrics : Fields := []
  /-- The fault that it ended in. -/
  fault : Option Fault := none

/-- What a run keeps beside its own work. -/
structure Diary where
  /-- The log context in force. -/
  context : LogContext := {}
  /-- The log records, in order. -/
  records : List LogRecord := []
  /-- How many run ids have been drawn. -/
  runs : Nat := 0
  /-- How many span ids have been drawn. -/
  spans : Nat := 0
  /-- The time in seconds. -/
  clock : Float := 0.0
  /-- The timers, in the order in which they were made. -/
  timers : List Timer := []

/-- Work on a diary and on a state of type `τ`. -/
abbrev Act (τ : Type) : Type → Type := ExceptT Fault (StateM (Diary × τ))

namespace Act

variable {τ α : Type}

/-- Run an action: its value or fault, and the state after it. -/
def runOn (x : Act τ α) (d : Diary) (s : τ) : Except Fault α × Diary × τ :=
  let out := ExceptT.run x (d, s)
  (out.1, out.2.1, out.2.2)

/-- The action of a state transformation. -/
def ofRun (f : Diary → τ → Except Fault α × Diary × τ) : Act τ α :=
  ExceptT.mk fun p =>
    let out := f p.1 p.2
    (out.1, out.2.1, out.2.2)

/-- The value or fault of an action, as a value. -/
def attempt (x : Act τ α) : Act τ (Except Fault α) :=
  ExceptT.mk fun p =>
    let out := ExceptT.run x p
    (.ok out.1, out.2)

/-- End in a fault. -/
def fail (f : Fault) : Act τ α := throw f

/-- The value of a result, or its fault. -/
def ofExcept (r : Except Fault α) : Act τ α := ExceptT.mk fun p => (r, p)

/-- The diary. -/
def diary : Act τ Diary := ExceptT.mk fun p => (.ok p.1, p)

/-- Change the diary. -/
def modifyDiary (f : Diary → Diary) : Act τ Unit := ExceptT.mk fun p => (.ok (), f p.1, p.2)

/-- The state beside the diary. -/
def state : Act τ τ := ExceptT.mk fun p => (.ok p.2, p)

/-- Change the state beside the diary. -/
def modifyState (f : τ → τ) : Act τ Unit := ExceptT.mk fun p => (.ok (), p.1, f p.2)

/-- The log context in force. -/
def context : Act τ LogContext := do return (← diary).context

/-- Replace the log context. -/
def setContext (c : LogContext) : Act τ Unit := modifyDiary fun d => { d with context := c }

/-- Write a log record. -/
def log (logger level event : String) (fields : Fields) : Act τ Unit :=
  modifyDiary fun d => { d with records := d.records ++ [⟨logger, level, event, fields, d.context⟩] }

/-- An id of a given width: a number in hexadecimal digits. -/
def idText (width n : Nat) : Json := .str (String.ofList (Text.hexDigits width n))

/-- Draw a run id. -/
def newRunId : Act τ Json := do
  modifyDiary fun d => { d with runs := d.runs + 1 }
  return idText 12 (← diary).runs

/-- Draw a span id. -/
def newSpanId : Act τ Json := do
  modifyDiary fun d => { d with spans := d.spans + 1 }
  return idText 8 (← diary).spans

/-- Let time pass. -/
def advance (seconds : Float) : Act τ Unit :=
  modifyDiary fun d => { d with clock := d.clock + seconds }

/-- Do an action with values of the log context overwritten.  Whatever the
    action does to the context, and however it ends, the context of before is
    in force again afterwards. -/
def withContext (fields : Fields) (x : Act τ α) : Act τ (Except Fault α) := do
  let old ← context
  setContext (old.merge fields)
  let r ← attempt x
  setContext old
  return r

end Act

end SinkPipeline
