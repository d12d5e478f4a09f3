import SinkPipeline.Log.Diary
import SinkPipeline.Number.Format

/-! # Timed work

  Work can be timed in two ways.  A **timed block** only measures.  A **logged
  step** is also a span: while it runs, the log context names it, and it writes
  a record when it starts, when it ends and when a fault passes through it.
  A cancellation passes without a record.
-/

namespace SinkPipeline

/-- The time as a number. -/
def Instant.seconds : Instant → Float
  | .whole n => Number.ofInt n
  | .read x => x

namespace Timer

/-- When a timer was stopped; a running one is looked at now. -/
def lastSeen (t : Timer) (now : Float) : Instant := t.endedAt.getD (.read now)

/-- The time that a timer shows, in milliseconds. -/
def elapsed (t : Timer) (now : Float) : Float :=
  ((t.lastSeen now).seconds - t.startedAt.seconds) * 1000.0

/-- The time that a timer shows, as a value: whole if its two ends are. -/
def duration (t : Timer) (now : Float) : Json :=
  match t.startedAt, t.lastSeen now with
  | .whole a, .whole b => .int ((b - a) * 1000)
  | _, _ => .float (t.elapsed now)

/-- The value of a time with at most two decimal places. -/
def rounded : Json → Json
  | .float x => .float (Number.round2 x)
  | v => v

/-- Stop a timer; a stopped one stays as it is. -/
def stop (t : Timer) (now : Float) : Timer := { t with endedAt := some (t.lastSeen now) }

/-- The word for how the work went. -/
def status (t : Timer) : String := if t.fault.isSome then "error" else "ok"

/-- What is logged about a timer; its metrics come last and overwrite. -/
def logFields (t : Timer) (now : Float) : Fields :=
  let base : Fields :=
    [("duration_ms", rounded (t.duration now)), ("span_id", t.spanId)]
  let base := if t.parentSpanId.isTruthy then base.set "parent_span_id" t.parentSpanId else base
  base.update t.metrics

/-- Where the stack of a fault would be shown. -/
def stackMark : Json := .str "<stack>"

/-- What is logged about a timer whose work failed. -/
def faultFields (t : Timer) (now : Float) : Fields :=
  let base := (t.logFields now).set "status" (.str "error")
  match t.fault with
  | none => base
  | some f =>
    base.update
      [("error_type", .str f.word), ("error_message", .str f.message), ("error_stack", stackMark)]

end Timer

namespace Act

variable {τ α : Type}

/-- Make a timer; the answer is its number.  A span id is drawn if none is
    given, and it starts now if no other time is given. -/
def addTimer (step parent : Json) (metrics : Fields) (span : Option Json)
    (startedAt endedAt : Option Instant) : Act τ Nat := do
  let span ← match span with
    | some id => pure id
    | none => newSpanId
  let d ← diary
  modifyDiary fun d => { d with
    timers := d.timers ++ [{
      step := step, spanId := span, parentSpanId := parent,
      startedAt := startedAt.getD (.read d.clock), endedAt := endedAt, metrics := metrics }] }
  return d.timers.length

/-- Make a timer that starts now; the answer is its number. -/
def startTimer (step : Json) (parent : Json) (metrics : Fields := []) : Act τ Nat :=
  addTimer step parent metrics none none none

/-- The timer of a number. -/
def timer? (n : Nat) : Act τ (Option Timer) := do return (← diary).timers[n]?

/-- Change the timer of a number. -/
def modifyTimer (n : Nat) (f : Timer → Float → Timer) : Act τ Unit :=
  modifyDiary fun d => { d with timers := d.timers.modify n fun t => f t d.clock }

/-- Stop the timer of a number. -/
def stopTimer (n : Nat) : Act τ Unit := modifyTimer n Timer.stop

/-- Do an action and measure it: the number of the timer, and how it ended. -/
def timedBlock (step : Json) (body : Nat → Act τ α) : Act τ (Nat × Except Fault α) := do
  let n ← startTimer step (← context).spanId
  let r ← attempt (body n)
  stopTimer n
  return (n, r)

/-- How a logged step is logged. -/
structure StepOptions where
  /-- Is its start logged? -/
  logStart : Bool := true
  /-- The level of the record at its end. -/
  level : String := "info"
  /-- The level of the record about a fault. -/
  errorLevel : String := "error"

/-- The logger of logged steps. -/
def timingLogger : String := "capexec.timing"

/-- Log the values of the timer of a number. -/
def logTimer (n : Nat) (level event : String) (fields : Timer → Float → Fields) : Act τ Unit := do
  match ← timer? n with
  | some t => log timingLogger level event (fields t (← diary).clock)
  | none => pure ()

/-- Begin a logged step: its span is the one in force, inside the one that was.
    The answer is the number of its timer. -/
def enterStep (event : String) (opts : StepOptions) (metrics : Fields) : Act τ Nat := do
  let old ← context
  let parent := old.spanId
  let n ← startTimer (.str event) parent metrics
  let span := ((← timer? n).map (·.spanId)).getD .null
  setContext (old.merge [("span_id", span), ("parent_span_id", parent)])
  -- The record of the start belongs to the new span already.
  if opts.logStart then
    let start : Fields := [("span_id", span)]
    let start := if parent.isTruthy then start.set "parent_span_id" parent else start
    log timingLogger "debug" (event ++ ".start") (start.update metrics)
  return n

/-- End a logged step whose work ended in `r`: the old context is in force
    again, and the fault goes on. -/
def leaveStep (n : Nat) (old : LogContext) (event : String) (opts : StepOptions)
    (r : Except Fault α) : Act τ α := do
  stopTimer n
  match r with
  -- The record of the end belongs to the old span, one about a fault still to the new.
  | .ok v =>
    setContext old
    logTimer n opts.level (event ++ ".end") Timer.logFields
    return v
  | .error f =>
    if f.isOrdinary then
      modifyTimer n fun t _ => { t with fault := some f }
      logTimer n opts.errorLevel (event ++ ".error") Timer.faultFields
    setContext old
    fail f

/-- Do an action as a logged step. -/
def logStep (event : String) (opts : StepOptions) (metrics : Fields) (body : Nat → Act τ α) :
    Act τ α := do
  let old ← context
  let n ← enterStep event opts metrics
  let r ← attempt (body n)
  leaveStep n old event opts r

end Act

end SinkPipeline
