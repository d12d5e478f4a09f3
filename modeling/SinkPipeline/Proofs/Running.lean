import SinkPipeline.Proofs.Ending

/-! # Running actions

  What running an action gives, exactly: its value or fault, the diary and the
  state.  There is one equation for each primitive action, so an action is run
  by rewriting with them and with `runOn_bind`.

  From these come the equations for the ways in which work is wrapped: work
  inside a context, timed work, a logged step, and the taking of items from a
  source.
-/

namespace SinkPipeline

/-- The diary with one more record, in the context in force. -/
def Diary.logged (d : Diary) (logger level event : String) (fields : Fields) : Diary :=
  { d with records := d.records ++ [⟨logger, level, event, fields, d.context⟩] }

/-- The diary inside work with some values of the log context overwritten. -/
def Diary.entered (d : Diary) (fields : Fields) : Diary :=
  { d with context := d.context.merge fields }

/-- The diary with the context of an earlier one. -/
def Diary.left (d old : Diary) : Diary := { d with context := old.context }

/-- The diary with a new timer, which starts now and belongs to the span in
    force. -/
def Diary.timing (d : Diary) (step : Json) : Diary :=
  { d with
    spans := d.spans + 1
    timers := d.timers ++ [{
      step := step, spanId := Act.idText 8 (d.spans + 1), parentSpanId := d.context.spanId,
      startedAt := .read d.clock }] }

/-- The diary with a timer stopped. -/
def Diary.timed (d : Diary) (n : Nat) : Diary :=
  { d with timers := d.timers.modify n fun t => t.stop d.clock }

/-- The timer of a logged step that begins now, inside the span in force. -/
def Diary.stepTimer (d : Diary) (event : String) (metrics : Fields) : Timer where
  step := .str event
  spanId := Act.idText 8 (d.spans + 1)
  parentSpanId := d.context.spanId
  startedAt := .read d.clock
  metrics := metrics

/-- The values that are logged when a logged step begins. -/
def Timer.startFields (t : Timer) : Fields :=
  let start : Fields := [("span_id", t.spanId)]
  (if t.parentSpanId.isTruthy then start.set "parent_span_id" t.parentSpanId else start).update
    t.metrics

/-- The diary inside a logged step: its span is the one in force. -/
def Diary.stepping (d : Diary) (event : String) (opts : Act.StepOptions) (metrics : Fields) :
    Diary :=
  let t := d.stepTimer event metrics
  let inside : Diary :=
    { d with
      spans := d.spans + 1
      timers := d.timers ++ [t]
      context := d.context.merge [("span_id", t.spanId), ("parent_span_id", t.parentSpanId)] }
  if opts.logStart then inside.logged Act.timingLogger "debug" (event ++ ".start") t.startFields
  else inside

/-- The diary with a record about the timer of a number, if there is one. -/
def Diary.reported (d : Diary) (n : Nat) (level event : String) (fields : Timer → Float → Fields) :
    Diary :=
  match d.timers[n]? with
  | some t => d.logged Act.timingLogger level event (fields t d.clock)
  | none => d

/-- The diary whose timer of a number has taken note of a fault. -/
def Diary.faulted (d : Diary) (n : Nat) (f : Fault) : Diary :=
  { d with timers := d.timers.modify n fun t => { t with fault := some f } }

/-- The diary after a logged step, `d` being the one at the end of its work and
    `old` the one before it. -/
def Diary.stepped {α : Type} (d old : Diary) (event : String) (opts : Act.StepOptions)
    (r : Except Fault α) : Diary :=
  let n := old.timers.length
  match r with
  | .ok _ => ((d.timed n).left old).reported n opts.level (event ++ ".end") Timer.logFields
  | .error f =>
    if f.isOrdinary then
      (((d.timed n).faulted n f).reported n opts.errorLevel (event ++ ".error")
        Timer.faultFields).left old
    else (d.timed n).left old

namespace Act

variable {τ α : Type}

/-! ### Primitive actions -/

theorem runOn_pure (a : α) (d : Diary) (s : τ) : (pure a : Act τ α).runOn d s = (.ok a, d, s) := rfl

theorem runOn_ofExcept (r : Except Fault α) (d : Diary) (s : τ) :
    (ofExcept r : Act τ α).runOn d s = (r, d, s) := rfl

theorem runOn_attempt (x : Act τ α) (d : Diary) (s : τ) :
    (attempt x).runOn d s = (.ok (x.runOn d s).1, (x.runOn d s).2) := rfl

theorem runOn_log (logger level event : String) (fields : Fields) (d : Diary) (s : τ) :
    (log logger level event fields : Act τ Unit).runOn d s =
      (.ok (), d.logged logger level event fields, s) := rfl

theorem runOn_context (d : Diary) (s : τ) :
    (context : Act τ LogContext).runOn d s = (.ok d.context, d, s) := rfl

theorem runOn_setContext (c : LogContext) (d : Diary) (s : τ) :
    (setContext c : Act τ Unit).runOn d s = (.ok (), { d with context := c }, s) := rfl

theorem runOn_fail (f : Fault) (d : Diary) (s : τ) :
    (fail f : Act τ α).runOn d s = (.error f, d, s) := rfl

theorem runOn_timer? (n : Nat) (d : Diary) (s : τ) :
    (timer? n : Act τ (Option Timer)).runOn d s = (.ok d.timers[n]?, d, s) := rfl

theorem runOn_stopTimer (n : Nat) (d : Diary) (s : τ) :
    (stopTimer n : Act τ Unit).runOn d s = (.ok (), d.timed n, s) := rfl

theorem runOn_newRunId (d : Diary) (s : τ) :
    (newRunId : Act τ Json).runOn d s =
      (.ok (idText 12 (d.runs + 1)), { d with runs := d.runs + 1 }, s) := rfl

/-! ### Wrapped work -/

/-- **Work inside a context**: the context is the old one again afterwards,
    however the work ends. -/
theorem runOn_withContext (fields : Fields) (x : Act τ α) (d : Diary) (s : τ) :
    (withContext fields x).runOn d s =
      (.ok (x.runOn (d.entered fields) s).1, (x.runOn (d.entered fields) s).2.1.left d,
        (x.runOn (d.entered fields) s).2.2) := rfl

/-- **Timed work** gets a timer, which is stopped however the work ends. -/
theorem runOn_timedBlock (step : Json) (body : Nat → Act τ α) (d : Diary) (s : τ) :
    (timedBlock step body).runOn d s =
      (.ok (d.timers.length, ((body d.timers.length).runOn (d.timing step) s).1),
        ((body d.timers.length).runOn (d.timing step) s).2.1.timed d.timers.length,
        ((body d.timers.length).runOn (d.timing step) s).2.2) := rfl

theorem runOn_logTimer (n : Nat) (level event : String) (fields : Timer → Float → Fields)
    (d : Diary) (s : τ) :
    (logTimer n level event fields : Act τ Unit).runOn d s =
      (.ok (), d.reported n level event fields, s) := by
  show (match d.timers[n]? with
    | some t => do log timingLogger level event (fields t (← diary).clock)
    | none => pure () : Act τ Unit).runOn d s = _
  unfold Diary.reported
  cases d.timers[n]? with
  | none => rfl
  | some t => rfl

/-- **Beginning a logged step**: its timer is the newest one. -/
theorem runOn_enterStep (event : String) (opts : StepOptions) (metrics : Fields) (d : Diary)
    (s : τ) :
    (enterStep event opts metrics : Act τ Nat).runOn d s =
      (.ok d.timers.length, d.stepping event opts metrics, s) := by
  have hnew : (d.timers ++ [d.stepTimer event metrics])[d.timers.length]? =
      some (d.stepTimer event metrics) := List.getElem?_concat_length
  have hstarted : (startTimer (.str event) d.context.spanId metrics : Act τ Nat).runOn d s =
      (.ok d.timers.length, { d with
        spans := d.spans + 1
        timers := d.timers ++ [d.stepTimer event metrics] }, s) := rfl
  unfold enterStep Diary.stepping
  simp only [runOn_bind, runOn_context, hstarted, runOn_timer?, hnew, runOn_setContext,
    Option.map_some, Option.getD_some]
  cases opts.logStart with
  | true => rfl
  | false => rfl

/-- **Ending a logged step** hands on how its work ended. -/
theorem runOn_leaveStep (old : Diary) (event : String) (opts : StepOptions) (r : Except Fault α)
    (d : Diary) (s : τ) :
    (leaveStep old.timers.length old.context event opts r).runOn d s =
      (r, d.stepped old event opts r, s) := by
  unfold leaveStep
  rw [runOn_bind, runOn_stopTimer]
  cases r with
  | ok v =>
    simp only [runOn_bind, runOn_setContext, runOn_logTimer]
    rfl
  | error f =>
    unfold Diary.stepped
    cases hf : f.isOrdinary with
    | true =>
      have hnoted : ∀ e : Diary, (modifyTimer old.timers.length
          fun t _ => { t with fault := some f } : Act τ Unit).runOn e s =
            (.ok (), e.faulted old.timers.length f, s) := fun _ => rfl
      simp only [if_true, hf, runOn_bind, hnoted, runOn_logTimer, runOn_setContext, runOn_fail]
      rfl
    | false =>
      simp only [Bool.false_eq_true, if_false, hf, runOn_bind, runOn_setContext, runOn_fail]
      rfl

/-- **A logged step** ends as its work does. -/
theorem runOn_logStep (event : String) (opts : StepOptions) (metrics : Fields)
    (body : Nat → Act τ α) (d : Diary) (s : τ) :
    (logStep event opts metrics body).runOn d s =
      (((body d.timers.length).runOn (d.stepping event opts metrics) s).1,
        ((body d.timers.length).runOn (d.stepping event opts metrics) s).2.1.stepped d event opts
          ((body d.timers.length).runOn (d.stepping event opts metrics) s).1,
        ((body d.timers.length).runOn (d.stepping event opts metrics) s).2.2) := by
  have hentered : (logStep event opts metrics body).runOn d s =
      (do
        let n ← enterStep event opts metrics
        let r ← attempt (body n)
        leaveStep n d.context event opts r : Act τ α).runOn d s := rfl
  rw [hentered, runOn_bind, runOn_enterStep]
  exact runOn_leaveStep d event opts _ _ _

end Act

/-! ### Taking items -/

namespace Source

variable {τ γ ι β : Type}

/-- **One step of a source** from which some more items are to be taken. -/
theorem runOn_takeWith_limit (source : Source τ γ ι) (onItem : ι → Act τ β) (fuel : Nat)
    {limit : Option Nat} (hlimit : limit ≠ some 0) (c : γ) (acc : List β) (d : Diary) (s : τ) :
    (source.takeWith onItem (fuel + 1) limit c acc).runOn d s =
      match (source.step c).runOn d s with
      | (.error f, d', s') => (.ok ⟨acc.reverse, some f⟩, d', s')
      | (.ok .done, d', s') => (.ok ⟨acc.reverse, none⟩, d', s')
      | (.ok (.skip rest), d', s') => (source.takeWith onItem fuel limit rest acc).runOn d' s'
      | (.ok (.item i rest), d', s') =>
        match (onItem i).runOn d' s' with
        | (.ok b, d'', s'') =>
          (source.takeWith onItem fuel (limit.map (· - 1)) rest (b :: acc)).runOn d'' s''
        | (.error f, d'', s'') => (.error f, d'', s'') := by
  rw [takeWith, if_neg hlimit, Act.runOn_bind, Act.runOn_attempt]
  rcases (source.step c).runOn d s with ⟨r, d', s'⟩
  cases r with
  | error f => rfl
  | ok p =>
    cases p with
    | done => rfl
    | skip rest => rfl
    | item i rest =>
      show (onItem i >>= fun b =>
          source.takeWith onItem fuel (limit.map (· - 1)) rest (b :: acc)).runOn d' s' =
        match (onItem i).runOn d' s' with
        | (.ok b, d'', s'') =>
          (source.takeWith onItem fuel (limit.map (· - 1)) rest (b :: acc)).runOn d'' s''
        | (.error f, d'', s'') => (.error f, d'', s'')
      refine (Act.runOn_bind _ _ d' s').trans ?_
      rcases (onItem i).runOn d' s' with ⟨r, d'', s''⟩
      cases r with
      | ok b => rfl
      | error f => rfl

/-- One step of a source from which items are taken without a limit. -/
theorem runOn_takeWith_succ (source : Source τ γ ι) (onItem : ι → Act τ β) (fuel : Nat) (c : γ)
    (acc : List β) (d : Diary) (s : τ) :
    (source.takeWith onItem (fuel + 1) none c acc).runOn d s =
      match (source.step c).runOn d s with
      | (.error f, d', s') => (.ok ⟨acc.reverse, some f⟩, d', s')
      | (.ok .done, d', s') => (.ok ⟨acc.reverse, none⟩, d', s')
      | (.ok (.skip rest), d', s') => (source.takeWith onItem fuel none rest acc).runOn d' s'
      | (.ok (.item i rest), d', s') =>
        match (onItem i).runOn d' s' with
        | (.ok b, d'', s'') => (source.takeWith onItem fuel none rest (b :: acc)).runOn d'' s''
        | (.error f, d'', s'') => (.error f, d'', s'') :=
  source.runOn_takeWith_limit onItem fuel (by simp) c acc d s

/-- Nothing more happens once enough items have been taken. -/
theorem runOn_takeWith_enough (source : Source τ γ ι) (onItem : ι → Act τ β) (fuel : Nat) (c : γ)
    (acc : List β) (d : Diary) (s : τ) :
    (source.takeWith onItem (fuel + 1) (some 0) c acc).runOn d s =
      (.ok ⟨acc.reverse, none⟩, d, s) := by
  rw [takeWith, if_pos rfl]
  rfl

end Source

end SinkPipeline
