import Mathlib.Data.List.Nodup
import SinkPipeline.Proofs.Json.Fields
import SinkPipeline.Proofs.Running
import SinkPipeline.Proofs.Text.Hex

/-! # The tree of spans

  Logged steps and timed blocks are nested and follow each other in any way;
  each of them ends normally, in an ordinary fault or in a cancellation, which
  is caught somewhere outside it or nowhere.

  Whatever happens, what has run is a **tree of spans**.  Each block has an id of
  its own, and its parent is the innermost logged step around it.  The records
  follow the tree: those of inner blocks stand between the one at the start of a
  logged step and the one at its end.

  What one block adds is told first, from what its body adds; the law for all
  nested work follows by induction on the work.
-/

namespace SinkPipeline

/-- The records of logged steps. -/
def Diary.timingRecords (d : Diary) : List LogRecord :=
  d.records.filter fun r => r.logger == Act.timingLogger

/-- The span ids that have been drawn. -/
def Diary.spanIds (d : Diary) : List Json := (List.range' 1 d.spans).map (Act.idText 8)

/-! ### Nested work -/

/-- The names that the records about steps use themselves. -/
def stepNames : List String :=
  ["span_id", "parent_span_id", "duration_ms", "status", "error_type", "error_message",
    "error_stack"]

/-- Values that are logged with a step. -/
structure Metrics where
  /-- The values. -/
  fields : Fields
  /-- Each name is given once. -/
  distinct : (fields.map (·.1)).Nodup
  /-- The names are free. -/
  free : ∀ p ∈ fields, p.1 ∉ stepNames

/-- What measures work: a logged step or a timed block. -/
inductive Block where
  /-- A logged step. -/
  | step (event : String) (opts : Act.StepOptions) (metrics : Metrics)
  /-- A timed block. -/
  | timed (name : Json)

namespace Block

variable {τ : Type}

/-- What is measured. -/
def name : Block → Json
  | .step event _ _ => .str event
  | .timed name => name

/-- Do an action inside a block. -/
def around (b : Block) (body : Act τ Unit) : Act τ Unit :=
  match b with
  | .step event opts metrics => Act.logStep event opts metrics.fields fun _ => body
  | .timed name => do
    let (_, r) ← Act.timedBlock name fun _ => body
    Act.ofExcept r

/-- The span that is in force inside a block with a given id: a timed block
    leaves it as it is. -/
def inForce (b : Block) (enclosing id : Json) : Json :=
  match b with
  | .step _ _ _ => id
  | .timed _ => enclosing

end Block

/-- Work between blocks: it can do anything and end in any fault, but leaves the
    context, the spans and the records of steps alone. -/
structure OwnWork (τ : Type) where
  /-- The work. -/
  act : Act τ Unit
  /-- The context stays. -/
  context : ∀ d s, (act.runOn d s).2.1.context = d.context
  /-- No span id is drawn. -/
  spans : ∀ d s, (act.runOn d s).2.1.spans = d.spans
  /-- No timer is made or changed. -/
  timers : ∀ d s, (act.runOn d s).2.1.timers = d.timers
  /-- Nothing is logged as a step. -/
  records : ∀ d s, (act.runOn d s).2.1.timingRecords = d.timingRecords

/-- Work between blocks that ends in a fault at once. -/
def OwnWork.raise {τ : Type} (f : Fault) : OwnWork τ where
  act := Act.fail f
  context _ _ := rfl
  spans _ _ := rfl
  timers _ _ := rfl
  records _ _ := rfl

/-- Any nesting and sequence of blocks, with work of its own between them. -/
inductive Work (τ : Type) where
  /-- Nothing more. -/
  | done
  /-- Work between blocks. -/
  | own (x : OwnWork τ) (rest : Work τ)
  /-- A block; faults that are not `caught` go past what comes after it. -/
  | block (b : Block) (body : Work τ) (caught : Fault → Bool) (rest : Work τ)

/-- Do the work. -/
def Work.run {τ : Type} : Work τ → Act τ Unit
  | .done => pure ()
  | .own x rest => do
    x.act
    rest.run
  | .block b body caught rest => do
    match ← Act.attempt (b.around body.run) with
    | .ok _ => rest.run
    | .error f => if caught f then rest.run else Act.fail f

/-! ### Trees -/

/-- The blocks that have run one after the other, each with its timer, with how
    it ended, and with the blocks inside it. -/
inductive SpanForest where
  | nil
  | cons (b : Block) (t : Timer) (r : Except Fault Unit) (inner rest : SpanForest)

namespace SpanForest

/-- The timers, each before those of the blocks inside. -/
def timers : SpanForest → List Timer
  | .nil => []
  | .cons _ t _ inner rest => t :: (inner.timers ++ rest.timers)

/-- The ids of the spans. -/
def ids (forest : SpanForest) : List Json := forest.timers.map (·.spanId)

/-- The parent of each span is the innermost logged step around it, or else the
    span `enclosing`. -/
def Linked (enclosing : Json) : SpanForest → Prop
  | .nil => True
  | .cons b t _ inner rest =>
    t.step = b.name ∧ t.parentSpanId = enclosing ∧
      inner.Linked (b.inForce enclosing t.spanId) ∧ rest.Linked enclosing

end SpanForest

/-- The blocks that a piece of work has run, and how it ended.  A fault leaves
    each block as it came, until it is caught. -/
inductive Work.Ran {τ : Type} : Work τ → SpanForest → Except Fault Unit → Prop where
  | done : Ran .done .nil (.ok ())
  | own {x : OwnWork τ} {rest : Work τ} {forest : SpanForest} {r : Except Fault Unit} {d : Diary}
      {s : τ} (hx : (x.act.runOn d s).1 = .ok ()) (hrest : Ran rest forest r) :
      Ran (.own x rest) forest r
  | raised {x : OwnWork τ} {rest : Work τ} {f : Fault} {d : Diary} {s : τ}
      (hx : (x.act.runOn d s).1 = .error f) : Ran (.own x rest) .nil (.error f)
  | block {b : Block} {body rest : Work τ} {caught : Fault → Bool} {t : Timer}
      {r r' : Except Fault Unit} {inner forest : SpanForest} (hbody : Ran body inner r)
      (hcaught : ∀ f, r = .error f → caught f = true) (hrest : Ran rest forest r') :
      Ran (.block b body caught rest) (.cons b t r inner forest) r'
  | passed {b : Block} {body rest : Work τ} {caught : Fault → Bool} {t : Timer} {f : Fault}
      {inner : SpanForest} (hbody : Ran body inner (.error f)) (hcaught : caught f = false) :
      Ran (.block b body caught rest) (.cons b t (.error f) inner .nil) (.error f)

/-! ### Records -/

/-- The values of a record name a span and its parent, if it has one, and give
    its metrics. -/
structure Timer.Names (t : Timer) (metrics : Metrics) (fields : Fields) : Prop where
  /-- The span. -/
  span : fields.get? "span_id" = some t.spanId
  /-- Its parent. -/
  parent : fields.get? "parent_span_id" =
    if t.parentSpanId.isTruthy then some t.parentSpanId else none
  /-- Its metrics. -/
  metrics : ∀ p ∈ metrics.fields, fields.get? p.1 = some p.2

/-- They also give the time that the timer was stopped at. -/
structure Timer.Measures (t : Timer) (metrics : Metrics) (fields : Fields) : Prop
    extends Timer.Names t metrics fields where
  /-- The time. -/
  duration : ∀ now, fields.get? "duration_ms" = some (Timer.rounded (t.duration now))

/-- The records at the start of a step, `inside` being the context in it. -/
def StartLogged (event : String) (opts : Act.StepOptions) (metrics : Metrics) (t : Timer)
    (inside : LogContext) (records : List LogRecord) : Prop :=
  if opts.logStart then
    ∃ fields, records = [⟨Act.timingLogger, "debug", event ++ ".start", fields, inside⟩] ∧
      t.Names metrics fields
  else records = []

/-- The records at the end of a step that ends in `r`: one at its level, one
    about the fault at its level for faults, or none about a cancellation. -/
def EndLogged (event : String) (opts : Act.StepOptions) (metrics : Metrics) (t : Timer)
    (outside inside : LogContext) (r : Except Fault Unit) (records : List LogRecord) : Prop :=
  match r with
  | .ok _ =>
    ∃ fields, records = [⟨Act.timingLogger, opts.level, event ++ ".end", fields, outside⟩] ∧
      t.Measures metrics fields
  | .error f =>
    if f.isOrdinary then
      ∃ fields, records = [⟨Act.timingLogger, opts.errorLevel, event ++ ".error", fields, inside⟩] ∧
        t.Measures metrics fields ∧ fields.get? "status" = some (.str "error") ∧
        fields.get? "error_type" = some (.str f.word) ∧
        fields.get? "error_message" = some (.str f.message)
    else records = []

/-- The context inside a step with a given timer. -/
def LogContext.inside (c : LogContext) (t : Timer) : LogContext :=
  c.merge [("span_id", t.spanId), ("parent_span_id", t.parentSpanId)]

/-- The records of blocks that run in the context `c`. -/
inductive SpanForest.Logs : LogContext → SpanForest → List LogRecord → Prop where
  | nil {c : LogContext} : Logs c .nil []
  | step {c : LogContext} {event : String} {opts : Act.StepOptions} {metrics : Metrics} {t : Timer}
      {r : Except Fault Unit} {inner rest : SpanForest} {first within last after : List LogRecord}
      (hfirst : StartLogged event opts metrics t (c.inside t) first)
      (hinner : Logs (c.inside t) inner within)
      (hlast : EndLogged event opts metrics t c (c.inside t) r last) (hrest : Logs c rest after) :
      Logs c (.cons (.step event opts metrics) t r inner rest) (first ++ within ++ last ++ after)
  | timed {c : LogContext} {name : Json} {t : Timer} {r : Except Fault Unit}
      {inner rest : SpanForest} {within after : List LogRecord} (hinner : Logs c inner within)
      (hrest : Logs c rest after) :
      Logs c (.cons (.timed name) t r inner rest) (within ++ after)

/-- What is logged at the start depends on the span of the timer only. -/
theorem StartLogged.same_span {event : String} {opts : Act.StepOptions} {metrics : Metrics}
    {t t' : Timer} {inside : LogContext} {records : List LogRecord}
    (h : StartLogged event opts metrics t inside records) (hspan : t'.spanId = t.spanId)
    (hparent : t'.parentSpanId = t.parentSpanId) :
    StartLogged event opts metrics t' inside records := by
  unfold StartLogged at h ⊢
  split at h
  case isTrue hstart =>
    obtain ⟨fields, hrecords, hnames⟩ := h
    rw [if_pos hstart]
    refine ⟨fields, hrecords, ?_, ?_, hnames.metrics⟩
    · rw [hspan, hnames.span]
    · rw [hparent, hnames.parent]
  case isFalse hstart =>
    rw [if_neg hstart]
    exact h

/-- Inside a step its own span is in force. -/
theorem LogContext.spanId_inside (c : LogContext) {t : Timer} {n : Nat}
    (h : t.spanId = Act.idText 8 n) : (c.inside t).spanId = t.spanId := by
  unfold inside merge
  rw [h]
  cases t.parentSpanId <;> rfl

/-- Blocks that run one after the other. -/
theorem SpanForest.Logs.append {c : LogContext} {b : Block} {t : Timer} {r : Except Fault Unit}
    {inner rest : SpanForest} {records later : List LogRecord}
    (h : Logs c (.cons b t r inner .nil) records) (hrest : Logs c rest later) :
    Logs c (.cons b t r inner rest) (records ++ later) := by
  cases h with
  | step hfirst hinner hlast hnil =>
    cases hnil
    rw [List.append_nil]
    exact .step hfirst hinner hlast hrest
  | timed hinner hnil =>
    cases hnil
    rw [List.append_nil]
    exact .timed hinner hrest

/-! ### The values of records -/

namespace Metrics

variable {fs : Fields} {name : String}

/-- A name that records use themselves keeps its value. -/
theorem get?_update_of_reserved (metrics : Metrics) (hname : name ∈ stepNames) :
    (fs.update metrics.fields).get? name = fs.get? name := by
  refine Fields.get?_update_of_ne fun p hp heq => ?_
  exact metrics.free p hp (heq ▸ hname)

theorem get?_update_of_mem (metrics : Metrics) {p : String × Json} (hp : p ∈ metrics.fields) :
    (fs.update metrics.fields).get? p.1 = some p.2 := by
  refine Fields.get?_update_of_mem hp fun q hq hname => ?_
  -- A name is given once, so the two are one member.
  rw [List.inj_on_of_nodup_map metrics.distinct hq hp hname]

end Metrics

namespace Timer

variable {t : Timer} {metrics : Metrics}

/-- The values of a record: some of its own, the parent if there is one, and the
    metrics. -/
theorem names_update (t : Timer) (metrics : Metrics) {own : Fields}
    (hspan : own.get? "span_id" = some t.spanId) (hparent : own.get? "parent_span_id" = none) :
    t.Names metrics
      ((if t.parentSpanId.isTruthy then own.set "parent_span_id" t.parentSpanId else own).update
        metrics.fields) := by
  refine ⟨?_, ?_, fun p hp => metrics.get?_update_of_mem hp⟩
  · rw [metrics.get?_update_of_reserved (by decide)]
    split
    · rw [Fields.get?_set, if_neg (by decide)]
      exact hspan
    · exact hspan
  · rw [metrics.get?_update_of_reserved (by decide)]
    split
    · rw [Fields.get?_set, if_pos rfl]
    · exact hparent

theorem names_startFields (h : t.metrics = metrics.fields) : t.Names metrics t.startFields := by
  unfold startFields
  rw [h]
  exact t.names_update metrics rfl rfl

/-- A stopped timer shows one time only. -/
theorem duration_of_stopped {e : Instant} (h : t.endedAt = some e) (now later : Float) :
    t.duration now = t.duration later := by
  simp [duration, elapsed, lastSeen, h]

theorem measures_logFields (t : Timer) {e : Instant} (h : t.metrics = metrics.fields)
    (hstopped : t.endedAt = some e) (now : Float) : t.Measures metrics (t.logFields now) := by
  unfold logFields
  rw [h]
  refine ⟨t.names_update metrics rfl rfl, fun later => ?_⟩
  rw [metrics.get?_update_of_reserved (by decide), duration_of_stopped hstopped later now]
  split
  · rw [Fields.get?_set, if_neg (by decide)]
    rfl
  · rfl

/-- What is told of a fault leaves the other values as they are. -/
theorem get?_faultFields {f : Fault} (hfault : t.fault = some f) (now : Float) {name : String}
    (hname : name ∉ ["status", "error_type", "error_message", "error_stack"]) :
    (t.faultFields now).get? name = (t.logFields now).get? name := by
  simp only [List.mem_cons, List.not_mem_nil, or_false, not_or] at hname
  obtain ⟨hstatus, htype, hmessage, hstack⟩ := hname
  unfold faultFields
  rw [hfault]
  simp [Fields.update, Fields.get?_set, hstatus, htype, hmessage, hstack]

theorem measures_faultFields (t : Timer) {f : Fault} {e : Instant} (h : t.metrics = metrics.fields)
    (hstopped : t.endedAt = some e) (hfault : t.fault = some f) (now : Float) :
    t.Measures metrics (t.faultFields now) := by
  have hlog := t.measures_logFields h hstopped now
  refine ⟨⟨?_, ?_, fun p hp => ?_⟩, fun later => ?_⟩
  · rw [get?_faultFields hfault now (by decide)]
    exact hlog.span
  · rw [get?_faultFields hfault now (by decide)]
    exact hlog.parent
  · rw [get?_faultFields hfault now]
    · exact hlog.metrics p hp
    · exact fun hin => metrics.free p hp (List.mem_append_right
        ["span_id", "parent_span_id", "duration_ms"] hin)
  · rw [get?_faultFields hfault now (by decide)]
    exact hlog.duration later

/-- What is told of a fault. -/
theorem told_faultFields {f : Fault} (hfault : t.fault = some f) (now : Float) :
    (t.faultFields now).get? "status" = some (.str "error") ∧
      (t.faultFields now).get? "error_type" = some (.str f.word) ∧
      (t.faultFields now).get? "error_message" = some (.str f.message) := by
  unfold faultFields
  rw [hfault]
  refine ⟨?_, ?_, ?_⟩
  all_goals simp [Fields.update, Fields.get?_set]

/-! ### What a block adds -/

/-- The timer of a step after its work has ended in `r`. -/
def ended (t : Timer) (now : Float) (r : Except Fault Unit) : Timer :=
  match r with
  | .ok _ => t.stop now
  | .error f => if f.isOrdinary then { t.stop now with fault := some f } else t.stop now

variable (t) (now : Float) (r : Except Fault Unit)

theorem ended_spans : (t.ended now r).step = t.step ∧ (t.ended now r).spanId = t.spanId ∧
    (t.ended now r).parentSpanId = t.parentSpanId ∧ (t.ended now r).metrics = t.metrics := by
  unfold ended
  cases r with
  | ok _ => exact ⟨rfl, rfl, rfl, rfl⟩
  | error f =>
    dsimp only
    split <;> exact ⟨rfl, rfl, rfl, rfl⟩

end Timer

/-- Changing the timer that follows some others. -/
theorem modify_timers (earlier later : List Timer) (t : Timer) (f : Timer → Timer) :
    (earlier ++ t :: later).modify earlier.length f = earlier ++ f t :: later := by
  rw [List.modify_eq_set_getElem?]
  simp

namespace Diary

theorem timingRecords_logged (d : Diary) (level event : String) (fields : Fields) :
    (d.logged Act.timingLogger level event fields).timingRecords =
      d.timingRecords ++ [⟨Act.timingLogger, level, event, fields, d.context⟩] := by
  simp [timingRecords, logged]

theorem reported_of_timer {d : Diary} {n : Nat} {t : Timer} (h : d.timers[n]? = some t)
    (level event : String) (fields : Timer → Float → Fields) :
    d.reported n level event fields =
      d.logged Act.timingLogger level event (fields t d.clock) := by
  rw [reported, h]

section

variable {d old : Diary} {t : Timer} {later : List Timer}

/-- **The end of a step**: its timer is stopped, the context is the old one, and
    what has to be logged is logged. -/
theorem stepped_spec (hold : d.timers = old.timers ++ t :: later) (metrics : Metrics)
    (hmetrics : t.metrics = metrics.fields) (event : String) (opts : Act.StepOptions)
    (r : Except Fault Unit) :
    (d.stepped old event opts r).timers = old.timers ++ t.ended d.clock r :: later ∧
      (d.stepped old event opts r).spans = d.spans ∧
      (d.stepped old event opts r).context = old.context ∧
      ∃ last, (d.stepped old event opts r).timingRecords = d.timingRecords ++ last ∧
        EndLogged event opts metrics (t.ended d.clock r) old.context d.context r last := by
  have htimed : (d.timed old.timers.length).timers = old.timers ++ t.stop d.clock :: later := by
    unfold timed
    rw [hold]
    exact modify_timers _ _ _ _
  have hstopped : (t.stop d.clock).endedAt = some (t.lastSeen d.clock) := rfl
  cases r with
  | ok _ =>
    have hfound : ((d.timed old.timers.length).left old).timers[old.timers.length]? =
        some (t.stop d.clock) := by
      show (d.timed old.timers.length).timers[old.timers.length]? = _
      rw [htimed]
      simp
    unfold stepped
    dsimp only
    rw [reported_of_timer hfound]
    refine ⟨htimed, rfl, rfl, _, timingRecords_logged _ _ _ _, _, rfl, ?_⟩
    exact (t.stop d.clock).measures_logFields hmetrics hstopped _
  | error f =>
    unfold stepped Timer.ended EndLogged
    dsimp only
    split
    · -- The fault is logged: it is noted in the timer before the record is made.
      have hfaulted : ((d.timed old.timers.length).faulted old.timers.length f).timers =
          old.timers ++ { t.stop d.clock with fault := some f } :: later := by
        unfold faulted
        rw [htimed]
        exact modify_timers _ _ _ _
      have hfound :
          ((d.timed old.timers.length).faulted old.timers.length f).timers[old.timers.length]? =
            some { t.stop d.clock with fault := some f } := by
        rw [hfaulted]
        simp
      rw [reported_of_timer hfound]
      refine ⟨hfaulted, rfl, rfl, _, timingRecords_logged _ _ _ _, _, rfl, ?_, ?_⟩
      · exact Timer.measures_faultFields { t.stop d.clock with fault := some f } hmetrics hstopped
          rfl _
      · exact Timer.told_faultFields rfl _
    · exact ⟨htimed, rfl, rfl, [], (List.append_nil _).symm, rfl⟩

end

/-- **The start of a step**: a new timer, whose span is in force, and what has to
    be logged is logged. -/
theorem stepping_spec (d : Diary) (event : String) (opts : Act.StepOptions) (metrics : Metrics) :
    let t := d.stepTimer event metrics.fields
    (d.stepping event opts metrics.fields).timers = d.timers ++ [t] ∧
      (d.stepping event opts metrics.fields).spans = d.spans + 1 ∧
      (d.stepping event opts metrics.fields).context = d.context.inside t ∧
      ∃ first, (d.stepping event opts metrics.fields).timingRecords = d.timingRecords ++ first ∧
        StartLogged event opts metrics t (d.context.inside t) first := by
  dsimp only
  unfold stepping StartLogged
  dsimp only
  split
  · refine ⟨rfl, rfl, rfl, _, timingRecords_logged _ _ _ _, _, rfl, ?_⟩
    exact Timer.names_startFields rfl
  · exact ⟨rfl, rfl, rfl, [], (List.append_nil _).symm, rfl⟩

end Diary

/-! ### What work adds -/

/-- Between two diaries, some blocks have run and some records have been
    written. -/
structure Traces (d d' : Diary) (forest : SpanForest) (records : List LogRecord) : Prop where
  /-- The timers of the blocks have been made. -/
  timers : d'.timers = d.timers ++ forest.timers
  /-- A span id has been drawn for each. -/
  spans : d'.spans = d.spans + forest.timers.length
  /-- These are the ids. -/
  ids : forest.ids = (List.range' (1 + d.spans) forest.timers.length).map (Act.idText 8)
  /-- The context is what it was. -/
  context : d'.context = d.context
  /-- The records have been written. -/
  written : d'.timingRecords = d.timingRecords ++ records
  /-- Each block belongs to the step around it. -/
  linked : forest.Linked d.context.spanId
  /-- The records are those of the blocks. -/
  logs : forest.Logs d.context records

namespace Traces

variable {d d₁ d₂ : Diary}

theorem nil (d : Diary) : Traces d d .nil [] :=
  ⟨(List.append_nil _).symm, rfl, rfl, rfl, (List.append_nil _).symm, trivial, .nil⟩

/-- Work between blocks adds nothing. -/
theorem after_own {forest : SpanForest} {records : List LogRecord} {τ : Type} (x : OwnWork τ)
    (d : Diary) (s : τ) (h : Traces (x.act.runOn d s).2.1 d₂ forest records) :
    Traces d d₂ forest records := by
  obtain ⟨htimers, hspans, hids, hcontext, hwritten, hlinked, hlogs⟩ := h
  rw [x.timers] at htimers
  rw [x.spans] at hspans hids
  rw [x.context] at hcontext hlinked hlogs
  rw [x.records] at hwritten
  exact ⟨htimers, hspans, hids, hcontext, hwritten, hlinked, hlogs⟩

/-- A block and what comes after it. -/
theorem cons {b : Block} {t : Timer} {r : Except Fault Unit} {inner rest : SpanForest}
    {records later : List LogRecord} (h : Traces d d₁ (.cons b t r inner .nil) records)
    (hrest : Traces d₁ d₂ rest later) :
    Traces d d₂ (.cons b t r inner rest) (records ++ later) := by
  have htimers : (SpanForest.cons b t r inner rest).timers =
      (SpanForest.cons b t r inner .nil).timers ++ rest.timers := by simp [SpanForest.timers]
  refine ⟨?_, ?_, ?_, ?_, ?_, ?_, ?_⟩
  · rw [hrest.timers, h.timers, htimers, List.append_assoc]
  · rw [hrest.spans, h.spans, htimers, List.length_append, Nat.add_assoc]
  · have hfirst := h.ids
    have hlater := hrest.ids
    unfold SpanForest.ids at hfirst hlater ⊢
    rw [htimers, List.map_append, hfirst, hlater, h.spans, ← Nat.add_assoc, ← List.map_append,
      List.range'_append_1, List.length_append]
  · rw [hrest.context, h.context]
  · rw [hrest.written, h.written, List.append_assoc]
  · obtain ⟨hname, hparent, hinner, -⟩ := h.linked
    have hlinked := hrest.linked
    rw [h.context] at hlinked
    exact ⟨hname, hparent, hinner, hlinked⟩
  · have hlogs := hrest.logs
    rw [h.context] at hlogs
    exact h.logs.append hlogs

/-- One block, from what is inside it. -/
theorem single {b : Block} {t : Timer} {r : Except Fault Unit} {inner : SpanForest}
    {records : List LogRecord} (htimers : d₁.timers = d.timers ++ t :: inner.timers)
    (hspans : d₁.spans = d.spans + 1 + inner.timers.length)
    (hid : t.spanId = Act.idText 8 (d.spans + 1))
    (hids : inner.ids =
      (List.range' (1 + (d.spans + 1)) inner.timers.length).map (Act.idText 8))
    (hcontext : d₁.context = d.context) (hwritten : d₁.timingRecords = d.timingRecords ++ records)
    (hname : t.step = b.name) (hparent : t.parentSpanId = d.context.spanId)
    (hlinked : inner.Linked (b.inForce d.context.spanId t.spanId))
    (hlogs : SpanForest.Logs d.context (.cons b t r inner .nil) records) :
    Traces d d₁ (.cons b t r inner .nil) records := by
  have hall : (SpanForest.cons b t r inner .nil).timers = t :: inner.timers := by
    simp [SpanForest.timers]
  refine ⟨?_, ?_, ?_, hcontext, hwritten, ⟨hname, hparent, hlinked, trivial⟩, hlogs⟩
  · rw [hall, htimers]
  · rw [hall, hspans, List.length_cons]
    omega
  · unfold SpanForest.ids at hids ⊢
    rw [hall, List.map_cons, hids, List.length_cons, List.range'_succ, List.map_cons, hid,
      Nat.add_comm 1 d.spans]
    congr 3
    omega

/-- **A logged step** adds one span, with what its work adds inside it. -/
theorem step {event : String} {opts : Act.StepOptions} {metrics : Metrics} {inner : SpanForest}
    {within : List LogRecord}
    (h : Traces (d.stepping event opts metrics.fields) d₁ inner within) (r : Except Fault Unit) :
    ∃ t records, Traces d (d₁.stepped d event opts r)
      (.cons (.step event opts metrics) t r inner .nil) records := by
  obtain ⟨htimers₀, hspans₀, hcontext₀, first, hwritten₀, hfirst⟩ :=
    d.stepping_spec event opts metrics
  obtain ⟨htimers, hspans, hids, hcontext, hwritten, hlinked, hlogs⟩ := h
  rw [htimers₀, List.append_assoc] at htimers
  rw [hspans₀] at hspans hids
  rw [hcontext₀] at hcontext hlinked hlogs
  rw [hwritten₀] at hwritten
  obtain ⟨htimers₁, hspans₁, hcontext₁, last, hwritten₁, hlast⟩ :=
    Diary.stepped_spec htimers metrics rfl event opts r
  rw [hcontext] at hlast
  -- The timer ends with the span that it began with.
  obtain ⟨hname, hspan, hparent, -⟩ := (d.stepTimer event metrics.fields).ended_spans d₁.clock r
  generalize (d.stepTimer event metrics.fields).ended d₁.clock r = t at *
  have hinside : d.context.inside t = d.context.inside (d.stepTimer event metrics.fields) := by
    rw [LogContext.inside, LogContext.inside, hspan, hparent]
  refine ⟨t, first ++ within ++ last ++ [], single htimers₁ (by rw [hspans₁, hspans]) hspan hids
    hcontext₁ ?_ hname hparent ?_ ?_⟩
  · rw [hwritten₁, hwritten]
    simp
  · rw [← hinside, d.context.spanId_inside hspan] at hlinked
    exact hlinked
  · rw [← hinside] at hfirst hlogs hlast
    exact .step (hfirst.same_span hspan hparent) hlogs hlast .nil

/-- **A timed block** adds one span, and its parent is the parent of the blocks
    inside it. -/
theorem timed {name : Json} {inner : SpanForest} {within : List LogRecord}
    (h : Traces (d.timing name) d₁ inner within) (r : Except Fault Unit) :
    ∃ t records, Traces d (d₁.timed d.timers.length) (.cons (.timed name) t r inner .nil)
      records := by
  obtain ⟨htimers, hspans, hids, hcontext, hwritten, hlinked, hlogs⟩ := h
  obtain ⟨t, hnew, hname, hspan, hparent⟩ : ∃ t : Timer,
      (d.timing name).timers = d.timers ++ [t] ∧ t.step = name ∧
        t.spanId = Act.idText 8 (d.spans + 1) ∧ t.parentSpanId = d.context.spanId :=
    ⟨_, rfl, rfl, rfl, rfl⟩
  rw [hnew, List.append_assoc] at htimers
  have hstopped : (d₁.timed d.timers.length).timers =
      d.timers ++ t.stop d₁.clock :: inner.timers := by
    unfold Diary.timed
    rw [htimers]
    exact modify_timers _ _ _ _
  refine ⟨t.stop d₁.clock, within ++ [], single hstopped hspans hspan hids hcontext ?_ hname
    hparent hlinked (.timed hlogs .nil)⟩
  rw [List.append_nil]
  exact hwritten

end Traces

/-! ### The law -/

namespace Block

variable {τ : Type}

/-- The diary inside a block. -/
def entered (b : Block) (d : Diary) : Diary :=
  match b with
  | .step event opts metrics => d.stepping event opts metrics.fields
  | .timed name => d.timing name

/-- The diary after a block that ended in `r`, `old` being the one before it. -/
def left (b : Block) (d old : Diary) (r : Except Fault Unit) : Diary :=
  match b with
  | .step event opts _ => d.stepped old event opts r
  | .timed _ => d.timed old.timers.length

/-- A block ends as its body does. -/
theorem runOn_around (b : Block) (body : Act τ Unit) (d : Diary) (s : τ) :
    (b.around body).runOn d s =
      ((body.runOn (b.entered d) s).1,
        b.left (body.runOn (b.entered d) s).2.1 d (body.runOn (b.entered d) s).1,
        (body.runOn (b.entered d) s).2.2) := by
  cases b with
  | step event opts metrics => exact Act.runOn_logStep event opts metrics.fields _ d s
  | timed name =>
    unfold around
    rw [Act.runOn_bind, Act.runOn_timedBlock]
    rfl

end Block

/-- **What a block adds**: one span, with what its body adds inside it. -/
theorem Traces.block {b : Block} {d d₁ : Diary} {inner : SpanForest} {within : List LogRecord}
    (h : Traces (b.entered d) d₁ inner within) (r : Except Fault Unit) :
    ∃ t records, Traces d (b.left d₁ d r) (.cons b t r inner .nil) records := by
  cases b with
  | step event opts metrics => exact h.step r
  | timed name => exact h.timed r

namespace Work

variable {τ : Type}

/-- **What work adds**, by induction on the work. -/
theorem traces (w : Work τ) (d : Diary) (s : τ) :
    ∃ forest records, w.Ran forest (w.run.runOn d s).1 ∧
      Traces d (w.run.runOn d s).2.1 forest records := by
  induction w generalizing d s with
  | done => exact ⟨.nil, [], .done, .nil d⟩
  | own x rest ih =>
    rw [run, Act.runOn_bind]
    rcases hx : x.act.runOn d s with ⟨r, d₁, s₁⟩
    cases r with
    | ok _ =>
      obtain ⟨forest, records, hran, htraces⟩ := ih d₁ s₁
      refine ⟨forest, records, .own (d := d) (s := s) (by rw [hx]) hran, ?_⟩
      exact .after_own x d s (by rw [hx]; exact htraces)
    | error f =>
      refine ⟨.nil, [], .raised (d := d) (s := s) (by rw [hx]), ?_⟩
      exact .after_own x d s (by rw [hx]; exact .nil d₁)
  | block b body caught rest ihbody ihrest =>
    rw [run, Act.runOn_bind, Act.runOn_attempt, Block.runOn_around]
    obtain ⟨inner, within, hbody, hinner⟩ := ihbody (b.entered d) s
    generalize body.run.runOn (b.entered d) s = out at hbody hinner ⊢
    obtain ⟨r, d₁, s₁⟩ := out
    -- However the body ends, the block is left; only then may a fault go on.
    obtain ⟨t, records, hblock⟩ := hinner.block r
    obtain ⟨forest, later, hrest, hafter⟩ := ihrest (b.left d₁ d r) s₁
    have hwhole := hblock.cons hafter
    cases r with
    | ok _ => exact ⟨_, _, .block hbody (by simp) hrest, hwhole⟩
    | error f =>
      dsimp only
      cases hcaught : caught f with
      | true =>
        refine ⟨_, _, .block hbody ?_ hrest, hwhole⟩
        rintro _ ⟨⟩
        exact hcaught
      | false => exact ⟨_, _, .passed hbody hcaught, hblock⟩

/-- The ids differ as long as eight digits can tell them apart. -/
theorem nodup_spanIds {d : Diary} (h : d.spans ≤ 16 ^ 8) : d.spanIds.Nodup := by
  refine List.Nodup.map_on (fun m hm n hn hid => ?_) List.nodup_range'
  rw [List.mem_range'_1] at hm hn
  have hdigits : Text.hexDigits 8 m = Text.hexDigits 8 n :=
    String.ofList_injective (Json.str.inj hid)
  have hnumber := congrArg Text.hexNumber hdigits
  rw [Text.hexNumber_hexDigits, Text.hexNumber_hexDigits] at hnumber
  omega

/-- A step in which a timed block holds another step; a cancellation in that one
    is caught in the outer step, and then a third step follows. -/
example :
    let plain : Metrics := ⟨[], by decide, by decide⟩
    let cancelled : Work Unit :=
      .block (.step "inner" {} plain) (.own (.raise (.cancelled "")) .done) (fun _ => false) .done
    let w : Work Unit :=
      .block (.step "outer" {} plain)
        (.block (.timed (.str "block")) cancelled (fun _ => true)
          (.block (.step "last" { logStart := false } plain) .done (fun _ => false) .done))
        (fun _ => false) .done
    let d : Diary := (w.run.runOn {} ()).2.1
    d.timers.map (fun t => (t.step, t.parentSpanId)) =
        [(.str "outer", .null), (.str "block", Act.idText 8 1), (.str "inner", Act.idText 8 1),
          (.str "last", Act.idText 8 1)] ∧
      d.records.map (·.event) = ["outer.start", "inner.start", "last.end", "outer.end"] :=
  ⟨rfl, rfl⟩

end Work

end SinkPipeline
