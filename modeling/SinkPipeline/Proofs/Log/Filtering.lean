import SinkPipeline.Log.Output
import SinkPipeline.Proofs.Log.Tokens

/-! # Two ways of filtering

  Without debug names an event is dropped first of all if its level is too low;
  with debug names it is dropped, or not, after the log context has been added.
  Nothing that is added in between changes the level.  So both ways agree: with
  debug names an event is written if one of them is part of the name that is
  tested, and otherwise just if it is written without them.

  What is written is the same both ways.  It carries the fields of the event and
  those values of the context that the event has no field for, and the level, the
  logger and the time.  The two fields that ask for a text are taken out.
-/

namespace SinkPipeline

/-! ### The name that is tested -/

/-- A text is part of another one just if it stands somewhere in it. -/
theorem isPartOf_iff (part : List Char) (whole : List Char) :
    isPartOf part whole = true ↔ part <:+: whole := by
  induction whole with
  | nil => rw [isPartOf, List.isEmpty_iff, List.infix_nil]
  | cons c cs ih => rw [isPartOf, Bool.or_eq_true, List.isPrefixOf_iff_prefix, ih, List.infix_cons_iff]

/-- **The name that is tested** for an event in a context: the event's own `capexec`, or
    else that of the context; if that is missing or counts as false, the event's `name`. -/
def LogCall.testedName? (c : LogCall) (context : LogContext) : Option Json :=
  (((c.fields.get? "capexec").or context.sink.nonNull?).filter Json.isTruthy).or
    (c.fields.truthy? "name")

/-- One of the debug names is part of the name that is tested. -/
def LogCall.IsNamed (c : LogCall) (context : LogContext) (names : List String) : Prop :=
  ∃ v, c.testedName? context = some v ∧ ∃ name ∈ names, name.toList <:+: v.display.toList

theorem isDebugged_iff (names : List String) (fs : Fields) :
    isDebugged names fs = true ↔
      ∃ v, subjectOf fs = some v ∧ ∃ name ∈ names, name.toList <:+: v.display.toList := by
  unfold isDebugged
  cases subjectOf fs with
  | none => simp
  | some v => simp [List.any_eq_true, isPartOf_iff]

/-! ### What is added -/

namespace LogContext

theorem nodup_names (c : LogContext) : (c.entries.map (·.1)).Nodup := by
  show names.Nodup
  decide

/-- The values of a context that are not null. -/
theorem get?_shown (c : LogContext) (name : String) :
    Fields.get? c.shown name = (c.get? name).bind Json.nonNull? :=
  Fields.get?_filter_nonNull c.nodup_names name

/-- **What is added to an event**: the values that are not null and that the event has no
    field for. -/
theorem get?_addTo (c : LogContext) (fs : Fields) (name : String) :
    Fields.get? (c.addTo fs) name = (fs.get? name).or ((c.get? name).bind Json.nonNull?) := by
  rw [← get?_shown]
  exact Fields.get?_foldl_unless_has _ _ _

/-- The context has no value under any other name. -/
theorem get?_eq_none_of_not_mem (c : LogContext) {name : String} (h : name ∉ names) :
    c.get? name = none :=
  Fields.get?_eq_none_of_not_mem h

end LogContext

/-- **A text that was asked for** stands under its own name, and the request is gone. -/
theorem Fields.get?_answer {fs : Fields} {request name other : String} (text : Option String) :
    (fs.answer request name text).get? other =
      (if other = name then ((fs.truthy? request).bind fun _ => text).map Json.str else none).or
        (if other = request then none else fs.get? other) := by
  unfold answer
  cases (fs.truthy? request).bind fun _ => text with
  | none => simp [get?_without]
  | some t =>
    dsimp only
    rw [get?_set, get?_without]
    by_cases hname : other = name
    · rw [if_pos hname, if_pos hname]
      rfl
    · rw [if_neg hname, if_neg hname, Option.none_or]

namespace LogCall

variable {c : LogCall} {scene : LogScene}

/-- The event after everything has been added to it. -/
def merged (c : LogCall) (scene : LogScene) : Fields :=
  scene.context.addTo (((c.start.set "level" (.str c.levelWord)).set "logger" (.str c.logger)).set
    "timestamp" scene.time)

/-- What is written of the event, if it is written. -/
def record (c : LogCall) (scene : LogScene) : Fields :=
  ((c.merged scene).answer "exc_info" "exception" scene.fault).answer "stack_info" "stack"
    (some scene.calls)

/-- The names that a record has on its own account. -/
def recordNames : List String := ["event", "level", "logger", "timestamp"]

/-- The methods of a logger. -/
def methods : List String :=
  ["debug", "info", "warning", "warn", "error", "exception", "critical", "fatal"]

/-- Every event is at least for debugging. -/
theorem debugNumber_le (h : c.method ∈ methods) : LogLevel.debugNumber ≤ c.number := by
  have hall : ∀ m ∈ methods, LogLevel.debugNumber ≤ (LogCall.mk "" m "" []).number := by
    decide +kernel
  exact hall c.method h

/-- Only the request for a fault may be there without being given. -/
theorem get?_given {name : String} (hname : name ≠ "exc_info") :
    c.given.get? name = c.fields.get? name := by
  unfold given
  split
  · rw [Fields.get?_set, if_neg hname]
  · rfl

/-- What every record has on its own account. -/
def standing (c : LogCall) (scene : LogScene) : Fields :=
  [("event", .str c.event), ("level", .str c.levelWord), ("logger", .str c.logger),
    ("timestamp", scene.time)]

theorem get?_standing_eq_none {name : String} (hname : name ∉ recordNames) :
    (c.standing scene).get? name = none :=
  Fields.get?_eq_none_of_not_mem hname

/-- **Where a value comes from**: first what every record has, then the fields of the event,
    and then the context. -/
theorem get?_merged (name : String) :
    (c.merged scene).get? name = ((c.standing scene).get? name).or
      ((c.given.get? name).or ((scene.context.get? name).bind Json.nonNull?)) := by
  unfold merged start
  rw [LogContext.get?_addTo, Fields.get?_set, Fields.get?_set, Fields.get?_set, Fields.get?_set]
  by_cases hname : name ∈ recordNames
  · simp only [recordNames, List.mem_cons, List.not_mem_nil, or_false] at hname
    rcases hname with rfl | rfl | rfl | rfl <;> rfl
  · rw [get?_standing_eq_none hname]
    simp only [recordNames, List.mem_cons, List.not_mem_nil, or_false, not_or] at hname
    obtain ⟨hevent, hlevel, hlogger, htime⟩ := hname
    rw [if_neg htime, if_neg hlogger, if_neg hlevel, if_neg hevent, Option.none_or]

/-- **The filter tests the name** that it is said to test. -/
theorem subjectOf_merged : subjectOf (c.merged scene) = c.testedName? scene.context := by
  have hsink : (c.merged scene).get? "capexec" =
      (c.fields.get? "capexec").or scene.context.sink.nonNull? := by
    rw [get?_merged, get?_given (by decide)]
    rfl
  have hname : (c.merged scene).get? "name" = c.fields.get? "name" := by
    have hnone : scene.context.get? "name" = none :=
      LogContext.get?_eq_none_of_not_mem _ (by decide)
    rw [get?_merged, get?_given (by decide), hnone, Option.bind_none, Option.or_none]
    rfl
  unfold subjectOf testedName? Fields.truthy?
  rw [hsink, hname]

/-! ### What is written -/

/-- **What a record carries** of an event.  A field that asks for a text is not carried; the
    text stands under its own name. -/
structure Carries (c : LogCall) (scene : LogScene) (r : Fields) : Prop where
  /-- The event. -/
  event : r.get? "event" = some (.str c.event)
  /-- The level. -/
  level : r.get? "level" = some (.str c.levelWord)
  /-- The logger. -/
  logger : r.get? "logger" = some (.str c.logger)
  /-- The time. -/
  time : r.get? "timestamp" = some scene.time
  /-- The fields that ask for a text are gone. -/
  requests : r.get? "exc_info" = none ∧ r.get? "stack_info" = none
  /-- The text of the fault that is being handled, if it was asked for. -/
  fault : r.get? "exception" =
    (((c.given.truthy? "exc_info").bind fun _ => scene.fault).map Json.str).or
      (c.fields.get? "exception")
  /-- The text of the calls under way, if it was asked for. -/
  calls : r.get? "stack" =
    ((c.fields.truthy? "stack_info").map fun _ => .str scene.calls).or (c.fields.get? "stack")
  /-- Every other field of the event, and just those values of the context that are not null
      and that the event has no field for. -/
  own : ∀ name, name ∉ recordNames → name ∉ ["exc_info", "stack_info", "exception", "stack"] →
    r.get? name = (c.fields.get? name).or ((scene.context.get? name).bind Json.nonNull?)

/-- What is neither a request nor its answer is as it was. -/
theorem get?_record_of_not_mem {name : String}
    (h : name ∉ ["exc_info", "stack_info", "exception", "stack"]) :
    (c.record scene).get? name = (c.merged scene).get? name := by
  simp only [List.mem_cons, List.not_mem_nil, or_false, not_or] at h
  obtain ⟨hfault, hcalls, hexception, hstack⟩ := h
  unfold record
  rw [Fields.get?_answer, if_neg hstack, if_neg hcalls, Fields.get?_answer, if_neg hexception,
    if_neg hfault, Option.none_or, Option.none_or]

/-- A name that the context has no value for. -/
theorem get?_merged_of_not_mem {name : String} (hname : name ∉ recordNames)
    (hcontext : name ∉ LogContext.names) : (c.merged scene).get? name = c.given.get? name := by
  rw [get?_merged, get?_standing_eq_none hname, LogContext.get?_eq_none_of_not_mem _ hcontext,
    Option.bind_none, Option.or_none, Option.none_or]

/-- **What is written of an event carries it.** -/
theorem carries_record (c : LogCall) (scene : LogScene) : c.Carries scene (c.record scene) where
  event := by
    rw [get?_record_of_not_mem (by decide), get?_merged]
    rfl
  level := by
    rw [get?_record_of_not_mem (by decide), get?_merged]
    rfl
  logger := by
    rw [get?_record_of_not_mem (by decide), get?_merged]
    rfl
  time := by
    rw [get?_record_of_not_mem (by decide), get?_merged]
    rfl
  requests := by
    constructor
    · unfold record
      rw [Fields.get?_answer, if_neg (by decide), if_neg (by decide), Fields.get?_answer,
        if_neg (by decide), if_pos rfl]
      rfl
    · unfold record
      rw [Fields.get?_answer, if_neg (by decide), if_pos rfl]
      rfl
  fault := by
    unfold record
    rw [Fields.get?_answer, if_neg (by decide), if_neg (by decide), Fields.get?_answer, if_pos rfl,
      if_neg (by decide), Option.none_or, get?_merged_of_not_mem (by decide) (by decide),
      get?_given (by decide)]
    unfold Fields.truthy?
    rw [get?_merged_of_not_mem (by decide) (by decide)]
  calls := by
    have hasked : ((c.merged scene).answer "exc_info" "exception" scene.fault).get? "stack_info" =
        c.fields.get? "stack_info" := by
      rw [Fields.get?_answer, if_neg (by decide), if_neg (by decide), Option.none_or,
        get?_merged_of_not_mem (by decide) (by decide), get?_given (by decide)]
    unfold record
    rw [Fields.get?_answer, if_pos rfl, if_neg (by decide), Fields.get?_answer, if_neg (by decide),
      if_neg (by decide), Option.none_or, get?_merged_of_not_mem (by decide) (by decide),
      get?_given (by decide)]
    unfold Fields.truthy?
    rw [hasked]
    cases (c.fields.get? "stack_info").filter Json.isTruthy <;> rfl
  own name hrecord hrequests := by
    have hfault : name ≠ "exc_info" := by
      rintro rfl
      exact hrequests (by decide)
    rw [get?_record_of_not_mem hrequests, get?_merged, get?_standing_eq_none hrecord,
      get?_given hfault, Option.none_or]

end LogCall

/-! ### The two lists of steps -/

/-- **Without debug names** an event is written if its level is high enough. -/
theorem writtenOf_plain (least : LogLevel.Threshold) (scene : LogScene) (c : LogCall) :
    writtenOf (LogStep.chain [] least) scene c =
      .ok (if scene.least ≤ c.number then some (c.record scene) else none) := by
  unfold writtenOf LogStep.chain
  by_cases hleast : scene.least ≤ c.number
  · rw [if_pos hleast]
    simp only [List.isEmpty_nil, if_true, LogStep.applyAll, LogStep.apply, hleast]
    rfl
  · rw [if_neg hleast]
    simp only [List.isEmpty_nil, if_true, LogStep.applyAll, LogStep.apply, hleast, if_false]
    rfl

/-- **With debug names** it is written if one of them is part of the name that is tested, or
    if its level is high enough. -/
theorem writtenOf_named {names : List String} (hnames : names ≠ []) (n : Nat) (scene : LogScene)
    (c : LogCall) :
    writtenOf (LogStep.chain names (.number n)) scene c =
      .ok (if (isDebugged names (c.merged scene) = true ∨ n ≤ c.number) ∧ scene.least ≤ c.number then
        some (c.record scene) else none) := by
  have hlevel : LogLevel.eventNumber
      (((c.merged scene).get? "level").getD (.str c.method)).display = c.number := by
    rw [LogCall.get?_merged]
    rfl
  -- The gate is asked after the context is merged, and that leaves the level as it was.
  have hgate : passesNames names (.number n) c.method (c.merged scene) =
      .ok (decide (isDebugged names (c.merged scene) = true ∨ n ≤ c.number)) := by
    unfold passesNames
    dsimp only
    rw [hlevel]
    cases isDebugged names (c.merged scene) <;> simp
  have hsteps : writtenOf (LogStep.chain names (.number n)) scene c =
      (passesNames names (.number n) c.method (c.merged scene)).map fun passes =>
        (if passes then some (c.record scene) else none).filter fun _ =>
          scene.least ≤ c.number := by
    unfold writtenOf LogStep.chain
    rw [List.isEmpty_eq_false_iff.mpr hnames]
    show ((passesNames names (.number n) c.method (c.merged scene) >>= _) >>= _ >>= _) = _
    cases passesNames names (.number n) c.method (c.merged scene) with
    | error f => rfl
    | ok passes => cases passes <;> rfl
  rw [hsteps, hgate]
  show Except.ok _ = _
  by_cases hpasses : isDebugged names (c.merged scene) = true ∨ n ≤ c.number
  · by_cases hleast : scene.least ≤ c.number <;> simp [hpasses, hleast]
  · simp [hpasses]

/-! ### Choosing the output -/

namespace LogOutput

variable {env : Env} {o : LogOptions} {out : LogOutput} {n : Nat}

theorem thresholdOf_of_leastNumber {word : String} (h : leastNumber word = .ok n) :
    thresholdOf word = .ok (.number n) := by
  unfold leastNumber at h
  cases hleast : thresholdOf word with
  | error f =>
    rw [hleast] at h
    cases h
  | ok least =>
    rw [hleast] at h
    cases least with
    | number k =>
      cases h
      rfl
    | other kind => cases h

/-- A choice is made if none has been, or if an earlier one is overruled. -/
def IsFree (o : LogOptions) (out : LogOutput) : Prop := out.configured = false ∨ o.force = true

theorem IsFree.not_blocked (h : IsFree o out) : (out.configured && !o.force) = false := by
  rcases h with h | h <;> simp [h]

/-- **With debug names** the filter decides, and every level is let in. -/
theorem configure_named (hfree : IsFree o out) (hnames : debugNames env o ≠ [])
    (hlevel : leastNumber (levelWord env o) = .ok n) :
    configure env o out = (.ok (), ⟨true, some (LogStep.chain (debugNames env o) (.number n)),
      wantsJson env o, LogLevel.debugNumber⟩) := by
  unfold configure
  simp only [hfree.not_blocked, Bool.false_eq_true, if_false, List.isEmpty_eq_false_iff.mpr hnames,
    thresholdOf_of_leastNumber hlevel]

/-- **Without debug names** the level is set. -/
theorem configure_plain (hfree : IsFree o out) (hnames : debugNames env o = [])
    (hlevel : leastNumber (levelWord env o) = .ok n) :
    configure env o out =
      (.ok (), ⟨true, some (LogStep.chain [] (.number 0)), wantsJson env o, n⟩) := by
  unfold configure
  simp only [hfree.not_blocked, Bool.false_eq_true, if_false, hnames, List.isEmpty_nil, if_true,
    hlevel]

/-- What is written where some steps are in place. -/
theorem written_of_steps {steps : List LogStep} (h : out.steps = some steps) {c : LogCall}
    (hc : c.refusal? = none) (scene : LogScene) :
    out.written scene.context scene.time c scene.fault scene.calls =
      writtenOf steps { scene with least := out.least } c := by
  unfold written
  rw [h]
  dsimp only
  rw [hc]

/-- An event that cannot be handed over is a fault. -/
theorem written_of_refusal {steps : List LogStep} (h : out.steps = some steps) {c : LogCall}
    {f : Fault} (hc : c.refusal? = some f) (scene : LogScene) :
    out.written scene.context scene.time c scene.fault scene.calls = .error f := by
  unfold written
  rw [h]
  dsimp only
  rw [hc]

/-- The options of the level for information, with debug names or without. -/
def infoOptions (names : List String) : LogOptions where
  level := some "INFO"
  format := some "json"
  debugNames := some names

theorem leastNumber_info : leastNumber (levelWord [] (infoOptions ["page"])) = .ok 20 := by
  have hword : levelWord [] (infoOptions ["page"]) = "INFO" := by decide +kernel
  rw [hword]
  rfl

/-- An event with a field that asks for the fault, with a value that counts as false. -/
def unasked : LogCall := ⟨"capexec.x", "info", "e", [("exc_info", .bool false)]⟩

end LogOutput

end SinkPipeline
