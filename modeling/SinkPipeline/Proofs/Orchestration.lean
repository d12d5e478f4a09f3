import SinkPipeline.Proofs.Running

/-! # The law of a run

  What happens in a run of the orchestrator, in which order, and what it comes
  to, whatever the adapter does: an adapter is any pair of actions, which may
  look at and change the state, write to the diary, and give a value or an
  ordinary fault at any call.

  A run is told as a list of **happenings**: calls of the adapter, events that
  are given to the consumer, and records that the orchestrator logs.  A
  **timeline** says that a list of happenings leads from one state of the world
  to another, with nothing in between.  The happenings of a run come in
  **turns**, one for each discovery.
-/

namespace SinkPipeline

namespace Orchestrator

variable {τ δ plan result : Type}

/-- A run as it is undertaken: how it goes, by which adapter, under which id,
    and what its consumer does with each event before asking for the next. -/
structure Undertaking (τ δ plan result : Type) where
  /-- How it goes, as it was given. -/
  settings : Settings δ
  /-- What prepares and executes. -/
  adapter : OutputAdapter τ δ plan result
  /-- What it is for. -/
  mode : Mode
  /-- What a fault does to it. -/
  policy : Policy
  /-- Its id. -/
  id : Json
  /-- What the consumer does with an event. -/
  see : RunEvent plan result → Diary → τ → Diary × τ

/-! ### Happenings -/

/-- One thing that happens in a run. -/
inductive Happening (δ plan result : Type) where
  /-- The adapter is called to prepare a discovery, and that is how it ends. -/
  | prepare (d : δ) (r : Except Fault plan)
  /-- The adapter is called to execute the plan of a discovery, and that is how
      it ends. -/
  | execute (d : δ) (p : plan) (r : Except Fault result)
  /-- An event is given to the consumer. -/
  | gives (e : RunEvent plan result)
  /-- A record is logged. -/
  | logs (logger level event : String) (fields : Fields)

namespace Happening

/-- Is it a record about a fault? -/
def isErrorRecord : Happening δ plan result → Bool
  | .logs _ _ event _ => event == "capexec.error"
  | _ => false

/-- The record about the fault of a discovery. -/
def errorRecord (u : Undertaking τ δ plan result) (d : δ) (f : Fault) : Happening δ plan result :=
  .logs u.settings.logger "error" "capexec.error"
    [("kind", .str u.adapter.kind), ("name", u.settings.nameOf d), ("error", .str f.message),
      ("error_type", .str f.word)]

/-- The record about a discovery that was prepared. -/
def preparedRecord (u : Undertaking τ δ plan result) (d : δ) : Happening δ plan result :=
  .logs u.settings.logger "debug" "capexec.prepared"
    [("kind", .str u.adapter.kind), ("name", u.settings.nameOf d), ("mode", .str u.mode.word)]

/-- The record about a plan that was executed. -/
def executedRecord (u : Undertaking τ δ plan result) (d : δ) (elapsed : Float) :
    Happening δ plan result :=
  .logs u.settings.logger "info" "capexec.executed"
    [("kind", .str u.adapter.kind), ("name", u.settings.nameOf d), ("elapsed_ms", .float elapsed)]

/-- The record about a run that came to its end. -/
def completeRecord (u : Undertaking τ δ plan result) (processed failed : Nat) :
    Happening δ plan result :=
  .logs Orchestrator.logger "debug" "capexec.run_complete"
    [("run_id", u.id), ("processed", .int processed), ("failed", .int failed)]

/-- The values of the log context while the adapter works on a discovery. -/
def workFields (u : Undertaking τ δ plan result) (d : δ) (phase : String) : Fields :=
  [("run_id", u.id), ("mode", .str u.mode.word), ("capexec", u.settings.nameOf d),
    ("phase", .str phase)]

/-- **What a happening does to the world**, that is, to the diary and the state.
    A call of the adapter is made once, with the run and the discovery in the
    log context, which is what it was again afterwards; an execution is timed
    besides. -/
inductive Leads (u : Undertaking τ δ plan result) :
    Happening δ plan result → Diary × τ → Diary × τ → Prop where
  | prepare {d : δ} {D D' : Diary} {t t' : τ} {r : Except Fault plan}
      (hrun : (u.adapter.prepare d u.mode).runOn (D.entered (workFields u d "prepare")) t =
        (r, D', t')) :
      Leads u (.prepare d r) (D, t) (D'.left D, t')
  | execute {d : δ} {p : plan} {D D' : Diary} {t t' : τ} {r : Except Fault result}
      (hrun : (u.adapter.execute p).runOn
        ((D.entered (workFields u d "execute")).timing (.str "capexec.execute")) t = (r, D', t')) :
      Leads u (.execute d p r) (D, t) ((D'.timed D.timers.length).left D, t')
  | gives (e : RunEvent plan result) (D : Diary) (t : τ) : Leads u (.gives e) (D, t) (u.see e D t)
  | logs (logger level event : String) (fields : Fields) (D : Diary) (t : τ) :
      Leads u (.logs logger level event fields) (D, t) (D.logged logger level event fields, t)

end Happening

/-- **A timeline**: these things happen one after the other, and nothing else
    happens between two states of the world. -/
inductive Timeline (u : Undertaking τ δ plan result) :
    List (Happening δ plan result) → Diary × τ → Diary × τ → Prop where
  | nil (w : Diary × τ) : Timeline u [] w w
  | cons {h : Happening δ plan result} {hs : List (Happening δ plan result)} {w w' w'' : Diary × τ}
      (first : h.Leads u w w') (rest : Timeline u hs w' w'') : Timeline u (h :: hs) w w''

theorem Timeline.append {u : Undertaking τ δ plan result} {hs hs' : List (Happening δ plan result)}
    {w w' w'' : Diary × τ} (h : Timeline u hs w w') (h' : Timeline u hs' w' w'') :
    Timeline u (hs ++ hs') w w'' := by
  induction h with
  | nil _ => exact h'
  | cons first _ ih => exact .cons first (ih h')

/-- One happening by itself. -/
theorem Timeline.single {u : Undertaking τ δ plan result} {h : Happening δ plan result}
    {w w' : Diary × τ} (first : h.Leads u w w') : Timeline u [h] w w' := .cons first (.nil w')

/-! ### Turns -/

/-- How the turn of a discovery goes. -/
inductive Turn (δ plan result : Type) where
  /-- It could not be prepared. -/
  | unprepared (d : δ) (f : Fault)
  /-- It was prepared and was not to be executed. -/
  | prepared (d : δ) (p : plan)
  /-- It was prepared and could not be executed. -/
  | unexecuted (d : δ) (p : plan) (f : Fault)
  /-- It was prepared and executed. -/
  | executed (d : δ) (p : plan) (r : result) (elapsed : Float)

namespace Turn

/-- The discovery whose turn it is. -/
def discovery : Turn δ plan result → δ
  | .unprepared d _ | .prepared d _ | .unexecuted d _ _ | .executed d _ _ _ => d

/-- The fault of the call that failed, if one did. -/
def fault? : Turn δ plan result → Option Fault
  | .unprepared _ f | .unexecuted _ _ f => some f
  | .prepared _ _ | .executed _ _ _ _ => none

/-- Did a call fail? -/
def failed (x : Turn δ plan result) : Bool := x.fault?.isSome

/-- The events of a turn. -/
def events : Turn δ plan result → List (RunEvent plan result)
  | .unprepared _ _ => []
  | .prepared _ p | .unexecuted _ p _ => [.prepared p]
  | .executed _ p r elapsed => [.prepared p, .executed p r elapsed]

/-- Everything that happens in a turn, in order. -/
def happenings (u : Undertaking τ δ plan result) :
    Turn δ plan result → List (Happening δ plan result)
  | .unprepared d f => [.prepare d (.error f), .errorRecord u d f]
  | .prepared d p => [.prepare d (.ok p), .preparedRecord u d, .gives (.prepared p)]
  | .unexecuted d p f =>
    [.prepare d (.ok p), .preparedRecord u d, .gives (.prepared p), .execute d p (.error f),
      .errorRecord u d f]
  | .executed d p r elapsed =>
    [.prepare d (.ok p), .preparedRecord u d, .gives (.prepared p), .execute d p (.ok r),
      .executedRecord u d elapsed, .gives (.executed p r elapsed)]

/-- **Is the plan executed in this turn exactly if the run is to run anything?**
    Where nothing was prepared there is no plan. -/
def Fits (run : Bool) : Turn δ plan result → Prop
  | .unprepared _ _ => True
  | .prepared _ _ => run = false
  | .unexecuted _ _ _ | .executed _ _ _ _ => run = true

/-- A turn has one record about a fault if a call failed, and else none. -/
theorem countP_isErrorRecord (u : Undertaking τ δ plan result) (x : Turn δ plan result) :
    (x.happenings u).countP Happening.isErrorRecord = if x.failed then 1 else 0 := by
  cases x <;> rfl

end Turn

/-! ### The law -/

/-- **The turns that a run takes**, and the fault that it ends in.  The turns
    belong to the discoveries in their order.  With the policy to skip, each
    discovery has its turn and there is no fault.  With the policy to abort, the
    first turn that failed is the last one, and its fault is that of the run. -/
structure Lawful (u : Undertaking τ δ plan result) (ds : List δ)
    (turns : List (Turn δ plan result)) (fault : Option Fault) : Prop where
  /-- Plans are executed exactly if the run is to run anything. -/
  fits : ∀ x ∈ turns, x.Fits u.settings.run
  /-- The discoveries have their turns in order. -/
  ordered : turns.map Turn.discovery <+: ds
  /-- Without a fault, each discovery has its turn. -/
  complete : fault = none → turns.map Turn.discovery = ds
  /-- No turn ends a run that is to skip faults. -/
  skips : u.policy = .skip → fault = none
  /-- The first turn that failed ends a run that is to abort. -/
  aborts : u.policy = .abort →
    (∃ before last f, turns = before ++ [last] ∧ (∀ x ∈ before, x.fault? = none) ∧
      last.fault? = some f ∧ fault = some f) ∨
    ((∀ x ∈ turns, x.fault? = none) ∧ fault = none)

/-- How many turns went well. -/
def wellCount (turns : List (Turn δ plan result)) : Nat := turns.countP fun x => !x.failed

/-- In how many turns a call failed. -/
def failedCount (turns : List (Turn δ plan result)) : Nat := turns.countP Turn.failed

namespace Lawful

variable {u : Undertaking τ δ plan result} {ds : List δ} {turns : List (Turn δ plan result)}
  {fault : Option Fault} {x : Turn δ plan result}

theorem nil : Lawful u [] [] none where
  fits := by simp
  ordered := by simp
  complete := fun _ => rfl
  skips := fun _ => rfl
  aborts := fun _ => .inr ⟨by simp, rfl⟩

/-- A turn after which the run goes on. -/
theorem cons (h : Lawful u ds turns fault) (hfits : x.Fits u.settings.run)
    (hgoes : x.fault? = none ∨ u.policy = .skip) :
    Lawful u (x.discovery :: ds) (x :: turns) fault where
  fits := by
    intro y hy
    rcases List.mem_cons.1 hy with rfl | hy
    · exact hfits
    · exact h.fits y hy
  ordered := by simpa using h.ordered
  complete := fun hnone => by simp [h.complete hnone]
  skips := h.skips
  aborts := by
    intro habort
    -- Under abort a turn after which the run goes on has no fault.
    have hnone : x.fault? = none := by
      rcases hgoes with hnone | hskip
      · exact hnone
      · rw [habort] at hskip
        cases hskip
    rcases h.aborts habort with ⟨before, last, f, rfl, hbefore, hlast, hfault⟩ | ⟨hall, hfault⟩
    · refine .inl ⟨x :: before, last, f, rfl, ?_, hlast, hfault⟩
      intro y hy
      rcases List.mem_cons.1 hy with rfl | hy
      · exact hnone
      · exact hbefore y hy
    · refine .inr ⟨?_, hfault⟩
      intro y hy
      rcases List.mem_cons.1 hy with rfl | hy
      · exact hnone
      · exact hall y hy

/-- A turn that ends the run. -/
theorem last {f : Fault} (hfits : x.Fits u.settings.run) (hfault : x.fault? = some f)
    (habort : u.policy = .abort) : Lawful u (x.discovery :: ds) [x] (some f) where
  fits := by
    intro y hy
    rw [List.mem_singleton.1 hy]
    exact hfits
  ordered := by simp
  complete := fun hnone => by cases hnone
  skips := fun hskip => by rw [habort] at hskip; cases hskip
  aborts := fun _ => .inl ⟨[], x, f, rfl, by simp, hfault, rfl⟩

end Lawful

/-! ### One step of a run -/

section Steps

variable (u : Undertaking τ δ plan result)

/-- Does a run that has begun belong to the undertaking? -/
def Undertaking.Owns (r : Run) : Prop := r.id = u.id ∧ r.mode = u.mode ∧ r.policy = u.policy

/-- The events of an undertaking, whose discoveries are those of a supply. -/
def Undertaking.source :
    Source τ (Cursor δ plan (Supply.Cursor (List δ))) (RunEvent plan result) :=
  events u.settings u.adapter (Source.ofSupply (Source.ofList τ δ))

/-- The consumer of an undertaking. -/
def Undertaking.consume (e : RunEvent plan result) : Act τ (RunEvent plan result) :=
  Act.ofRun fun D t => (.ok e, u.see e D t)

variable {u} {γ : Type} {r : Run} {d : δ} {p : plan} {D D' : Diary} {t t' : τ}

theorem Undertaking.Owns.workContext_eq (hr : u.Owns r) (phase : String) :
    workContext r (u.settings.nameOf d) phase = Happening.workFields u d phase := by
  obtain ⟨hid, hmode, _⟩ := hr
  simp only [workContext, Happening.workFields, hid, hmode]

/-- **A fault of the adapter** is logged; then the run ends with it or goes on. -/
theorem runOn_onFault {ε : Type} (rest : γ) (hr : u.Owns r) {f : Fault}
    (hordinary : f.isOrdinary) :
    (onFault u.settings u.adapter.kind (u.settings.nameOf d) r rest f :
      Act τ (Poll (Cursor δ plan γ) ε)).runOn D t =
      (match u.policy with
        | .abort => .error f
        | .skip => .ok (.skip (.seeking { r with failed := r.failed + 1 } rest)),
      D.logged u.settings.logger "error" "capexec.error"
        [("kind", .str u.adapter.kind), ("name", u.settings.nameOf d), ("error", .str f.message),
          ("error_type", .str f.word)], t) := by
  rw [onFault, if_pos hordinary, Act.runOn_bind, report, Act.runOn_log, hr.2.2]
  dsimp only
  cases u.policy <;> rfl

/-- A discovery that cannot be prepared. -/
theorem runOn_prepareStep_error (rest : γ) (hr : u.Owns r) {f : Fault}
    (hrun : (u.adapter.prepare d u.mode).runOn
      (D.entered (Happening.workFields u d "prepare")) t = (.error f, D', t')) :
    (prepareStep u.settings u.adapter r d rest).runOn D t =
      (onFault u.settings u.adapter.kind (u.settings.nameOf d) r rest f).runOn (D'.left D) t' := by
  rw [prepareStep, Act.runOn_bind, Act.runOn_withContext, hr.workContext_eq, hr.2.1, hrun]

/-- A discovery that is prepared: the event is given, and its plan is held if it
    is to be executed. -/
theorem runOn_prepareStep_ok (rest : γ) (hr : u.Owns r)
    (hrun : (u.adapter.prepare d u.mode).runOn
      (D.entered (Happening.workFields u d "prepare")) t = (.ok p, D', t')) :
    (prepareStep u.settings u.adapter r d rest).runOn D t =
      (.ok (.item (.prepared p)
        (if u.settings.run then .holding r d p rest
          else .seeking { r with processed := r.processed + 1 } rest)),
      (D'.left D).logged u.settings.logger "debug" "capexec.prepared"
        [("kind", .str u.adapter.kind), ("name", u.settings.nameOf d), ("mode", .str u.mode.word)],
      t') := by
  rw [prepareStep, Act.runOn_bind, Act.runOn_withContext, hr.workContext_eq, hr.2.1, hrun]
  dsimp only
  rw [Act.runOn_bind, Act.runOn_log]
  dsimp only
  cases u.settings.run <;> rfl

/-- The call that executes a plan, inside its context and timed. -/
theorem runOn_timedExecute {q : Except Fault result}
    (hrun : (u.adapter.execute p).runOn
      ((D.entered (Happening.workFields u d "execute")).timing (.str "capexec.execute")) t =
        (q, D', t')) :
    (Act.withContext (Happening.workFields u d "execute") (do
      let (n, outcome) ← Act.timedBlock (.str "capexec.execute") fun _ => u.adapter.execute p
      return (n, ← Act.ofExcept outcome))).runOn D t =
      (.ok (q.map fun v => (D.timers.length, v)), (D'.timed D.timers.length).left D, t') := by
  rw [Act.runOn_withContext, Act.runOn_bind, Act.runOn_timedBlock, hrun]
  cases q <;> rfl

/-- A plan that cannot be executed. -/
theorem runOn_executeStep_error (rest : γ) (hr : u.Owns r) {f : Fault}
    (hrun : (u.adapter.execute p).runOn
      ((D.entered (Happening.workFields u d "execute")).timing (.str "capexec.execute")) t =
        (.error f, D', t')) :
    (executeStep u.settings u.adapter r d p rest).runOn D t =
      (onFault u.settings u.adapter.kind (u.settings.nameOf d) r rest f).runOn
        ((D'.timed D.timers.length).left D) t' := by
  rw [executeStep, Act.runOn_bind, hr.workContext_eq, runOn_timedExecute hrun]
  rfl

/-- A plan that is executed: the event is given. -/
theorem runOn_executeStep_ok (rest : γ) (hr : u.Owns r) {v : result}
    (hrun : (u.adapter.execute p).runOn
      ((D.entered (Happening.workFields u d "execute")).timing (.str "capexec.execute")) t =
        (.ok v, D', t')) :
    ∃ elapsed, (executeStep u.settings u.adapter r d p rest).runOn D t =
      (.ok (.item (.executed p v elapsed) (.seeking { r with processed := r.processed + 1 } rest)),
      ((D'.timed D.timers.length).left D).logged u.settings.logger "info" "capexec.executed"
        [("kind", .str u.adapter.kind), ("name", u.settings.nameOf d),
          ("elapsed_ms", .float elapsed)], t') := by
  rw [executeStep, Act.runOn_bind, hr.workContext_eq, runOn_timedExecute hrun]
  exact ⟨_, rfl⟩

end Steps

/-! ### One turn -/

section Turns

/-- The faults of the adapter are ordinary ones. -/
structure Undertaking.Ordinary (u : Undertaking τ δ plan result) : Prop where
  /-- Those of preparing. -/
  prepare : ∀ d D t f, ((u.adapter.prepare d u.mode).runOn D t).1 = .error f → f.isOrdinary
  /-- Those of executing. -/
  execute : ∀ p D t f, ((u.adapter.execute p).runOn D t).1 = .error f → f.isOrdinary

/-- The counters of a run after a turn. -/
def Run.after (r : Run) (x : Turn δ plan result) : Run :=
  if x.failed then { r with failed := r.failed + 1 } else { r with processed := r.processed + 1 }

/-- What a consumer makes of the rest of a run, in so many steps. -/
def Undertaking.taking (u : Undertaking τ δ plan result) (fuel : Nat)
    (c : Cursor δ plan (Supply.Cursor (List δ))) (acc : List (RunEvent plan result)) :
    Act τ (Source.Taken (RunEvent plan result)) :=
  u.source.takeWith u.consume fuel none c acc

variable {u : Undertaking τ δ plan result} {r : Run} {d : δ} {p : plan} {D D' : Diary} {t t' : τ}
  {c next : Cursor δ plan (Supply.Cursor (List δ))} {acc : List (RunEvent plan result)}
  {x : Turn δ plan result} {e : RunEvent plan result}

theorem Undertaking.Owns.after (hr : u.Owns r) (x : Turn δ plan result) : u.Owns (r.after x) := by
  unfold Run.after
  split <;> exact hr

/-- An event is given, and the consumer does with it what it does. -/
theorem runOn_taking_item {fuel : Nat} (hstep : (u.source.step c).runOn D t =
    (.ok (.item e next), D', t')) :
    (u.taking (fuel + 1) c acc).runOn D t =
      (u.taking fuel next (e :: acc)).runOn (u.see e D' t').1 (u.see e D' t').2 := by
  rw [Undertaking.taking, Source.runOn_takeWith_succ, hstep]
  rfl

/-- How the taking goes on after a turn: the run ends with the fault of the
    turn, or goes on with the discoveries that are left. -/
def Undertaking.Goes (u : Undertaking τ δ plan result) (r : Run) (ds : List δ)
    (acc : List (RunEvent plan result)) (fuel : Nat) (x : Turn δ plan result) (w : Diary × τ)
    (out : Except Fault (Source.Taken (RunEvent plan result)) × Diary × τ) : Prop :=
  ((x.fault? = none ∨ u.policy = .skip) ∧ ∃ more ≥ fuel, out =
    (u.taking more (.seeking (r.after x) (.opened ds)) (x.events.reverse ++ acc)).runOn w.1 w.2) ∨
  (u.policy = .abort ∧ ∃ f, x.fault? = some f ∧ out = (.ok ⟨acc.reverse ++ x.events, some f⟩, w))

theorem Undertaking.Goes.mono {fuel fuel' : Nat} {ds : List δ} {w : Diary × τ}
    {out : Except Fault (Source.Taken (RunEvent plan result)) × Diary × τ}
    (h : u.Goes r ds acc fuel x w out) (hle : fuel' ≤ fuel) : u.Goes r ds acc fuel' x w out := by
  rcases h with ⟨hgoes, more, hmore, hout⟩ | h
  · exact .inl ⟨hgoes, more, Nat.le_trans hle hmore, hout⟩
  · exact .inr h

/-- A step in which a call fails ends a turn. -/
theorem goes_of_fault (x : Turn δ plan result) (acc : List (RunEvent plan result)) (fuel : Nat)
    {ds : List δ} {f : Fault} (hr : u.Owns r) (hordinary : f.isOrdinary) (hx : x.fault? = some f)
    (hstep : (u.source.step c).runOn D t =
      (onFault u.settings u.adapter.kind (u.settings.nameOf d) r (.opened ds) f).runOn D' t') :
    u.Goes r ds acc fuel x
      (D'.logged u.settings.logger "error" "capexec.error"
        [("kind", .str u.adapter.kind), ("name", u.settings.nameOf d), ("error", .str f.message),
          ("error_type", .str f.word)], t')
      ((u.taking (fuel + 1) c (x.events.reverse ++ acc)).runOn D t) := by
  rw [Undertaking.taking, Source.runOn_takeWith_succ, hstep, runOn_onFault _ hr hordinary]
  cases hpolicy : u.policy with
  | abort =>
    refine .inr ⟨hpolicy, f, hx, ?_⟩
    simp only [List.reverse_append, List.reverse_reverse]
  | skip =>
    refine .inl ⟨.inr hpolicy, fuel, Nat.le_refl _, ?_⟩
    have hafter : r.after x = { r with failed := r.failed + 1 } := by
      simp only [Run.after, Turn.failed, hx, Option.isSome_some, if_true]
    rw [hafter]
    rfl

/-- **The second part of a turn**: the plan that is held is executed. -/
theorem exists_turn_holding (hr : u.Owns r) (hu : u.Ordinary) (d : δ) (p : plan) (ds : List δ)
    (acc : List (RunEvent plan result)) (fuel : Nat) (hrun : u.settings.run = true)
    {w : Diary × τ} {D : Diary} {t : τ}
    (hprepared : Timeline u [.prepare d (.ok p), .preparedRecord u d, .gives (.prepared p)]
      w (D, t)) :
    ∃ (x : Turn δ plan result) (w' : Diary × τ), x.discovery = d ∧ x.Fits u.settings.run ∧
      Timeline u (x.happenings u) w w' ∧
      u.Goes r ds acc fuel x w'
        ((u.taking (fuel + 1) (.holding r d p (.opened ds)) (.prepared p :: acc)).runOn D t) := by
  have hhold : (u.source.step (.holding r d p (.opened ds))).runOn D t =
    (executeStep u.settings u.adapter r d p (.opened ds)).runOn D t := rfl
  rcases hexecute : (u.adapter.execute p).runOn
    ((D.entered (Happening.workFields u d "execute")).timing (.str "capexec.execute")) t with
    ⟨q, D', t'⟩
  have hsecond := Happening.Leads.execute (d := d) hexecute
  cases q with
  | error f =>
    have hordinary := hu.execute _ _ _ f (by rw [hexecute])
    refine ⟨.unexecuted d p f, _, rfl, hrun,
      hprepared.append (.cons hsecond (.single (.logs _ _ _ _ _ _))), ?_⟩
    rw [runOn_executeStep_error (Supply.Cursor.opened ds) hr hexecute] at hhold
    exact goes_of_fault (.unexecuted d p f) acc fuel hr hordinary rfl hhold
  | ok v =>
    obtain ⟨elapsed, hstep⟩ := runOn_executeStep_ok (Supply.Cursor.opened ds) hr hexecute
    rw [runOn_taking_item (hhold.trans hstep)]
    refine ⟨.executed d p v elapsed, _, rfl, hrun, hprepared.append (.cons hsecond
      (.cons (.logs _ _ _ _ _ _) (.single (.gives _ _ _)))), ?_⟩
    exact .inl ⟨.inl rfl, fuel, Nat.le_refl _, rfl⟩

/-- **One turn**: what happens from one discovery to the next. -/
theorem exists_turn (hr : u.Owns r) (hu : u.Ordinary) (d : δ) (ds : List δ)
    (acc : List (RunEvent plan result)) (fuel : Nat) (D : Diary) (t : τ) :
    ∃ (x : Turn δ plan result) (w : Diary × τ), x.discovery = d ∧ x.Fits u.settings.run ∧
      Timeline u (x.happenings u) (D, t) w ∧
      u.Goes r ds acc fuel x w
        ((u.taking (fuel + 2) (.seeking r (.opened (d :: ds))) acc).runOn D t) := by
  have hseek : (u.source.step (.seeking r (.opened (d :: ds)))).runOn D t =
      (prepareStep u.settings u.adapter r d (.opened ds)).runOn D t := rfl
  rcases hprepare : (u.adapter.prepare d u.mode).runOn
    (D.entered (Happening.workFields u d "prepare")) t with ⟨q, D₁, t₁⟩
  have hfirst := Happening.Leads.prepare hprepare
  cases q with
  | error f =>
    have hordinary := hu.prepare _ _ _ f (by rw [hprepare])
    refine ⟨.unprepared d f, _, rfl, trivial, .cons hfirst (.single (.logs _ _ _ _ _ _)), ?_⟩
    rw [runOn_prepareStep_error (Supply.Cursor.opened ds) hr hprepare] at hseek
    have hgoes := goes_of_fault (.unprepared d f) acc (fuel + 1) hr hordinary rfl hseek
    exact hgoes.mono (Nat.le_succ fuel)
  | ok p =>
    rw [runOn_prepareStep_ok (Supply.Cursor.opened ds) hr hprepare] at hseek
    rw [runOn_taking_item hseek]
    -- The world when the plan is ready and the consumer has seen the event.
    rcases hseen : u.see (.prepared p) ((D₁.left D).logged u.settings.logger "debug"
      "capexec.prepared" [("kind", .str u.adapter.kind), ("name", u.settings.nameOf d),
        ("mode", .str u.mode.word)]) t₁ with ⟨D₂, t₂⟩
    have hprepared : Timeline u [.prepare d (.ok p), .preparedRecord u d, .gives (.prepared p)]
        (D, t) (D₂, t₂) := by
      rw [← hseen]
      exact .cons hfirst (.cons (.logs _ _ _ _ _ _) (.single (.gives _ _ _)))
    cases hrun : u.settings.run with
    | false =>
      exact ⟨.prepared d p, (D₂, t₂), rfl, rfl, hprepared, .inl ⟨.inl rfl, fuel + 1, by omega, rfl⟩⟩
    | true =>
      rw [if_pos rfl, ← hrun]
      exact exists_turn_holding hr hu d p ds acc fuel hrun hprepared

end Turns

/-! ### The whole run -/

/-- What happens after the last turn: the run is said to be complete, unless it
    ended in a fault. -/
def closing (u : Undertaking τ δ plan result) (processed failed : Nat) (fault : Option Fault) :
    List (Happening δ plan result) :=
  if fault.isNone then [.completeRecord u processed failed] else []

section Runs

variable {u : Undertaking τ δ plan result}

/-- A run that has begun, from any point where the next discovery is sought. -/
theorem exists_turns (hu : u.Ordinary) (ds : List δ) :
    ∀ (r : Run) (fuel : Nat) (acc : List (RunEvent plan result)) (D : Diary) (t : τ), u.Owns r →
      2 * ds.length + 1 ≤ fuel → ∃ turns fault w,
        (u.taking fuel (.seeking r (.opened ds)) acc).runOn D t =
          (.ok ⟨acc.reverse ++ turns.flatMap Turn.events, fault⟩, w) ∧
        Lawful u ds turns fault ∧
        Timeline u (turns.flatMap (Turn.happenings u) ++
          closing u (r.processed + wellCount turns) (r.failed + failedCount turns) fault)
          (D, t) w := by
  -- Over the discoveries that are left; each turn takes at most two steps.
  induction ds with
  | nil =>
    intro r fuel acc D t hr hfuel
    obtain ⟨fuel, rfl⟩ : ∃ k, fuel = k + 1 := ⟨fuel - 1, by simp at hfuel; omega⟩
    refine ⟨[], none, (D.logged logger "debug" "capexec.run_complete"
      [("run_id", r.id), ("processed", .int r.processed), ("failed", .int r.failed)], t),
      ?_, .nil, ?_⟩
    · rw [Undertaking.taking, Source.runOn_takeWith_succ, List.flatMap_nil, List.append_nil]
      rfl
    · rw [hr.1]
      exact .single (.logs _ _ _ _ _ _)
  | cons d ds ih =>
    intro r fuel acc D t hr hfuel
    obtain ⟨fuel, rfl⟩ : ∃ k, fuel = k + 2 := ⟨fuel - 2, by simp at hfuel; omega⟩
    obtain ⟨x, w, rfl, hfits, htime, hgoes⟩ := exists_turn hr hu d ds acc fuel D t
    rcases hgoes with ⟨hgoes, more, hmore, hout⟩ | ⟨habort, f, hfault, hout⟩
    · obtain ⟨turns, fault, w', hrun, hlawful, hrest⟩ :=
        ih (r.after x) more (x.events.reverse ++ acc) w.1 w.2 (hr.after x)
          (by rw [List.length_cons] at hfuel; omega)
      refine ⟨x :: turns, fault, w', ?_, hlawful.cons hfits hgoes, ?_⟩
      · rw [hout, hrun]
        simp only [List.reverse_append, List.reverse_reverse, List.flatMap_cons, List.append_assoc]
      · -- The counters after this turn and those of the turns to come.
        have hcounts : (r.after x).processed + wellCount turns =
            r.processed + wellCount (x :: turns) ∧
            (r.after x).failed + failedCount turns = r.failed + failedCount (x :: turns) := by
          unfold Run.after wellCount failedCount
          cases hx : x.failed <;> simp [hx] <;> omega
        rw [hcounts.1, hcounts.2] at hrest
        rw [List.flatMap_cons, List.append_assoc]
        exact htime.append hrest
    · refine ⟨[x], some f, w, ?_, .last hfits hfault habort, ?_⟩
      · rw [hout, List.flatMap_singleton]
      · rw [List.flatMap_singleton]
        show Timeline u (x.happenings u ++ []) (D, t) w
        rwa [List.append_nil]

/-- Of the happenings of the turns, as many are records about a fault as there
    are turns in which a call failed. -/
theorem countP_isErrorRecord_turns (turns : List (Turn δ plan result)) :
    (turns.flatMap (Turn.happenings u)).countP Happening.isErrorRecord = failedCount turns := by
  induction turns with
  | nil => rfl
  | cons x turns ih =>
    rw [List.flatMap_cons, List.countP_append, x.countP_isErrorRecord, ih, failedCount, failedCount,
      List.countP_cons, Nat.add_comm]

/-- Each turn goes well, or a call fails in it. -/
theorem wellCount_add_failedCount (turns : List (Turn δ plan result)) :
    wellCount turns + failedCount turns = turns.length := by
  induction turns with
  | nil => rfl
  | cons x turns ih =>
    rw [wellCount, failedCount] at ih ⊢
    rw [List.countP_cons, List.countP_cons, List.length_cons]
    cases x.failed <;> simp <;> omega

end Runs

/-- A run whose state counts the calls of the adapter, with the policy to skip:
    a discovery without a name cannot be prepared, and the plan of call 3 cannot
    be executed.  The consumer logs nothing and changes nothing. -/
def counting : Undertaking Nat String String Nat where
  settings := { onError := .str "skip", nameOf := .str }
  adapter := {
    kind := "counting"
    prepare := fun d _ => Act.ofRun fun D n =>
      (if d.isEmpty then .error (.plain .value "no name") else .ok d, D, n + 1)
    execute := fun _ => Act.ofRun fun D n =>
      (if n = 3 then .error (.plain .runtime "no luck") else .ok n, D, n + 1) }
  mode := .build
  policy := .skip
  id := Act.idText 12 1
  see := fun _ D n => (D, n)

theorem counting_ordinary : counting.Ordinary where
  prepare := by
    intro d D n f hfault
    change (if d.isEmpty then Except.error (Fault.plain .value "no name") else .ok d) = _ at hfault
    split at hfault
    · cases hfault
      rfl
    · cases hfault
  execute := by
    intro p D n f hfault
    change (if n = 3 then Except.error (Fault.plain .runtime "no luck") else .ok n) = _ at hfault
    split at hfault
    · cases hfault
      rfl
    · cases hfault

end Orchestrator

end SinkPipeline
