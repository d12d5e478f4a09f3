import SinkPipeline.Proofs.Orchestration

/-! # The laziness of a run

  A consumer **pulls** one event after the other out of a run, and may stop
  after any of them.  Nothing is done before it is asked for: the world after
  so many events is the same, whether the consumer goes on or not.

  The supplier and the adapter are any actions.  The adapter may set, bind or
  clear the log context, and may end in any fault, also in one that nobody
  handles; only the supplier is to leave the log context alone.

  - `exists_step`: what one step does, with one case for each kind of cursor.
  - `exists_pull`: what one pull does, by induction over its steps.
  - `exists_pulls`: the pulls of a run, and those of a run that is cut short.
-/

namespace SinkPipeline

namespace Orchestrator

variable {τ δ plan result γ : Type}

/-! ### What is done in a pull -/

/-- The supplier leaves the log context as it is, however a step of it ends. -/
def LeavesContext (discoveries : Source τ γ δ) : Prop :=
  ∀ c D t, ((discoveries.step c).runOn D t).2.1.context = D.context

/-- One thing that is done in a pull. -/
inductive Moment (δ plan result γ : Type) where
  /-- The run is given its id. -/
  | begins
  /-- The supplier is asked to go on from a cursor, and that is how it ends. -/
  | asks (c : γ) (r : Except Fault (Poll γ δ))
  /-- The adapter is called, or a record is logged. -/
  | works (h : Happening δ plan result)

/-- The plan that is executed, and the discovery that it is for. -/
def Moment.executed? : Moment δ plan result γ → Option (δ × plan)
  | .works (.execute d p _) => some (d, p)
  | _ => none

/-- The plans that are executed, in order. -/
def executions (ms : List (Moment δ plan result γ)) : List (δ × plan) :=
  ms.filterMap Moment.executed?

/-- What a moment does to the world. -/
inductive Moment.Leads (u : Undertaking τ δ plan result) (discoveries : Source τ γ δ) :
    Moment δ plan result γ → Diary × τ → Diary × τ → Prop where
  | begins (D : Diary) (t : τ) :
      Leads u discoveries .begins (D, t) ({ D with runs := D.runs + 1 }, t)
  | asks {c : γ} {r : Except Fault (Poll γ δ)} {D D' : Diary} {t t' : τ}
      (hrun : (discoveries.step c).runOn D t = (r, D', t')) :
      Leads u discoveries (.asks c r) (D, t) (D', t')
  | prepare {d : δ} {r : Except Fault plan} {w w' : Diary × τ}
      (h : Happening.Leads u (.prepare d r) w w') :
      Leads u discoveries (.works (.prepare d r)) w w'
  | execute {d : δ} {p : plan} {r : Except Fault result} {w w' : Diary × τ}
      (h : Happening.Leads u (.execute d p r) w w') :
      Leads u discoveries (.works (.execute d p r)) w w'
  | logs {logger level event : String} {fields : Fields} {w w' : Diary × τ}
      (h : Happening.Leads u (.logs logger level event fields) w w') :
      Leads u discoveries (.works (.logs logger level event fields)) w w'

/-- **A spell**: these things are done one after the other, and nothing else. -/
inductive Spell (u : Undertaking τ δ plan result) (discoveries : Source τ γ δ) :
    List (Moment δ plan result γ) → Diary × τ → Diary × τ → Prop where
  | nil (w : Diary × τ) : Spell u discoveries [] w w
  | cons {m : Moment δ plan result γ} {ms : List (Moment δ plan result γ)} {w w' w'' : Diary × τ}
      (first : m.Leads u discoveries w w') (rest : Spell u discoveries ms w' w'') :
      Spell u discoveries (m :: ms) w w''

/-- A pull that gives an event. -/
structure Pull (δ plan result γ : Type) where
  /-- What is done in it. -/
  moments : List (Moment δ plan result γ)
  /-- The event that it gives. -/
  event : RunEvent plan result

/-- **The pulls of a consumer**, which does what it does with each event before it
    asks for the next.  When the consumer gets an event, the log context is the one
    in which it asked for it. -/
inductive Pulls (u : Undertaking τ δ plan result) (discoveries : Source τ γ δ) :
    List (Pull δ plan result γ) → Diary × τ → Diary × τ → Prop where
  | nil (w : Diary × τ) : Pulls u discoveries [] w w
  | cons {x : Pull δ plan result γ} {xs : List (Pull δ plan result γ)} {w w' w'' : Diary × τ}
      (spell : Spell u discoveries x.moments w w') (context : w'.1.context = w.1.context)
      (rest : Pulls u discoveries xs (u.see x.event w'.1 w'.2) w'') :
      Pulls u discoveries (x :: xs) w w''

/-- How the last pull ends. -/
inductive Ending where
  /-- There are no more events. -/
  | finished
  /-- There is a fault. -/
  | failed (f : Fault)
  /-- There were too few steps to come to an event. -/
  | unfinished

/-- The fault that a consumer gets at the end. -/
def Ending.fault? : Ending → Option Fault
  | .finished => none
  | .failed f => some f
  | .unfinished => some (.plain .runtime "the source did not end in time")

/-- **Nothing is executed before it is asked for.**  Plans are executed in a pull
    only if the event of the pull before was that a plan was prepared: then it is
    that one plan, for the discovery for which it was prepared. -/
def Follows (before : Option (Pull δ plan result γ)) (ms : List (Moment δ plan result γ)) : Prop :=
  executions ms = [] ∨ ∃ x d p, before = some x ∧ x.event = .prepared p ∧
    .works (.prepare d (.ok p)) ∈ x.moments ∧ executions ms = [(d, p)]

/-- Each pull follows on the one before it, the last one too. -/
def HoldsBack (last : List (Moment δ plan result γ)) :
    Option (Pull δ plan result γ) → List (Pull δ plan result γ) → Prop
  | before, [] => Follows before last
  | before, x :: xs => Follows before x.moments ∧ HoldsBack last (some x) xs

section Spells

variable {u : Undertaking τ δ plan result} {discoveries : Source τ γ δ}
  {ms ms' : List (Moment δ plan result γ)} {m : Moment δ plan result γ} {w w' w'' : Diary × τ}
  {D : Diary} {t : τ}

theorem Spell.append (h : Spell u discoveries ms w w') (h' : Spell u discoveries ms' w' w'') :
    Spell u discoveries (ms ++ ms') w w'' := by
  induction h with
  | nil _ => exact h'
  | cons first _ ih => exact .cons first (ih h')

theorem Spell.single (first : m.Leads u discoveries w w') : Spell u discoveries [m] w w' :=
  .cons first (.nil w')

/-- A record is logged after a spell. -/
theorem Spell.logged (h : Spell u discoveries ms w (D, t)) (logger level event : String)
    (fields : Fields) :
    Spell u discoveries (ms ++ [.works (.logs logger level event fields)]) w
      (D.logged logger level event fields, t) :=
  h.append (.single (.logs (.logs logger level event fields D t)))

theorem executions_append (ms ms' : List (Moment δ plan result γ)) :
    executions (ms ++ ms') = executions ms ++ executions ms' := List.filterMap_append

@[simp] theorem executions_logged (ms : List (Moment δ plan result γ)) (logger level event : String)
    (fields : Fields) :
    executions (ms ++ [.works (.logs logger level event fields)]) = executions ms :=
  (executions_append _ _).trans (List.append_nil _)

@[simp] theorem executions_prepared (ms : List (Moment δ plan result γ)) (d : δ)
    (q : Except Fault plan) : executions (ms ++ [.works (.prepare d q)]) = executions ms :=
  (executions_append _ _).trans (List.append_nil _)

end Spells

/-! ### The log context -/

section Context

variable (s : Settings δ) (a : OutputAdapter τ δ plan result) {discoveries : Source τ γ δ}

theorem context_onFault {ε : Type} (kind : String) (name : Json) (r : Run) (rest : γ) (f : Fault)
    (D : Diary) (t : τ) :
    ((onFault s kind name r rest f : Act τ (Poll (Cursor δ plan γ) ε)).runOn D t).2.1.context =
      D.context := by
  unfold onFault
  split
  · rw [Act.runOn_bind, report, Act.runOn_log]
    cases r.policy <;> rfl
  · rfl

theorem context_prepareStep (r : Run) (d : δ) (rest : γ) (D : Diary) (t : τ) :
    ((prepareStep s a r d rest).runOn D t).2.1.context = D.context := by
  rw [prepareStep, Act.runOn_bind, Act.runOn_withContext]
  cases ((a.prepare d r.mode).runOn (D.entered (workContext r (s.nameOf d) "prepare")) t).1 with
  | error f => exact context_onFault s _ _ r rest f _ _
  | ok p =>
    dsimp only
    rw [Act.runOn_bind, Act.runOn_log]
    cases s.run <;> rfl

theorem context_executeStep (r : Run) (d : δ) (p : plan) (rest : γ) (D : Diary) (t : τ) :
    ((executeStep s a r d p rest).runOn D t).2.1.context = D.context := by
  rw [executeStep, Act.runOn_bind, Act.runOn_withContext]
  generalize Act.runOn _ (D.entered (workContext r (s.nameOf d) "execute")) t = out
  obtain ⟨q, D', t'⟩ := out
  cases q with
  | error f => exact context_onFault s _ _ r rest f _ _
  | ok v => rfl

/-- **A step leaves the log context as it is**, whatever the adapter does to it and
    however the step ends. -/
theorem context_step (hleaves : LeavesContext discoveries) (c : Cursor δ plan γ) (D : Diary)
    (t : τ) :
    (((events s a discoveries).step c).runOn D t).2.1.context = D.context := by
  cases c with
  | unstarted rest =>
    show ((start s >>= fun r => pure (Poll.skip (Cursor.seeking r rest))).runOn D t).2.1.context = _
    unfold start
    simp only [Act.runOn_bind, Act.runOn_ofExcept]
    cases Policy.ofValue s.onError with
    | error f => rfl
    | ok policy => cases Mode.ofValue s.mode <;> rfl
  | holding r d p rest => exact context_executeStep s a r d p rest D t
  | seeking r rest =>
    have hasked := hleaves rest D t
    rcases hask : (discoveries.step rest).runOn D t with ⟨q, D', t'⟩
    rw [hask] at hasked
    show ((discoveries.step rest >>= _).runOn D t).2.1.context = D.context
    rw [Act.runOn_bind, hask]
    cases q with
    | error f => exact hasked
    | ok x =>
      cases x with
      | skip next => exact hasked
      | item d next => exact (context_prepareStep s a r d next D' t').trans hasked
      | done => exact hasked

/-- **A pull leaves the log context as it is**, by induction over its steps. -/
theorem context_pull (hleaves : LeavesContext discoveries) (fuel : Nat) (c : Cursor δ plan γ)
    (D : Diary) (t : τ) :
    (((events s a discoveries).pull fuel c).runOn D t).2.1.context = D.context := by
  induction fuel generalizing c D t with
  | zero => rfl
  | succ fuel ih =>
    have hstep := context_step s a hleaves c D t
    rcases hrun : ((events s a discoveries).step c).runOn D t with ⟨q, D', t'⟩
    rw [hrun] at hstep
    rw [Source.pull, Act.runOn_bind, hrun]
    cases q with
    | error f => exact hstep
    | ok x =>
      cases x with
      | item e next => exact hstep
      | skip next => exact (ih next D' t').trans hstep
      | done => exact hstep

end Context

/-! ### One step -/

/-- The plan that a cursor holds, and the discovery that it is for. -/
def Cursor.held? : Cursor δ plan γ → Option (δ × plan)
  | .holding _ d p _ => some (d, p)
  | _ => none

/-- The cursor belongs to the undertaking. -/
def Undertaking.Fits (u : Undertaking τ δ plan result) (D : Diary) : Cursor δ plan γ → Prop
  | .unstarted _ => u.id = Act.idText 12 (D.runs + 1)
  | .seeking r _ | .holding r _ _ _ => u.Owns r

/-- The cursor belongs to a run of the undertaking that has begun. -/
def Undertaking.Begun (u : Undertaking τ δ plan result) (c : Cursor δ plan γ) : Prop :=
  ∀ D, u.Fits D c

/-- What is held when an event is given is the plan that the event is about. -/
def Holds (ms : List (Moment δ plan result γ)) (e : RunEvent plan result) (c : Cursor δ plan γ) :
    Prop :=
  c.held? = none ∨
    ∃ d p, c.held? = some (d, p) ∧ e = .prepared p ∧ .works (.prepare d (.ok p)) ∈ ms

/-- **What one step does.** -/
structure Steps (u : Undertaking τ δ plan result) (discoveries : Source τ γ δ) (c : Cursor δ plan γ)
    (w : Diary × τ) (ms : List (Moment δ plan result γ))
    (r : Except Fault (Poll (Cursor δ plan γ) (RunEvent plan result))) (w' : Diary × τ) : Prop where
  /-- This is how the step ends. -/
  run : ((events u.settings u.adapter discoveries).step c).runOn w.1 w.2 = (r, w')
  /-- These things are done in it. -/
  spell : Spell u discoveries ms w w'
  /-- If a plan is held, it is executed. -/
  executions : executions ms = c.held?.toList
  /-- A step that gives no event holds nothing. -/
  skip : ∀ c', r = .ok (.skip c') → u.Begun c' ∧ c'.held? = none
  /-- A step that gives an event holds the plan that the event is about, if any. -/
  item : ∀ e c', r = .ok (.item e c') → u.Begun c' ∧ Holds ms e c'

section OneStep

variable {u : Undertaking τ δ plan result} {discoveries : Source τ γ δ} {c : Cursor δ plan γ}
  {r : Run} {d : δ} {p : plan} {D D' : Diary} {t t' : τ} {w w' : Diary × τ}
  {ms : List (Moment δ plan result γ)} {rest : γ}

theorem Holds.append {e : RunEvent plan result} (h : Holds ms e c)
    (before : List (Moment δ plan result γ)) : Holds (before ++ ms) e c := by
  rcases h with hnone | ⟨d, p, hheld, he, hmem⟩
  · exact .inl hnone
  · exact .inr ⟨d, p, hheld, he, List.mem_append_right _ hmem⟩

theorem Undertaking.Owns.begun_seeking (hr : u.Owns r) (rest : γ) :
    u.Begun (.seeking r rest : Cursor δ plan γ) := fun _ => hr

/-- A step that ends the run, with a fault or without one. -/
theorem steps_of_end {q : Except Fault (Poll (Cursor δ plan γ) (RunEvent plan result))}
    (hrun : ((events u.settings u.adapter discoveries).step c).runOn w.1 w.2 = (q, w'))
    (hspell : Spell u discoveries ms w w') (hexecuted : executions ms = c.held?.toList)
    (hq : q = .ok .done ∨ ∃ f, q = .error f) : Steps u discoveries c w ms q w' := by
  refine ⟨hrun, hspell, hexecuted, ?_, ?_⟩
  · rintro c' rfl
    obtain h | ⟨f, h⟩ := hq <;> cases h
  · rintro e c' rfl
    obtain h | ⟨f, h⟩ := hq <;> cases h

/-- A step that gives no event. -/
theorem steps_of_skip {c' : Cursor δ plan γ}
    (hrun : ((events u.settings u.adapter discoveries).step c).runOn w.1 w.2 = (.ok (.skip c'), w'))
    (hspell : Spell u discoveries ms w w') (hexecuted : executions ms = c.held?.toList)
    (hbegun : u.Begun c') (hnone : c'.held? = none) :
    Steps u discoveries c w ms (.ok (.skip c')) w' := by
  refine ⟨hrun, hspell, hexecuted, ?_, ?_⟩
  · intro next hnext
    cases hnext
    exact ⟨hbegun, hnone⟩
  · intro e next hnext
    cases hnext

/-- A step that gives an event. -/
theorem steps_of_item {e : RunEvent plan result} {c' : Cursor δ plan γ}
    (hrun : ((events u.settings u.adapter discoveries).step c).runOn w.1 w.2 =
      (.ok (.item e c'), w'))
    (hspell : Spell u discoveries ms w w') (hexecuted : executions ms = c.held?.toList)
    (hbegun : u.Begun c') (hholds : Holds ms e c') :
    Steps u discoveries c w ms (.ok (.item e c')) w' := by
  refine ⟨hrun, hspell, hexecuted, ?_, ?_⟩
  · intro next hnext
    cases hnext
  · intro e' next hnext
    cases hnext
    exact ⟨hbegun, hholds⟩

/-- **A fault of the adapter** is logged if it is an ordinary one.  It ends the run,
    or the run goes on. -/
theorem steps_of_fault {f : Fault} (hr : u.Owns r)
    (hstep : ((events u.settings u.adapter discoveries).step c).runOn w.1 w.2 =
      (onFault u.settings u.adapter.kind (u.settings.nameOf d) r rest f).runOn D' t')
    (hspell : Spell u discoveries ms w (D', t')) (hexecuted : executions ms = c.held?.toList) :
    ∃ ms r w', Steps u discoveries c w ms r w' := by
  by_cases hordinary : f.isOrdinary = true
  · have hlogged : Spell u discoveries (ms ++ [.works (.errorRecord u d f)]) w
        (D'.logged u.settings.logger "error" "capexec.error"
          [("kind", .str u.adapter.kind), ("name", u.settings.nameOf d), ("error", .str f.message),
            ("error_type", .str f.word)], t') := hspell.logged _ _ _ _
    have hsame : executions (ms ++ [.works (.errorRecord u d f)]) = c.held?.toList :=
      (executions_logged ms _ _ _ _).trans hexecuted
    rw [runOn_onFault rest hr hordinary] at hstep
    -- The policy says whether the next discovery is sought.
    cases hpolicy : u.policy with
    | abort =>
      rw [hpolicy] at hstep
      exact ⟨_, _, _, steps_of_end hstep hlogged hsame (.inr ⟨f, rfl⟩)⟩
    | skip =>
      rw [hpolicy] at hstep
      have hgoes : u.Owns { r with failed := r.failed + 1 } := hr
      exact ⟨_, _, _, steps_of_skip hstep hlogged hsame (hgoes.begun_seeking rest) rfl⟩
  · -- A cancellation goes past everything.
    have hfail : ((events u.settings u.adapter discoveries).step c).runOn w.1 w.2 =
        (.error f, D', t') := by
      rw [hstep, onFault, if_neg hordinary]
      rfl
    exact ⟨ms, _, _, steps_of_end hfail hspell hexecuted (.inr ⟨f, rfl⟩)⟩

/-- A step that prepares a discovery. -/
theorem steps_of_prepare (hr : u.Owns r)
    (hstep : ((events u.settings u.adapter discoveries).step c).runOn w.1 w.2 =
      (prepareStep u.settings u.adapter r d rest).runOn D t)
    (hspell : Spell u discoveries ms w (D, t)) (hexecuted : executions ms = [])
    (hheld : c.held? = none) :
    ∃ ms r w', Steps u discoveries c w ms r w' := by
  rcases hprepare : (u.adapter.prepare d u.mode).runOn
    (D.entered (Happening.workFields u d "prepare")) t with ⟨q, D', t'⟩
  have hcall : Spell u discoveries (ms ++ [.works (.prepare d q)]) w (D'.left D, t') :=
    hspell.append (.single (.prepare (.prepare hprepare)))
  have hnone : executions (ms ++ [.works (.prepare d q)]) = c.held?.toList := by
    rw [executions_prepared, hexecuted, hheld]
    rfl
  cases q with
  | error f =>
    rw [runOn_prepareStep_error rest hr hprepare] at hstep
    exact steps_of_fault hr hstep hcall hnone
  | ok p =>
    rw [runOn_prepareStep_ok rest hr hprepare] at hstep
    have hlogged := hcall.logged u.settings.logger "debug" "capexec.prepared"
      [("kind", .str u.adapter.kind), ("name", u.settings.nameOf d), ("mode", .str u.mode.word)]
    have hsame : executions
        ((ms ++ [.works (.prepare d (.ok p))]) ++ [.works (.preparedRecord u d)]) =
          c.held?.toList := (executions_logged _ _ _ _ _).trans hnone
    have hmem : Moment.works (.prepare d (.ok p)) ∈
        (ms ++ [.works (.prepare d (.ok p))]) ++ [.works (.preparedRecord u d)] := by simp
    -- The plan is held if it is to be executed.
    cases hexecutes : u.settings.run with
    | true =>
      rw [hexecutes] at hstep
      exact ⟨_, _, _, steps_of_item hstep hlogged hsame (fun _ => hr) (.inr ⟨d, p, rfl, rfl, hmem⟩)⟩
    | false =>
      rw [hexecutes] at hstep
      exact ⟨_, _, _, steps_of_item hstep hlogged hsame (fun _ => hr) (.inl rfl)⟩

/-- A step that seeks the next discovery. -/
theorem exists_step_seeking (hr : u.Owns r) (rest : γ) (D : Diary) (t : τ) :
    ∃ ms q w', Steps u discoveries (.seeking r rest : Cursor δ plan γ) (D, t) ms q w' := by
  rcases hask : (discoveries.step rest).runOn D t with ⟨q, D', t'⟩
  have hspell : Spell u discoveries [.asks rest q] (D, t) (D', t') := .single (.asks hask)
  -- The answer of the discoveries decides how the step goes on.
  cases q with
  | error f =>
    have hstep : ((events u.settings u.adapter discoveries).step (.seeking r rest)).runOn D t =
        (.error f, D', t') := by
      show (discoveries.step rest >>= _).runOn D t = _
      rw [Act.runOn_bind, hask]
    exact ⟨_, _, _, steps_of_end hstep hspell rfl (.inr ⟨f, rfl⟩)⟩
  | ok x =>
    cases x with
    | skip next =>
      have hstep : ((events u.settings u.adapter discoveries).step (.seeking r rest)).runOn D t =
          (.ok (.skip (.seeking r next)), D', t') := by
        show (discoveries.step rest >>= _).runOn D t = _
        rw [Act.runOn_bind, hask]
        rfl
      exact ⟨_, _, _, steps_of_skip hstep hspell rfl (hr.begun_seeking next) rfl⟩
    | item d next =>
      have hstep : ((events u.settings u.adapter discoveries).step (.seeking r rest)).runOn D t =
          (prepareStep u.settings u.adapter r d next).runOn D' t' := by
        show (discoveries.step rest >>= _).runOn D t = _
        rw [Act.runOn_bind, hask]
      exact steps_of_prepare hr hstep hspell rfl rfl
    | done =>
      have hstep : ((events u.settings u.adapter discoveries).step (.seeking r rest)).runOn D t =
          (.ok .done, D'.logged logger "debug" "capexec.run_complete"
            [("run_id", r.id), ("processed", .int r.processed), ("failed", .int r.failed)],
            t') := by
        show (discoveries.step rest >>= _).runOn D t = _
        rw [Act.runOn_bind, hask]
        rfl
      have hlogged := hspell.logged logger "debug" "capexec.run_complete"
        [("run_id", r.id), ("processed", .int r.processed), ("failed", .int r.failed)]
      exact ⟨_, _, _, steps_of_end hstep hlogged rfl (.inl rfl)⟩

/-- A step that executes the plan that is held. -/
theorem exists_step_holding (hr : u.Owns r) (d : δ) (p : plan) (rest : γ) (D : Diary) (t : τ) :
    ∃ ms q w', Steps u discoveries (.holding r d p rest) (D, t) ms q w' := by
  have hunfold : ((events u.settings u.adapter discoveries).step (.holding r d p rest)).runOn D t =
      (executeStep u.settings u.adapter r d p rest).runOn D t := rfl
  rcases hexecute : (u.adapter.execute p).runOn
    ((D.entered (Happening.workFields u d "execute")).timing (.str "capexec.execute")) t with
    ⟨q, D', t'⟩
  have hcall : Spell u discoveries [.works (.execute d p q)] (D, t)
      ((D'.timed D.timers.length).left D, t') := .single (.execute (.execute hexecute))
  cases q with
  | error f =>
    rw [runOn_executeStep_error rest hr hexecute] at hunfold
    exact steps_of_fault hr hunfold hcall rfl
  | ok v =>
    obtain ⟨elapsed, hstep⟩ := runOn_executeStep_ok rest hr hexecute
    have hlogged := hcall.logged u.settings.logger "info" "capexec.executed"
      [("kind", .str u.adapter.kind), ("name", u.settings.nameOf d),
        ("elapsed_ms", .float elapsed)]
    exact ⟨_, _, _, steps_of_item (hunfold.trans hstep) hlogged rfl (fun _ => hr) (.inl rfl)⟩

/-- **What one step does**, from any cursor of the undertaking. -/
theorem exists_step (hmode : Mode.ofValue u.settings.mode = .ok u.mode)
    (hpolicy : Policy.ofValue u.settings.onError = .ok u.policy) (c : Cursor δ plan γ) (D : Diary)
    (t : τ) (hc : u.Fits D c) : ∃ ms r w', Steps u discoveries c (D, t) ms r w' := by
  cases c with
  | unstarted rest =>
    have hid : u.id = Act.idText 12 (D.runs + 1) := hc
    have hstep : ((events u.settings u.adapter discoveries).step (.unstarted rest)).runOn D t =
        (.ok (.skip (.seeking { id := u.id, mode := u.mode, policy := u.policy } rest)),
          { D with runs := D.runs + 1 }, t) := by
      show (start u.settings >>= fun r => pure (Poll.skip (Cursor.seeking r _))).runOn D t = _
      simp only [start, hmode, hpolicy, Act.runOn_bind, Act.runOn_ofExcept, Act.runOn_newRunId,
        Act.runOn_pure, ← hid]
    exact ⟨_, _, _, steps_of_skip hstep (.single (.begins D t)) rfl (fun _ => ⟨rfl, rfl, rfl⟩) rfl⟩
  | seeking r rest => exact exists_step_seeking hc rest D t
  | holding r d p rest => exact exists_step_holding hc d p rest D t

end OneStep

/-! ### One pull -/

/-- What a consumer takes of a run, in at most so many steps: all events, or only the
    first ones. -/
def Undertaking.collects (u : Undertaking τ δ plan result) (discoveries : Source τ γ δ) (fuel : Nat)
    (limit : Option Nat) (c : Cursor δ plan γ) (acc : List (RunEvent plan result)) :
    Act τ (Source.Taken (RunEvent plan result)) :=
  (events u.settings u.adapter discoveries).takeWith u.consume fuel limit c acc

/-- A consumer that wants more gets the event, and goes on from the cursor `c'`. -/
def Undertaking.Gives (u : Undertaking τ δ plan result) (discoveries : Source τ γ δ) (fuel : Nat)
    (c : Cursor δ plan γ) (w : Diary × τ) (e : RunEvent plan result) (fuel' : Nat)
    (c' : Cursor δ plan γ) (w' : Diary × τ) : Prop :=
  ∀ extra limit acc, limit ≠ some 0 →
    (u.collects discoveries (fuel + extra) limit c acc).runOn w.1 w.2 =
      (u.collects discoveries (fuel' + extra) (limit.map (· - 1)) c' (e :: acc)).runOn
        (u.see e w'.1 w'.2).1 (u.see e w'.1 w'.2).2

/-- A consumer that wants more gets none, and the run ends. -/
def Undertaking.Stops (u : Undertaking τ δ plan result) (discoveries : Source τ γ δ) (fuel : Nat)
    (c : Cursor δ plan γ) (w : Diary × τ) (ending : Ending) (w' : Diary × τ) : Prop :=
  ∀ limit acc, limit ≠ some 0 →
    (u.collects discoveries fuel limit c acc).runOn w.1 w.2 = (.ok ⟨acc.reverse, ending.fault?⟩, w')

section Pulling

variable {u : Undertaking τ δ plan result} {discoveries : Source τ γ δ}

section Wanting

variable {fuel fuel' : Nat} {c c' next : Cursor δ plan γ} {w w' w'' : Diary × τ}
  {e : RunEvent plan result} {ending : Ending}

/-- A step that gives an event gives it to a consumer that wants more. -/
theorem gives_of_item
    (hrun : ((events u.settings u.adapter discoveries).step c).runOn w.1 w.2 =
      (.ok (.item e c'), w')) :
    u.Gives discoveries (fuel + 1) c w e fuel c' w' := by
  intro extra limit acc hlimit
  unfold Undertaking.collects
  rw [Nat.succ_add, Source.runOn_takeWith_limit _ _ _ hlimit, hrun]
  rfl

/-- A step that fails stops a consumer that wants more. -/
theorem stops_of_error {f : Fault}
    (hrun : ((events u.settings u.adapter discoveries).step c).runOn w.1 w.2 = (.error f, w')) :
    u.Stops discoveries (fuel + 1) c w (.failed f) w' := by
  intro limit acc hlimit
  unfold Undertaking.collects
  rw [Source.runOn_takeWith_limit _ _ _ hlimit, hrun]
  rfl

/-- A step after which there are no more events does too. -/
theorem stops_of_done
    (hrun : ((events u.settings u.adapter discoveries).step c).runOn w.1 w.2 = (.ok .done, w')) :
    u.Stops discoveries (fuel + 1) c w .finished w' := by
  intro limit acc hlimit
  unfold Undertaking.collects
  rw [Source.runOn_takeWith_limit _ _ _ hlimit, hrun]
  rfl

/-- A consumer that wants more goes on after a step that gives no event. -/
theorem collects_of_skip (extra : Nat) {limit : Option Nat} (acc : List (RunEvent plan result))
    (hrun : ((events u.settings u.adapter discoveries).step c).runOn w.1 w.2 = (.ok (.skip c'), w'))
    (hlimit : limit ≠ some 0) :
    (u.collects discoveries (fuel + 1 + extra) limit c acc).runOn w.1 w.2 =
      (u.collects discoveries (fuel + extra) limit c' acc).runOn w'.1 w'.2 := by
  unfold Undertaking.collects
  rw [Nat.succ_add, Source.runOn_takeWith_limit _ _ _ hlimit, hrun]

theorem Undertaking.Gives.of_skip (h : u.Gives discoveries fuel c' w' e fuel' next w'')
    (hrun : ((events u.settings u.adapter discoveries).step c).runOn w.1 w.2 =
      (.ok (.skip c'), w')) :
    u.Gives discoveries (fuel + 1) c w e fuel' next w'' := by
  intro extra limit acc hlimit
  exact (collects_of_skip extra acc hrun hlimit).trans (h extra limit acc hlimit)

theorem Undertaking.Stops.of_skip (h : u.Stops discoveries fuel c' w' ending w'')
    (hrun : ((events u.settings u.adapter discoveries).step c).runOn w.1 w.2 =
      (.ok (.skip c'), w')) :
    u.Stops discoveries (fuel + 1) c w ending w'' := by
  intro limit acc hlimit
  exact (collects_of_skip 0 acc hrun hlimit).trans (h limit acc hlimit)

end Wanting

/-- **What one pull does.**  The induction is on the steps that may be made: steps
    that give nothing are followed by the rest of the pull. -/
theorem exists_pull (hmode : Mode.ofValue u.settings.mode = .ok u.mode)
    (hpolicy : Policy.ofValue u.settings.onError = .ok u.policy)
    (hleaves : LeavesContext discoveries) (fuel : Nat) (c : Cursor δ plan γ) (D : Diary) (t : τ)
    (hc : u.Fits D c) :
    ∃ ms w', Spell u discoveries ms (D, t) w' ∧ w'.1.context = D.context ∧
      (executions ms = [] ∨ executions ms = c.held?.toList) ∧
      ((∃ e fuel' c', fuel' < fuel ∧ u.Begun c' ∧ Holds ms e c' ∧
          u.Gives discoveries fuel c (D, t) e fuel' c' w') ∨
        ∃ ending, u.Stops discoveries fuel c (D, t) ending w') := by
  induction fuel generalizing c D t with
  | zero =>
    refine ⟨[], (D, t), .nil _, rfl, .inl rfl, .inr ⟨.unfinished, ?_⟩⟩
    intro limit acc _
    rfl
  | succ fuel ih =>
    obtain ⟨ms, r, w', hstep⟩ := exists_step hmode hpolicy c D t hc
    have hrun : ((events u.settings u.adapter discoveries).step c).runOn D t = (r, w') := hstep.run
    have hcontext : w'.1.context = D.context := by
      have hsame := context_step u.settings u.adapter hleaves c D t
      rw [hrun] at hsame
      exact hsame
    cases r with
    | error f =>
      have hstops : u.Stops discoveries (fuel + 1) c (D, t) (.failed f) w' := stops_of_error hrun
      exact ⟨ms, w', hstep.spell, hcontext, .inr hstep.executions, .inr ⟨_, hstops⟩⟩
    | ok x =>
      cases x with
      | done =>
        have hstops : u.Stops discoveries (fuel + 1) c (D, t) .finished w' := stops_of_done hrun
        exact ⟨ms, w', hstep.spell, hcontext, .inr hstep.executions, .inr ⟨_, hstops⟩⟩
      | item e c' =>
        obtain ⟨hbegun, hholds⟩ := hstep.item e c' rfl
        exact ⟨ms, w', hstep.spell, hcontext, .inr hstep.executions,
          .inl ⟨e, fuel, c', Nat.lt_succ_self fuel, hbegun, hholds, gives_of_item hrun⟩⟩
      | skip c' =>
        obtain ⟨hbegun, hnone⟩ := hstep.skip c' rfl
        obtain ⟨ms', w'', hspell, hcontext', hexecuted, hends⟩ := ih c' w'.1 w'.2 (hbegun _)
        -- Nothing is held any more, so the rest of the pull executes nothing.
        have hrest : executions ms' = [] := by
          rcases hexecuted with h | h
          · exact h
          · rw [h, hnone]
            rfl
        have hall : executions (ms ++ ms') = c.held?.toList := by
          rw [executions_append, hstep.executions, hrest, List.append_nil]
        refine ⟨ms ++ ms', w'', hstep.spell.append hspell, hcontext'.trans hcontext, .inr hall, ?_⟩
        rcases hends with ⟨e, fuel', next, hless, hbegun', hholds, hgives⟩ | ⟨ending, hstops⟩
        · exact .inl ⟨e, fuel', next, Nat.lt_succ_of_lt hless, hbegun', hholds.append ms,
            hgives.of_skip hrun⟩
        · exact .inr ⟨ending, hstops.of_skip hrun⟩

/-- The event before a cursor is about the plan that the cursor holds, if any. -/
def HeldAfter (before : Option (Pull δ plan result γ)) (c : Cursor δ plan γ) : Prop :=
  c.held? = none ∨ ∃ x, before = some x ∧ Holds x.moments x.event c

theorem HeldAfter.follows {before : Option (Pull δ plan result γ)} {c : Cursor δ plan γ}
    {ms : List (Moment δ plan result γ)} (h : HeldAfter before c)
    (hexecuted : executions ms = [] ∨ executions ms = c.held?.toList) : Follows before ms := by
  rcases hexecuted with hnone | hall
  · exact .inl hnone
  have hnothing : c.held? = none → Follows before ms := by
    intro hnone
    rw [hnone] at hall
    exact .inl hall
  rcases h with hnone | ⟨x, hbefore, hnone | ⟨d, p, hheld, hevent, hmem⟩⟩
  · exact hnothing hnone
  · exact hnothing hnone
  · rw [hheld] at hall
    exact .inr ⟨x, d, p, hbefore, hevent, hmem, hall⟩

/-- A consumer that wants more than these events gets them all, and the run ends. -/
def Undertaking.TakesAll (u : Undertaking τ δ plan result) (discoveries : Source τ γ δ) (fuel : Nat)
    (c : Cursor δ plan γ) (w : Diary × τ) (pulls : List (Pull δ plan result γ)) (ending : Ending)
    (w' : Diary × τ) : Prop :=
  ∀ limit acc, (∀ k, limit = some k → pulls.length < k) →
    (u.collects discoveries fuel limit c acc).runOn w.1 w.2 =
      (.ok ⟨acc.reverse ++ pulls.map (·.event), ending.fault?⟩, w')

/-- A consumer that wants no more than these events gets just the first ones, and the
    world is the one after so many pulls.  To see that it has enough takes it one step. -/
def Undertaking.TakesFirst (u : Undertaking τ δ plan result) (discoveries : Source τ γ δ)
    (fuel : Nat) (c : Cursor δ plan γ) (w : Diary × τ) (pulls : List (Pull δ plan result γ)) :
    Prop :=
  ∀ k, k ≤ pulls.length → ∃ w', Pulls u discoveries (pulls.take k) w w' ∧ ∀ acc,
    (u.collects discoveries (fuel + 1) (some k) c acc).runOn w.1 w.2 =
      (.ok ⟨acc.reverse ++ (pulls.take k).map (·.event), none⟩, w')

section Taking

variable {fuel fuel' : Nat} {c c' : Cursor δ plan γ} {w w₁ w' : Diary × τ}
  {x : Pull δ plan result γ} {pulls : List (Pull δ plan result γ)} {ending : Ending}

theorem Undertaking.Stops.takesAll (h : u.Stops discoveries fuel c w ending w') :
    u.TakesAll discoveries fuel c w [] ending w' := by
  intro limit acc hlimit
  have hne : limit ≠ some 0 := by
    intro hzero
    exact absurd (hlimit 0 hzero) (by simp)
  rw [List.map_nil, List.append_nil]
  exact h limit acc hne

theorem Undertaking.Gives.takesAll (h : u.Gives discoveries fuel c w x.event fuel' c' w₁)
    (hrest : u.TakesAll discoveries fuel' c' (u.see x.event w₁.1 w₁.2) pulls ending w') :
    u.TakesAll discoveries fuel c w (x :: pulls) ending w' := by
  intro limit acc hlimit
  have hne : limit ≠ some 0 := by
    intro hzero
    exact absurd (hlimit 0 hzero) (by simp)
  have hmore : ∀ k, limit.map (· - 1) = some k → pulls.length < k := by
    intro k hk
    obtain ⟨j, hj, rfl⟩ := Option.map_eq_some_iff.mp hk
    have hshort := hlimit j hj
    rw [List.length_cons] at hshort
    omega
  have hrun := h 0 limit acc hne
  rw [Nat.add_zero, Nat.add_zero] at hrun
  rw [hrun, hrest _ (x.event :: acc) hmore]
  simp

/-- A consumer that wants nothing gets nothing, and nothing is done. -/
theorem collects_nothing (c : Cursor δ plan γ) (w : Diary × τ) (acc : List (RunEvent plan result)) :
    (u.collects discoveries (fuel + 1) (some 0) c acc).runOn w.1 w.2 =
      (.ok ⟨acc.reverse ++ [], none⟩, w) := by
  rw [List.append_nil]
  exact Source.runOn_takeWith_enough _ _ fuel c acc w.1 w.2

theorem takesFirst_nil (c : Cursor δ plan γ) (w : Diary × τ) :
    u.TakesFirst discoveries fuel c w [] := by
  intro k hk
  obtain rfl : k = 0 := by simpa using hk
  exact ⟨w, .nil w, collects_nothing c w⟩

theorem Undertaking.Gives.takesFirst (h : u.Gives discoveries fuel c w x.event fuel' c' w₁)
    (hspell : Spell u discoveries x.moments w w₁) (hcontext : w₁.1.context = w.1.context)
    (hrest : u.TakesFirst discoveries fuel' c' (u.see x.event w₁.1 w₁.2) pulls) :
    u.TakesFirst discoveries fuel c w (x :: pulls) := by
  intro k hk
  cases k with
  | zero => exact ⟨w, .nil w, collects_nothing c w⟩
  | succ k =>
    obtain ⟨w', htaken, htake⟩ := hrest k (by simpa using hk)
    refine ⟨w', .cons hspell hcontext htaken, ?_⟩
    intro acc
    have hrun := h 1 (some (k + 1)) acc (by simp)
    rw [hrun]
    have hgoes := htake (x.event :: acc)
    simpa using hgoes

end Taking

/-- **The pulls of a run**, for a consumer that wants them all and for one that wants
    the first ones.  The induction is on the steps that may be made, and a pull that
    gives an event leaves fewer of them. -/
theorem exists_pulls (hmode : Mode.ofValue u.settings.mode = .ok u.mode)
    (hpolicy : Policy.ofValue u.settings.onError = .ok u.policy)
    (hleaves : LeavesContext discoveries) (fuel : Nat) (before : Option (Pull δ plan result γ))
    (c : Cursor δ plan γ) (D : Diary) (t : τ) (hc : u.Fits D c) (hheld : HeldAfter before c) :
    ∃ pulls last, ∃ ending : Ending, ∃ w w',
      Pulls u discoveries pulls (D, t) w ∧ Spell u discoveries last w w' ∧
      w'.1.context = w.1.context ∧ HoldsBack last before pulls ∧
      u.TakesAll discoveries fuel c (D, t) pulls ending w' ∧
      u.TakesFirst discoveries fuel c (D, t) pulls := by
  induction fuel using Nat.strongRecOn generalizing before c D t with
  | _ fuel ih =>
    -- The first pull does the same, however much the consumer wants.
    obtain ⟨ms, w₁, hspell, hcontext, hexecuted, hends⟩ :=
      exists_pull hmode hpolicy hleaves fuel c D t hc
    have hfollows : Follows before ms := hheld.follows hexecuted
    rcases hends with ⟨e, fuel', c', hless, hbegun, hholds, hgives⟩ | ⟨ending, hstops⟩
    · -- The consumer sees the event and asks for the next one.
      obtain ⟨pulls, last, ending, w, w', hpulls, hlast, hsame, hback, hall, hfirst⟩ :=
        ih fuel' hless (some ⟨ms, e⟩) c' (u.see e w₁.1 w₁.2).1 (u.see e w₁.1 w₁.2).2 (hbegun _)
          (.inr ⟨_, rfl, hholds⟩)
      refine ⟨⟨ms, e⟩ :: pulls, last, ending, w, w', .cons hspell hcontext hpulls, hlast, hsame,
        ⟨hfollows, hback⟩, ?_, ?_⟩
      · exact Undertaking.Gives.takesAll hgives hall
      · exact Undertaking.Gives.takesFirst hgives hspell hcontext hfirst
    · exact ⟨[], ms, ending, (D, t), w₁, .nil _, hspell, hcontext, hfollows, hstops.takesAll,
        takesFirst_nil c (D, t)⟩

end Pulling

/-- **A run is lazy and leaves the log context alone.**  The supplier is to leave the log
    context as it is; the adapter does what it likes, and mode and policy are valid.

    - However a pull ends, the log context is the one from before it, at every cursor.
    - A consumer that takes everything gets the events of some pulls, and then the run
      ends, or the steps that may be made are used up.  A pull executes nothing but the
      plan that the event before it was about.
    - A consumer that takes no more than `k` of these events gets the first `k`, and no
      fault.  It leaves the world as it is after the first `k` pulls: no more calls have
      been made than in these.  One that would take more takes everything. -/
theorem run_is_lazy (u : Undertaking τ δ plan result)
    (hmode : Mode.ofValue u.settings.mode = .ok u.mode)
    (hpolicy : Policy.ofValue u.settings.onError = .ok u.policy) (discoveries : Source τ γ δ)
    (hleaves : LeavesContext discoveries) (c : γ) (D : Diary) (t : τ)
    (hid : u.id = Act.idText 12 (D.runs + 1)) :
    (∀ fuel (cursor : Cursor δ plan γ) D t,
      (((events u.settings u.adapter discoveries).pull fuel cursor).runOn D t).2.1.context =
        D.context) ∧
    ∀ fuel, ∃ pulls last, ∃ ending : Ending, ∃ w w',
      Pulls u discoveries pulls (D, t) w ∧ Spell u discoveries last w w' ∧
      w'.1.context = w.1.context ∧ HoldsBack last none pulls ∧
      (u.collects discoveries fuel none (.unstarted c) []).runOn D t =
        (.ok ⟨pulls.map (·.event), ending.fault?⟩, w') ∧
      ∀ k,
        (k ≤ pulls.length → ∃ w', Pulls u discoveries (pulls.take k) (D, t) w' ∧
          (u.collects discoveries (fuel + 1) (some k) (.unstarted c) []).runOn D t =
            (.ok ⟨(pulls.map (·.event)).take k, none⟩, w')) ∧
        (pulls.length < k →
          (u.collects discoveries fuel (some k) (.unstarted c) []).runOn D t =
            (u.collects discoveries fuel none (.unstarted c) []).runOn D t) := by
  constructor
  · intro fuel cursor D t
    exact context_pull u.settings u.adapter hleaves fuel cursor D t
  intro fuel
  -- One induction over the pulls serves every consumer.
  obtain ⟨pulls, last, ending, w, w', hpulls, hlast, hcontext, hback, hfull, hfirst⟩ :=
    exists_pulls hmode hpolicy hleaves fuel none (.unstarted c) D t hid (.inl rfl)
  have hall := hfull none [] (by simp)
  refine ⟨pulls, last, ending, w, w', hpulls, hlast, hcontext, hback, hall, ?_⟩
  intro k
  constructor
  · intro hk
    obtain ⟨w', htaken, hrun⟩ := hfirst k hk
    refine ⟨w', htaken, ?_⟩
    rw [hrun [], List.map_take]
    rfl
  · intro hk
    rw [hfull (some k) [] (by simpa using hk), hall]

/-- A run whose state counts the calls of the adapter, which replaces the log context in
    each call and is called off while it prepares `c`. -/
def unruly : Undertaking Nat String String Nat where
  settings := { onError := .str "skip", nameOf := .str }
  adapter := {
    kind := "unruly"
    prepare := fun d _ => Act.ofRun fun D n =>
      (if d = "c" then .error (.cancelled "") else .ok d, { D with context := {} }, n + 1)
    execute := fun p => Act.ofRun fun D n =>
      (.ok n, { D with context := { sink := .str p } }, n + 1) }
  mode := .build
  policy := .skip
  id := Act.idText 12 1
  see := fun _ D n => (D, n)

/-- A supplier that gives the discoveries of a list leaves the log context alone. -/
theorem leavesContext_ofList : LeavesContext (Source.ofList τ δ) := by
  intro ds D t
  cases ds <;> rfl

theorem unruly_run_is_lazy :
    (∀ fuel (cursor : Cursor String String (List String)) D t,
      (((events unruly.settings unruly.adapter (Source.ofList Nat String)).pull fuel cursor).runOn
        D t).2.1.context = D.context) ∧
    ∃ pulls last, ∃ ending : Ending, ∃ w w',
      Pulls unruly (Source.ofList Nat String) pulls ({}, 0) w ∧
      Spell unruly (Source.ofList Nat String) last w w' ∧
      w'.1.context = w.1.context ∧ HoldsBack last none pulls ∧
      (unruly.collects (Source.ofList Nat String) 9 none (.unstarted ["a", "c", "b"]) []).runOn
        {} 0 = (.ok ⟨pulls.map (·.event), ending.fault?⟩, w') := by
  obtain ⟨hcontext, hall⟩ := run_is_lazy unruly rfl rfl (Source.ofList Nat String)
    leavesContext_ofList ["a", "c", "b"] {} 0 rfl
  obtain ⟨pulls, last, ending, w, w', hpulls, hlast, hsame, hback, hrun, -⟩ := hall 9
  exact ⟨hcontext, pulls, last, ending, w, w', hpulls, hlast, hsame, hback, hrun⟩

/-- One call is made for the first event, and two for the first two. -/
example : ((unruly.collects (Source.ofList Nat String) 9 (some 1) (.unstarted ["a", "c", "b"])
    []).runOn {} 0).2.2 = 1 := rfl

example : ((unruly.collects (Source.ofList Nat String) 9 (some 2) (.unstarted ["a", "c", "b"])
    []).runOn {} 0).2.2 = 2 := rfl

end Orchestrator

end SinkPipeline
