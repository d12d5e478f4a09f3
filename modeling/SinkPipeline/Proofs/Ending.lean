import SinkPipeline.Orchestrator
import SinkPipeline.Site

/-! # How an action ends

  Most of what is proved about actions does not depend on the diary: whatever
  has been noted there, the action ends in the same value or fault and in the
  same state.  There are three ways to say so:

  - an action **ends** from a state in one value or fault and one state;
  - it **gives** some value with a property, and ends in one state;
  - it only **notes** something: it gives some value and leaves every state as
    it is.

  Of what is written to the diary one thing is kept in view: the **course** of
  the run, which is what the orchestrator has reported of each sink.
-/

namespace SinkPipeline

/-- What the orchestrator has reported: its events, each with the name of the
    sink that it is about. -/
def Diary.course (d : Diary) : List (String × Json) :=
  (d.records.filter (·.logger == Orchestrator.logger)).map fun r =>
    (r.event, (r.fields.get? "name").getD .null)

/-! ### Results -/

/-- Where a sequence of two fails. -/
theorem Fault.of_bind_error {α β : Type} {x : Except Fault α} {g : α → Except Fault β} {f : Fault}
    (h : x >>= g = .error f) : x = .error f ∨ ∃ a, x = .ok a ∧ g a = .error f := by
  cases x with
  | error e =>
    cases h
    exact .inl rfl
  | ok a => exact .inr ⟨a, rfl, h⟩

/-- What a sequence of two that succeeds goes through. -/
theorem Fault.of_bind_ok {α β : Type} {x : Except Fault α} {g : α → Except Fault β} {b : β}
    (h : x >>= g = .ok b) : ∃ a, x = .ok a ∧ g a = .ok b := by
  cases x with
  | error e => cases h
  | ok a => exact ⟨a, rfl, h⟩

namespace Act

variable {τ α β : Type}

/-! ### Running -/

theorem runOn_bind (x : Act τ α) (f : α → Act τ β) (d : Diary) (s : τ) :
    (x >>= f).runOn d s =
      match x.runOn d s with
      | (.ok a, d', s') => (f a).runOn d' s'
      | (.error e, d', s') => (.error e, d', s') := by
  have hrun : (x >>= f).run (d, s) = ExceptT.bindCont f (x.run (d, s)).1 (x.run (d, s)).2 := rfl
  unfold runOn
  rw [hrun]
  rcases x.run (d, s) with ⟨r, d', s'⟩
  cases r with
  | ok a => rfl
  | error e => rfl

/-- From `s` the action ends in the result `r` and the state `s'`, and adds `h`
    to the course of the run, whatever has been noted before. -/
def Ends (x : Act τ α) (s : τ) (r : Except Fault α) (s' : τ) (h : List (String × Json) := []) :
    Prop :=
  ∀ d, ∃ d', x.runOn d s = (r, d', s') ∧ d'.course = d.course ++ h

/-- From `s` the action gives a value with the property `R` and ends in `s'`. -/
def Gives (x : Act τ α) (s : τ) (R : α → Prop) (s' : τ) (h : List (String × Json) := []) : Prop :=
  ∀ d, ∃ a d', x.runOn d s = (.ok a, d', s') ∧ R a ∧ d'.course = d.course ++ h

/-- The action gives a value and changes nothing but the diary. -/
def Notes (x : Act τ α) : Prop := ∀ s, x.Gives s (fun _ => True) s

/-! ### One after the other -/

theorem Ends.gives {x : Act τ α} {s s' : τ} {a : α} {h : List (String × Json)}
    (hx : x.Ends s (.ok a) s' h) : x.Gives s (· = a) s' h := by
  intro d
  obtain ⟨d', hrun, hcourse⟩ := hx d
  exact ⟨a, d', hrun, rfl, hcourse⟩

theorem Gives.bind {x : Act τ α} {f : α → Act τ β} {s s₁ s₂ : τ} {R : α → Prop}
    {r : Except Fault β} {h₁ h₂ : List (String × Json)} (hx : x.Gives s R s₁ h₁)
    (hf : ∀ a, R a → (f a).Ends s₁ r s₂ h₂) : (x >>= f).Ends s r s₂ (h₁ ++ h₂) := by
  intro d
  obtain ⟨a, d₁, hrun, ha, hcourse⟩ := hx d
  obtain ⟨d₂, hrun₂, hcourse₂⟩ := hf a ha d₁
  refine ⟨d₂, ?_, ?_⟩
  · rw [runOn_bind, hrun]
    exact hrun₂
  · rw [hcourse₂, hcourse, List.append_assoc]

theorem Gives.bind_gives {x : Act τ α} {f : α → Act τ β} {s s₁ s₂ : τ} {R : α → Prop}
    {Q : β → Prop} {h₁ h₂ : List (String × Json)} (hx : x.Gives s R s₁ h₁)
    (hf : ∀ a, R a → (f a).Gives s₁ Q s₂ h₂) : (x >>= f).Gives s Q s₂ (h₁ ++ h₂) := by
  intro d
  obtain ⟨a, d₁, hrun, ha, hcourse⟩ := hx d
  obtain ⟨b, d₂, hrun₂, hb, hcourse₂⟩ := hf a ha d₁
  refine ⟨b, d₂, ?_, hb, ?_⟩
  · rw [runOn_bind, hrun]
    exact hrun₂
  · rw [hcourse₂, hcourse, List.append_assoc]

theorem Ends.bind {x : Act τ α} {f : α → Act τ β} {s s₁ s₂ : τ} {a : α} {r : Except Fault β}
    {h₁ h₂ : List (String × Json)} (hx : x.Ends s (.ok a) s₁ h₁) (hf : (f a).Ends s₁ r s₂ h₂) :
    (x >>= f).Ends s r s₂ (h₁ ++ h₂) := by
  refine hx.gives.bind ?_
  rintro _ rfl
  exact hf

theorem Ends.bind_gives {x : Act τ α} {f : α → Act τ β} {s s₁ s₂ : τ} {a : α} {Q : β → Prop}
    {h₁ h₂ : List (String × Json)} (hx : x.Ends s (.ok a) s₁ h₁) (hf : (f a).Gives s₁ Q s₂ h₂) :
    (x >>= f).Gives s Q s₂ (h₁ ++ h₂) := by
  refine hx.gives.bind_gives ?_
  rintro _ rfl
  exact hf

/-- A fault goes past everything that would have come after. -/
theorem Ends.bind_error {x : Act τ α} {f : α → Act τ β} {s s' : τ} {e : Fault}
    {h : List (String × Json)} (hx : x.Ends s (.error e) s' h) :
    (x >>= f).Ends s (.error e) s' h := by
  intro d
  obtain ⟨d', hrun, hcourse⟩ := hx d
  refine ⟨d', ?_, hcourse⟩
  rw [runOn_bind, hrun]

theorem Notes.bind {x : Act τ α} {f : α → Act τ β} {s s' : τ} {r : Except Fault β}
    {h : List (String × Json)} (hx : Notes x) (hf : ∀ a, (f a).Ends s r s' h) :
    (x >>= f).Ends s r s' h := (hx s).bind fun a _ => hf a

theorem Notes.bind_gives {x : Act τ α} {f : α → Act τ β} {s s' : τ} {Q : β → Prop}
    {h : List (String × Json)} (hx : Notes x) (hf : ∀ a, (f a).Gives s Q s' h) :
    (x >>= f).Gives s Q s' h := (hx s).bind_gives fun a _ => hf a

theorem Notes.bind_notes {x : Act τ α} {f : α → Act τ β} (hx : Notes x) (hf : ∀ a, Notes (f a)) :
    Notes (x >>= f) := fun s => hx.bind_gives fun a => hf a s

/-- What comes after may add nothing to the course of the run. -/
theorem Ends.bind_silent {x : Act τ α} {f : α → Act τ β} {s s₁ s₂ : τ} {a : α}
    {r : Except Fault β} {h : List (String × Json)} (hx : x.Ends s (.ok a) s₁ h)
    (hf : (f a).Ends s₁ r s₂) : (x >>= f).Ends s r s₂ h := by
  have := hx.bind hf
  rwa [List.append_nil] at this

theorem Ends.bind_gives_silent {x : Act τ α} {f : α → Act τ β} {s s₁ s₂ : τ} {a : α}
    {Q : β → Prop} {h : List (String × Json)} (hx : x.Ends s (.ok a) s₁ h)
    (hf : (f a).Gives s₁ Q s₂) : (x >>= f).Gives s Q s₂ h := by
  have := hx.bind_gives hf
  rwa [List.append_nil] at this

/-! ### Single actions -/

theorem ends_pure (a : α) (s : τ) : (pure a : Act τ α).Ends s (.ok a) s :=
  fun d => ⟨d, rfl, (List.append_nil _).symm⟩

theorem gives_pure {a : α} {R : α → Prop} (ha : R a) (s : τ) : (pure a : Act τ α).Gives s R s :=
  fun d => ⟨a, d, rfl, ha, (List.append_nil _).symm⟩

theorem Ends.map {x : Act τ α} {s s' : τ} {a : α} {h : List (String × Json)} {f : α → β}
    (hx : x.Ends s (.ok a) s' h) : (f <$> x).Ends s (.ok (f a)) s' h := by
  rw [map_eq_pure_bind]
  exact hx.bind_silent (ends_pure _ _)

theorem ends_fail (f : Fault) (s : τ) : (fail f : Act τ α).Ends s (.error f) s :=
  fun d => ⟨d, rfl, (List.append_nil _).symm⟩

theorem ends_ofExcept (r : Except Fault α) (s : τ) : (ofExcept r : Act τ α).Ends s r s :=
  fun d => ⟨d, rfl, (List.append_nil _).symm⟩

theorem ends_state (s : τ) : (state : Act τ τ).Ends s (.ok s) s :=
  fun d => ⟨d, rfl, (List.append_nil _).symm⟩

theorem ends_modifyState (f : τ → τ) (s : τ) : (modifyState f).Ends s (.ok ()) (f s) :=
  fun d => ⟨d, rfl, (List.append_nil _).symm⟩

theorem ends_machine {ν : Type} (s : Site ν) :
    (machine : Act (Site ν) Machine).Ends s (.ok s.machine) s :=
  (ends_state s).bind_silent (ends_pure _ s)

theorem Ends.attempt {x : Act τ α} {s s' : τ} {r : Except Fault α} {h : List (String × Json)}
    (hx : x.Ends s r s' h) : (attempt x).Ends s (.ok r) s' h := by
  intro d
  obtain ⟨d', hrun, hcourse⟩ := hx d
  refine ⟨d', ?_, hcourse⟩
  show (Except.ok (x.runOn d s).1, (x.runOn d s).2) = _
  rw [hrun]

theorem Gives.attempt {x : Act τ α} {s s' : τ} {R : α → Prop} {h : List (String × Json)}
    (hx : x.Gives s R s' h) : (attempt x).Gives s (fun r => ∃ a, r = .ok a ∧ R a) s' h := by
  intro d
  obtain ⟨a, d', hrun, ha, hcourse⟩ := hx d
  refine ⟨.ok a, d', ?_, ⟨a, rfl, ha⟩, hcourse⟩
  show (Except.ok (x.runOn d s).1, (x.runOn d s).2) = _
  rw [hrun]

/-! ### What only notes -/

theorem notes_pure (a : α) : Notes (pure a : Act τ α) :=
  fun _ d => ⟨a, d, rfl, trivial, (List.append_nil _).symm⟩

theorem notes_diary : Notes (diary : Act τ Diary) :=
  fun _ d => ⟨d, d, rfl, trivial, (List.append_nil _).symm⟩

/-- A change of the diary that adds no record. -/
theorem notes_modifyDiary {f : Diary → Diary} (h : ∀ d, (f d).records = d.records) :
    Notes (modifyDiary f : Act τ Unit) := by
  intro s d
  refine ⟨(), f d, rfl, trivial, ?_⟩
  simp [Diary.course, h]

theorem notes_context : Notes (context : Act τ LogContext) :=
  notes_diary.bind_notes fun _ => notes_pure _

theorem notes_setContext (c : LogContext) : Notes (setContext c : Act τ Unit) :=
  notes_modifyDiary fun _ => rfl

/-- A record of another logger than the orchestrator's. -/
theorem notes_log {logger : String} (h : logger ≠ Orchestrator.logger) (level event : String)
    (fields : Fields) : Notes (log logger level event fields : Act τ Unit) := by
  intro s d
  refine ⟨(), { d with records := d.records ++ [⟨logger, level, event, fields, d.context⟩] }, rfl,
    trivial, ?_⟩
  simp [Diary.course, h]

/-- A record of the orchestrator. -/
theorem ends_log (level event : String) (fields : Fields) (s : τ) :
    (log Orchestrator.logger level event fields : Act τ Unit).Ends s (.ok ()) s
      [(event, (fields.get? "name").getD .null)] := by
  intro d
  refine ⟨{ d with
    records := d.records ++ [⟨Orchestrator.logger, level, event, fields, d.context⟩] }, rfl, ?_⟩
  simp [Diary.course]

theorem notes_newSpanId : Notes (newSpanId : Act τ Json) := by
  refine Notes.bind_notes (notes_modifyDiary ?_) fun _ =>
    notes_diary.bind_notes fun _ => notes_pure _
  exact fun _ => rfl

theorem notes_newRunId : Notes (newRunId : Act τ Json) := by
  refine Notes.bind_notes (notes_modifyDiary ?_) fun _ =>
    notes_diary.bind_notes fun _ => notes_pure _
  exact fun _ => rfl

theorem notes_startTimer (step parent : Json) (metrics : Fields) :
    Notes (startTimer step parent metrics : Act τ Nat) := by
  refine notes_newSpanId.bind_notes fun _ => notes_diary.bind_notes fun _ =>
    Notes.bind_notes (notes_modifyDiary ?_) fun _ => notes_pure _
  exact fun _ => rfl

theorem notes_timer? (n : Nat) : Notes (timer? n : Act τ (Option Timer)) :=
  notes_diary.bind_notes fun _ => notes_pure _

theorem notes_modifyTimer (n : Nat) (f : Timer → Float → Timer) :
    Notes (modifyTimer n f : Act τ Unit) := notes_modifyDiary fun _ => rfl

theorem timingLogger_ne : timingLogger ≠ Orchestrator.logger := by decide

/-! ### Work inside a context, and timed work -/

/-- **Values of the log context** make no difference to how an action ends. -/
theorem Ends.withContext {x : Act τ α} {s s' : τ} {r : Except Fault α} {h : List (String × Json)}
    (hx : x.Ends s r s' h) (fields : Fields) : (withContext fields x).Ends s (.ok r) s' h := by
  unfold Act.withContext
  refine notes_context.bind fun old => (notes_setContext _).bind fun _ => ?_
  exact hx.attempt.bind_silent ((notes_setContext old).bind fun _ => ends_pure _ _)

theorem Gives.withContext {x : Act τ α} {s s' : τ} {R : α → Prop} {h : List (String × Json)}
    (hx : x.Gives s R s' h) (fields : Fields) :
    (withContext fields x).Gives s (fun r => ∃ a, r = .ok a ∧ R a) s' h := by
  unfold Act.withContext
  refine notes_context.bind_gives fun old => (notes_setContext _).bind_gives fun _ => ?_
  have hafter : ∀ r : Except Fault α, (∃ a, r = .ok a ∧ R a) →
      (setContext old >>= fun _ => pure r : Act τ (Except Fault α)).Gives s'
        (fun r => ∃ a, r = .ok a ∧ R a) s' := by
    intro r hr
    refine (notes_setContext old).bind_gives fun _ d => ⟨r, d, rfl, hr, ?_⟩
    exact (List.append_nil _).symm
  have := hx.attempt.bind_gives hafter
  rwa [List.append_nil] at this

/-- A **timed block** ends as its body does. -/
theorem gives_timedBlock {body : Nat → Act τ α} {s s' : τ} {r : Except Fault α}
    {h : List (String × Json)} (hbody : ∀ n, (body n).Ends s r s' h) (step : Json) :
    (timedBlock step body).Gives s (fun v => v.2 = r) s' h := by
  unfold timedBlock
  refine notes_context.bind_gives fun c => (notes_startTimer _ _ _).bind_gives fun n => ?_
  have hstopped : ∀ q, q = r → (stopTimer n >>= fun _ => pure (n, q) : Act τ _).Gives s'
      (fun v => v.2 = r) s' := by
    intro q hq
    refine (notes_modifyTimer n _).bind_gives fun _ d => ⟨(n, q), d, rfl, hq, ?_⟩
    exact (List.append_nil _).symm
  have := (hbody n).attempt.gives.bind_gives fun q hq => hstopped q hq
  rwa [List.append_nil] at this

/-- Timed work gives its value, with the timer. -/
theorem gives_timedResult {body : Nat → Act τ α} {s s' : τ} {a : α} {h : List (String × Json)}
    (hbody : ∀ n, (body n).Ends s (.ok a) s' h) (step : Json) :
    (do
      let (n, result) ← timedBlock step body
      return (n, ← ofExcept result) : Act τ (Nat × α)).Gives s (fun v => v.2 = a) s' h := by
  rw [← List.append_nil h]
  refine (gives_timedBlock hbody step).bind_gives ?_
  rintro ⟨n, _⟩ rfl
  refine (ends_ofExcept _ s').bind_gives_silent ?_
  exact gives_pure (R := fun v : Nat × α => v.2 = a) rfl s'

/-- Timed work ends in its fault. -/
theorem ends_timedResult_error {body : Nat → Act τ α} {s s' : τ} {f : Fault}
    {h : List (String × Json)} (hbody : ∀ n, (body n).Ends s (.error f) s' h) (step : Json) :
    (do
      let (n, result) ← timedBlock step body
      return (n, ← ofExcept result) : Act τ (Nat × α)).Ends s (.error f) s' h := by
  rw [← List.append_nil h]
  refine (gives_timedBlock hbody step).bind ?_
  rintro ⟨n, _⟩ rfl
  exact (ends_ofExcept _ s').bind_error

/-- Logging the values of a timer only notes something. -/
theorem notes_logTimer (n : Nat) (level event : String) (fields : Timer → Float → Fields) :
    Notes (logTimer n level event fields : Act τ Unit) := by
  refine (notes_timer? n).bind_notes fun t => ?_
  cases t with
  | none => exact notes_pure _
  | some t => exact notes_diary.bind_notes fun _ => notes_log timingLogger_ne _ _ _

theorem notes_enterStep (event : String) (opts : StepOptions) (metrics : Fields) :
    Notes (enterStep event opts metrics : Act τ Nat) := by
  refine notes_context.bind_notes fun old => (notes_startTimer _ _ _).bind_notes fun n =>
    (notes_timer? n).bind_notes fun _ => (notes_setContext _).bind_notes fun _ => ?_
  dsimp only
  split
  · exact (notes_log timingLogger_ne _ _ _).bind_notes fun _ => notes_pure n
  · exact notes_pure n

/-- Leaving a logged step hands on how its work ended. -/
theorem ends_leaveStep (n : Nat) (old : LogContext) (event : String) (opts : StepOptions)
    (r : Except Fault α) (s : τ) : (leaveStep n old event opts r).Ends s r s := by
  refine (notes_modifyTimer n _).bind fun _ => ?_
  cases r with
  | ok v =>
    exact (notes_setContext old).bind fun _ => (notes_logTimer n _ _ _).bind fun _ => ends_pure v s
  | error f =>
    have hfail : (setContext old >>= fun _ => fail f : Act τ α).Ends s (.error f) s :=
      (notes_setContext old).bind fun _ => ends_fail f s
    dsimp only
    split
    · exact (notes_modifyTimer n _).bind fun _ => (notes_logTimer n _ _ _).bind fun _ => hfail
    · exact hfail

/-- A **logged step** ends as its body does. -/
theorem Ends.logStep {body : Nat → Act τ α} {s s' : τ} {r : Except Fault α}
    {h : List (String × Json)} (hbody : ∀ n, (body n).Ends s r s' h) (event : String)
    (opts : StepOptions) (metrics : Fields) : (logStep event opts metrics body).Ends s r s' h :=
  notes_context.bind fun old => (notes_enterStep event opts metrics).bind fun n =>
    (hbody n).attempt.bind_silent (ends_leaveStep n old event opts r s')

end Act

end SinkPipeline
