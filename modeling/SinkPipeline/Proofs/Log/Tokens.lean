import SinkPipeline.Log.Context
import SinkPipeline.Proofs.Json.Fields

/-! # Giving contexts back

  The log context is set, bound, pushed, cleared, and given back by tokens, in
  any order.  A token remembers one context: the first use gives it back,
  whatever was done in between, and every later use is a fault.

  So a run of operations whose tokens are **well nested** ends with the context
  that the operations outside all brackets make.

  Binding and pushing overwrite just the values that are given under names of
  the context.  There is one exception: nothing can be given under the name that
  stands for the context itself.
-/

namespace SinkPipeline

namespace LogContext

/-! ### Values by name -/

/-- The value of a name; null for one that is not given. -/
def get? (c : LogContext) (name : String) : Option Json := Fields.get? c.entries name

/-- The context `c'` is `c` with just those values overwritten that are given
    under names of the context. -/
def Overwrites (c : LogContext) (fields : Fields) (c' : LogContext) : Prop :=
  ∀ name ∈ names, c'.get? name = ((fields.get? name).bind Json.nonNull?).or (c.get? name)

/-- A name that was just put has the value given; every other one keeps its own. -/
theorem get?_put (c : LogContext) (n : String) (v : Json) {name : String} (hname : name ∈ names) :
    (c.put n v).get? name = if name = n then some v else c.get? name := by
  simp only [names, List.mem_cons, List.not_mem_nil, or_false] at hname
  unfold put
  split
  case h_8 =>
    -- A name that is none of the context's.
    have hne : name ≠ n := by
      rintro rfl
      rcases hname with rfl | rfl | rfl | rfl | rfl | rfl | rfl <;> contradiction
    rw [if_neg hne]
  all_goals rcases hname with rfl | rfl | rfl | rfl | rfl | rfl | rfl <;> rfl

/-- **Merging overwrites** just what is given. -/
theorem overwrites_merge (c : LogContext) {fields : Fields}
    (honce : (fields.map (·.1)).Nodup) : c.Overwrites fields (c.merge fields) := by
  intro name hname
  induction fields generalizing c with
  | nil => rfl
  | cons p fields ih =>
    obtain ⟨n, v⟩ := p
    rw [List.map_cons, List.nodup_cons] at honce
    obtain ⟨hfresh, hrest⟩ := honce
    show (merge (if v.nonNull?.isSome then c.put n v else c) fields).get? name = _
    rw [ih _ hrest]
    by_cases hn : n = name
    · subst hn
      -- The name is not given again.
      have hnone : Fields.get? fields n = none := Fields.get?_eq_none_of_not_mem hfresh
      have hput : (c.put n v).get? n = some v := by rw [get?_put c n v hname, if_pos rfl]
      cases v <;> simp [Fields.get?, hnone, hput, Json.nonNull?]
    · have hput : (c.put n v).get? name = c.get? name := by
        rw [get?_put c n v hname, if_neg (Ne.symm hn)]
      cases v <;> simp [Fields.get?, hn, hput, Json.nonNull?]

/-- Is no value given under the name that stands for the context itself? -/
def Nameable (fields : Fields) : Prop := ∀ p ∈ fields, p.1 ≠ selfName

theorem any_isSelf_eq_false_iff {fields : Fields} :
    (fields.any fun p => p.1 == selfName) = false ↔ Nameable fields := by
  rw [List.any_eq_false]
  exact forall₂_congr fun p _ => not_congr beq_iff_eq

theorem mergeNamed_of_nameable (c : LogContext) {fields : Fields} (h : Nameable fields) :
    c.mergeNamed fields = .ok (c.merge fields) := by
  rw [mergeNamed, any_isSelf_eq_false_iff.mpr h]
  rfl

theorem mergeNamed_of_not_nameable (c : LogContext) {fields : Fields} (h : ¬Nameable fields) :
    ∃ f, c.mergeNamed fields = .error f := by
  rw [← any_isSelf_eq_false_iff, Bool.not_eq_false] at h
  rw [mergeNamed, h]
  exact ⟨_, rfl⟩

end LogContext

/-! ### Operations -/

/-- An operation on the log context. -/
inductive ContextOp where
  /-- Replace the context by one that holds the given values. -/
  | set (fields : Fields)
  /-- Overwrite values. -/
  | bind (fields : Fields)
  /-- Overwrite values, with a token to undo it by. -/
  | push (token : String) (fields : Fields)
  /-- Make the context empty. -/
  | clear
  /-- Use a token. -/
  | restore (token : String)

namespace ContextOp

/-- Does the operation make the token? -/
def Makes (t : String) : ContextOp → Prop
  | .push token _ => token = t
  | _ => False

/-- Does it make or use the token? -/
def Touches (t : String) : ContextOp → Prop
  | .push token _ => token = t
  | .restore token => token = t
  | _ => False

/-- Has it nothing to do with tokens? -/
def IsPlain : ContextOp → Prop
  | .set _ | .bind _ | .clear => True
  | .push _ _ | .restore _ => False

end ContextOp

/-- Runs of operations whose tokens are well nested, each with the operations of
    it that stand outside all brackets. -/
inductive WellNested : List ContextOp → List ContextOp → Prop where
  | nil : WellNested [] []
  | plain {op : ContextOp} {ops outside : List ContextOp} (hplain : op.IsPlain)
      (rest : WellNested ops outside) : WellNested (op :: ops) (op :: outside)
  | bracket {t : String} {fields : Fields} {body inner ops outside : List ContextOp}
      (hnames : LogContext.Nameable fields) (hown : ∀ op ∈ body, ¬op.Touches t)
      (hbody : WellNested body inner) (rest : WellNested ops outside) :
      WellNested (.push t fields :: (body ++ .restore t :: ops)) outside

namespace ContextStack

/-- What an operation gives: the context and the tokens after it, or a fault. -/
def attempt (s : ContextStack) : ContextOp → Except Fault ContextStack
  | .set fields => (LogContext.ofNamed fields).map s.set
  | .bind fields => s.bind fields
  | .push token fields => s.push token fields
  | .clear => .ok s.clear
  | .restore token => s.restore token

/-- The context and the tokens after an operation; a fault changes nothing. -/
def after (s : ContextStack) (op : ContextOp) : ContextStack :=
  match s.attempt op with
  | .ok s' => s'
  | .error _ => s

/-- The context and the tokens after a run of operations. -/
def afterAll (s : ContextStack) (ops : List ContextOp) : ContextStack := ops.foldl after s

@[simp] theorem afterAll_nil (s : ContextStack) : s.afterAll [] = s := rfl

@[simp] theorem afterAll_cons (s : ContextStack) (op : ContextOp) (ops : List ContextOp) :
    s.afterAll (op :: ops) = (s.after op).afterAll ops := rfl

@[simp] theorem afterAll_append (s : ContextStack) (first second : List ContextOp) :
    s.afterAll (first ++ second) = (s.afterAll first).afterAll second := List.foldl_append

theorem after_of_ok {s s' : ContextStack} (op : ContextOp) (h : s.attempt op = .ok s') :
    s.after op = s' := by rw [after, h]

theorem after_of_error {s : ContextStack} {f : Fault} (op : ContextOp)
    (h : s.attempt op = .error f) : s.after op = s := by rw [after, h]

/-! ### Binding and pushing -/

variable {s : ContextStack} {fields : Fields}

theorem bind_of_nameable (h : LogContext.Nameable fields) (s : ContextStack) :
    s.bind fields = .ok (s.set (s.current.merge fields)) := by
  rw [bind, LogContext.mergeNamed_of_nameable _ h]
  rfl

theorem push_of_nameable (h : LogContext.Nameable fields) (s : ContextStack) (t : String) :
    s.push t fields =
      .ok ⟨s.current.merge fields, (t, some s.current) :: s.tokens.filter (·.1 != t)⟩ := by
  rw [push, LogContext.mergeNamed_of_nameable _ h]
  rfl

/-- Nothing is bound under the name that stands for the context itself. -/
theorem bind_of_not_nameable (h : ¬LogContext.Nameable fields) (s : ContextStack) :
    ∃ f, s.bind fields = .error f := by
  obtain ⟨f, hf⟩ := LogContext.mergeNamed_of_not_nameable s.current h
  exact ⟨f, by rw [bind, hf]; rfl⟩

/-- Nor is anything pushed under it. -/
theorem push_of_not_nameable (h : ¬LogContext.Nameable fields) (s : ContextStack) (t : String) :
    ∃ f, s.push t fields = .error f := by
  obtain ⟨f, hf⟩ := LogContext.mergeNamed_of_not_nameable s.current h
  exact ⟨f, by rw [push, hf]; rfl⟩

/-! ### What a token remembers -/

/-- The note on one token, put before the notes on the others. -/
theorem lookup_noted (tokens : List (String × Option LogContext)) (t u : String)
    (old : Option LogContext) :
    ((u, old) :: tokens.filter (·.1 != u)).lookup t =
      if t = u then some old else tokens.lookup t := by
  by_cases h : t = u
  · rw [if_pos h, h, List.lookup_cons_self]
  · rw [if_neg h, List.lookup_cons, beq_false_of_ne h]
    induction tokens with
    | nil => rfl
    | cons p tokens ih =>
      obtain ⟨name, note⟩ := p
      by_cases hname : name = u
      · subst hname
        simpa [List.lookup_cons, beq_false_of_ne h] using ih
      · by_cases ht : t = name
        · simp [hname, ht]
        · simpa [List.lookup_cons, hname, beq_false_of_ne ht] using ih

/-- **A token remembers** what it did before any operation that does not touch
    it. -/
theorem lookup_after {op : ContextOp} {t : String} (h : ¬op.Touches t) (s : ContextStack) :
    (s.after op).tokens.lookup t = s.tokens.lookup t := by
  cases hop : s.attempt op with
  | error f => rw [after_of_error op hop]
  | ok s' =>
    rw [after_of_ok op hop]
    cases op with
    | set fields =>
      rw [attempt] at hop
      cases hset : LogContext.ofNamed fields with
      | error f =>
        rw [hset] at hop
        cases hop
      | ok c =>
        rw [hset] at hop
        cases hop
        rfl
    | bind fields =>
      by_cases hnames : LogContext.Nameable fields
      · rw [attempt, bind_of_nameable hnames] at hop
        cases hop
        rfl
      · obtain ⟨f, hf⟩ := bind_of_not_nameable hnames s
        cases hop.symm.trans hf
    | clear =>
      cases hop
      rfl
    | push token fields =>
      -- Only a push and a restore write a note, and each for its own token.
      have hne : ¬t = token := fun heq => h heq.symm
      by_cases hnames : LogContext.Nameable fields
      · rw [attempt, push_of_nameable hnames] at hop
        cases hop
        rw [lookup_noted, if_neg hne]
      · obtain ⟨f, hf⟩ := push_of_not_nameable hnames s token
        cases hop.symm.trans hf
    | restore token =>
      have hne : ¬t = token := fun heq => h heq.symm
      rw [attempt, restore] at hop
      split at hop
      · cases hop
        rw [lookup_noted, if_neg hne]
      · cases hop
      · cases hop

theorem lookup_afterAll {ops : List ContextOp} {t : String} (h : ∀ op ∈ ops, ¬op.Touches t)
    (s : ContextStack) : (s.afterAll ops).tokens.lookup t = s.tokens.lookup t := by
  induction ops generalizing s with
  | nil => rfl
  | cons op ops ih =>
    rw [afterAll_cons, ih fun o ho => h o (List.mem_cons_of_mem _ ho),
      lookup_after (h op List.mem_cons_self)]

/-- The context that a token remembers is given back, and the token used up. -/
theorem restore_of_lookup {t : String} {old : LogContext}
    (h : s.tokens.lookup t = some (some old)) :
    ∃ s', s.restore t = .ok s' ∧ s'.current = old ∧ s'.tokens.lookup t = some none := by
  refine ⟨⟨old, (t, none) :: s.tokens.filter (·.1 != t)⟩, ?_, rfl, List.lookup_cons_self⟩
  rw [restore, h]

/-- A token that is used up is refused. -/
theorem restore_of_used {t : String} (h : s.tokens.lookup t = some none) :
    ∃ f, s.restore t = .error f := by
  rw [restore, h]
  exact ⟨_, rfl⟩

/-- **A token stays used up** until one is made under its name again. -/
theorem used_afterAll {ops : List ContextOp} {t : String} (h : ∀ op ∈ ops, ¬op.Makes t)
    (hused : s.tokens.lookup t = some none) : (s.afterAll ops).tokens.lookup t = some none := by
  induction ops generalizing s with
  | nil => exact hused
  | cons op ops ih =>
    refine ih (fun o ho => h o (List.mem_cons_of_mem _ ho)) ?_
    by_cases htouches : op.Touches t
    · -- Only a second use touches the token without making it.
      cases op with
      | push token fields => exact absurd htouches (h _ List.mem_cons_self)
      | restore token =>
        obtain rfl : token = t := htouches
        obtain ⟨f, hf⟩ := restore_of_used hused
        rw [after_of_error (.restore token) hf]
        exact hused
      | set _ => exact htouches.elim
      | bind _ => exact htouches.elim
      | clear => exact htouches.elim
    · rw [lookup_after htouches]
      exact hused

/-- **The first use** of a token gives back the context of before the push that
    made it, whatever was done in between. -/
theorem restore_afterAll {s' : ContextStack} {t : String} (hpush : s.push t fields = .ok s')
    {between : List ContextOp} (hbetween : ∀ op ∈ between, ¬op.Touches t) :
    ∃ s'', (s'.afterAll between).restore t = .ok s'' ∧ s''.current = s.current ∧
      s''.tokens.lookup t = some none := by
  refine restore_of_lookup ?_
  rw [lookup_afterAll hbetween]
  by_cases hnames : LogContext.Nameable fields
  · rw [push_of_nameable hnames] at hpush
    cases hpush
    exact List.lookup_cons_self
  · obtain ⟨f, hf⟩ := push_of_not_nameable hnames s t
    cases hpush.symm.trans hf

/-! ### Brackets -/

/-- What a plain operation makes of the context depends on the context alone. -/
theorem current_after_of_plain {op : ContextOp} (hplain : op.IsPlain) {s s' : ContextStack}
    (h : s.current = s'.current) : (s.after op).current = (s'.after op).current := by
  unfold after
  cases op with
  | set fields =>
    rw [attempt, attempt]
    cases LogContext.ofNamed fields with
    | error f => exact h
    | ok c => rfl
  | bind fields =>
    rw [attempt, attempt, bind, bind, h]
    cases LogContext.mergeNamed s'.current fields with
    | error f => exact h
    | ok c => rfl
  | clear => rfl
  | push token fields => exact hplain.elim
  | restore token => exact hplain.elim

/-- **Brackets leave no trace**: what is well nested makes of the context what
    the operations outside all brackets make of it. -/
theorem current_afterAll_of_wellNested {ops outside : List ContextOp}
    (h : WellNested ops outside) {s s' : ContextStack} (hcurrent : s.current = s'.current) :
    (s.afterAll ops).current = (s'.afterAll outside).current := by
  induction h generalizing s s' with
  | nil => exact hcurrent
  | @plain op ops outside hplain _ ih => exact ih (current_after_of_plain hplain hcurrent)
  | @bracket t fields body inner ops outside hnames hown _ _ _ ih =>
    have hpush := push_of_nameable hnames s t
    obtain ⟨s'', hrestore, hback, -⟩ := restore_afterAll hpush hown
    rw [afterAll_cons, after_of_ok (.push t fields) hpush, afterAll_append, afterAll_cons,
      after_of_ok (.restore t) hrestore]
    exact ih (hback.trans hcurrent)

/-! ### The law -/

/-- **The law of contexts and tokens**, from any context and any tokens on.

    What is bound or pushed overwrites just the values that are given, unless one
    is given under the name that stands for the context itself: then it is a
    fault, and changes nothing.  The first use of a token gives back the context
    of before its push, whatever was done in between, and every later use is a
    fault that changes nothing.  What is well nested makes of the context what
    the operations outside all brackets make of it. -/
theorem operations_lawful (s : ContextStack) :
    (∀ (fields : Fields) (t : String), (fields.map (·.1)).Nodup →
      ∀ op ∈ [ContextOp.bind fields, .push t fields],
        ((∃ s', s.attempt op = .ok s' ∧ s.current.Overwrites fields s'.current) ↔
          LogContext.Nameable fields) ∧
        (¬LogContext.Nameable fields → (∃ f, s.attempt op = .error f) ∧ s.after op = s)) ∧
    (∀ (t : String) (fields : Fields) (s' : ContextStack), s.attempt (.push t fields) = .ok s' →
      ∀ between : List ContextOp, (∀ op ∈ between, ¬op.Touches t) →
        ∃ s'', (s'.afterAll between).attempt (.restore t) = .ok s'' ∧ s''.current = s.current ∧
          ∀ later : List ContextOp, (∀ op ∈ later, ¬op.Makes t) →
            (∃ f, (s''.afterAll later).attempt (.restore t) = .error f) ∧
              (s''.afterAll later).after (.restore t) = s''.afterAll later) ∧
    ∀ ops outside : List ContextOp, WellNested ops outside →
      (s.afterAll ops).current = (s.afterAll outside).current := by
  refine ⟨?_, ?_, ?_⟩
  · intro fields t honce op hop
    have hcases : op = .bind fields ∨ op = .push t fields := by simpa using hop
    have hfails : ¬LogContext.Nameable fields → ∃ f, s.attempt op = .error f := by
      intro hnames
      rcases hcases with rfl | rfl
      · exact bind_of_not_nameable hnames s
      · exact push_of_not_nameable hnames s t
    refine ⟨⟨?_, ?_⟩, ?_⟩
    · -- Fields that are not nameable give a fault, and then there is no new state.
      rintro ⟨s', hs', -⟩
      refine Classical.byContradiction fun hnames => ?_
      obtain ⟨f, hf⟩ := hfails hnames
      cases hs'.symm.trans hf
    · intro hnames
      have hover := LogContext.overwrites_merge s.current honce
      rcases hcases with rfl | rfl
      · exact ⟨_, bind_of_nameable hnames s, hover⟩
      · exact ⟨_, push_of_nameable hnames s t, hover⟩
    · intro hnames
      obtain ⟨f, hf⟩ := hfails hnames
      exact ⟨⟨f, hf⟩, after_of_error op hf⟩
  · intro t fields s' hpush between hbetween
    obtain ⟨s'', hrestore, hback, hused⟩ := restore_afterAll hpush hbetween
    refine ⟨s'', hrestore, hback, fun later hlater => ?_⟩
    obtain ⟨f, hf⟩ := restore_of_used (used_afterAll hlater hused)
    exact ⟨⟨f, hf⟩, after_of_error (.restore t) hf⟩
  · intro ops outside hnested
    exact current_afterAll_of_wellNested hnested rfl

/-- A value for the phase that comes with one under the name `self`. -/
def selfPhase : Fields := [("self", .str "x"), ("phase", .str "execute")]

/-- Such a value is not bound. -/
theorem self_phase_not_bound :
    (selfPhase.map (·.1)).Nodup ∧
      ¬({} : ContextStack).current.Overwrites selfPhase
        (({} : ContextStack).after (.bind selfPhase)).current := by
  refine ⟨by decide, fun h => ?_⟩
  have hphase := h "phase" (by decide)
  cases hphase

/-- Two tokens that cross: each gives back what was in force before its push. -/
example :
    let s : ContextStack := {}
    let ops : List ContextOp :=
      [.push "a" [("phase", .str "1")], .push "b" [("phase", .str "2")], .restore "a",
        .bind [("mode", .str "build")], .restore "b"]
    (s.afterAll ops).current = { phase := .str "1" } := rfl

end ContextStack

end SinkPipeline
