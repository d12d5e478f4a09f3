import SinkPipeline.Pattern.Expression

/-! # Matching by derivatives

  A text is matched against an expression by taking derivatives, one for each
  character.  What is decided that way is the meaning of the expression:

  - an expression allows the empty text iff the empty text matches it;
  - what matches the derivative by a character is what may follow that character;
  - the constructors that simplify as they build leave the meaning as it is.
-/

namespace SinkPipeline.Pattern.Expr

/-! ### The meaning of each constructor -/

@[simp] theorem not_matches_never (cs : List Char) : ¬Matches .never cs := by
  rintro ⟨⟩

@[simp] theorem matches_empty_iff {cs : List Char} : Matches .empty cs ↔ cs = [] := by
  constructor
  · rintro ⟨⟩
    rfl
  · rintro rfl
    exact .empty

theorem matches_one_iff {s : CharSet} {cs : List Char} :
    Matches (.one s) cs ↔ ∃ c, cs = [c] ∧ s.contains c = true := by
  constructor
  · intro h
    cases h with
    | @one _ c hc => exact ⟨c, rfl, hc⟩
  · rintro ⟨c, rfl, hc⟩
    exact .one hc

theorem matches_seq_iff {a b : Expr} {cs : List Char} :
    Matches (.seq a b) cs ↔ ∃ u v, cs = u ++ v ∧ Matches a u ∧ Matches b v := by
  constructor
  · intro h
    cases h with
    | @seq _ _ u v hu hv => exact ⟨u, v, rfl, hu, hv⟩
  · rintro ⟨u, v, rfl, hu, hv⟩
    exact .seq hu hv

@[simp] theorem matches_either_iff {a b : Expr} {cs : List Char} :
    Matches (.either a b) cs ↔ Matches a cs ∨ Matches b cs := by
  constructor
  · intro h
    cases h with
    | left hu => exact .inl hu
    | right hu => exact .inr hu
  · rintro (h | h)
    · exact .left h
    · exact .right h

/-- A repetition of a text that is not empty begins with a part that is not
    empty. -/
theorem matches_many_cons_iff {a : Expr} {c : Char} {cs : List Char} :
    Matches (.many a) (c :: cs) ↔
      ∃ u v, cs = u ++ v ∧ Matches a (c :: u) ∧ Matches (.many a) v := by
  constructor
  · intro h
    generalize he : Expr.many a = e at h
    generalize ht : c :: cs = t at h
    -- Over the parts: those in front that are empty are passed over.
    induction h with
    | empty => cases he
    | one _ => cases he
    | seq _ _ => cases he
    | left _ => cases he
    | right _ => cases he
    | done => cases ht
    | @more b u v hu hv _ ih =>
      cases he
      cases u with
      | nil => exact ih rfl ht
      | cons d u =>
        cases ht
        exact ⟨u, v, rfl, hu, hv⟩
  · rintro ⟨u, v, rfl, hu, hv⟩
    exact .more hu hv

/-! ### The empty text -/

/-- **An expression is nullable** iff the empty text matches it. -/
theorem nullable_iff (e : Expr) : e.nullable = true ↔ Matches e [] := by
  induction e with
  | never => simp [nullable]
  | empty => simp [nullable]
  | one s => simp [nullable, matches_one_iff]
  | seq a b iha ihb =>
    rw [nullable, Bool.and_eq_true, iha, ihb, matches_seq_iff]
    constructor
    · rintro ⟨ha, hb⟩
      exact ⟨[], [], rfl, ha, hb⟩
    · rintro ⟨u, v, hnil, ha, hb⟩
      obtain ⟨rfl, rfl⟩ := List.append_eq_nil_iff.mp hnil.symm
      exact ⟨ha, hb⟩
  | either a b iha ihb => rw [nullable, Bool.or_eq_true, iha, ihb, matches_either_iff]
  | many a _ => simp [nullable, Matches.done]

/-! ### Building -/

/-- What matches an alternative matches the whole. -/
theorem matches_of_isAlternative {a b : Expr} (h : isAlternative a b = true) {cs : List Char}
    (ha : Matches a cs) : Matches b cs := by
  induction b with
  | either b c _ ihc =>
    rw [isAlternative, Bool.or_eq_true] at h
    rcases h with hb | hc
    · exact .left (eq_of_beq hb ▸ ha)
    · exact .right (ihc hc)
  | _ => exact eq_of_beq h ▸ ha

/-- **One of the two**, whatever is left out because it is there already. -/
theorem matches_union_iff {a b : Expr} {cs : List Char} :
    Matches (union a b) cs ↔ Matches a cs ∨ Matches b cs := by
  fun_induction union a b with
  | case1 b => simp
  | case2 a c b ihc iha => rw [iha, ihc, matches_either_iff, or_assoc]
  | case3 a => simp
  | case4 a b _ _ _ halt =>
    constructor
    · exact .inr
    · rintro (ha | hb)
      · exact matches_of_isAlternative halt ha
      · exact hb
  | case5 => exact matches_either_iff

/-- **The first, then the second.** -/
theorem matches_chain_iff {a b : Expr} {cs : List Char} :
    Matches (chain a b) cs ↔ Matches (.seq a b) cs := by
  rw [matches_seq_iff]
  fun_cases chain a b with
  | case1 b => simp
  | case2 b =>
    constructor
    · intro hb
      exact ⟨[], cs, rfl, .empty, hb⟩
    · rintro ⟨u, v, rfl, hu, hv⟩
      rwa [matches_empty_iff.mp hu]
  | case3 => exact matches_seq_iff

/-! ### Derivatives -/

/-- A text that one character begins is that character. -/
theorem matches_one_cons_iff {s : CharSet} {c : Char} {cs : List Char} :
    Matches (.one s) (c :: cs) ↔ s.contains c = true ∧ cs = [] := by
  rw [matches_one_iff]
  constructor
  · rintro ⟨d, hd, hcontains⟩
    cases hd
    exact ⟨hcontains, rfl⟩
  · rintro ⟨hcontains, rfl⟩
    exact ⟨c, rfl, hcontains⟩

/-- The first character is one of the second part if the first part is empty. -/
theorem matches_seq_cons_iff {a b : Expr} {c : Char} {cs : List Char} :
    Matches (.seq a b) (c :: cs) ↔
      (∃ u v, cs = u ++ v ∧ Matches a (c :: u) ∧ Matches b v) ∨
        Matches a [] ∧ Matches b (c :: cs) := by
  rw [matches_seq_iff]
  constructor
  · rintro ⟨u, v, hcut, hu, hv⟩
    cases u with
    | nil => exact .inr ⟨hu, hcut ▸ hv⟩
    | cons d u =>
      obtain ⟨rfl, rfl⟩ := List.cons.inj hcut
      exact .inl ⟨u, v, rfl, hu, hv⟩
  · rintro (⟨u, v, rfl, hu, hv⟩ | ⟨hnil, hv⟩)
    · exact ⟨c :: u, v, rfl, hu, hv⟩
    · exact ⟨[], c :: cs, rfl, hnil, hv⟩

/-- **What may follow a character** is what matches the derivative by it. -/
theorem matches_derive_iff (c : Char) (e : Expr) (cs : List Char) :
    Matches (derive c e) cs ↔ Matches e (c :: cs) := by
  induction e generalizing cs with
  | never => simp [derive]
  | empty => simp [derive]
  | one s =>
    rw [derive, matches_one_cons_iff]
    by_cases hc : s.contains c = true
    · rw [if_pos hc, matches_empty_iff]
      simp [hc]
    · rw [if_neg hc]
      simp [hc]
  | seq a b iha ihb =>
    have hfirst : Matches (chain (derive c a) b) cs ↔
        ∃ u v, cs = u ++ v ∧ Matches a (c :: u) ∧ Matches b v := by
      simp only [matches_chain_iff, matches_seq_iff, iha]
    rw [derive, matches_seq_cons_iff, ← hfirst, ← nullable_iff]
    -- If the first part matches the empty text, the character may belong to the second.
    by_cases hnull : a.nullable = true
    · rw [if_pos hnull, matches_union_iff, ihb]
      simp [hnull]
    · rw [if_neg hnull]
      simp [hnull]
  | either a b iha ihb => rw [derive, matches_union_iff, iha, ihb, matches_either_iff]
  | many a ih =>
    rw [derive, matches_chain_iff, matches_seq_iff, matches_many_cons_iff]
    simp only [ih]

/-- **Matching by derivatives decides the meaning of an expression.** -/
theorem isMatch_iff (e : Expr) (cs : List Char) : e.isMatch cs = true ↔ Matches e cs := by
  induction cs generalizing e with
  | nil => exact nullable_iff e
  | cons c cs ih => exact (ih (derive c e)).trans (matches_derive_iff c e cs)

end SinkPipeline.Pattern.Expr
