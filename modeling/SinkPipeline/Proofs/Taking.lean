import SinkPipeline.Proofs.Ending
import SinkPipeline.Source

/-! # Taking items from a source

  A consumer takes items from a lazy source with fuel for so many steps.  What
  it gets is said for all fuel that is enough: from any cursor of some kind it
  **takes** items with some property, until the source ends or fails.

  There is one rule for each way in which a step can end.
-/

namespace SinkPipeline.Source

variable {τ γ ι β : Type} {source : Source τ γ ι} {onItem : ι → Act τ β}

/-- With at least `n` steps, from the state `s` and any cursor with the property
    `C`, items with the property `R` are taken until the source ends, or ends in
    the fault.  This leads to the state `s'` and adds `h` to the course of the
    run. -/
def Takes (source : Source τ γ ι) (onItem : ι → Act τ β) (n : Nat) (s : τ) (C : γ → Prop)
    (R : List β → Prop) (fault : Option Fault) (s' : τ) (h : List (String × Json) := []) : Prop :=
  ∀ fuel, n ≤ fuel → ∀ c, C c → ∀ acc, (source.takeWith onItem fuel none c acc).Gives s
    (fun t => t.fault = fault ∧ ∃ items, R items ∧ t.items = acc.reverse ++ items) s' h

variable {s s₁ s' : τ} {C C' : γ → Prop} {R R' : List β → Prop} {fault : Option Fault}
  {h h₁ h₂ : List (String × Json)} {n : Nat}

theorem Takes.mono (ht : source.Takes onItem n s C R fault s' h)
    (hR : ∀ items, R items → R' items) : source.Takes onItem n s C R' fault s' h := by
  intro fuel hfuel c hc acc d
  obtain ⟨t, d', hrun, ⟨hfault, items, hitems, hacc⟩, hcourse⟩ := ht fuel hfuel c hc acc d
  exact ⟨t, d', hrun, ⟨hfault, items, hR items hitems, hacc⟩, hcourse⟩

/-- The source has ended. -/
theorem takes_done (hstep : ∀ c, C c → (source.step c).Ends s (.ok .done) s' h) :
    source.Takes onItem 1 s C (· = []) none s' h := by
  intro fuel hfuel c hc acc
  obtain ⟨fuel, rfl⟩ := Nat.exists_eq_succ_of_ne_zero (by omega : fuel ≠ 0)
  unfold takeWith
  rw [if_neg (by simp)]
  refine (hstep c hc).attempt.bind_gives_silent ?_
  exact Act.gives_pure ⟨rfl, [], rfl, (List.append_nil _).symm⟩ s'

/-- The source ends in a fault. -/
theorem takes_fail {f : Fault} (hstep : ∀ c, C c → (source.step c).Ends s (.error f) s' h) :
    source.Takes onItem 1 s C (· = []) (some f) s' h := by
  intro fuel hfuel c hc acc
  obtain ⟨fuel, rfl⟩ := Nat.exists_eq_succ_of_ne_zero (by omega : fuel ≠ 0)
  unfold takeWith
  rw [if_neg (by simp)]
  refine (hstep c hc).attempt.bind_gives_silent ?_
  exact Act.gives_pure ⟨rfl, [], rfl, (List.append_nil _).symm⟩ s'

/-- The source moves on without an item. -/
theorem takes_skip
    (hstep : ∀ c, C c → (source.step c).Gives s (fun p => ∃ c', p = .skip c' ∧ C' c') s₁ h₁)
    (hrest : source.Takes onItem n s₁ C' R fault s' h₂) :
    source.Takes onItem (n + 1) s C R fault s' (h₁ ++ h₂) := by
  intro fuel hfuel c hc acc
  obtain ⟨fuel, rfl⟩ := Nat.exists_eq_succ_of_ne_zero (by omega : fuel ≠ 0)
  unfold takeWith
  rw [if_neg (by simp)]
  refine (hstep c hc).attempt.bind_gives ?_
  rintro _ ⟨_, rfl, c', rfl, hc'⟩
  exact hrest fuel (by omega) c' hc' acc

/-- The source gives an item, of which the consumer makes what it wants. -/
theorem takes_item {Q : ι → Prop} {B : β → Prop}
    (hstep : ∀ c, C c → (source.step c).Gives s (fun p => ∃ i c', p = .item i c' ∧ Q i ∧ C' c') s₁ h₁)
    (honItem : ∀ i, Q i → (onItem i).Gives s₁ B s₁)
    (hrest : source.Takes onItem n s₁ C' R fault s' h₂) :
    source.Takes onItem (n + 1) s C (fun items => ∃ b rest, items = b :: rest ∧ B b ∧ R rest) fault
      s' (h₁ ++ h₂) := by
  intro fuel hfuel c hc acc
  obtain ⟨fuel, rfl⟩ := Nat.exists_eq_succ_of_ne_zero (by omega : fuel ≠ 0)
  unfold takeWith
  rw [if_neg (by simp)]
  refine (hstep c hc).attempt.bind_gives ?_
  rintro _ ⟨_, rfl, i, c', rfl, hi, hc'⟩
  have hmade := honItem i hi
  rw [← List.nil_append h₂]
  refine hmade.bind_gives fun b hb => ?_
  have htaken := hrest fuel (by omega) c' hc' (b :: acc)
  intro d
  obtain ⟨t, d', hrun, ⟨hfault, items, hitems, hacc⟩, hcourse⟩ := htaken d
  refine ⟨t, d', hrun, ⟨hfault, b :: items, ⟨b, items, rfl, hb, hitems⟩, ?_⟩, hcourse⟩
  rw [hacc, List.reverse_cons, List.append_assoc, List.singleton_append]

end SinkPipeline.Source
