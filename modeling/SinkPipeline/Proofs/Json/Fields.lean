import SinkPipeline.Json.Basic

/-! # Named values

  What a list of named values says of one name, after it has been updated with
  another list.  A name that the other list does not mention keeps its value; one
  that it mentions has the value given there.
-/

namespace SinkPipeline

namespace Fields

variable {fs ps : Fields} {name : String} {v : Json}

/-- A name that is not there has no value. -/
theorem get?_eq_none (h : ∀ p ∈ fs, p.1 ≠ name) : fs.get? name = none := by
  induction fs with
  | nil => rfl
  | cons p fs ih =>
    have hrest := ih fun q hq => h q (by simp [hq])
    simp [get?, h p (by simp), hrest]

theorem get?_eq_none_of_not_mem (h : name ∉ fs.map (·.1)) : fs.get? name = none := by
  apply get?_eq_none
  rintro p hp rfl
  exact h (List.mem_map_of_mem hp)

/-- Members of other names make no difference. -/
theorem get?_update_of_ne (h : ∀ p ∈ ps, p.1 ≠ name) : (fs.update ps).get? name = fs.get? name := by
  induction ps generalizing fs with
  | nil => rfl
  | cons p ps ih =>
    have hne : name ≠ p.1 := (h p (by simp)).symm
    have hrest := @ih (fs.set p.1 p.2) fun q hq => h q (by simp [hq])
    rw [get?_set, if_neg hne] at hrest
    exact hrest

/-- The value that all members of a name have. -/
theorem get?_update_of_mem (hmem : (name, v) ∈ ps) (hall : ∀ p ∈ ps, p.1 = name → p.2 = v) :
    (fs.update ps).get? name = some v := by
  induction ps generalizing fs with
  | nil => cases hmem
  | cons p ps ih =>
    by_cases hlater : ∃ q ∈ ps, q.1 = name
    · obtain ⟨q, hq, rfl⟩ := hlater
      have hv : q.2 = v := hall q (by simp [hq]) rfl
      refine @ih (fs.set p.1 p.2) ?_ fun r hr => hall r (by simp [hr])
      rw [← hv]
      exact hq
    · have hnone : ∀ q ∈ ps, q.1 ≠ name := fun q hq hname => hlater ⟨q, hq, hname⟩
      have hfirst : p = (name, v) := by
        rcases List.mem_cons.1 hmem with h | h
        · exact h.symm
        · exact absurd rfl (hnone _ h)
      rw [hfirst]
      show ((fs.set name v).update ps).get? name = _
      rw [get?_update_of_ne hnone, get?_set, if_pos rfl]

/-- A name that is not there is put at the end. -/
theorem set_of_not_mem (h : name ∉ fs.map (·.1)) : fs.set name v = fs ++ [(name, v)] := by
  induction fs with
  | nil => rfl
  | cons p fs ih =>
    rw [List.map_cons, List.mem_cons, not_or] at h
    unfold set
    rw [if_neg (Ne.symm h.1), ih h.2]
    rfl

/-- Distinct names are put at the end, one after the other. -/
theorem update_eq_append (h : ((fs ++ ps).map (·.1)).Nodup) : fs.update ps = fs ++ ps := by
  induction ps generalizing fs with
  | nil => rw [List.append_nil, update, List.foldl_nil]
  | cons p ps ih =>
    rw [List.append_cons] at h ⊢
    have hnew : p.1 ∉ fs.map (·.1) := by
      simp only [List.map_append, List.nodup_append] at h
      exact fun hp => h.1.2.2 _ hp _ (by simp) rfl
    show (fs.set p.1 p.2).update ps = _
    rw [set_of_not_mem hnew, ih h]

/-- **Members of distinct names** stay as they were written. -/
theorem ofPairs_eq (h : (ps.map (·.1)).Nodup) : ofPairs ps = ps := update_eq_append h

/-- A name that has no value is not there. -/
theorem ne_of_get?_eq_none (h : fs.get? name = none) : ∀ p ∈ fs, p.1 ≠ name := by
  induction fs with
  | nil => simp
  | cons p fs ih =>
    rw [get?] at h
    split at h
    · cases h
    · next hne => exact List.forall_mem_cons.mpr ⟨hne, ih h⟩

/-- The first member of a name has its value. -/
theorem exists_of_get? (h : fs.get? name = some v) :
    ∃ before after, fs = before ++ (name, v) :: after ∧ ∀ p ∈ before, p.1 ≠ name := by
  induction fs with
  | nil => cases h
  | cons p fs ih =>
    obtain ⟨n, w⟩ := p
    rw [get?] at h
    split at h
    · next hname =>
      cases h
      exact ⟨[], fs, by rw [hname]; rfl, by simp⟩
    · next hne =>
      obtain ⟨before, after, hsplit, hbefore⟩ := ih h
      refine ⟨(n, w) :: before, after, by rw [hsplit]; rfl, ?_⟩
      exact List.forall_mem_cons.mpr ⟨hne, hbefore⟩

/-- **With distinct names**, what they are updated with goes before what they were. -/
theorem get?_update_of_nodup (h : (ps.map (·.1)).Nodup) :
    (fs.update ps).get? name = (ps.get? name).or (fs.get? name) := by
  cases hget : ps.get? name with
  | none =>
    rw [Option.none_or]
    exact get?_update_of_ne (ne_of_get?_eq_none hget)
  | some v =>
    obtain ⟨before, after, rfl, hbefore⟩ := exists_of_get? hget
    rw [List.map_append, List.map_cons, List.nodup_append, List.nodup_cons] at h
    rw [Option.some_or]
    apply get?_update_of_mem (by simp)
    intro p hp hname
    rcases List.mem_append.mp hp with hp | hp
    · exact absurd hname (hbefore p hp)
    · rcases List.mem_cons.mp hp with rfl | hp
      · rfl
      · exact absurd (List.mem_map.mpr ⟨p, hp, hname⟩) h.2.1.1

/-- The names stay when one of them is given another value. -/
theorem map_fst_set_of_mem (h : name ∈ fs.map (·.1)) (v : Json) :
    (fs.set name v).map (·.1) = fs.map (·.1) := by
  induction fs with
  | nil => cases h
  | cons p fs ih =>
    obtain ⟨n, w⟩ := p
    rw [set]
    split
    · rfl
    · next hne =>
      have hrest := (List.mem_cons.mp h).resolve_left (Ne.symm hne)
      rw [List.map_cons, List.map_cons, ih hrest]

/-- Distinct names stay distinct. -/
theorem nodup_set (h : (fs.map (·.1)).Nodup) (name : String) (v : Json) :
    ((fs.set name v).map (·.1)).Nodup := by
  by_cases hmem : name ∈ fs.map (·.1)
  · rwa [map_fst_set_of_mem hmem]
  · rw [set_of_not_mem hmem, List.map_append, List.nodup_append]
    refine ⟨h, by simp, ?_⟩
    intro n hn m hm hname
    obtain rfl : m = name := by simpa using hm
    exact hmem (hname ▸ hn)

/-- A name that is taken away has no value; every other one keeps its own. -/
theorem get?_without (fs : Fields) (name other : String) :
    (fs.without name).get? other = if other = name then none else fs.get? other := by
  induction fs with
  | nil => simp [without, get?]
  | cons p fs ih =>
    obtain ⟨n, v⟩ := p
    unfold without at ih ⊢
    by_cases hn : n = name
    · -- The first member is taken away.
      subst hn
      rw [List.filter_cons_of_neg (by simp), ih]
      by_cases hother : other = n
      · rw [if_pos hother, if_pos hother]
      · rw [if_neg hother, if_neg hother, get?, if_neg (Ne.symm hother)]
    · rw [List.filter_cons_of_pos (by simpa using hn), get?, get?, ih]
      by_cases hother : n = other
      · rw [if_pos hother, if_pos hother, if_neg (hother ▸ hn)]
      · rw [if_neg hother, if_neg hother]

/-- A name is there just if it has a value. -/
theorem has_eq_isSome (fs : Fields) (name : String) : fs.has name = (fs.get? name).isSome := by
  induction fs with
  | nil => rfl
  | cons p fs ih =>
    obtain ⟨n, v⟩ := p
    unfold has at ih ⊢
    rw [List.any_cons, ih, get?]
    by_cases hn : n = name
    · rw [if_pos hn, beq_iff_eq.mpr hn]
      rfl
    · rw [if_neg hn, beq_eq_false_iff_ne.mpr hn, Bool.false_or]

/-- **Members that are added unless their name is there**: what there was goes before
    what is added. -/
theorem get?_foldl_unless_has (ps fs : Fields) (name : String) :
    Fields.get? (ps.foldl (fun acc p => if acc.has p.1 then acc else acc.set p.1 p.2) fs) name =
      (fs.get? name).or (ps.get? name) := by
  induction ps generalizing fs with
  | nil => simp [get?]
  | cons p ps ih =>
    obtain ⟨n, v⟩ := p
    rw [List.foldl_cons, ih, get?]
    by_cases hn : n = name
    · subst hn
      rw [if_pos rfl, has_eq_isSome]
      cases hget : fs.get? n with
      | none => simp [get?_set]
      | some w => simp [hget]
    · have hkept : (if fs.has n then fs else fs.set n v).get? name = fs.get? name := by
        split
        · rfl
        · rw [get?_set, if_neg (Ne.symm hn)]
      rw [if_neg hn, hkept]

/-- **Values that are null are left out.** -/
theorem get?_filter_nonNull (h : (fs.map (·.1)).Nodup) (name : String) :
    Fields.get? (fs.filter fun p => p.2.nonNull?.isSome) name =
      (fs.get? name).bind Json.nonNull? := by
  induction fs with
  | nil => rfl
  | cons p fs ih =>
    obtain ⟨n, v⟩ := p
    rw [List.map_cons, List.nodup_cons] at h
    have hrest := ih h.2
    by_cases hname : n = name
    · -- No other member has this name.
      have hnone : Fields.get? fs name = none := Fields.get?_eq_none_of_not_mem (hname ▸ h.1)
      rw [hnone] at hrest
      cases v <;> simp [Fields.get?, hname, Json.nonNull?]
      exact hrest
    · cases hv : v.nonNull? <;> simp [Fields.get?, hname, hv, hrest]

end Fields

end SinkPipeline
