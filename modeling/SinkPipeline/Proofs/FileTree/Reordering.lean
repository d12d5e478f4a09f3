import SinkPipeline.Proofs.FileTree.Alike

/-! # Trees that keep the same entries in different orders

  The order in which a tree keeps its entries, and so the order in which a system may
  give them, is not seen: every look at the tree gives the same.  A directory is listed
  in rising order of the names.

  - `get?_eq_some_iff`: what is at a place is what is kept for it.
  - `SeenAs`: all that can be seen of a tree, kept by every operation that looks at it.
  - `seenAs_of_perm`: trees with the same entries are seen as the same.
-/

namespace SinkPipeline

namespace Tree

/-! ### Distinct places -/

section

variable {t : Tree}

/-- With distinct places, what is at a place is what is kept for it. -/
theorem findEntry_eq_some_iff {p : Place} {e : Entry} {es : List (Place × Entry)}
    (hdistinct : (es.map (·.1)).Nodup) : findEntry p es = some e ↔ (p, e) ∈ es := by
  constructor
  · exact mem_of_findEntry
  intro hmem
  induction es with
  | nil => cases hmem
  | cons x es ih =>
    rw [List.map_cons, List.nodup_cons] at hdistinct
    rw [findEntry]
    rcases List.mem_cons.mp hmem with rfl | hmem
    · rw [if_pos rfl]
    · have hother : x.1 ≠ p := by
        rintro rfl
        exact hdistinct.1 (List.mem_map.mpr ⟨_, hmem, rfl⟩)
      rw [if_neg hother]
      exact ih hdistinct.2 hmem

/-- The names of a directory are distinct. -/
theorem nodup_names (hdistinct : (t.entries.map (·.1)).Nodup) (p : Place) : (t.names p).Nodup := by
  have hplaces : t.names p =
      (t.entries.map (·.1)).filterMap fun q => if q.dropLast = p then q.getLast? else none := by
    rw [List.filterMap_map]
    rfl
  rw [hplaces]
  refine hdistinct.filterMap ?_
  -- The directory and the last name make up the place.
  intro q q' name hname hname'
  exact (place_of_listed hname).symm.trans (place_of_listed hname')

/-- **A directory is listed in rising order**, each name once. -/
theorem pairwise_sortedNames (hdistinct : (t.entries.map (·.1)).Nodup) (p : Place) :
    (t.sortedNames p).Pairwise fun a b => a ≠ b ∧ Text.precedes a b = true := by
  have hnodup : (t.sortedNames p).Nodup :=
    (List.mergeSort_perm _ _).nodup_iff.mpr (nodup_names hdistinct p)
  exact hnodup.and (pairwise_mergeSort_names _)

end

/-! ### What can be seen -/

/-- The trees are seen as the same: the same is at each place, and each directory is
    listed the same. -/
structure SeenAs (t t' : Tree) : Prop where
  /-- What is at each place. -/
  get? : ∀ p, t'.get? p = t.get? p
  /-- What is listed. -/
  sortedNames : ∀ p, t'.sortedNames p = t.sortedNames p

namespace SeenAs

variable {t t' : Tree}

theorem walk (h : t.SeenAs t') (followLast : Bool) (links : Nat) (start : Place)
    (names : List String) :
    t'.walk followLast links start names = t.walk followLast links start names := by
  fun_induction Tree.walk t followLast links start names with
  | case1 => rw [Tree.walk]
  | case2 _ _ _ ih => rw [Tree.walk, ih]
  | case10 _ _ _ hname hsize _ hget hlast =>
    rw [Tree.walk, if_neg hsize, h.get?, hget]
    · exact if_neg hlast
    · exact hname
  | case11 _ _ _ hname hsize _ hget hlast _ _ ih =>
    rw [Tree.walk, if_neg hsize, h.get?, hget]
    · exact (if_neg hlast).trans ih
    · exact hname
  -- No link is followed from any other name.
  | _ =>
    rw [Tree.walk]
    · simp_all [h.get?]
    · assumption

theorem resolve (h : t.SeenAs t') (start : Place) (followLast : Bool) (path : String) :
    t'.resolve start followLast path = t.resolve start followLast path := by
  unfold Tree.resolve
  simp only [h.walk]

theorem entryAt (h : t.SeenAs t') (start : Place) (followLast : Bool) (path : String) :
    t'.entryAt start followLast path = t.entryAt start followLast path := by
  unfold Tree.entryAt
  rw [h.resolve]

theorem stat (h : t.SeenAs t') (start : Place) (path : String) :
    t'.stat start path = t.stat start path := by
  unfold Tree.stat
  rw [h.entryAt]

theorem looksDir (h : t.SeenAs t') (start : Place) (path : String) :
    t'.looksDir start path = t.looksDir start path := by
  unfold Tree.looksDir
  rw [h.stat]

theorem looksLink (h : t.SeenAs t') (start : Place) (path : String) :
    t'.looksLink start path = t.looksLink start path := by
  unfold Tree.looksLink Tree.lstat
  rw [h.entryAt]

theorem scan (h : t.SeenAs t') (start : Place) (dir : Path) :
    t'.scan start dir = t.scan start dir := by
  unfold Tree.scan
  simp only [h.entryAt, h.sortedNames, h.get?, h.looksDir]

end SeenAs

/-- **Trees with the same entries are seen as the same.** -/
theorem seenAs_of_perm {t t' : Tree} (hdistinct : (t.entries.map (·.1)).Nodup)
    (hperm : t'.entries.Perm t.entries) : t.SeenAs t' := by
  have hdistinct' : (t'.entries.map (·.1)).Nodup := (hperm.map _).nodup_iff.mpr hdistinct
  refine ⟨?_, ?_⟩
  · intro p
    unfold Tree.get?
    by_cases hp : p = []
    · rw [if_pos hp, if_pos hp]
    · rw [if_neg hp, if_neg hp]
      apply Option.ext
      intro e
      rw [findEntry_eq_some_iff hdistinct', findEntry_eq_some_iff hdistinct, hperm.mem_iff]
  · intro p
    have hnames : (t'.names p).Perm (t.names p) := hperm.filterMap _
    exact eq_mergeSort_names (pairwise_mergeSort_names _) ((List.mergeSort_perm _ _).trans hnames)

end Tree

end SinkPipeline
