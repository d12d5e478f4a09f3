import SinkPipeline.Proofs.Discovery.Listing

/-! # Every discovery ends

  A discovery that nothing disturbs comes to its end on every machine, with
  links or without, whatever the roots are and wherever its cursor stands.  A
  path that can be listed has only so many bytes, so only so many names: links
  that lead back up do not make the walk go on for ever.

  The sinks that it **finds** on the way are what it gives.
-/

namespace SinkPipeline

/-- A path has hardly more names than its text has bytes. -/
theorem Path.length_parts_le (p : Path) : p.parts.length ≤ p.toString.utf8ByteSize + 1 := by
  obtain ⟨anchor, parts⟩ := p
  induction parts using List.reverseRecOn with
  | nil => exact Nat.zero_le _
  | append_singleton parts name ih =>
    have htext := toString_child ⟨anchor, parts⟩ name
    rw [show Path.child ⟨anchor, parts⟩ name = ⟨anchor, parts ++ [name]⟩ from rfl] at htext
    rw [htext, String.utf8ByteSize_append, List.length_append, List.length_singleton]
    by_cases hparts : parts = []
    · simp [hparts]
    · -- Every name but the first has a slash in front of it.
      have hslash : "/".utf8ByteSize = 1 := by decide
      have hbefore : parts.length ≤ (Path.mk anchor parts).toString.utf8ByteSize + 1 := ih
      rw [if_neg hparts, String.utf8ByteSize_append, hslash]
      omega

/-- A directory with so many names above it cannot be listed. -/
theorem Tree.length_parts_of_scan {t : Tree} {start : Place} {dir : Path}
    {entries : List (String × Bool)} (h : t.scan start dir = .ok entries) :
    dir.parts.length < maxPathBytes + 2 := by
  obtain ⟨-, p, hentry⟩ := of_scan_ok h
  have hshort : ¬maxPathBytes < dir.toString.utf8ByteSize := by
    intro hlong
    unfold entryAt at hentry
    rw [resolve_eq, if_pos hlong] at hentry
    split at hentry <;> cases hentry
  have hparts := dir.length_parts_le
  omega

namespace Pipeline

open DirectoryWalk (Visit visit visitsOf)

/-! ### The sinks that are found -/

/-- From the cursor the discovery finds the sinks and comes to its end. -/
inductive Finds (m : Machine) : SinkCursor → List FileSink → Prop
  | done {c : SinkCursor} : find m c = .done → Finds m c []
  | skip {c c' : SinkCursor} {ss : List FileSink} :
      find m c = .skip c' → Finds m c' ss → Finds m c ss
  | item {c c' : SinkCursor} {s : FileSink} {ss : List FileSink} :
      find m c = .item s c' → Finds m c' ss → Finds m c (s :: ss)

/-- A discovery ends if it does after its next step. -/
theorem exists_finds_of_next {m : Machine} {c : SinkCursor}
    (h : ∀ c', Next m c c' → ∃ ss, Finds m c' ss) : ∃ ss, Finds m c ss := by
  cases hfind : find m c with
  | done => exact ⟨[], .done hfind⟩
  | skip c' =>
    obtain ⟨ss, hss⟩ := h c' (.inl hfind)
    exact ⟨ss, .skip hfind hss⟩
  | item s c' =>
    obtain ⟨ss, hss⟩ := h c' (.inr ⟨s, hfind⟩)
    exact ⟨s :: ss, .item hfind hss⟩

section

variable {m : Machine} {specs : List RootSpec} {root top : Root}

/-- What is to be visited after a visit: what was to be visited before or, once
    a directory was listed, its entries too. -/
theorem visit_pending (m : Machine) (follow : Bool) (top : Root) (v : Visit) (rest : List Visit) :
    (visit m follow top v rest).2 = rest ∨
      ∃ path isTop entries, v = .directory path isTop ∧
        m.tree.scan m.home path = .ok entries ∧
        (visit m follow top v rest).2 = visitsOf path entries ++ rest := by
  cases v with
  | file dir name =>
    left
    simp only [visit]
    split <;> rfl
  | directory path isTop =>
    cases hscan : m.tree.scan m.home path with
    | error f =>
      left
      simp only [visit, hscan]
      split <;> rfl
    | ok entries =>
      simp only [visit, hscan]
      split
      · exact .inl rfl
      · exact .inr ⟨path, isTop, entries, rfl, hscan, rfl⟩

/-- Visits come to an end if those of the entries of each directory do. -/
theorem visits_append_of {P : List Visit → Prop} {vs rest : List Visit} (hrest : P rest)
    (hcons : ∀ v vs, P vs → (∀ (m : Machine) path isTop entries, v = .directory path isTop →
      m.tree.scan m.home path = .ok entries → P (visitsOf path entries ++ vs)) → P (v :: vs))
    (hvs : ∀ (m : Machine) path isTop entries rest, Visit.directory path isTop ∈ vs →
      m.tree.scan m.home path = .ok entries → P rest → P (visitsOf path entries ++ rest)) :
    P (vs ++ rest) := by
  induction vs with
  | nil => exact hrest
  | cons v vs ih =>
    have hnext : P (vs ++ rest) := ih fun m path isTop entries rest hmem =>
      hvs m path isTop entries rest (List.mem_cons_of_mem _ hmem)
    refine hcons v _ hnext ?_
    rintro m path isTop entries rfl hscan
    exact hvs m path isTop entries _ (by simp) hscan hnext

/-- **Visits come to an end**, even if each is made on another machine.  What holds where
    nothing is to be visited, and before a visit if it does after it, holds whatever is to
    be visited.  The induction is on how many more names a path can have. -/
theorem visits_induction {P : List Visit → Prop} (hnil : P [])
    (hcons : ∀ v vs, P vs → (∀ (m : Machine) path isTop entries, v = .directory path isTop →
      m.tree.scan m.home path = .ok entries → P (visitsOf path entries ++ vs)) → P (v :: vs))
    (vs : List Visit) : P vs := by
  have happend : ∀ k vs rest, Within (Tree.maxPathBytes + 2) k vs → P rest → P (vs ++ rest) := by
    intro k
    induction k with
    | zero =>
      -- A directory in these visits has too many names to be listed.
      intro vs rest hk hrest
      refine visits_append_of hrest hcons fun m path isTop entries rest hmem hscan _ => ?_
      have hdeep := hk path isTop hmem
      have hshallow := Tree.length_parts_of_scan hscan
      omega
    | succ k ih =>
      intro vs rest hk hrest
      refine visits_append_of hrest hcons fun m path isTop entries rest hmem _ hrest => ?_
      exact ih _ _ (within_visitsOf (hk path isTop hmem) entries) hrest
  have hwithin : Within (Tree.maxPathBytes + 2) (Tree.maxPathBytes + 2) vs := by
    intro path isTop _
    omega
  have hall := happend _ vs [] hwithin hnil
  rwa [List.append_nil] at hall

/-- The visits below a root come to an end, and then those below the next one. -/
theorem exists_finds_of_visits (hspecs : ∀ seen, ∃ ss, Finds m ⟨specs, none, seen⟩ ss)
    (vs : List Visit) : ∀ seen, ∃ ss, Finds m ⟨specs, some (root, ⟨top, vs⟩), seen⟩ ss := by
  refine visits_induction (P := fun vs =>
    ∀ seen, ∃ ss, Finds m ⟨specs, some (root, ⟨top, vs⟩), seen⟩ ss) ?_ ?_ vs
  · intro seen
    obtain ⟨ss, hss⟩ := hspecs seen
    exact ⟨ss, .skip (find_of_walked_skip rfl) hss⟩
  · intro v vs hrest hmore seen
    refine exists_finds_of_next fun c' hstep => ?_
    obtain ⟨seen', rfl⟩ := of_next_visit hstep
    rcases visit_pending m false top v vs with hsame | ⟨path, isTop, entries, hv, hscan, hvisits⟩
    · rw [hsame]
      exact hrest seen'
    · rw [hvisits]
      exact hmore m path isTop entries hv hscan seen'

/-- Between two roots the discovery goes on with the next one. -/
theorem exists_finds_of_specs (m : Machine) (specs : List RootSpec) (seen : List String) :
    ∃ ss, Finds m ⟨specs, none, seen⟩ ss := by
  induction specs generalizing seen with
  | nil => exact ⟨[], .done rfl⟩
  | cons spec specs ih =>
    refine exists_finds_of_next fun c' hnext => ?_
    cases hroot : spec.normalize m with
    | error f =>
      -- A root that is refused is passed over.
      rcases walked_of_next hnext with hskip | ⟨e, hitem⟩
      · cases (walked_refused hroot).symm.trans hskip
        exact ih seen
      · cases (walked_refused hroot).symm.trans hitem
    | ok root =>
      rcases walked_of_next hnext with hskip | ⟨e, hitem⟩
      · cases (walked_root hroot).symm.trans hskip
        exact exists_finds_of_visits ih _ seen
      · cases (walked_root hroot).symm.trans hitem

end

/-- **Every discovery ends.** -/
theorem exists_finds (m : Machine) (c : SinkCursor) : ∃ ss, Finds m c ss := by
  obtain ⟨specs, current, seen⟩ := c
  cases current with
  | none => exact exists_finds_of_specs m specs seen
  | some p => exact exists_finds_of_visits (exists_finds_of_specs m specs) _ seen

/-! ### Taking them -/

variable {ν : Type}

/-- The sinks that are found are taken. -/
theorem takes_of_finds {s : Site ν} {c : SinkCursor} {ss : List FileSink}
    (h : Finds s.machine c ss) :
    ∃ n refused, (sinks (some skipGenerated) (some keepRefused)).Takes pure n s (· = c) (· = ss)
      none { s with refused := refused } := by
  -- The machine is fixed before the induction: the search never changes it.
  generalize hmachine : s.machine = m at h
  induction h generalizing s with
  | done hfind =>
    obtain ⟨refused, hstep⟩ := ends_find _ s
    rw [hmachine, hfind] at hstep
    refine ⟨1, refused, Source.takes_done ?_⟩
    rintro _ rfl
    exact hstep
  | skip hfind _ ih =>
    obtain ⟨refused, hstep⟩ := skips_of_find s (hmachine ▸ hfind)
    obtain ⟨n, refused', hn⟩ := ih (s := { s with refused := refused }) hmachine
    exact ⟨n + 1, refused', Source.takes_skip hstep hn⟩
  | item hfind _ ih =>
    obtain ⟨refused, hstep⟩ := gives_of_find s (hmachine ▸ hfind)
    obtain ⟨n, refused', hn⟩ := ih (s := { s with refused := refused }) hmachine
    refine ⟨n + 1, refused', ?_⟩
    have htakes := Source.takes_item hstep (fun i hi => Act.gives_pure (R := (· = _)) hi _) hn
    refine htakes.mono ?_
    rintro items ⟨b, rest, rfl, rfl, rfl⟩
    rfl

/-- **What is found is what a discovery of its own gives.** -/
theorem discovers_of_finds {m : Machine} {specs : List RootSpec} {ss : List FileSink}
    (h : Finds m { specs := specs } ss) : Discovers ν m specs ss :=
  discovers_of_takes fun _ _ => takes_of_finds h

end Pipeline

end SinkPipeline
