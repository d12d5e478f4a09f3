import SinkPipeline.Proofs.Discovery.Tidy
import SinkPipeline.Proofs.Taking

/-! # The sinks that a discovery gives

  From a sound cursor, a machine without links **lists** sinks: those that the
  discovery gives when nothing changes meanwhile.  The walk of a tree ends,
  because its directories are nested only so deep.

  A discovery on machines that are alike, one after the other, gives the sinks
  of that list in their order.  It moves on over generated files, then finds the
  first sink of the list, and goes on from a cursor that lists the rest.
-/

namespace SinkPipeline

namespace Pipeline

open DirectoryWalk (Visit visit visitsOf)

/-! ### Sinks in directories that are there -/

/-- A sink that was found in a directory that is there. -/
structure FoundAt (m : Machine) (dir : Path) (name : String) (s : FileSink) : Prop where
  /-- The directory is there. -/
  standing : m.Standing dir
  /-- The name is legal. -/
  legal : Tree.LegalName name
  /-- The name is that of no generated file. -/
  not_generated : SinkName.isGenerated name = false
  /-- It is the file of that name in the directory. -/
  item : s.item = ⟨dir.child name, name, false⟩
  /-- It is known by its path. -/
  key : s.key = (dir.child name).toString
  /-- Its parts are those of the name. -/
  parsed : SinkName.parse? name = some s.parsed

theorem FoundAt.alike {m m' : Machine} (hm : m.Sane) (halike : m.Alike m') {dir : Path}
    {name : String} {s : FileSink} (h : FoundAt m dir name s) : FoundAt m' dir name s :=
  { h with standing := h.standing.alike hm.linkless halike }

/-- **A step of the discovery from a sound cursor** leads to a sound cursor, and
    gives sinks in directories that are there. -/
theorem sound_find {m : Machine} (hm : m.Sane) {c : SinkCursor} (hc : SoundAt m c) :
    SoundPoll m (fun s => ∃ dir name, FoundAt m dir name s) (find m c) := by
  have hwalked := sound_walked hm hc
  unfold find
  generalize walked m c = p at hwalked
  cases hwalked with
  | done => exact .done
  | skip hc' => exact .skip hc'
  | @item e c' hc' he =>
    obtain ⟨dir, name, he⟩ := he
    have hname : e.item.name = name := by rw [he.item]
    dsimp only
    cases hsink : sinkIn? e with
    | none => exact .skip hc'
    | some s =>
      unfold sinkIn? at hsink
      rw [hname] at hsink
      split at hsink
      · cases hsink
      next hgen =>
      obtain ⟨parsed, hparsed, rfl⟩ := Option.map_eq_some_iff.mp hsink
      refine .item hc' ⟨dir, name, he.standing, he.legal, ?_, he.item, he.key, hparsed⟩
      simpa using hgen

/-! ### Lists of sinks -/

/-- From the cursor the machine lists the sinks; generated files are left out of
    the cursor after each step. -/
inductive Lists (m : Machine) : SinkCursor → List FileSink → Prop
  | done {c : SinkCursor} : find m c = .done → Lists m c []
  | skip {c c' : SinkCursor} {ss : List FileSink} :
      find m c = .skip c' → Lists m (tidy c') ss → Lists m c ss
  | item {c c' : SinkCursor} {s : FileSink} {ss : List FileSink} :
      find m c = .item s c' → Lists m (tidy c') ss → Lists m c (s :: ss)

/-- The cursor after a step, whether the step gives a sink or not. -/
def Next (m : Machine) (c c' : SinkCursor) : Prop :=
  find m c = .skip c' ∨ ∃ s, find m c = .item s c'

/-- There is a list from a cursor if there is one after the next step. -/
theorem exists_lists_of_next {m : Machine} {c : SinkCursor}
    (h : ∀ c', Next m c c' → ∃ ss, Lists m (tidy c') ss) : ∃ ss, Lists m c ss := by
  cases hfind : find m c with
  | done => exact ⟨[], .done hfind⟩
  | skip c' =>
    obtain ⟨ss, hss⟩ := h c' (.inl hfind)
    exact ⟨ss, .skip hfind hss⟩
  | item s c' =>
    obtain ⟨ss, hss⟩ := h c' (.inr ⟨s, hfind⟩)
    exact ⟨s :: ss, .item hfind hss⟩

section

variable {m : Machine} {specs : List RootSpec} {root top : Root} {seen : List String} {v : Visit}
  {pending : List Visit} {c' : SinkCursor}

/-- A step leads where the step of the walk leads. -/
theorem walked_of_next {c : SinkCursor} (h : Next m c c') :
    walked m c = .skip c' ∨ ∃ e, walked m c = .item e c' := by
  unfold Next find at h
  cases hwalked : walked m c with
  | done => simp [hwalked] at h
  | skip c₁ =>
    rw [hwalked] at h
    rcases h with h | ⟨s, h⟩
    · cases h
      exact .inl rfl
    · cases h
  | item e c₁ =>
    rw [hwalked] at h
    refine .inr ⟨e, ?_⟩
    cases hsink : sinkIn? e with
    | none =>
      simp only [hsink] at h
      rcases h with h | ⟨s, h⟩ <;> cases h
      rfl
    | some s =>
      simp only [hsink] at h
      rcases h with h | ⟨s, h⟩ <;> cases h
      rfl

/-- After a visit, what the visit leaves is to be visited. -/
theorem of_next_visit (h : Next m ⟨specs, some (root, ⟨top, v :: pending⟩), seen⟩ c') :
    ∃ seen', c' = ⟨specs, some (root, ⟨top, (visit m false top v pending).2⟩), seen'⟩ := by
  cases hvisit : visit m false top v pending with
  | mk f rest =>
    cases f with
    | none =>
      rcases walked_of_next h with hskip | ⟨e, hitem⟩
      · cases (walked_none hvisit).symm.trans hskip
        exact ⟨_, rfl⟩
      · cases (walked_none hvisit).symm.trans hitem
    | some f =>
      cases hseen : seen.contains f.path.toString with
      | true =>
        rcases walked_of_next h with hskip | ⟨e, hitem⟩
        · cases (walked_seen hvisit hseen).symm.trans hskip
          exact ⟨_, rfl⟩
        · cases (walked_seen hvisit hseen).symm.trans hitem
      | false =>
        rcases walked_of_next h with hskip | ⟨e, hitem⟩
        · cases (walked_new hvisit hseen).symm.trans hskip
        · cases (walked_new hvisit hseen).symm.trans hitem
          exact ⟨_, rfl⟩

end

end Pipeline

/-! ### The walk of a tree ends -/

/-- Directories are nested only so deep. -/
theorem Tree.exists_depth (t : Tree) : ∃ depth, ∀ p : Place, depth ≤ p.length → t.names p = [] := by
  obtain ⟨depth, hdepth⟩ : ∃ depth, ∀ e ∈ t.entries, e.1.length ≤ depth := by
    induction t.entries with
    | nil => exact ⟨0, by simp⟩
    | cons e es ih =>
      obtain ⟨depth, hdepth⟩ := ih
      refine ⟨max e.1.length depth, fun e' he' => ?_⟩
      rcases List.mem_cons.mp he' with rfl | hes
      · exact Nat.le_max_left _ _
      · exact Nat.le_trans (hdepth e' hes) (Nat.le_max_right _ _)
  refine ⟨depth, fun p hp => ?_⟩
  unfold Tree.names
  rw [List.filterMap_eq_nil_iff]
  intro e he
  split
  · next hdir =>
    rw [List.getLast?_eq_none_iff]
    by_contra hne
    have hshort := hdepth e he
    have hlength : p.length = e.1.length - 1 := by rw [← hdir, List.length_dropLast]
    have hpos : 0 < e.1.length := List.length_pos_iff.mpr hne
    omega
  · rfl

namespace Pipeline

open DirectoryWalk (Visit visit visitsOf)

/-- The directories among the visits are at most `k` levels above the depth. -/
def Within (depth k : Nat) (vs : List Visit) : Prop :=
  ∀ path isTop, Visit.directory path isTop ∈ vs → depth ≤ path.parts.length + k

/-- The entries of a directory are one level further down. -/
theorem within_visitsOf {depth k : Nat} {dir : Path} (hdepth : depth ≤ dir.parts.length + (k + 1))
    (entries : List (String × Bool)) : Within depth k (visitsOf dir entries) := by
  intro path isTop hmem
  unfold visitsOf at hmem
  rcases List.mem_append.mp hmem with hfile | hsub
  · obtain ⟨e, -, he⟩ := List.mem_map.mp hfile
    cases he
  · obtain ⟨e, -, he⟩ := List.mem_map.mp hsub
    cases he
    simp only [Path.child, List.length_append, List.length_singleton]
    omega

/-- Nothing is in a directory that is as deep as the tree. -/
theorem scan_eq_nil {m : Machine} (hm : m.Sane) {depth : Nat}
    (hdepth : ∀ p : Place, depth ≤ p.length → m.tree.names p = []) {dir : Path} (hdir : dir.Direct)
    {entries : List (String × Bool)} (h : m.tree.scan m.home dir = .ok entries)
    (hdeep : depth ≤ dir.parts.length) : entries = [] := by
  obtain ⟨hgiven, p, hentry⟩ := Tree.of_scan_ok h
  obtain ⟨rfl, -⟩ := Machine.Standing.of_entryAt hm.linkless hdir.wellFormed hdir.absolute hdir.plain
    hgiven hentry
  rw [hm.linkless.scan_eq hgiven hentry] at h
  cases h
  unfold Tree.sortedNames
  rw [hdepth _ hdeep, List.mergeSort_nil, List.map_nil]

section

variable {m : Machine} {specs : List RootSpec} {root top : Root}

/-- The cursor lists something, whatever has been seen. -/
def ListsFrom (m : Machine) (specs : List RootSpec) (root top : Root) (vs : List Visit) : Prop :=
  ∀ seen, ∃ ss, Lists m (tidy ⟨specs, some (root, ⟨top, vs⟩), seen⟩) ss

/-- One visit is made; a hidden one is none. -/
theorem ListsFrom.cons {v : Visit} {vs : List Visit}
    (hhidden : shows v = false → ListsFrom m specs root top vs)
    (hvisit : shows v = true →
      ListsFrom m specs root top (visit m false top v (vs.filter shows)).2) :
    ListsFrom m specs root top (v :: vs) := by
  intro seen
  cases hshows : shows v with
  | false =>
    have hsame : tidy ⟨specs, some (root, ⟨top, v :: vs⟩), seen⟩ =
        tidy ⟨specs, some (root, ⟨top, vs⟩), seen⟩ := by simp [tidy, hshows]
    rw [hsame]
    exact hhidden hshows seen
  | true =>
    have hsame : tidy ⟨specs, some (root, ⟨top, v :: vs⟩), seen⟩ =
        ⟨specs, some (root, ⟨top, v :: vs.filter shows⟩),
          seen.filter fun key => !(Path.ofString key).isGenerated⟩ := by simp [tidy, hshows]
    rw [hsame]
    refine exists_lists_of_next fun c' hnext => ?_
    obtain ⟨seen', rfl⟩ := of_next_visit hnext
    exact hvisit hshows seen'

/-- What is to be visited may hold generated files. -/
theorem ListsFrom.filter (before : List Visit) {vs : List Visit} (h : ListsFrom m specs root top (before ++ vs)) :
    ListsFrom m specs root top (before ++ vs.filter shows) := by
  intro seen
  have hsame : tidy ⟨specs, some (root, ⟨top, before ++ vs.filter shows⟩), seen⟩ =
      tidy ⟨specs, some (root, ⟨top, before ++ vs⟩), seen⟩ := by simp [tidy]
  rw [hsame]
  exact h seen

/-- Visits come to an end if those of the entries of each directory do. -/
theorem listsFrom_append_of (hm : m.Sane) {vs rest : List Visit} (hrest : ListsFrom m specs root top rest)
    (hvs : ∀ path isTop entries rest, Visit.directory path isTop ∈ vs →
      m.tree.scan m.home path = .ok entries → ListsFrom m specs root top rest →
      ListsFrom m specs root top (visitsOf path entries ++ rest)) :
    ListsFrom m specs root top (vs ++ rest) := by
  induction vs with
  | nil => exact hrest
  | cons v vs ih =>
    have hnext : ListsFrom m specs root top (vs ++ rest) := ih fun path isTop entries rest hmem =>
      hvs path isTop entries rest (List.mem_cons_of_mem _ hmem)
    refine .cons (fun _ => hnext) fun _ => ?_
    cases v with
    | file dir name =>
      rw [visit_file hm]
      exact ListsFrom.filter [] hnext
    | directory path isTop =>
      cases hscan : m.tree.scan m.home path with
      | error f =>
        rw [visit_unlisted hm isTop hscan]
        exact ListsFrom.filter [] hnext
      | ok entries =>
        rw [visit_listed hm isTop hscan]
        exact (hvs path isTop entries _ (by simp) hscan hnext).filter _

/-- **Visits come to an end.**  The induction is on the levels that are left
    below their directories. -/
theorem listsFrom_append (hm : m.Sane) {depth : Nat}
    (hdepth : ∀ p : Place, depth ≤ p.length → m.tree.names p = []) (k : Nat) {vs rest : List Visit}
    (hvs : ∀ v ∈ vs, SoundVisit m v) (hk : Within depth k vs)
    (hrest : ListsFrom m specs root top rest) : ListsFrom m specs root top (vs ++ rest) := by
  induction k generalizing vs rest with
  | zero =>
    refine listsFrom_append_of hm hrest fun path isTop entries rest hmem hscan hrest => ?_
    have hdirect : path.Direct := hvs _ hmem
    obtain rfl := scan_eq_nil hm hdepth hdirect hscan (hk path isTop hmem)
    exact hrest
  | succ k ih =>
    refine listsFrom_append_of hm hrest fun path isTop entries rest hmem hscan hrest => ?_
    have hdirect : path.Direct := hvs _ hmem
    exact ih (sound_visitsOf hm hdirect hscan) (within_visitsOf (hk path isTop hmem) entries) hrest

/-- The visits below a root come to an end, and then those below the next one. -/
theorem listsFrom_of_specs (hm : m.Sane) {vs : List Visit} (hvs : ∀ v ∈ vs, SoundVisit m v)
    (hspecs : ∀ seen, ∃ ss, Lists m (tidy ⟨specs, none, seen⟩) ss) :
    ListsFrom m specs root top vs := by
  obtain ⟨depth, hdepth⟩ := m.tree.exists_depth
  have hnil : ListsFrom m specs root top [] := by
    intro seen
    obtain ⟨ss, hss⟩ := hspecs (seen.filter fun key => !(Path.ofString key).isGenerated)
    exact ⟨ss, .skip (find_of_walked_skip rfl) hss⟩
  have hwithin : Within depth depth vs := by
    intro path isTop _
    omega
  have hall := listsFrom_append hm hdepth depth hvs hwithin hnil
  rwa [List.append_nil] at hall

/-- Below each root the visits come to an end. -/
theorem exists_lists_of_specs (hm : m.Sane) {specs : List RootSpec}
    (hspecs : ∀ spec ∈ specs, (spec.baseDir / spec.root).WellFormed) (seen : List String) :
    ∃ ss, Lists m (tidy ⟨specs, none, seen⟩) ss := by
  induction specs generalizing seen with
  | nil => exact ⟨[], .done rfl⟩
  | cons spec specs ih =>
    have hrest : ∀ seen, ∃ ss, Lists m (tidy ⟨specs, none, seen⟩) ss :=
      ih fun spec hspec => hspecs spec (List.mem_cons_of_mem _ hspec)
    refine exists_lists_of_next fun c' hnext => ?_
    cases hroot : spec.normalize m with
    | error f =>
      rcases walked_of_next hnext with hskip | ⟨e, hitem⟩
      · cases (walked_refused hroot).symm.trans hskip
        exact hrest _
      · cases (walked_refused hroot).symm.trans hitem
    | ok root =>
      rcases walked_of_next hnext with hskip | ⟨e, hitem⟩
      · cases (walked_root hroot).symm.trans hskip
        have hdirect := hm.direct_absolute (hspecs spec (by simp))
        rw [← path_of_normalize hroot] at hdirect
        -- The first visit of a root is the root, as a directory.
        have hvisits : ∀ v ∈ [Visit.directory root.path true], SoundVisit m v := by
          intro v hv
          rw [List.mem_singleton.mp hv]
          exact hdirect
        exact listsFrom_of_specs hm hvisits hrest _
      · cases (walked_root hroot).symm.trans hitem

end

/-- **A sound cursor lists sinks.** -/
theorem exists_lists {m : Machine} (hm : m.Sane) {c : SinkCursor} (hc : SoundAt m c) :
    ∃ ss, Lists m (tidy c) ss := by
  obtain ⟨specs, current, seen⟩ := c
  have hspecs := exists_lists_of_specs hm hc.specs
  cases current with
  | none => exact hspecs seen
  | some p =>
    obtain ⟨root, top, vs⟩ := p
    exact listsFrom_of_specs hm (hc.visits root _ rfl) hspecs seen

/-! ### Finding the sinks of a list -/

/-- The discovery moves from one cursor to another without giving a sink. -/
inductive Moves (m : Machine) : SinkCursor → SinkCursor → Prop
  | here {c : SinkCursor} : Moves m c c
  | on {c c' c'' : SinkCursor} : find m c = .skip c' → Moves m c' c'' → Moves m c c''

/-- The discovery moves over generated files. -/
theorem exists_ready {m : Machine} (hm : m.Sane) {c : SinkCursor} (hc : SoundAt m c) :
    ∃ c', Moves m c c' ∧ tidy c' = tidy c ∧ SoundAt m c' ∧ Ready c' := by
  obtain ⟨specs, current, seen⟩ := c
  cases current with
  | none => exact ⟨_, .here, rfl, hc, fun root top v pending h => by cases h⟩
  | some p =>
    obtain ⟨root, top, vs⟩ := p
    induction vs generalizing seen with
    | nil => exact ⟨_, .here, rfl, hc, fun root top v pending h => by cases h⟩
    | cons v vs ih =>
      cases hshows : shows v with
      | true =>
        refine ⟨_, .here, rfl, hc, fun root' top' w pending h => ?_⟩
        cases h
        exact hshows
      | false =>
        have hv := hc.visits root _ rfl v (by simp)
        -- A hidden visit is passed over, and the tidy form stays the same.
        obtain ⟨seen', hfind, htidy⟩ := find_hidden hm specs root top vs seen hv hshows
        have hnext : SoundAt m ⟨specs, some (root, ⟨top, vs⟩), seen'⟩ := by
          refine ⟨hc.specs, fun root' g h w hw => ?_⟩
          cases h
          exact hc.visits root _ rfl w (List.mem_cons_of_mem _ hw)
        obtain ⟨c', hmoves, hsame, hsound, hready⟩ := ih seen' hnext
        exact ⟨c', .on hfind hmoves, hsame.trans htidy, hsound, hready⟩

theorem Moves.trans {m : Machine} {c c' c'' : SinkCursor} (h : Moves m c c') (h' : Moves m c' c'') :
    Moves m c c'' := by
  induction h with
  | here => exact h'
  | on hfind _ ih => exact .on hfind (ih h')

/-- On a machine that is alike the discovery moves to where it does what it does
    from the tidy form, and stays sound. -/
theorem exists_matches {m m' : Machine} (hm : m.Sane) (hm' : m'.Sane) (halike : m.Alike m')
    {c : SinkCursor} (hc : SoundAt m' c) :
    ∃ c', Moves m' c c' ∧ Matches (find m (tidy c)) (find m' c') ∧
      SoundPoll m' (fun s => ∃ dir name, FoundAt m' dir name s) (find m' c') := by
  obtain ⟨c', hmoves, hsame, hsound, hready⟩ := exists_ready hm' hc
  have hmatches := find_alike hm hm' halike hsound hready
  rw [hsame] at hmatches
  exact ⟨c', hmoves, hmatches, sound_find hm' hsound⟩

/-- **The sinks of a list are found** on a machine that is alike.  If there is
    none left, the discovery moves to its end.  If not, it moves to the first
    one, and the rest of the list is that of the cursor after it. -/
theorem moves_of_lists {m m' : Machine} (hm : m.Sane) (hm' : m'.Sane) (halike : m.Alike m')
    {c : SinkCursor} (hc : SoundAt m' c) {ss : List FileSink} (h : Lists m (tidy c) ss) :
    ∃ c', Moves m' c c' ∧
      (ss = [] ∧ find m' c' = .done ∨
        ∃ s rest next dir name, ss = s :: rest ∧ find m' c' = .item s next ∧ SoundAt m' next ∧
          Lists m (tidy next) rest ∧ FoundAt m' dir name s) := by
  generalize hstart : tidy c = start at h
  -- Over the steps on the first machine, each of which the other one answers.
  induction h generalizing c with
  | done hfind =>
    subst hstart
    obtain ⟨c', hmoves, hmatches, -⟩ := exists_matches hm hm' halike hc
    rw [hfind] at hmatches
    generalize hfind' : find m' c' = p at hmatches
    cases hmatches
    exact ⟨c', hmoves, .inl ⟨rfl, hfind'⟩⟩
  | @skip start next ss hfind hrest ih =>
    subst hstart
    obtain ⟨c', hmoves, hmatches, hkept⟩ := exists_matches hm hm' halike hc
    rw [hfind] at hmatches
    generalize hfind' : find m' c' = p at hmatches hkept
    cases hmatches with
    | skip hnext =>
      cases hkept with
      | skip hsound' =>
        obtain ⟨c'', hmoves', hend⟩ := ih hsound' hnext
        exact ⟨c'', hmoves.trans (.on hfind' hmoves'), hend⟩
  | @item start next s ss hfind hrest ih =>
    subst hstart
    obtain ⟨c', hmoves, hmatches, hkept⟩ := exists_matches hm hm' halike hc
    rw [hfind] at hmatches
    generalize hfind' : find m' c' = p at hmatches hkept
    cases hmatches with
    | @item _ _ next' hnext =>
      cases hkept with
      | item hsound' hfound =>
        obtain ⟨dir, name, hfound⟩ := hfound
        refine ⟨c', hmoves, .inr ⟨s, ss, next', dir, name, rfl, hfind', hsound', ?_, hfound⟩⟩
        rwa [hnext]

/-! ### Taking the sinks of a list -/

section

variable {ν γ ι β : Type} {source : Source (Site ν) γ ι} {onItem : ι → Act (Site ν) β}
  {C : SinkCursor → γ → Prop}

/-- A source that moves on as the discovery does takes what it takes from where
    the discovery moves to. -/
theorem takes_of_moves
    (hskip : ∀ (s : Site ν) {c c' : SinkCursor}, find s.machine c = .skip c' → ∃ refused, ∀ x, C c x →
      (source.step x).Gives s (fun p => ∃ x', p = .skip x' ∧ C c' x') { s with refused := refused })
    {s : Site ν} {c c' : SinkCursor} (hmoves : Moves s.machine c c') {R : List β → Prop}
    {fault : Option Fault} {after : Machine} {h : List (String × Json)}
    (hrest : ∀ refused, ∃ n refused', source.Takes onItem n { s with refused := refused } (C c') R fault
      { s with machine := after, refused := refused' } h) :
    ∃ n refused', source.Takes onItem n s (C c) R fault
      { s with machine := after, refused := refused' } h := by
  generalize hmachine : s.machine = m at hmoves
  induction hmoves generalizing s with
  | here => exact hrest s.refused
  | on hfind _ ih =>
    obtain ⟨refused, hstep⟩ := hskip s (hmachine ▸ hfind)
    obtain ⟨n, refused', hn⟩ := ih (s := { s with refused := refused }) hrest hmachine
    exact ⟨n + 1, refused', Source.takes_skip hstep hn⟩

end

/-- A discovery of its own gives the sinks, whatever the fuel if it is enough,
    and changes nothing but the list of refused roots. -/
def Discovers (ν : Type) (m : Machine) (specs : List RootSpec) (ss : List FileSink) : Prop :=
  ∀ refused (notes : ν), ∃ n refused', ∀ fuel, n ≤ fuel → ∀ d, ∃ d',
    ((sinks (some skipGenerated) (some keepRefused)).takeWith pure fuel none { specs := specs }
        []).runOn d ⟨m, refused, notes⟩ =
      (.ok ⟨ss, none⟩, d', ⟨m, refused', notes⟩)

/-- What a discovery of its own gives is one list only. -/
theorem Discovers.unique {ν : Type} (notes : ν) {m : Machine} {specs : List RootSpec}
    {ss ss' : List FileSink} (h : Discovers ν m specs ss) (h' : Discovers ν m specs ss') :
    ss' = ss := by
  obtain ⟨n, refused, hn⟩ := h [] notes
  obtain ⟨n', refused', hn'⟩ := h' [] notes
  -- Both runs are the same run, with fuel that is enough for either.
  obtain ⟨d, hrun⟩ := hn (max n n') (Nat.le_max_left _ _) {}
  obtain ⟨d', hrun'⟩ := hn' (max n n') (Nat.le_max_right _ _) {}
  have hsame := hrun'.symm.trans hrun
  simp only [Prod.mk.injEq, Except.ok.injEq, Source.Taken.mk.injEq] at hsame
  exact hsame.1.1

/-- The discovery moves on by itself. -/
theorem skips_of_find {ν : Type} (s : Site ν) {c c' : SinkCursor} (hfind : find s.machine c = .skip c') :
    ∃ refused, ∀ x, x = c → ((sinks (some skipGenerated) (some keepRefused)).step x).Gives s
      (fun p => ∃ x', p = .skip x' ∧ x' = c') { s with refused := refused } := by
  obtain ⟨refused, hstep⟩ := ends_find c s
  refine ⟨refused, ?_⟩
  rintro x rfl
  rw [hfind] at hstep
  intro d
  obtain ⟨d', hrun, hcourse⟩ := hstep d
  exact ⟨_, d', hrun, ⟨c', rfl, rfl⟩, hcourse⟩

/-- The discovery gives a sink by itself. -/
theorem gives_of_find {ν : Type} (s : Site ν) {c c' : SinkCursor} {found : FileSink}
    (hfind : find s.machine c = .item found c') :
    ∃ refused, ∀ x, x = c → ((sinks (some skipGenerated) (some keepRefused)).step x).Gives s
      (fun p => ∃ i x', p = .item i x' ∧ i = found ∧ x' = c') { s with refused := refused } := by
  obtain ⟨refused, hstep⟩ := ends_find c s
  refine ⟨refused, ?_⟩
  rintro x rfl
  rw [hfind] at hstep
  intro d
  obtain ⟨d', hrun, hcourse⟩ := hstep d
  exact ⟨_, d', hrun, ⟨found, c', rfl, rfl, rfl⟩, hcourse⟩

/-- The sinks of a list are taken from a discovery of its own. -/
theorem takes_of_lists {ν : Type} {s : Site ν} (hm : s.machine.Sane) {ss : List FileSink}
    {c : SinkCursor} (hc : SoundAt s.machine c) (h : Lists s.machine (tidy c) ss) :
    ∃ n refused, (sinks (some skipGenerated) (some keepRefused)).Takes pure n s (· = c) (· = ss) none
      { s with refused := refused } := by
  induction ss generalizing c s with
  | nil =>
    obtain ⟨c', hmoves, ⟨-, hdone⟩ | ⟨s', rest, next, dir, name, hcons, -⟩⟩ :=
      moves_of_lists hm hm (.refl _) hc h
    · refine takes_of_moves (C := fun c x => x = c) skips_of_find hmoves fun refused => ?_
      obtain ⟨refused', hstep⟩ := ends_find c' { s with refused := refused }
      refine ⟨1, refused', Source.takes_done ?_⟩
      rintro _ rfl
      rwa [hdone] at hstep
    · cases hcons
  | cons found ss ih =>
    obtain ⟨c', hmoves, ⟨hnil, -⟩ | ⟨_, _, next, dir, name, hcons, hfind, hsound, hrest, -⟩⟩ :=
      moves_of_lists hm hm (.refl _) hc h
    · cases hnil
    · cases hcons
      refine takes_of_moves (C := fun c x => x = c) skips_of_find hmoves fun refused => ?_
      obtain ⟨refused', hstep⟩ := gives_of_find { s with refused := refused } hfind
      obtain ⟨n, refused'', hn⟩ := ih (s := { s with refused := refused' }) hm hsound hrest
      refine ⟨n + 1, refused'', ?_⟩
      have htakes := Source.takes_item hstep
        (fun i hi => Act.gives_pure (R := (· = found)) hi _) hn
      refine htakes.mono ?_
      rintro items ⟨b, rest, rfl, rfl, rfl⟩
      rfl

/-- A discovery of its own gives what is taken from it. -/
theorem discovers_of_takes {ν : Type} {m : Machine} {specs : List RootSpec} {ss : List FileSink}
    (h : ∀ refused (notes : ν), ∃ n refused', (sinks (some skipGenerated) (some keepRefused)).Takes
      pure n ⟨m, refused, notes⟩ (· = { specs := specs }) (· = ss) none ⟨m, refused', notes⟩) :
    Discovers ν m specs ss := by
  intro refused notes
  obtain ⟨n, refused', hn⟩ := h refused notes
  refine ⟨n, refused', fun fuel hfuel d => ?_⟩
  obtain ⟨⟨items, fault⟩, d', hrun, ⟨hfault, _, rfl, hitems⟩, -⟩ := hn fuel hfuel _ rfl [] d
  dsimp only at hfault hitems
  rw [hfault, hitems] at hrun
  exact ⟨d', hrun⟩

/-- **What a machine lists is what a discovery of its own gives.** -/
theorem discovers_of_lists {ν : Type} {m : Machine} (hm : m.Sane) {specs : List RootSpec}
    (hspecs : ∀ spec ∈ specs, (spec.baseDir / spec.root).WellFormed) {ss : List FileSink}
    (h : Lists m (tidy { specs := specs }) ss) : Discovers ν m specs ss := by
  have hsound : SoundAt m { specs := specs } := ⟨hspecs, fun root g hg => by cases hg⟩
  refine discovers_of_takes fun refused notes => ?_
  exact takes_of_lists (s := ⟨m, refused, notes⟩) hm hsound h

end Pipeline

end SinkPipeline
