import SinkPipeline.Proofs.Discovery.Stepping
import SinkPipeline.Proofs.Output.Replacing
import SinkPipeline.Proofs.Process.Handing

/-! # Discovering while files are generated

  Generated files come and go while a discovery is under way, so a cursor may
  have more or fewer of them still to visit.  A **tidy** cursor has none.

  - A visit of a generated file gives no sink, and leaves the tidy form of the
    cursor as it was.
  - Any other step gives the same sink as from the tidy form, on all alike
    machines, and cursors of the same tidy form.

  What is visited can be relied on: directories are named by direct paths, and
  the directory of a file is there.
-/

namespace SinkPipeline

/-! ### What a discovery can rely on -/

/-- A name that a directory can have, and that can be handed over. -/
structure Tree.LegalName (name : String) : Prop where
  /-- It can be a part of a path. -/
  isPart : Path.IsPart name
  /-- It is not that of the directory above. -/
  ne_up : name ≠ ".."
  /-- It can be handed over. -/
  given : Tree.refusal? name = none

instance (name : String) : Decidable (Tree.LegalName name) :=
  decidable_of_iff (Path.IsPart name ∧ name ≠ ".." ∧ Tree.refusal? name = none)
    ⟨fun h => ⟨h.1, h.2.1, h.2.2⟩, fun h => ⟨h.isPart, h.ne_up, h.given⟩⟩

/-- A name in a directory is one of those of a place. -/
theorem Tree.exists_of_mem_names {t : Tree} {dir : Place} {name : String} (h : name ∈ t.names dir) :
    ∃ e ∈ t.entries, name ∈ e.1 := by
  obtain ⟨e, hmem, hlast⟩ := List.mem_filterMap.mp h
  split at hlast
  · exact ⟨e, hmem, List.mem_of_getLast? hlast⟩
  · cases hlast

/-- A machine as an operating system keeps it, without links. -/
structure Machine.Sane (m : Machine) : Prop where
  /-- There are no links. -/
  linkless : m.tree.Linkless
  /-- All names are legal. -/
  legal : ∀ dir, ∀ name ∈ m.tree.names dir, Tree.LegalName name
  /-- The working directory has legal parts. -/
  cwd : m.cwd.WellFormed
  /-- The working directory is absolute. -/
  absolute : m.cwd.isAbsolute = true
  /-- The variables can be handed over. -/
  env : m.env.Legal

/-- A machine that works in the root directory and has only files is one, if their
    names are legal. -/
theorem Machine.sane_of_files {m : Machine} (hcwd : m.cwd = ⟨.root, []⟩) (henv : m.env = [])
    (hfiles : ∀ e ∈ m.tree.entries, ∃ f, e.2 = .file f)
    (hlegal : ∀ e ∈ m.tree.entries, ∀ name ∈ e.1, Tree.LegalName name) : m.Sane where
  linkless := Tree.linkless_of_files hfiles
  legal := by
    intro dir name hname
    obtain ⟨e, hmem, hplace⟩ := Tree.exists_of_mem_names hname
    exact hlegal e hmem name hplace
  cwd := by
    rw [hcwd]
    intro part hpart
    cases hpart
  absolute := by rw [hcwd]; rfl
  env := by
    rw [henv]
    intro p hp
    cases hp

/-- An absolute path spells the place that it leads to. -/
structure Path.Direct (p : Path) : Prop where
  /-- Its parts are legal. -/
  wellFormed : p.WellFormed
  /-- It is absolute. -/
  absolute : p.isAbsolute = true
  /-- It has no double points. -/
  plain : ".." ∉ p.parts

theorem Path.mem_collapse {part : String} {acc parts : List String}
    (h : part ∈ collapse acc parts) : (part ∈ acc ∨ part ∈ parts) ∧ (part = ".." → part ∈ acc) := by
  fun_induction collapse acc parts with
  | case1 acc =>
    have hacc : part ∈ acc := by simpa using h
    exact ⟨.inl hacc, fun _ => hacc⟩
  | case2 acc parts ih =>
    obtain ⟨hmem, hup⟩ := ih h
    refine ⟨?_, fun hpart => List.mem_of_mem_tail (hup hpart)⟩
    rcases hmem with hacc | hparts
    · exact .inl (List.mem_of_mem_tail hacc)
    · exact .inr (List.mem_cons_of_mem _ hparts)
  | case3 acc name parts hname ih =>
    obtain ⟨hmem, hup⟩ := ih h
    constructor
    · rcases hmem with hacc | hparts
      · rcases List.mem_cons.mp hacc with rfl | hacc
        · exact .inr (by simp)
        · exact .inl hacc
      · exact .inr (List.mem_cons_of_mem _ hparts)
    · intro hpart
      rcases List.mem_cons.mp (hup hpart) with hsame | hacc
      · exact absurd (hsame.symm.trans hpart) hname
      · exact hacc

/-- The absolute path that a path means, seen from an absolute one, is direct. -/
theorem Path.direct_absolute {cwd p : Path} (hcwd : cwd.WellFormed) (habsolute : cwd.isAbsolute = true)
    (hp : p.WellFormed) : (absolute cwd p).Direct := by
  have hjoin : (cwd / p).WellFormed := hcwd.join hp
  refine ⟨?_, isAbsolute_absolute habsolute p, ?_⟩
  · intro part hpart
    rcases (mem_collapse hpart).1 with hacc | hparts
    · simp at hacc
    · exact hjoin part hparts
  · intro hup
    simpa using (mem_collapse hup).2 rfl

theorem Machine.Sane.direct_absolute {m : Machine} (hm : m.Sane) {p : Path} (hp : p.WellFormed) :
    (m.absolute p).Direct := Path.direct_absolute hm.cwd hm.absolute hp

theorem Path.Direct.child {p : Path} (h : p.Direct) {name : String} (hname : Tree.LegalName name) :
    (p.child name).Direct := by
  refine ⟨h.wellFormed.child hname.isPart, h.absolute, ?_⟩
  simpa [Path.child] using ⟨h.plain, hname.ne_up.symm⟩

namespace Pipeline

open DirectoryWalk (Visit visit visitsOf)

/-- A visit that can be relied on: the directory of a file is there. -/
def SoundVisit (m : Machine) : Visit → Prop
  | .directory path _ => path.Direct
  | .file dir name => m.Standing dir ∧ Tree.LegalName name

/-- A cursor that can be relied on. -/
structure SoundAt (m : Machine) (c : SinkCursor) : Prop where
  /-- The roots to come have legal parts. -/
  specs : ∀ spec ∈ c.specs, (spec.baseDir / spec.root).WellFormed
  /-- The visits to come are sound. -/
  visits : ∀ root g, c.current = some (root, g) → ∀ v ∈ g.pending, SoundVisit m v

theorem SoundVisit.alike {m m' : Machine} (hm : m.Sane) (halike : m.Alike m') {v : Visit}
    (h : SoundVisit m v) : SoundVisit m' v := by
  cases v with
  | directory path top => exact h
  | file dir name => exact ⟨h.1.alike hm.linkless halike, h.2⟩

theorem SoundAt.alike {m m' : Machine} (hm : m.Sane) (halike : m.Alike m') {c : SinkCursor}
    (h : SoundAt m c) : SoundAt m' c :=
  ⟨h.specs, fun root g hg v hv => (h.visits root g hg v hv).alike hm halike⟩

/-- A root that was normalized has the absolute path that was asked for. -/
theorem path_of_normalize {m : Machine} {spec : RootSpec} {root : Root}
    (h : spec.normalize m = .ok root) : root.path = m.absolute (spec.baseDir / spec.root) :=
  (RootSpec.normalize_eq_ok_iff.mp h).1

/-- The entries of a directory that was listed are sound visits. -/
theorem sound_visitsOf {m : Machine} (hm : m.Sane) {dir : Path} (hdir : dir.Direct)
    {entries : List (String × Bool)} (h : m.tree.scan m.home dir = .ok entries) :
    ∀ v ∈ visitsOf dir entries, SoundVisit m v := by
  obtain ⟨hgiven, p, hentry⟩ := Tree.of_scan_ok h
  obtain ⟨rfl, hstanding⟩ := Machine.Standing.of_entryAt hm.linkless hdir.wellFormed hdir.absolute
    hdir.plain hgiven hentry
  rw [hm.linkless.scan_eq hgiven hentry] at h
  cases h
  have hlegal : ∀ name ∈ m.tree.sortedNames dir.parts, Tree.LegalName name := by
    intro name hname
    exact hm.legal _ name (List.mem_mergeSort.mp hname)
  intro v hv
  unfold visitsOf at hv
  rcases List.mem_append.mp hv with hfile | hsub
  · obtain ⟨e, he, rfl⟩ := List.mem_map.mp hfile
    obtain ⟨name, hname, rfl⟩ := List.mem_map.mp (List.mem_of_mem_filter he)
    exact ⟨hstanding, hlegal name hname⟩
  · obtain ⟨e, he, rfl⟩ := List.mem_map.mp hsub
    obtain ⟨name, hname, rfl⟩ := List.mem_map.mp (List.mem_of_mem_filter he)
    exact hdir.child (hlegal name hname)

section

variable {m : Machine} {top : Root} {pending : List Visit} {path : Path}

/-- A directory that can be listed is replaced by its entries. -/
theorem visit_listed (hm : m.Sane) (isTop : Bool) {entries : List (String × Bool)}
    (h : m.tree.scan m.home path = .ok entries) :
    visit m false top (.directory path isTop) pending = (none, visitsOf path entries ++ pending) := by
  simp [visit, hm.linkless.looksLink, h]

/-- A directory that cannot be listed is passed over. -/
theorem visit_unlisted (hm : m.Sane) (isTop : Bool) {f : Fault}
    (h : m.tree.scan m.home path = .error f) :
    visit m false top (.directory path isTop) pending = (none, pending) := by
  simp [visit, hm.linkless.looksLink, h]

/-- A file is given if it is accepted. -/
theorem visit_file (hm : m.Sane) (top : Root) (dir : Path) (name : String) (pending : List Visit) :
    visit m false top (.file dir name) pending =
      (if !m.tree.looksDir m.home (dir.child name).toString &&
          top.accepts (dir.child name).toString then
        some ⟨dir.child name, name, false⟩ else none, pending) := by
  simp only [visit, hm.linkless.looksLink]
  split <;> rfl

end

/-- What a visit gives: a file that was to be visited, or sound visits. -/
theorem sound_visit {m : Machine} (hm : m.Sane) (top : Root) {v : Visit} {pending : List Visit}
    (hv : SoundVisit m v) (hpending : ∀ v ∈ pending, SoundVisit m v) :
    (∀ w ∈ (visit m false top v pending).2, SoundVisit m w) ∧
      ∀ f, (visit m false top v pending).1 = some f →
        ∃ dir name, v = .file dir name ∧ f = ⟨dir.child name, name, false⟩ := by
  cases v with
  | directory path isTop =>
    cases hscan : m.tree.scan m.home path with
    | ok entries =>
      rw [visit_listed hm isTop hscan]
      refine ⟨fun w hmem => ?_, by simp⟩
      rcases List.mem_append.mp hmem with hnew | hold
      · exact sound_visitsOf hm hv hscan w hnew
      · exact hpending w hold
    | error f =>
      rw [visit_unlisted hm isTop hscan]
      exact ⟨hpending, by simp⟩
  | file dir name =>
    rw [visit_file hm]
    refine ⟨hpending, fun f hf => ?_⟩
    dsimp only at hf
    split at hf
    · cases hf
      exact ⟨dir, name, rfl, rfl⟩
    · cases hf

/-- The cursor after the step is sound, and the item, if there is one, has the
    property. -/
inductive SoundPoll (m : Machine) {ι : Type} (P : ι → Prop) : Poll SinkCursor ι → Prop
  | done : SoundPoll m P .done
  | skip {c : SinkCursor} : SoundAt m c → SoundPoll m P (.skip c)
  | item {i : ι} {c : SinkCursor} : SoundAt m c → P i → SoundPoll m P (.item i c)

/-- The file was encountered in a directory that is there. -/
structure EncounteredAt (m : Machine) (dir : Path) (name : String)
    (e : Encountered Root FoundFile String) : Prop where
  /-- The directory is there. -/
  standing : m.Standing dir
  /-- The name is legal. -/
  legal : Tree.LegalName name
  /-- It is the file of that name in the directory. -/
  item : e.item = ⟨dir.child name, name, false⟩
  /-- It is known by its path. -/
  key : e.key = (dir.child name).toString

/-- Beginning with the next root, if there is one, leads to a sound cursor. -/
theorem sound_walked_next {m : Machine} (hm : m.Sane) {P : Encountered Root FoundFile String → Prop}
    {specs : List RootSpec} (hspecs : ∀ spec ∈ specs, (spec.baseDir / spec.root).WellFormed)
    (seen : List String) : SoundPoll m P (walked m ⟨specs, none, seen⟩) := by
  cases specs with
  | nil => exact .done
  | cons spec specs =>
    obtain ⟨hspec, hrest⟩ := List.forall_mem_cons.mp hspecs
    cases hroot : spec.normalize m with
    | error f =>
      rw [walked_refused hroot]
      exact .skip ⟨hrest, by simp⟩
    | ok root =>
      rw [walked_root hroot]
      refine .skip ⟨hrest, ?_⟩
      intro root' g hcurrent v hv
      cases hcurrent
      obtain rfl := List.mem_singleton.mp hv
      show root.path.Direct
      rw [path_of_normalize hroot]
      exact hm.direct_absolute hspec

/-- **A step of the walk from a sound cursor** leads to a sound cursor, and gives
    files of directories that are there. -/
theorem sound_walked {m : Machine} (hm : m.Sane) {c : SinkCursor} (hc : SoundAt m c) :
    SoundPoll m (fun e => ∃ dir name, EncounteredAt m dir name e) (walked m c) := by
  obtain ⟨specs, current, seen⟩ := c
  obtain ⟨hspecs, hvisits⟩ := hc
  match current with
  | none => exact sound_walked_next hm hspecs seen
  | some (root, ⟨top, []⟩) => exact .skip ⟨hspecs, by simp⟩
  | some (root, ⟨top, v :: pending⟩) =>
    obtain ⟨hv, hpending⟩ := List.forall_mem_cons.mp (hvisits root _ rfl)
    obtain ⟨hnext, hfile⟩ := sound_visit hm top hv hpending
    have hcursor : ∀ {rest : List Visit} {seen : List String}, (∀ w ∈ rest, SoundVisit m w) →
        SoundAt m ⟨specs, some (root, ⟨top, rest⟩), seen⟩ := by
      intro rest seen hrest
      refine ⟨hspecs, ?_⟩
      intro root' g hcurrent w hw
      cases hcurrent
      exact hrest w hw
    -- What the visit gives is passed over unless it is a file with a new key.
    rcases hvisit : visit m false top v pending with ⟨f, rest⟩
    rw [hvisit] at hnext hfile
    cases f with
    | none =>
      rw [walked_none hvisit]
      exact .skip (hcursor hnext)
    | some f =>
      cases hseen : seen.contains f.path.toString with
      | true =>
        rw [walked_seen hvisit hseen]
        exact .skip (hcursor hnext)
      | false =>
        rw [walked_new hvisit hseen]
        obtain ⟨dir, name, rfl, rfl⟩ := hfile f rfl
        exact .item (hcursor hnext) ⟨dir, name, hv.1, hv.2, rfl, rfl⟩

/-! ### Tidy cursors -/

/-- Is the visit none of a generated file? -/
def shows : Visit → Bool
  | .directory .. => true
  | .file _ name => !SinkName.isGenerated name

/-- The cursor without generated files. -/
def tidy (c : SinkCursor) : SinkCursor where
  specs := c.specs
  current := c.current.map fun p => (p.1, ⟨p.2.root, p.2.pending.filter shows⟩)
  seen := c.seen.filter fun key => !(Path.ofString key).isGenerated

/-- The visits of a directory's entries, generated files left out. -/
theorem filter_visitsOf (dir : Path) (entries : List (String × Bool)) :
    (visitsOf dir entries).filter shows = visitsOf dir (entries.filter Tree.keeps) := by
  unfold visitsOf
  rw [List.filter_append, List.filter_map, List.filter_map, List.filter_filter, List.filter_filter,
    List.filter_filter, List.filter_filter]
  congr 2
  · refine List.filter_congr fun e _ => ?_
    cases h : e.2 <;> simp [shows, Tree.keeps, h]
  · refine List.filter_congr fun e _ => ?_
    cases h : e.2 <;> simp [shows, Tree.keeps, h]

/-- **A visit that shows gives the same** on alike machines, whatever generated
    files are still to be visited. -/
theorem visit_alike {m m' : Machine} (hm : m.Sane) (hm' : m'.Sane) (halike : m.Alike m')
    (top : Root) {v : Visit} (hv : SoundVisit m v) (hshows : shows v = true)
    {pending pending' : List Visit} (hpending : pending'.filter shows = pending.filter shows) :
    (visit m' false top v pending').1 = (visit m false top v pending).1 ∧
      (visit m' false top v pending').2.filter shows =
        (visit m false top v pending).2.filter shows := by
  cases v with
  | directory path isTop =>
    cases hscan : m.tree.scan m.home path with
    | ok entries =>
      obtain ⟨entries', hscan', hkept⟩ := halike.tree.scan hm.linkless hscan
      rw [← halike.home] at hscan'
      rw [visit_listed hm isTop hscan, visit_listed hm' isTop hscan']
      refine ⟨rfl, ?_⟩
      dsimp only
      rw [List.filter_append, List.filter_append, filter_visitsOf, filter_visitsOf, hkept, hpending]
    | error f =>
      -- Neither machine can list it: a listing on one would give one on the other.
      cases hscan' : m'.tree.scan m'.home path with
      | ok entries' =>
        obtain ⟨entries, hlisted, -⟩ := halike.symm.tree.scan hm'.linkless hscan'
        rw [halike.home, hscan] at hlisted
        cases hlisted
      | error f' =>
        rw [visit_unlisted hm isTop hscan, visit_unlisted hm' isTop hscan']
        exact ⟨rfl, hpending⟩
  | file dir name =>
    have hgen : SinkName.isGenerated name = false := by simpa [shows] using hshows
    have hspared : ¬m.tree.NamesGenerated m.home (dir.child name).toString := by
      rintro ⟨hlast, -⟩
      rw [Path.ofString_toString (hv.1.wellFormed.child hv.2.isPart)] at hlast
      simp [hgen] at hlast
    have hlooks := halike.tree.looksDir hm.linkless hspared
    rw [← halike.home] at hlooks
    rw [visit_file hm, visit_file hm', hlooks, halike.home]
    exact ⟨rfl, hpending⟩

/-- The steps give the same, and cursors of the same tidy form. -/
inductive Matches {ι : Type} : Poll SinkCursor ι → Poll SinkCursor ι → Prop
  | done : Matches .done .done
  | skip {c c' : SinkCursor} : tidy c' = tidy c → Matches (.skip c) (.skip c')
  | item (i : ι) {c c' : SinkCursor} : tidy c' = tidy c → Matches (.item i c) (.item i c')

/-- Is the next visit, if there is one, none of a generated file? -/
def Ready (c : SinkCursor) : Prop :=
  ∀ root top v pending, c.current = some (root, ⟨top, v :: pending⟩) → shows v = true

/-- A root that was normalized is a directory. -/
theorem entryAt_of_normalize {m : Machine} {spec : RootSpec} {root : Root}
    (h : spec.normalize m = .ok root) :
    ∃ dir, m.tree.entryAt m.home true (m.absolute (spec.baseDir / spec.root)).toString =
      .ok (dir, .dir) := by
  obtain ⟨hpath, hstat, -⟩ := RootSpec.normalize_eq_ok_iff.mp h
  rw [← hpath]
  exact (Tree.entryAt_of_stat hstat).2

/-- **Roots are normalized alike**, or refused both times. -/
theorem normalize_alike {m m' : Machine} (hm : m.Sane) (halike : m.Alike m') (spec : RootSpec) :
    spec.normalize m' = spec.normalize m ∨
      ∃ f f', spec.normalize m = .error f ∧ spec.normalize m' = .error f' := by
  by_cases hnames : m.tree.NamesGenerated m.home (m.absolute (spec.baseDir / spec.root)).toString
  · -- No directory is there: the root is refused.
    right
    cases hroot : spec.normalize m with
    | ok root =>
      obtain ⟨dir, hentry⟩ := entryAt_of_normalize hroot
      exact absurd hentry (hnames.2 dir)
    | error f =>
      cases hroot' : spec.normalize m' with
      | ok root =>
        obtain ⟨dir, hentry⟩ := entryAt_of_normalize hroot'
        have hback := halike.symm.tree.entryAt_dir (halike.tree.linkless hm.linkless) hentry
        rw [halike.home, halike.absolute] at hback
        exact absurd hback (hnames.2 dir)
      | error f' => exact ⟨f, f', rfl, rfl⟩
  · left
    unfold RootSpec.normalize Tree.exists? Tree.isDir?
    simp only [halike.absolute, halike.home, halike.tree.holds hm.linkless hnames]

/-- A step of the walk that moves on is one of the discovery. -/
theorem find_of_walked_skip {m : Machine} {c c' : SinkCursor} (h : walked m c = .skip c') :
    find m c = .skip c' := by
  unfold find
  rw [h]

/-- **A visit of a generated file** gives no sink, and leaves the tidy form. -/
theorem find_hidden {m : Machine} (hm : m.Sane) (specs : List RootSpec) (root top : Root) {v : Visit}
    (pending : List Visit) (seen : List String) (hv : SoundVisit m v) (hhidden : shows v = false) :
    ∃ seen', find m ⟨specs, some (root, ⟨top, v :: pending⟩), seen⟩ =
        .skip ⟨specs, some (root, ⟨top, pending⟩), seen'⟩ ∧
      tidy ⟨specs, some (root, ⟨top, pending⟩), seen'⟩ =
        tidy ⟨specs, some (root, ⟨top, v :: pending⟩), seen⟩ := by
  cases v with
  | directory path isTop => cases hhidden
  | file dir name =>
    have hgen : SinkName.isGenerated name = true := by simpa [shows] using hhidden
    have hkey : (Path.ofString (dir.child name).toString).isGenerated = true := by
      rw [Path.ofString_toString (hv.1.wellFormed.child hv.2.isPart)]
      simpa using hgen
    have hfile := visit_file hm top dir name pending
    cases haccepted : !m.tree.looksDir m.home (dir.child name).toString &&
        top.accepts (dir.child name).toString with
    | false =>
      rw [haccepted] at hfile
      exact ⟨seen, find_of_walked_skip (walked_none hfile), by simp [tidy, shows, hgen]⟩
    | true =>
      rw [haccepted] at hfile
      cases hseen : seen.contains (dir.child name).toString with
      | true =>
        exact ⟨seen, find_of_walked_skip (walked_seen hfile hseen), by simp [tidy, shows, hgen]⟩
      | false =>
        -- The key is new, but the tidy form does not keep it.
        refine ⟨(dir.child name).toString :: seen, ?_, by simp [tidy, shows, hgen, hkey]⟩
        unfold find
        rw [walked_new hfile hseen]
        simp [sinkIn?, hgen]

/-- The next root is begun alike, or refused both times. -/
theorem find_next_alike {m m' : Machine} (hm : m.Sane) (halike : m.Alike m') (spec : RootSpec)
    (specs : List RootSpec) (seen seen' : List String)
    (hseen : tidy ⟨[], none, seen'⟩ = tidy ⟨[], none, seen⟩) :
    Matches (find m ⟨spec :: specs, none, seen⟩) (find m' ⟨spec :: specs, none, seen'⟩) := by
  have hkeys : (seen'.filter fun key => !(Path.ofString key).isGenerated) =
      seen.filter fun key => !(Path.ofString key).isGenerated := congrArg (·.seen) hseen
  rcases normalize_alike hm halike spec with hsame | ⟨f, f', hroot, hroot'⟩
  · cases hroot : spec.normalize m with
    | ok root =>
      rw [hroot] at hsame
      rw [find_of_walked_skip (walked_root hroot), find_of_walked_skip (walked_root hsame)]
      exact .skip (by simp [tidy, hkeys])
    | error f =>
      rw [hroot] at hsame
      rw [find_of_walked_skip (walked_refused hroot), find_of_walked_skip (walked_refused hsame)]
      exact .skip (by simp [tidy, hkeys])
  · rw [find_of_walked_skip (walked_refused hroot), find_of_walked_skip (walked_refused hroot')]
    exact .skip (by simp [tidy, hkeys])

/-- **A file that two alike machines find** is passed over by both or the same sink
    for both, if its name is none of a generated file. -/
theorem find_file_alike {m m' : Machine} (halike : m.Alike m') {specs : List RootSpec}
    {root top : Root} {v : Visit} {pending pending' rest rest' : List Visit}
    {seen seen' : List String} {dir : Path} {name : String} (hname : (dir.child name).WellFormed)
    (hgen : SinkName.isGenerated name = false)
    (hvisit : visit m false top v pending = (some ⟨dir.child name, name, false⟩, rest))
    (hvisit' : visit m' false top v pending' = (some ⟨dir.child name, name, false⟩, rest'))
    (hrest : rest'.filter shows = rest.filter shows)
    (hkeys : (seen'.filter fun key => !(Path.ofString key).isGenerated) =
      seen.filter fun key => !(Path.ofString key).isGenerated) :
    Matches (find m ⟨specs, some (root, ⟨top, v :: pending⟩), seen⟩)
      (find m' ⟨specs, some (root, ⟨top, v :: pending'⟩), seen'⟩) := by
  have hkey : (Path.ofString (dir.child name).toString).isGenerated = false := by
    rw [Path.ofString_toString hname]
    simpa using hgen
  have hmem : ∀ keys : List String, (dir.child name).toString ∈ keys ↔
      (dir.child name).toString ∈ keys.filter fun key => !(Path.ofString key).isGenerated := by
    intro keys
    simp [List.mem_filter, hkey]
  have hsame : seen'.contains (dir.child name).toString =
      seen.contains (dir.child name).toString := by
    rw [Bool.eq_iff_iff, List.contains_iff_mem, List.contains_iff_mem, hmem, hkeys, ← hmem]
  cases hseen : seen.contains (dir.child name).toString with
  | true =>
    rw [find_of_walked_skip (walked_seen hvisit hseen),
      find_of_walked_skip (walked_seen hvisit' (hsame.trans hseen))]
    exact .skip (by simp [tidy, hrest, hkeys])
  | false =>
    have hrelative : ∀ f, DirectoryWalk.relativePath m' root f =
        DirectoryWalk.relativePath m root f := by
      intro f
      unfold DirectoryWalk.relativePath
      rw [halike.cwd]
    unfold find
    rw [walked_new hvisit hseen, walked_new hvisit' (hsame.trans hseen), hrelative]
    -- Whether the file is a sink is read off its name.
    dsimp only
    split
    · exact .skip (by simp [tidy, hrest, hkey, hkeys])
    · exact .item _ (by simp [tidy, hrest, hkey, hkeys])

/-- **Any other step is the same from the tidy form**, on all alike machines. -/
theorem find_alike {m m' : Machine} (hm : m.Sane) (hm' : m'.Sane) (halike : m.Alike m')
    {c : SinkCursor} (hc : SoundAt m' c) (hready : Ready c) :
    Matches (find m (tidy c)) (find m' c) := by
  obtain ⟨specs, current, seen⟩ := c
  match current with
  | none =>
    match specs with
    | [] => exact .done
    | spec :: specs => exact find_next_alike hm halike spec specs _ _ (by simp [tidy])
  | some (root, ⟨top, []⟩) => exact .skip (by simp [tidy])
  | some (root, ⟨top, v :: pending⟩) =>
    have hshows := hready root top v pending rfl
    obtain ⟨hv', hpending'⟩ := List.forall_mem_cons.mp (hc.visits root _ rfl)
    have hv := hv'.alike hm' halike.symm
    have hsound : ∀ w ∈ pending.filter shows, SoundVisit m w := by
      intro w hw
      exact (hpending' w (List.mem_of_mem_filter hw)).alike hm' halike.symm
    -- The visit in front shows, so it is in front of the tidy form as well.
    have htidy : tidy ⟨specs, some (root, ⟨top, v :: pending⟩), seen⟩ =
        ⟨specs, some (root, ⟨top, v :: pending.filter shows⟩),
          seen.filter fun key => !(Path.ofString key).isGenerated⟩ := by
      simp [tidy, hshows]
    rw [htidy]
    have hpending : pending.filter shows = (pending.filter shows).filter shows := by simp
    obtain ⟨hfile, hrest⟩ := visit_alike hm hm' halike top hv hshows hpending
    rcases hvisit : visit m false top v (pending.filter shows) with ⟨f, rest⟩
    rcases hvisit' : visit m' false top v pending with ⟨f', rest'⟩
    rw [hvisit, hvisit'] at hfile hrest
    obtain rfl : f' = f := hfile
    dsimp only at hrest
    cases f' with
    | none =>
      rw [find_of_walked_skip (walked_none hvisit), find_of_walked_skip (walked_none hvisit')]
      exact .skip (by simp [tidy, hrest])
    | some f =>
      obtain ⟨dir, name, rfl, rfl⟩ := (sound_visit hm top hv hsound).2 f (by rw [hvisit])
      have hgen : SinkName.isGenerated name = false := by simpa [shows] using hshows
      exact find_file_alike halike (hv.1.wellFormed.child hv.2.isPart) hgen hvisit hvisit' hrest
        (by simp)

end Pipeline

end SinkPipeline
