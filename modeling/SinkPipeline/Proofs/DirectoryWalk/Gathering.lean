import SinkPipeline.Proofs.Discovery.Gathering
import SinkPipeline.Proofs.Running

/-! # The files that a walk gathers

  A walk below a root **gathers** files, whatever globs the root has: the globs
  only choose among them.  What is gathered is a function of the machine and of
  what is to be visited.

  - `exists_gathers`: every walk comes to its end.
  - `yields_of_gathers`: a consumer that takes everything gets the gathered files that
    the root accepts, and changes nothing.
-/

namespace SinkPipeline

namespace DirectoryWalk

open Pipeline (visits_induction)

variable {ν : Type}

/-! ### Gathering -/

/-- Is the directory entered?  The top one is, even through a link. -/
def enters (m : Machine) (path : Path) (isTop : Bool) : Bool :=
  isTop || !m.tree.looksLink m.home path.toString

/-- From the visits that are to be made the walk gathers the files. -/
inductive Gathers (m : Machine) : List Visit → List FoundFile → Prop
  /-- There is nothing more to visit. -/
  | done : Gathers m [] []
  /-- A file is gathered. -/
  | file {dir : Path} {name : String} {vs : List Visit} {fs : List FoundFile}
      (hfile : m.tree.looksDir m.home (dir.child name).toString = false) (rest : Gathers m vs fs) :
      Gathers m (.file dir name :: vs)
        (⟨dir.child name, name, m.tree.looksLink m.home (dir.child name).toString⟩ :: fs)
  /-- What has become a directory is none. -/
  | leaves {dir : Path} {name : String} {vs : List Visit} {fs : List FoundFile}
      (hdir : m.tree.looksDir m.home (dir.child name).toString = true) (rest : Gathers m vs fs) :
      Gathers m (.file dir name :: vs) fs
  /-- A directory that is not entered, or cannot be listed, is passed over. -/
  | passes {path : Path} {isTop : Bool} {vs : List Visit} {fs : List FoundFile}
      (hpassed : ∀ entries, m.tree.scan m.home path = .ok entries → enters m path isTop = false)
      (rest : Gathers m vs fs) : Gathers m (.directory path isTop :: vs) fs
  /-- The entries of a directory are visited next. -/
  | lists {path : Path} {isTop : Bool} {entries : List (String × Bool)} {vs : List Visit}
      {fs : List FoundFile} (henters : enters m path isTop = true)
      (hscan : m.tree.scan m.home path = .ok entries)
      (rest : Gathers m (visitsOf path entries ++ vs) fs) :
      Gathers m (.directory path isTop :: vs) fs

/-- **Every walk comes to its end.** -/
theorem exists_gathers (m : Machine) (vs : List Visit) : ∃ fs, Gathers m vs fs := by
  refine visits_induction (P := fun vs => ∃ fs, Gathers m vs fs) ⟨[], .done⟩ ?_ vs
  -- What is left is gathered, and so is what a listed directory puts in front of it.
  rintro v vs ⟨fs, hfs⟩ hmore
  cases v with
  | file dir name =>
    cases hdir : m.tree.looksDir m.home (dir.child name).toString with
    | true => exact ⟨_, .leaves hdir hfs⟩
    | false => exact ⟨_, .file hdir hfs⟩
  | directory path isTop =>
    cases henters : enters m path isTop with
    | false => exact ⟨_, .passes (fun _ _ => henters) hfs⟩
    | true =>
      cases hscan : m.tree.scan m.home path with
      | error f =>
        refine ⟨_, .passes ?_ hfs⟩
        intro entries hentries
        rw [hscan] at hentries
        cases hentries
      | ok entries =>
        obtain ⟨fs, hfs⟩ := hmore m path isTop entries rfl hscan
        exact ⟨_, .lists henters hscan hfs⟩

/-! ### Taking what is gathered -/

section

variable {m : Machine} {root : Root} {v : Visit} {vs rest : List Visit} {fs : List FoundFile}

theorem visit_passes {path : Path} {isTop : Bool}
    (h : ∀ entries, m.tree.scan m.home path = .ok entries → enters m path isTop = false) :
    visit m false root (.directory path isTop) rest = (none, rest) := by
  simp only [visit, Bool.not_false, Bool.and_true]
  split
  · rfl
  -- It would be entered, and so it cannot be listed.
  next hin =>
  cases hscan : m.tree.scan m.home path with
  | error f => rfl
  | ok entries =>
    have hout := h entries hscan
    unfold enters at hout
    cases isTop <;> simp_all

theorem visit_lists {path : Path} {isTop : Bool} {entries : List (String × Bool)}
    (henters : enters m path isTop = true) (hscan : m.tree.scan m.home path = .ok entries) :
    visit m false root (.directory path isTop) rest = (none, visitsOf path entries ++ rest) := by
  unfold enters at henters
  simp only [visit, Bool.not_false, Bool.and_true, hscan]
  rw [if_neg]
  cases isTop <;> simp_all

theorem runOn_machine (d : Diary) (s : Site ν) :
    (Act.machine : Act (Site ν) Machine).runOn d s = (.ok s.machine, d, s) := rfl

/-- A visit looks at the machine and changes nothing. -/
theorem runOn_step_files (follow : Bool) (d : Diary) (s : Site ν) :
    ((files follow).step ⟨root, v :: rest⟩).runOn d s =
      (.ok ((visit s.machine follow root v rest).1.elim
        (.skip ⟨root, (visit s.machine follow root v rest).2⟩)
        fun f => .item f ⟨root, (visit s.machine follow root v rest).2⟩), d, s) := by
  show ((Act.machine >>= _).runOn d s) = _
  rw [Act.runOn_bind, runOn_machine]
  dsimp only
  cases visit s.machine follow root v rest with
  | mk f rest => cases f <;> rfl

/-- A visit that gives nothing. -/
theorem runOn_takeWith_visit_none {n : Nat} {acc : List FoundFile} {s : Site ν} (d : Diary)
    (h : visit s.machine false root v vs = (none, rest)) :
    ((files false).takeWith pure (n + 1) none ⟨root, v :: vs⟩ acc).runOn d s =
      ((files false).takeWith pure n none ⟨root, rest⟩ acc).runOn d s := by
  rw [Source.runOn_takeWith_succ, runOn_step_files, h]
  rfl

/-- A visit that gives a file. -/
theorem runOn_takeWith_visit_some {n : Nat} {acc : List FoundFile} {f : FoundFile} {s : Site ν}
    (d : Diary) (h : visit s.machine false root v vs = (some f, rest)) :
    ((files false).takeWith pure (n + 1) none ⟨root, v :: vs⟩ acc).runOn d s =
      ((files false).takeWith pure n none ⟨root, rest⟩ (f :: acc)).runOn d s := by
  rw [Source.runOn_takeWith_succ, runOn_step_files, h]
  rfl

/-- With enough fuel, a consumer that has got some files before gets these too, and
    nothing is changed. -/
def Yields (ν : Type) (m : Machine) (root : Root) (vs : List Visit) (fs : List FoundFile) : Prop :=
  ∃ n, ∀ fuel, n ≤ fuel → ∀ acc d (s : Site ν), s.machine = m →
    ((files false).takeWith pure fuel none ⟨root, vs⟩ acc).runOn d s =
      (.ok ⟨acc.reverse ++ fs, none⟩, d, s)

theorem yields_nil (m : Machine) (root : Root) : Yields ν m root [] [] := by
  refine ⟨1, ?_⟩
  intro fuel hfuel acc d s _
  obtain ⟨fuel, rfl⟩ := Nat.exists_eq_succ_of_ne_zero (by omega : fuel ≠ 0)
  rw [Source.runOn_takeWith_succ, List.append_nil]
  rfl

theorem Yields.visit_none (h : Yields ν m root rest fs)
    (hvisit : visit m false root v vs = (none, rest)) : Yields ν m root (v :: vs) fs := by
  obtain ⟨n, hn⟩ := h
  refine ⟨n + 1, ?_⟩
  intro fuel hfuel acc d s hs
  subst hs
  obtain ⟨fuel, rfl⟩ := Nat.exists_eq_succ_of_ne_zero (by omega : fuel ≠ 0)
  rw [runOn_takeWith_visit_none d hvisit]
  exact hn fuel (by omega) acc d s rfl

theorem Yields.visit_some {f : FoundFile} (h : Yields ν m root rest fs)
    (hvisit : visit m false root v vs = (some f, rest)) : Yields ν m root (v :: vs) (f :: fs) := by
  obtain ⟨n, hn⟩ := h
  refine ⟨n + 1, ?_⟩
  intro fuel hfuel acc d s hs
  subst hs
  obtain ⟨fuel, rfl⟩ := Nat.exists_eq_succ_of_ne_zero (by omega : fuel ≠ 0)
  rw [runOn_takeWith_visit_some d hvisit, hn fuel (by omega) (f :: acc) d s rfl,
    List.reverse_cons, List.append_assoc, List.singleton_append]

/-- **A consumer gets the gathered files that the root accepts**, and changes
    nothing. -/
theorem yields_of_gathers (root : Root) (h : Gathers m vs fs) :
    Yields ν m root vs (fs.filter fun f => root.accepts f.path.toString) := by
  induction h with
  | done => exact yields_nil m root
  | @file dir name vs fs hfile _ ih =>
    rw [List.filter_cons]
    -- The globs are asked only about what is gathered.
    by_cases haccepts : root.accepts (dir.child name).toString = true
    · rw [if_pos haccepts]
      exact ih.visit_some (by simp only [visit, hfile, haccepts]; rfl)
    · rw [if_neg haccepts]
      rw [Bool.not_eq_true] at haccepts
      exact ih.visit_none (by simp only [visit, hfile, haccepts]; rfl)
  | leaves hdir _ ih => exact ih.visit_none (by simp only [visit, hdir]; rfl)
  | passes hpassed _ ih => exact ih.visit_none (visit_passes hpassed)
  | lists henters hscan _ ih => exact ih.visit_none (visit_lists henters hscan)

end

/-- A walk below the root gives the files and comes to its end, whatever the fuel if it
    is enough, and changes nothing. -/
def Enumerates (ν : Type) (m : Machine) (root : Root) (xs : List FoundFile) : Prop :=
  ∃ n, ∀ fuel, n ≤ fuel → ∀ d (s : Site ν), s.machine = m →
    ((plain (ν := ν) false).items.takeWith pure fuel none
      ((plain (ν := ν) false).beginAt root) []).runOn d s = (.ok ⟨xs, none⟩, d, s)

/-- A walk enumerates the gathered files that the root accepts. -/
theorem enumerates_of_gathers (root : Root) {m : Machine} {fs : List FoundFile}
    (h : Gathers m [.directory root.path true] fs) :
    Enumerates ν m root (fs.filter fun f => root.accepts f.path.toString) := by
  obtain ⟨n, hn⟩ := yields_of_gathers (ν := ν) root h
  refine ⟨n, ?_⟩
  intro fuel hfuel d s hs
  exact hn fuel hfuel [] d s hs

end DirectoryWalk

end SinkPipeline
