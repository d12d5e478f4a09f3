import SinkPipeline.Proofs.FileTree.Advancing
import SinkPipeline.Proofs.Output.AllOrNothing

/-! # Files written one after the other

  What is left in the tree when some files have been written in turn, each all
  or nothing:

  - each place holds the bytes of the **last** file that was written there;
  - elsewhere nothing has changed but that directories may have been made;
  - files of the same path were written to the same place, so the last one of
    a path has taken the place of the others.
-/

namespace SinkPipeline

/-- A file that was written. -/
structure Saved where
  /-- Its path. -/
  target : Path
  /-- The parts of its path are legal. -/
  wellFormed : target.WellFormed
  /-- What was written. -/
  bytes : Bytes
  /-- Where it is. -/
  place : Place

namespace AtomicWrite

open SinkPipeline.Tree (AddsDirs Advances)

/-! ### One write -/

section

variable {m m' : Machine} {target : Path} {bytes : Bytes} {place place' : Place} {out : Outcome}

/-- From where the directories of a path are made, a write advances the tree. -/
theorem Written.advances_withDirs (h : Written m target bytes place out) :
    (withDirs m target).tree.Advances out.machine.tree := by
  rw [h.machine]
  exact Tree.advances_put_file _ h.named.ne_nil h.not_dir

theorem withDirs_addsDirs (m : Machine) (target : Path) :
    m.tree.AddsDirs (withDirs m target).tree := m.tree.makeDirs_addsDirs m.home target.parent

theorem Written.advances (h : Written m target bytes place out) :
    m.tree.Advances out.machine.tree :=
  (withDirs_addsDirs m target).advances.trans h.advances_withDirs

theorem Written.home (h : Written m target bytes place out) : out.machine.home = m.home := by
  rw [h.machine]
  rfl

/-- **The place of a path stays its place** while the tree advances. -/
theorem PlaceOf.unique (h : PlaceOf m target place) (h' : PlaceOf m' target place')
    (hhome : m'.home = m.home)
    (hadvances : (withDirs m target).tree.Advances (withDirs m' target).tree) :
    place = place' := by
  obtain ⟨left, dir, name, hname, rfl, hleads⟩ := h
  obtain ⟨left', dir', name', hname', rfl, hleads'⟩ := h'
  rw [hhome] at hleads'
  have hchild := hname.1.symm.trans hname'.1
  have hsame : name = name' := by
    have hlast := congrArg (fun p : Path => p.parts.getLast?) hchild
    simpa [Path.child] using hlast
  rw [hleads.unique_of_advances hadvances hleads', hsame]

/-- Links are not made by a write. -/
theorem Written.get?_link (h : Written m target bytes place out) {p : Place} {l : String}
    (hp : out.machine.tree.get? p = some (.link l)) : p ≠ place ∧ m.tree.get? p = some (.link l) := by
  have hne : p ≠ place := by
    rintro rfl
    rw [h.get?] at hp
    cases hp
  refine ⟨hne, ?_⟩
  rcases h.elsewhere hne with hsame | ⟨-, hdir⟩
  · rwa [hsame] at hp
  · rw [hdir] at hp
    cases hp

end

/-! ### Some writes -/

/-- **Files that are written one after the other**, up to directories that may be
    made at the end. -/
inductive Saves : List Saved → Machine → Machine → Prop where
  | done {m m' : Machine} (hdirs : m.tree.AddsDirs m'.tree) (hhome : m'.home = m.home) :
      Saves [] m m'
  | save {m m' : Machine} {x : Saved} {xs : List Saved} {out : Outcome}
      (hwritten : Written m x.target x.bytes x.place out) (rest : Saves xs out.machine m') :
      Saves (x :: xs) m m'

namespace Saves

variable {m m' : Machine} {x y : Saved} {xs before after : List Saved}

theorem advances (h : Saves xs m m') : m.tree.Advances m'.tree := by
  induction h with
  | done hdirs _ => exact hdirs.advances
  | save hwritten _ ih => exact hwritten.advances.trans ih

theorem home (h : Saves xs m m') : m'.home = m.home := by
  induction h with
  | done _ hhome => exact hhome
  | save hwritten _ ih => exact ih.trans hwritten.home

/-- **Elsewhere** nothing has changed but that directories may have been made. -/
theorem elsewhere (h : Saves xs m m') {p : Place} (hp : ∀ x ∈ xs, x.place ≠ p) :
    m'.tree.get? p = m.tree.get? p ∨ m.tree.get? p = none ∧ m'.tree.get? p = some .dir := by
  induction h with
  | done hdirs _ => exact hdirs p
  | @save m _ x xs out hwritten _ ih =>
    have hne : p ≠ x.place := (hp x (by simp)).symm
    have hrest := ih fun y hy => hp y (by simp [hy])
    rcases hwritten.elsewhere hne with hsame | ⟨hnone, hdir⟩
    · rwa [hsame] at hrest
    · right
      refine ⟨hnone, ?_⟩
      rcases hrest with hsame | ⟨hnone', -⟩
      · rw [hsame, hdir]
      · rw [hdir] at hnone'
        cases hnone'

/-- When a file was written the tree had advanced so far. -/
theorem placeOf_of_mem (h : Saves xs m m') (hx : x ∈ xs) :
    ∃ m₁ : Machine, m.tree.Advances m₁.tree ∧ m₁.home = m.home ∧ PlaceOf m₁ x.target x.place := by
  induction h with
  | done _ _ => cases hx
  | @save m _ _ _ _ hwritten _ ih =>
    rcases List.mem_cons.1 hx with rfl | hx
    · exact ⟨m, .refl _, rfl, hwritten.named⟩
    · obtain ⟨m₁, hadvances, hhome, hplace⟩ := ih hx
      exact ⟨m₁, hwritten.advances.trans hadvances, hhome.trans hwritten.home, hplace⟩

/-- The first file and a later one of the same path. -/
theorem same_place_first {out : Outcome} (hwritten : Written m x.target x.bytes x.place out)
    (rest : Saves xs out.machine m') (hy : y ∈ xs) (htarget : x.target = y.target) :
    x.place = y.place := by
  obtain ⟨m₁, hadvances, hhome, hplace⟩ := rest.placeOf_of_mem hy
  rw [← htarget] at hplace
  refine hwritten.named.unique hplace (hhome.trans hwritten.home) ?_
  exact (hwritten.advances_withDirs.trans hadvances).trans (withDirs_addsDirs m₁ x.target).advances

/-- **Files of the same path** were written to the same place. -/
theorem same_place (h : Saves xs m m') (hx : x ∈ xs) (hy : y ∈ xs)
    (htarget : x.target = y.target) : x.place = y.place := by
  induction h with
  | done _ _ => cases hx
  | save hwritten rest ih =>
    rcases List.mem_cons.1 hx with rfl | hlater
    · rcases List.mem_cons.1 hy with rfl | hlater'
      · rfl
      · exact same_place_first hwritten rest hlater' htarget
    · rcases List.mem_cons.1 hy with rfl | hlater'
      · exact (same_place_first hwritten rest hlater htarget.symm).symm
      · exact ih hlater hlater'

/-- **The last file written at a place** is there. -/
theorem get?_last (h : Saves (before ++ x :: after) m m') (hafter : ∀ y ∈ after, y.place ≠ x.place) :
    ∃ mtime, m'.tree.get? x.place = some (.file ⟨x.bytes, 0o644, mtime⟩) := by
  induction before generalizing m with
  | nil =>
    cases h with
    | save hwritten rest =>
      refine ⟨m.now, ?_⟩
      rcases rest.elsewhere hafter with hsame | ⟨hnone, -⟩
      · rw [hsame, hwritten.get?]
      · rw [hwritten.get?] at hnone
        cases hnone
  | cons y before ih =>
    cases h with
    | save _ rest => exact ih rest

/-- **The last file of a path is read by the path**, unless links were replaced. -/
theorem readFile_last (h : Saves (before ++ x :: after) m m')
    (hafter : ∀ y ∈ after, y.place ≠ x.place)
    (hlinks : ∀ y ∈ before ++ x :: after, ∀ l, m.tree.get? y.place ≠ some (.link l)) :
    m'.tree.readFile m'.home x.target.toString = .ok x.bytes := by
  induction before generalizing m with
  | nil =>
    obtain ⟨mtime, hget⟩ := h.get?_last hafter
    have hhome := h.home
    rw [List.nil_append] at hlinks
    cases h with
    | save hwritten rest =>
      obtain ⟨left, dir, name, hname, hplace, hleads⟩ := hwritten.named
      rw [hplace] at hget
      rw [hhome]
      refine Tree.readFile_of_leads x.wellFormed hname (hleads.congr fun p hp => ?_) hget
      -- What the path goes through has not been touched.
      rcases hp with hdir | ⟨l, hlink⟩
      · rw [hdir]
        exact rest.advances.dir (hwritten.advances_withDirs.dir hdir)
      · have hbefore : m.tree.get? p = some (.link l) := by
          rcases withDirs_addsDirs m x.target p with hsame | ⟨-, hdir⟩
          · rwa [hsame] at hlink
          · rw [hdir] at hlink
            cases hlink
        have hp : ∀ y ∈ x :: after, y.place ≠ p := by
          rintro y hy rfl
          exact hlinks y hy l hbefore
        rw [hlink]
        rcases (Saves.save hwritten rest).elsewhere hp with hsame | ⟨hnone, -⟩
        · rw [hsame, hbefore]
        · rw [hbefore] at hnone
          cases hnone
  | cons z before ih =>
    cases h with
    | save hwritten rest =>
      refine ih rest fun y hy l hl => ?_
      exact hlinks y (by simp [hy]) l (hwritten.get?_link hl).2

end Saves

end AtomicWrite

end SinkPipeline
