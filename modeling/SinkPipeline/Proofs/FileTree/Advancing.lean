import SinkPipeline.Proofs.FileTree.Changing

/-! # Trees that advance

  Writing files makes a tree **advance**: directories stay directories, files
  stay files, and links stay as they are or are replaced by files.  What was
  vacant may become anything.

  So names that lead to a directory lead to the same one later, if they still
  lead to any.
-/

namespace SinkPipeline.Tree

/-- The tree may have become the other one by the writing of files. -/
structure Advances (t t' : Tree) : Prop where
  /-- Directories stay. -/
  dir : ∀ {p : Place}, t.get? p = some .dir → t'.get? p = some .dir
  /-- A file stays a file. -/
  file : ∀ {p : Place} {f : File}, t.get? p = some (.file f) → ∃ f', t'.get? p = some (.file f')
  /-- A link stays, or a file takes its place. -/
  link : ∀ {p : Place} {target : String}, t.get? p = some (.link target) →
    t'.get? p = some (.link target) ∨ ∃ f', t'.get? p = some (.file f')

theorem Advances.refl (t : Tree) : t.Advances t where
  dir h := h
  file h := ⟨_, h⟩
  link h := .inl h

theorem Advances.trans {t t' t'' : Tree} (h : t.Advances t') (h' : t'.Advances t'') :
    t.Advances t'' where
  dir hp := h'.dir (h.dir hp)
  file hp := by
    obtain ⟨f, hf⟩ := h.file hp
    exact h'.file hf
  link hp := by
    rcases h.link hp with hp | ⟨f, hf⟩
    · exact h'.link hp
    · exact .inr (h'.file hf)

/-- What is there stays when directories are added. -/
theorem AddsDirs.get? {t t' : Tree} (h : t.AddsDirs t') {p : Place} {e : Entry}
    (hp : t.get? p = some e) : t'.get? p = some e := by
  rcases h p with hsame | ⟨hnone, -⟩
  · rw [hsame, hp]
  · rw [hp] at hnone
    cases hnone

theorem AddsDirs.advances {t t' : Tree} (h : t.AddsDirs t') : t.Advances t' where
  dir hp := h.get? hp
  file hp := ⟨_, h.get? hp⟩
  link hp := .inl (h.get? hp)

/-- A file is put where no directory is. -/
theorem advances_put_file {t : Tree} {place : Place} (f : File) (hroot : place ≠ [])
    (hdir : t.get? place ≠ some .dir) : t.Advances (t.put place (.file f)) := by
  have hself := get?_put_self t (.file f) hroot
  refine ⟨fun {p} hp => ?_, fun {p g} hp => ?_, fun {p l} hp => ?_⟩
  · have hne : p ≠ place := fun h => hdir (h ▸ hp)
    rwa [get?_put_of_ne t _ hne]
  · by_cases hsame : p = place
    · exact ⟨f, hsame ▸ hself⟩
    · exact ⟨g, by rwa [get?_put_of_ne t _ hsame]⟩
  · by_cases hsame : p = place
    · exact .inr ⟨f, hsame ▸ hself⟩
    · exact .inl (by rwa [get?_put_of_ne t _ hsame])

/-- **The same names lead to the same directory** later, if they lead to any. -/
theorem Leads.unique_of_advances {t t' : Tree} (hadvances : t.Advances t') {links left left' : Nat}
    {start dir dir' : Place} {names : List String} (h : t.Leads links start names left dir)
    (h' : t'.Leads links start names left' dir') : dir = dir' := by
  -- Over the first way; the second one goes through the same entries.
  induction h with
  | here =>
    cases h'
    rfl
  | up _ ih =>
    cases h' with
    | up h' => exact ih h'
    | down hname => exact absurd rfl hname
    | across hname => exact absurd rfl hname
  | down hname _ hget _ ih =>
    have hdir := hadvances.dir hget
    cases h' with
    | up _ => exact absurd rfl hname
    | down _ _ _ h' => exact ih h'
    | across _ _ hget' _ =>
      rw [hdir] at hget'
      cases hget'
  | across hname _ hget _ ih =>
    cases h' with
    | up _ => exact absurd rfl hname
    | down _ _ hget' _ =>
      rcases hadvances.link hget with hlink | ⟨f, hfile⟩
      · rw [hlink] at hget'
        cases hget'
      · rw [hfile] at hget'
        cases hget'
    | across _ _ hget' h' =>
      rcases hadvances.link hget with hlink | ⟨f, hfile⟩
      · rw [hlink] at hget'
        cases hget'
        exact ih h'
      · rw [hfile] at hget'
        cases hget'

end SinkPipeline.Tree
