import SinkPipeline.Proofs.Output.AllOrNothing

/-! # Why a file cannot be written

  Each step of a write asks the operating system for something about a path.  It
  refuses with an error of its own, or the path cannot be handed over at all
  because of a character in it.  Both are reported as a failure to write the
  file, so a write whose stream has no fault fails in no other way.
-/

namespace SinkPipeline

namespace Fault

/-- **A failure to write a file.** -/
def IsMaterialize (f : Fault) : Prop :=
  ∃ message context cause, f = ofKind .materialize message context cause

/-- It is a fault of this library. -/
theorem IsMaterialize.isEngine {f : Fault} (h : f.IsMaterialize) : f.isEngine = true := by
  obtain ⟨message, context, cause, rfl⟩ := h
  rfl

/-- A fault of the operating system, or of a value that it cannot be handed. -/
def IsRefusal (f : Fault) : Prop := f.isOs = true ∨ f.isValue = true

end Fault

/-! ### What the operating system refuses -/

namespace Tree

variable {t : Tree} {start : Place} {path : String} {f : Fault}

theorem isRefusal_of_refusal? (h : refusal? path = some f) : f.IsRefusal := by
  obtain ⟨kind, message, rfl, hkind⟩ := of_refusal? h
  rcases hkind with rfl | rfl <;> exact .inr rfl

/-- What is wrong about a path is an error of the operating system, or that the
    path cannot be used. -/
theorem isRefusal_of_aboutPath {α : Type} {r : Except Errno α} (h : aboutPath path r = .error f) :
    f.IsRefusal := by
  rcases of_aboutPath_error h with ⟨e, -, rfl⟩ | hrefused
  · exact .inl rfl
  · exact isRefusal_of_refusal? hrefused

/-- Where it cannot be seen whether a directory is there. -/
theorem isRefusal_of_isDir? (h : t.isDir? start path = .error f) : f.IsRefusal := by
  unfold isDir? holds stat at h
  split at h
  · cases h
  · next g hstat =>
    split at h
    · cases h
    · cases h
      exact isRefusal_of_aboutPath hstat

/-- Why a directory is not there. -/
theorem isRefusal_of_ensureDir (h : t.ensureDir start path = .error f) : f.IsRefusal := by
  unfold ensureDir at h
  split at h
  · cases h
  · next g hmake =>
    have hg : g.IsRefusal := isRefusal_of_aboutPath hmake
    split at h
    · cases hdir : t.isDir? start path with
      | error g' =>
        rw [hdir] at h
        cases h
        exact isRefusal_of_isDir? hdir
      | ok there =>
        rw [hdir] at h
        cases there <;> cases h
        exact hg
    · cases h
      exact hg

/-- **Why the directories of a path are not there.** -/
theorem isRefusal_of_ensureDirs {anchor : Anchor} {reversed : List String}
    (h : (t.ensureDirs start anchor reversed).2 = .error f) : f.IsRefusal := by
  -- Along the calls, from the last name up.
  fun_induction ensureDirs t start anchor reversed
  case case2 habove _ _ ih =>
    cases h
    exact ih (by rw [habove])
  -- Otherwise the last thing done is to make one directory.
  all_goals
    dsimp +zetaDelta only at h
    split at h
    · cases h
    · next g hensure =>
      cases h
      exact isRefusal_of_ensureDir hensure

/-- Where a file cannot be moved to. -/
theorem isRefusal_of_rename {src : Place} {known : String}
    (h : t.rename start src known path = .error f) : f.IsRefusal := by
  unfold rename at h
  split at h
  · next g hrefused =>
    cases h
    exact isRefusal_of_refusal? hrefused
  · cases hmove : t.moveOnto start src path with
    | ok t' =>
      rw [hmove] at h
      cases h
    | error e =>
      rw [hmove] at h
      cases h
      exact .inl rfl

end Tree

/-! ### How a write fails -/

namespace AtomicWrite

/-- What is refused is a failure to write. -/
theorem isMaterialize_failure (target : Path) {f : Fault} (h : f.IsRefusal) :
    (failure target f).IsMaterialize := by
  unfold failure
  rw [if_pos (by simpa [Fault.IsRefusal] using h)]
  exact ⟨_, _, _, rfl⟩

/-- **A write fails with a failure to write**, unless the stream has a fault of its
    own. -/
theorem isMaterialize_of_write {m : Machine} {target : Path} {s : Stream} {f : Fault}
    (hs : s.fault? = none) (h : (write m target s).result = .error f) : f.IsMaterialize := by
  unfold write at h
  -- Its directories, its temporary file, and where that is moved to.
  split at h
  · next tree g hmade =>
    cases h
    have hdirs := congrArg Prod.snd hmade
    unfold Tree.makeDirs at hdirs
    exact isMaterialize_failure _ (Tree.isRefusal_of_ensureDirs hdirs)
  · dsimp only at h
    split at h
    · next g hcreate =>
      cases h
      exact isMaterialize_failure _ (Tree.isRefusal_of_aboutPath hcreate)
    · unfold fill at h
      simp only [Stream.readAll_fault, hs] at h
      split at h
      · cases h
      · next g hrename =>
        cases h
        exact isMaterialize_failure _ (Tree.isRefusal_of_rename hrename)

end AtomicWrite

end SinkPipeline
