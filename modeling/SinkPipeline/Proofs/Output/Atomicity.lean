import SinkPipeline.Proofs.Execution
import SinkPipeline.Proofs.FileTree.OnTheWay
import SinkPipeline.Proofs.Output.Failing
import SinkPipeline.Proofs.Process.Closing

/-! # A write is atomic at every point where it can break

  A write can break at four points: where directories are made, where the
  temporary file is begun, at any chunk of the stream, and where the file is
  moved to its place.

  - Wherever it **breaks**, no file is left created, changed or removed, the
    temporary one included.  All that may be new are directories on the way to
    the file.
  - Only a write that **does not break** puts a file, with all the bytes of the
    stream, at the place of the path.
  - The fault raised is the one that broke the write, wrapped if it is an error
    of the operating system or a value that cannot be used.
  - The stream is closed in either case.
-/

namespace SinkPipeline

/-! ### Closed streams -/

namespace Lineage

/-- Is the stream itself closed?  A source has been told so; of a process, the
    feeder is called off and the process has ended. -/
def Closed : Lineage → Prop
  | .source closed => closed = true
  | .process p _ => p.feeder = .done ∧ p.status ≠ .running

theorem closed_close (l : Lineage) : l.close.Closed := by
  cases l with
  | source closed => rfl
  | process p before => exact ⟨rfl, kill_status p⟩

end Lineage

namespace AtomicWrite

/-! ### Where a write breaks -/

/-- The path of the temporary file of a write, once its directories are there. -/
def tempPath (m : Machine) (target : Path) : Path :=
  target.parent.child (freshName (namesAt (withDirs m target) target.parent))

/-- Begin the temporary file of a write. -/
def beginTemp (m : Machine) (target : Path) : Except Fault (Place × Tree) :=
  (withDirs m target).tree.createFile m.home (tempPath m target).toString m.now

/-- Move the temporary file, which holds the bytes, onto the file. -/
def moveTemp (m : Machine) (target : Path) (bytes : Bytes) (place : Place) (tree : Tree) :
    Except Fault Tree :=
  (tree.put place (.file ⟨bytes, 0o644, m.now⟩)).rename m.home place
    (tempPath m target).toString target.toString

/-- **What breaks a write**: the fault of the first of its steps that fails. -/
inductive Breaks (m : Machine) (target : Path) (s : Stream) : Fault → Prop
  /-- A directory cannot be made. -/
  | directories {f : Fault} :
      (m.tree.makeDirs m.home target.parent).2 = .error f → Breaks m target s f
  /-- The temporary file cannot be begun. -/
  | beginning {f : Fault} :
      (m.tree.makeDirs m.home target.parent).2 = .ok () → beginTemp m target = .error f →
        Breaks m target s f
  /-- The stream fails, after any of its chunks. -/
  | reading {f : Fault} {place : Place} {tree : Tree} :
      (m.tree.makeDirs m.home target.parent).2 = .ok () → beginTemp m target = .ok (place, tree) →
        s.fault? = some f → Breaks m target s f
  /-- The file cannot be moved to its place. -/
  | moving {f : Fault} {place : Place} {tree : Tree} :
      (m.tree.makeDirs m.home target.parent).2 = .ok () → beginTemp m target = .ok (place, tree) →
        s.fault? = none → moveTemp m target s.bytes place tree = .error f → Breaks m target s f

/-- A write that passes all of its steps breaks nowhere. -/
theorem not_breaks {m : Machine} {target : Path} {s : Stream} {place : Place} {tree moved : Tree}
    (hdirs : (m.tree.makeDirs m.home target.parent).2 = .ok ())
    (hbegin : beginTemp m target = .ok (place, tree)) (hfault : s.fault? = none)
    (hmove : moveTemp m target s.bytes place tree = .ok moved) (f : Fault) :
    ¬Breaks m target s f := by
  intro hbreaks
  cases hbreaks with
  | directories h =>
    rw [hdirs] at h
    cases h
  | beginning _ h =>
    rw [hbegin] at h
    cases h
  | reading _ _ h =>
    rw [hfault] at h
    cases h
  | moving _ h _ h' =>
    rw [hbegin] at h
    cases h
    rw [hmove] at h'
    cases h'

section

variable (m : Machine) (target : Path) (s : Stream)

/-- **A write fails where it breaks**, and only there. -/
theorem write_breaks :
    (∃ f, Breaks m target s f ∧ (write m target s).result = .error (failure target f)) ∨
      (∀ f, ¬Breaks m target s f) ∧ ∃ n, (write m target s).result = .ok n := by
  unfold write
  match hdirs : m.tree.makeDirs m.home target.parent with
  | (tree, .error f) => exact .inl ⟨f, .directories (by rw [hdirs]), rfl⟩
  | (tree, .ok ()) =>
    have hok : (m.tree.makeDirs m.home target.parent).2 = .ok () := by rw [hdirs]
    have hmade : withDirs m target = { m with tree := tree } := by simp [withDirs, hdirs]
    have hbegin : tree.createFile (Machine.home { m with tree := tree })
        (target.parent.child (freshName (namesAt { m with tree := tree } target.parent))).toString
        m.now = beginTemp m target := by
      unfold beginTemp tempPath
      rw [hmade]
      rfl
    -- The directories are there, and the temporary file is begun among them.
    dsimp only
    rw [hbegin]
    cases hcreate : beginTemp m target with
    | error f => exact .inl ⟨f, .beginning hok hcreate, rfl⟩
    | ok begun =>
      obtain ⟨place, created⟩ := begun
      -- It takes all bytes, unless the stream fails at one of its chunks.
      unfold fill
      simp only [Stream.readAll_fault, Stream.readAll_value]
      cases hfault : s.fault? with
      | some f => exact .inl ⟨f, .reading hok hcreate hfault, rfl⟩
      | none =>
        have hmove : moveTemp m target s.bytes place created =
            (created.put place (.file ⟨s.bytes, 0o644, m.now⟩)).rename m.home place
              (target.parent.child (freshName (namesAt { m with tree := tree } target.parent))).toString
              target.toString := by
          unfold moveTemp tempPath
          rw [hmade]
        dsimp only
        cases hrename : moveTemp m target s.bytes place created with
        | error f =>
          refine .inl ⟨f, .moving hok hcreate hfault hrename, ?_⟩
          rw [hmove] at hrename
          simp only [Machine.home] at hrename ⊢
          rw [hrename]
        | ok moved =>
          refine .inr ⟨not_breaks hok hcreate hfault hrename, ?_⟩
          rw [hmove] at hrename
          simp only [Machine.home] at hrename ⊢
          rw [hrename]
          exact ⟨_, rfl⟩

/-- **The stream is closed**, wherever the write ends. -/
theorem closed_write : (write m target s).stream.lineage.Closed := by
  have hclose : ∀ s : Stream, s.close.lineage.Closed := fun s => s.lineage.closed_close
  unfold write
  split
  · exact hclose s
  · dsimp only
    split
    · exact hclose s
    · unfold fill
      dsimp only
      split
      · exact hclose _
      · split
        · exact hclose _
        · exact hclose _

end

/-! ### What is raised -/

/-- A failure to write the file, with its path in the context and `f` as the
    cause. -/
structure Wraps (target : Path) (f g : Fault) : Prop where
  /-- It is a failure to write. -/
  materialize : g.IsMaterialize
  /-- The original fault is its cause. -/
  cause : g.cause? = some f
  /-- It says which file could not be written. -/
  path : g.context.path = .str target.toString

/-- No fault is its own cause. -/
theorem cause?_ne_self (f : Fault) : f.cause? ≠ some f := by
  intro h
  cases f with
  | engine kind message category context cause =>
    have hcause : cause = some (.engine kind message category context cause) := h
    have hsize := congrArg sizeOf hcause
    simp at hsize
    omega
  | _ => cases h

/-- **A fault is wrapped**, or passed on as it is. -/
theorem wraps_or_same (target : Path) (f : Fault) :
    f.IsRefusal ∧ Wraps target f (failure target f) ∨
      ¬f.IsRefusal ∧ failure target f = f ∧ ¬Wraps target f (failure target f) := by
  by_cases hrefusal : f.IsRefusal
  · left
    refine ⟨hrefusal, isMaterialize_failure target hrefusal, ?_, ?_⟩
    · unfold failure
      rw [if_pos (by simpa [Fault.IsRefusal] using hrefusal)]
      rfl
    · unfold failure
      rw [if_pos (by simpa [Fault.IsRefusal] using hrefusal)]
      rfl
  · right
    have hsame : failure target f = f := by
      unfold failure
      rw [if_neg (by simpa [Fault.IsRefusal] using hrefusal)]
    refine ⟨hrefusal, hsame, ?_⟩
    intro hwraps
    have hcause := hwraps.cause
    rw [hsame] at hcause
    exact cause?_ne_self f hcause

/-! ### What is left -/

/-- **A write that broke**: no more is left of it than directories, and what is
    raised tells what broke it. -/
structure Broken (m : Machine) (target : Path) (s : Stream) (f : Fault) (out : Outcome) : Prop where
  /-- The fault broke the write. -/
  breaks : Breaks m target s f
  /-- The directories are all that has changed. -/
  kept : out.machine = { m with tree := (withDirs m target).tree }
  /-- The fault is wrapped if it is a refusal, and only then. -/
  raised : ∃ g, out.result = .error g ∧
    (f.IsRefusal ∧ Wraps target f g ∨ ¬f.IsRefusal ∧ g = f ∧ ¬Wraps target f g)

/-- The way to a file goes through the very link that it takes the place of. -/
def ThroughLink (m : Machine) (target : Path) (place : Place) : Prop :=
  (∃ l, (withDirs m target).tree.get? place = some (.link l)) ∧
    ¬∃ left dir, ((withDirs m target).tree.erase place).Leads Tree.maxLinks
      (Tree.origin m.home target) target.parent.parts left dir

/-- **A write that was completed**: a file with the bytes took the place of what
    was there. -/
structure Completed (m : Machine) (target : Path) (bytes : Bytes) (place : Place) (out : Outcome) :
    Prop where
  /-- The place is that of the path. -/
  named : PlaceOf m target place
  /-- It is not the place of a directory. -/
  not_dir : (withDirs m target).tree.get? place ≠ some .dir
  /-- The bytes are counted. -/
  result : out.result = .ok bytes.length
  /-- The file holds the bytes. -/
  holds : out.machine.tree.get? place = some (.file ⟨bytes, 0o644, m.now⟩)
  /-- At every other place there is what was there, once the directories had been
      made. -/
  elsewhere : ∀ q, q ≠ place → out.machine.tree.get? q = (withDirs m target).tree.get? q
  /-- Nothing but the tree and the time has changed. -/
  machine : out.machine = { m with tree := out.machine.tree, now := m.now + 1 }
  /-- The file is read by its path. -/
  read : out.machine.tree.readFile out.machine.home target.toString = .ok bytes ∨
    ThroughLink m target place

section

variable {m : Machine} {target : Path} {bytes : Bytes} {place : Place} {out : Outcome}

/-- Nothing is at a place that was made vacant, so no way goes through it. -/
theorem ne_of_passable_erase {t : Tree} {p : Place} (hroot : place ≠ [])
    (h : (t.erase place).Passable p) : p ≠ place := by
  rintro rfl
  have hnone := Tree.get?_erase_self t hroot
  rcases h with hget | ⟨l, hget⟩
  · rw [hnone] at hget
    cases hget
  · rw [hnone] at hget
    cases hget

/-- The names before the last one lead to the same directory without the place, and
    then with the file at it. -/
theorem Written.read_or_through (htarget : target.WellFormed) (h : Written m target bytes place out) :
    out.machine.tree.readFile out.machine.home target.toString = .ok bytes ∨
      ThroughLink m target place := by
  obtain ⟨⟨left, dir, name, hname, hplace, hleads⟩, hdir, _, hmachine⟩ := h
  have hroot : place ≠ [] := by simp [hplace]
  by_cases hway : ∃ left dir, ((withDirs m target).tree.erase place).Leads Tree.maxLinks
      (Tree.origin m.home target) target.parent.parts left dir
  · left
    obtain ⟨left', dir', hwithout⟩ := hway
    have hwith : (withDirs m target).tree.Leads Tree.maxLinks (Tree.origin m.home target)
        target.parent.parts left' dir' :=
      hwithout.congr fun p hp => (Tree.get?_erase_of_ne _ (ne_of_passable_erase hroot hp)).symm
    obtain rfl := hwith.unique hleads
    have hafter : ((withDirs m target).tree.put place (.file ⟨bytes, 0o644, m.now⟩)).Leads
        Tree.maxLinks (Tree.origin m.home target) target.parent.parts left' dir' := by
      apply hwithout.congr
      intro p hp
      have hne := ne_of_passable_erase hroot hp
      rw [Tree.get?_put_of_ne _ _ hne, Tree.get?_erase_of_ne _ hne]
    have hget : ((withDirs m target).tree.put place (.file ⟨bytes, 0o644, m.now⟩)).get?
        (dir' ++ [name]) = some (.file ⟨bytes, 0o644, m.now⟩) := by
      rw [← hplace]
      exact Tree.get?_put_self _ _ hroot
    rw [hmachine]
    exact Tree.readFile_of_leads htarget hname hafter hget
  · right
    refine ⟨?_, hway⟩
    by_contra hlink
    apply hway
    -- A place that is neither a directory nor a link is not on any way.
    refine ⟨left, dir, hleads.congr ?_⟩
    intro p hpass
    apply Tree.get?_erase_of_ne
    rintro rfl
    rcases hpass with hget | hget
    · exact hdir hget
    · exact hlink hget

theorem Written.completed (htarget : target.WellFormed) (h : Written m target bytes place out) :
    Completed m target bytes place out where
  named := h.named
  not_dir := h.not_dir
  result := h.result
  holds := h.get?
  elsewhere q hq := by
    rw [h.machine]
    exact Tree.get?_put_of_ne _ _ hq
  machine := by rw [h.machine]
  read := h.read_or_through htarget

end

/-- **A write is atomic at every point where it can break.**  On the way to the
    file directories are made.  If something breaks the write, they are all that
    has changed, and it is raised, wrapped if it is a refusal; if nothing does, the
    file with all the bytes of the stream has taken the place of what was there.
    The stream is closed. -/
theorem atomicWrite_atomic {ν : Type} (site : Site ν) (text : String) (s : Stream) :
    let m := site.machine
    let target := Path.ofString text
    ∃ out, (Act.atomicWrite target s).Ends site (.ok (out.result, out.stream))
        { site with machine := out.machine } ∧
      out.stream.lineage.Closed ∧
      m.tree.MakesOnWay (withDirs m target).tree m.home target.parent ∧
      ((∃ f, Broken m target s f out) ∨
        s.fault? = none ∧ (∀ f, ¬Breaks m target s f) ∧
          ∃ place, Completed m target s.bytes place out) := by
  intro m target
  have htarget : target.WellFormed := Path.wellFormed_ofString text
  have hdirs : m.tree.MakesOnWay (withDirs m target).tree m.home target.parent :=
    Tree.makesOnWay_makeDirs m.tree m.home htarget.parent
  refine ⟨write m target s, Act.ends_atomicWrite target s site, closed_write m target s, hdirs, ?_⟩
  -- A write breaks at one of the named points, or passes them all.
  rcases write_breaks m target s with ⟨f, hbreaks, hresult⟩ | ⟨hpassed, n, hresult⟩
  · left
    rcases write_cases m htarget s with ⟨_, _, hmachine⟩ | ⟨_, place, hwritten⟩
    · exact ⟨f, hbreaks, hmachine, _, hresult, wraps_or_same target f⟩
    · rw [hwritten.result] at hresult
      cases hresult
  · right
    rcases write_cases m htarget s with ⟨g, herror, _⟩ | ⟨hfault, place, hwritten⟩
    · rw [herror] at hresult
      cases hresult
    · exact ⟨hfault, hpassed, place, hwritten.completed htarget⟩

end AtomicWrite

end SinkPipeline
