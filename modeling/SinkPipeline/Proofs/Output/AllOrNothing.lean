import Mathlib.Data.Finset.Card
import Mathlib.Data.List.Nodup
import SinkPipeline.Output.AtomicWrite
import SinkPipeline.Proofs.FileTree.Changing
import SinkPipeline.Proofs.Process.Reading
import SinkPipeline.Proofs.Text.Hex

/-! # A write is all or nothing

  A write that succeeds puts the whole stream under the last name of its path,
  in the directory that the names before it lead to, and changes no other file.
  A write that fails changes no file at all, whichever of its steps failed.  In
  both cases directories may have been made.

  What carries this is the temporary file: its name is fresh, so it is vacant
  before, and taking it away leaves the tree as it was.
-/

namespace SinkPipeline

namespace AtomicWrite

/-! ### Fresh names -/

theorem hexName_injective : Function.Injective hexName := by
  intro a b h
  have hread : ∀ n, Text.hexNumber (hexName n) = n := fun n =>
    (Text.hexNumber_replicate_append _ _).trans (Text.hexNumber_toDigits n)
  rw [← hread a, h, hread b]

theorem tempName_injective : Function.Injective tempName := by
  intro a b h
  apply hexName_injective
  have hlist := congrArg String.toList h
  simpa [tempName] using hlist

/-- Among one more number than there are names is one whose name is fresh. -/
theorem exists_fresh (names : List String) :
    ∃ n ∈ List.range (names.length + 1), tempName n ∉ names := by
  by_contra hall
  have htaken : ∀ n ∈ List.range (names.length + 1), tempName n ∈ names := by
    intro n hn
    by_contra hfree
    exact hall ⟨n, hn, hfree⟩
  have hnodup : ((List.range (names.length + 1)).map tempName).Nodup :=
    List.nodup_range.map tempName_injective
  have hsub : (List.range (names.length + 1)).map tempName ⊆ names := by
    intro name hname
    obtain ⟨n, hn, rfl⟩ := List.mem_map.mp hname
    exact htaken n hn
  have hlength := (hnodup.subperm hsub).length_le
  simp only [List.length_map, List.length_range] at hlength
  omega

/-- **The name of the temporary file is fresh.** -/
theorem freshName_not_mem (names : List String) : freshName names ∉ names := by
  unfold freshName
  match hfind : (List.range (names.length + 1)).find? fun n => !names.contains (tempName n) with
  | none =>
    obtain ⟨n, hn, hfresh⟩ := exists_fresh names
    have := List.find?_eq_none.mp hfind n hn
    simp [hfresh] at this
  | some n =>
    have := List.find?_some hfind
    simpa using this

theorem toList_tempName (n : Nat) : (tempName n).toList = namePrefix.toList ++ hexName n := by
  simp [tempName]

/-- What is no digit is not in a number. -/
theorem not_mem_hexName {c : Char} (hc : ∀ d : Fin 16, c ≠ d.val.digitChar) (n : Nat) :
    c ∉ hexName n := by
  have hdigits : c ∉ Nat.toDigits 16 n := by
    induction n using Nat.strongRecOn with
    | _ n ih =>
      by_cases hn : n < 16
      · rw [Nat.toDigits_of_lt_base hn, List.mem_singleton]
        exact hc ⟨n, hn⟩
      · rw [Nat.toDigits_of_base_le (by decide) (by omega), List.mem_append, List.mem_singleton]
        rintro (hhigh | hlow)
        · exact ih (n / 16) (by omega) hhigh
        · exact hc ⟨n % 16, Nat.mod_lt _ (by decide)⟩ hlow
  have hzero : c ≠ '0' := hc 0
  unfold hexName
  simp [hdigits, hzero]

/-- The name of a temporary file is a name like any other. -/
theorem isPart_tempName (n : Nat) : Path.IsPart (tempName n) ∧ tempName n ≠ ".." := by
  have hlist := toList_tempName n
  have hstem : namePrefix.toList = ['.', 'c', 'a', 'p', 'e', 'x', 'e', 'c', '-', 't', 'm', 'p', '-'] := by
    decide
  rw [hstem] at hlist
  refine ⟨⟨?_, ?_, ?_⟩, ?_⟩
  · intro h
    rw [h] at hlist
    cases hlist
  · intro h
    rw [h] at hlist
    cases hlist
  · rw [hlist]
    have hdigits : '/' ∉ hexName n := not_mem_hexName (by decide) n
    simp [hdigits]
  · intro h
    rw [h] at hlist
    cases hlist

theorem isPart_freshName (names : List String) :
    Path.IsPart (freshName names) ∧ freshName names ≠ ".." := isPart_tempName _

/-! ### The steps of a write -/

/-- The machine once the directories above a file have been made, or as many of
    them as can be. -/
def withDirs (m : Machine) (target : Path) : Machine :=
  { m with tree := (m.tree.makeDirs m.home target.parent).1 }

/-- A failed write leaves the machine as the making of directories left it. -/
def Failed (m : Machine) (target : Path) (out : Outcome) : Prop :=
  ∃ f, out.result = .error f ∧ out.machine = withDirs m target

/-- The place of a path: under its last name, in the directory that the names
    before it lead to once the directories have been made. -/
def PlaceOf (m : Machine) (target : Path) (place : Place) : Prop :=
  ∃ left dir name, Tree.Nameable target name ∧ place = dir ++ [name] ∧
    (withDirs m target).tree.Leads Tree.maxLinks (Tree.origin m.home target) target.parent.parts
      left dir

/-- A write that succeeds puts the bytes at the place of its path. -/
structure Written (m : Machine) (target : Path) (bytes : Bytes) (place : Place) (out : Outcome) :
    Prop where
  /-- The place is that of the path. -/
  named : PlaceOf m target place
  /-- No directory was there. -/
  not_dir : (withDirs m target).tree.get? place ≠ some .dir
  /-- All bytes were written. -/
  result : out.result = .ok bytes.length
  /-- The file is all that the write changes. -/
  machine : out.machine = { m with
    tree := (withDirs m target).tree.put place (.file ⟨bytes, 0o644, m.now⟩)
    now := m.now + 1 }

/-- The temporary file is neither a directory nor a link, so the same names lead
    to the same directories with it and without it. -/
theorem get?_put_passable {t : Tree} {place : Place} (hvacant : t.get? place = none) (e : Entry)
    (p : Place) (hp : t.Passable p) : (t.put place e).get? p = t.get? p := by
  refine Tree.get?_put_of_ne _ _ ?_
  rintro rfl
  rcases hp with hp | ⟨l, hp⟩ <;> simp [hvacant] at hp

/-- Filling a temporary file that was begun at a vacant place: the stream is
    where it belongs, or all is as it was before. -/
theorem fill_cases {m : Machine} {target temp : Path} {place : Place} {left : Nat} {dir : Place}
    (htarget : target.WellFormed) (empty : Entry) (hvacant : m.tree.get? place = none)
    (hleads : m.tree.Leads Tree.maxLinks (Tree.origin m.home target) target.parent.parts left dir)
    (s : Stream) :
    let out := fill { m with tree := m.tree.put place empty } target temp place s
    (∃ f, out.result = .error f ∧ out.machine = m) ∨
      s.fault? = none ∧ ∃ name, Tree.Nameable target name ∧
        m.tree.get? (dir ++ [name]) ≠ some .dir ∧ out.result = .ok s.bytes.length ∧
        out.machine = { m with
          tree := m.tree.put (dir ++ [name]) (.file ⟨s.bytes, 0o644, m.now⟩)
          now := m.now + 1 } := by
  have hroot : place ≠ [] := by
    rintro rfl
    simp at hvacant
  have hback : (m.tree.put place empty).erase place = m.tree := Tree.erase_put_of_vacant _ hvacant
  unfold fill
  simp only [Stream.readAll_fault, Stream.readAll_value, Tree.put_put, hback]
  match hfault : s.fault? with
  | some f => exact .inl ⟨_, rfl, rfl⟩
  | none =>
    dsimp only
    match hrename : (m.tree.put place (.file ⟨s.bytes, 0o644, m.now⟩)).rename
        (Machine.home { m with tree := m.tree.put place empty }) place temp.toString
        target.toString with
    | .error f => exact .inl ⟨_, rfl, rfl⟩
    | .ok tree =>
      right
      obtain ⟨left', dir', name, hname, hleads', hdir, htree⟩ := Tree.rename_ok htarget hrename
      -- The temporary file is in nobody's way: the target is reached as before.
      have hsame : dir = dir' :=
        (hleads.congr (get?_put_passable hvacant (.file ⟨s.bytes, 0o644, m.now⟩))).unique hleads'
      subst hsame
      rw [Tree.get?_put_self _ _ hroot, Tree.erase_put_of_vacant _ hvacant] at htree
      refine ⟨rfl, name, hname, ?_, rfl, by simp [htree]⟩
      -- The target may be the very place of the temporary file.
      by_cases hplace : dir ++ [name] = place
      · rw [hplace, hvacant]
        simp
      · rwa [Tree.get?_put_of_ne _ _ hplace] at hdir

/-- **A write is all or nothing.** -/
theorem write_cases (m : Machine) {target : Path} (htarget : target.WellFormed) (s : Stream) :
    Failed m target (write m target s) ∨
      s.fault? = none ∧ ∃ place, Written m target s.bytes place (write m target s) := by
  unfold write
  match hdirs : m.tree.makeDirs m.home target.parent with
  | (tree, .error f) =>
    left
    exact ⟨_, rfl, by simp [withDirs, hdirs]⟩
  | (tree, .ok ()) =>
    have hmade : withDirs m target = { m with tree := tree } := by simp [withDirs, hdirs]
    dsimp only
    generalize hnames : namesAt { m with tree := tree } target.parent = names
    match hcreate : tree.createFile (Machine.home { m with tree := tree })
        (target.parent.child (freshName names)).toString m.now with
    | .error f =>
      left
      exact ⟨_, rfl, by simp [hmade]⟩
    | .ok (place, created) =>
      -- The name was chosen among those of the directory in which the file is made.
      have hfresh : ∀ dir, tree.entryAt m.home true target.parent.toString = .ok (dir, .dir) →
          freshName names ∉ tree.names dir := by
        intro dir hentry
        have hdir : names = tree.names dir := by
          rw [← hnames]
          simp only [namesAt, Machine.home] at hentry ⊢
          rw [hentry]
        rw [← hdir]
        exact freshName_not_mem names
      obtain ⟨left, dir, hleads, -, -, hvacant, rfl⟩ :=
        Tree.createFile_ok htarget.parent (isPart_freshName names).1 (isPart_freshName names).2
          hfresh hcreate
      rcases fill_cases (m := { m with tree := tree }) htarget _ hvacant hleads s with
        ⟨f, hresult, hmachine⟩ | ⟨hfault, name, hname, hdir, hresult, hmachine⟩
      · exact .inl ⟨f, hresult, hmachine.trans hmade.symm⟩
      · refine .inr ⟨hfault, dir ++ [name], ?_⟩
        exact {
          named := ⟨left, dir, name, hname, rfl, by rwa [hmade]⟩
          not_dir := by rwa [hmade]
          result := hresult
          machine := by rwa [hmade] }

/-- Elsewhere a write only adds directories. -/
theorem Written.elsewhere {m : Machine} {target : Path} {bytes : Bytes} {place : Place}
    {out : Outcome} (h : Written m target bytes place out) {q : Place} (hq : q ≠ place) :
    out.machine.tree.get? q = m.tree.get? q ∨
      m.tree.get? q = none ∧ out.machine.tree.get? q = some .dir := by
  rw [h.machine]
  simp only [Tree.get?_put_of_ne _ _ hq]
  exact m.tree.makeDirs_addsDirs m.home target.parent q

/-- The place of a path is not the root. -/
theorem PlaceOf.ne_nil {m : Machine} {target : Path} {place : Place} (h : PlaceOf m target place) :
    place ≠ [] := by
  obtain ⟨left, dir, name, -, rfl, -⟩ := h
  simp

/-- The bytes are at the place of the path. -/
theorem Written.get? {m : Machine} {target : Path} {bytes : Bytes} {place : Place}
    {out : Outcome} (h : Written m target bytes place out) :
    out.machine.tree.get? place = some (.file ⟨bytes, 0o644, m.now⟩) := by
  rw [h.machine]
  exact Tree.get?_put_self _ _ h.named.ne_nil

/-- The file that was written is read by its path, unless the path went through
    a link that it took the place of. -/
theorem Written.readFile {m : Machine} {target : Path} {bytes : Bytes} {place : Place}
    {out : Outcome} (htarget : target.WellFormed) (h : Written m target bytes place out)
    (hlink : ∀ l, m.tree.get? place ≠ some (.link l)) :
    out.machine.tree.readFile out.machine.home target.toString = .ok bytes := by
  obtain ⟨⟨left, dir, name, hname, rfl, hleads⟩, hdir, -, hmachine⟩ := h
  have hpass : ¬(withDirs m target).tree.Passable (dir ++ [name]) := by
    rintro (hp | ⟨l, hp⟩)
    · exact hdir hp
    · rcases m.tree.makeDirs_addsDirs m.home target.parent (dir ++ [name]) with hsame | ⟨-, hnew⟩
      · exact hlink l (hsame ▸ hp)
      · exact hdir hnew
  rw [hmachine]
  refine Tree.readFile_of_leads htarget hname (hleads.congr fun p hp => ?_)
    (Tree.get?_put_self _ _ (by simp))
  refine Tree.get?_put_of_ne _ _ ?_
  rintro rfl
  exact hpass hp

/-! ### When a write succeeds -/

/-- Filling a temporary file succeeds if no directory has the name of the file. -/
theorem fill_succeeds {m : Machine} {target temp : Path} {place : Place} {left : Nat} {dir : Place}
    {name : String} {s : Stream} (htarget : target.WellFormed) (hname : Tree.Nameable target name)
    (empty : Entry) (hvacant : m.tree.get? place = none)
    (hleads : m.tree.Leads Tree.maxLinks (Tree.origin m.home target) target.parent.parts left dir)
    (hget : m.tree.get? (dir ++ [name]) ≠ some .dir) (hfault : s.fault? = none) :
    (fill { m with tree := m.tree.put place empty } target temp place s).result =
      .ok s.bytes.length := by
  have hroot : place ≠ [] := by
    rintro rfl
    simp at hvacant
  have hfree : (m.tree.put place (.file ⟨s.bytes, 0o644, m.now⟩)).get? (dir ++ [name]) ≠
      some .dir := by
    by_cases hsame : dir ++ [name] = place
    · rw [hsame, Tree.get?_put_self _ _ hroot]
      simp
    · rwa [Tree.get?_put_of_ne _ _ hsame]
  obtain ⟨t', hrename⟩ := Tree.rename_of_not_dir place temp.toString htarget hname
    (hleads.congr (get?_put_passable hvacant (.file ⟨s.bytes, 0o644, m.now⟩))) hfree
  unfold fill
  simp only [Stream.readAll_fault, Stream.readAll_value, hfault, Tree.put_put]
  simp only [Machine.home] at hrename ⊢
  rw [hrename]

/-- **A write succeeds** if its directories can be made, no directory has the name
    of the file, and the paths of the file and of the temporary file can be used. -/
theorem write_succeeds {m : Machine} {tree : Tree} {target : Path} {name : String} {left : Nat}
    {dir : Place} {s : Stream} (htarget : target.WellFormed) (hname : Tree.Nameable target name)
    (hmade : m.tree.makeDirs m.home target.parent = (tree, .ok ()))
    (hleads : tree.Leads Tree.maxLinks (Tree.origin m.home target) target.parent.parts left dir)
    (hget : tree.get? (dir ++ [name]) ≠ some .dir)
    (htemp : Tree.Nameable (target.parent.child (freshName (tree.names dir)))
      (freshName (tree.names dir)))
    (hfault : s.fault? = none) : (write m target s).result = .ok s.bytes.length := by
  have hpart := (isPart_freshName (tree.names dir)).1
  have hpath : ¬Tree.maxPathBytes < target.parent.toString.utf8ByteSize := by
    have hlonger := Path.utf8ByteSize_toString_le_child target.parent hpart.1
    have hshort := htemp.2.2.2.1
    omega
  have hnames : namesAt { m with tree := tree } target.parent = tree.names dir := by
    have hentry := Tree.Leads.entryAt htarget.parent hpath hleads
    unfold namesAt
    simp only [Machine.home] at hentry ⊢
    rw [hentry]
  have hvacant : tree.get? (dir ++ [freshName (tree.names dir)]) = none :=
    Tree.get?_eq_none_of_not_mem_names (freshName_not_mem _)
  have hleadsTemp : tree.Leads Tree.maxLinks
      (Tree.origin m.home (target.parent.child (freshName (tree.names dir))))
      (target.parent.child (freshName (tree.names dir))).parent.parts left dir := by
    rw [Path.parent_child]
    exact hleads
  have hcreate := Tree.createFile_of_vacant (htarget.parent.child hpart) htemp hleadsTemp hvacant
    m.now
  -- Directories, name and temporary file are there, so only the filling is left.
  unfold write
  rw [hmade]
  dsimp only
  rw [hnames]
  simp only [Machine.home] at hcreate ⊢
  rw [hcreate]
  exact fill_succeeds (m := { m with tree := tree }) htarget hname _ hvacant hleads hget hfault

/-! ### How a write ends -/

/-- Without a fault of the stream, a write ends as that of its bytes does. -/
theorem write_result_of_no_fault (m : Machine) (target : Path) {s : Stream}
    (h : s.fault? = none) :
    (write m target s).result = (write m target (.ofBytes s.bytes)).result := by
  unfold write
  match m.tree.makeDirs m.home target.parent with
  | (tree, .error f) => rfl
  | (tree, .ok ()) =>
    dsimp only
    split
    · rfl
    · unfold fill
      simp only [Stream.readAll_fault, Stream.readAll_value, Stream.bytes_ofBytes,
        Stream.fault?_ofBytes, h]
      split <;> rfl

/-- With a fault of the stream, a write ends in it, unless that of its bytes does
    not get as far as to read them. -/
theorem write_result_of_fault (m : Machine) (target : Path) {s : Stream} {f : Fault}
    (h : s.fault? = some f) :
    (write m target s).result = .error (failure target f) ∨
      ∃ g, (write m target s).result = .error g ∧
        (write m target (.ofBytes s.bytes)).result = .error g := by
  unfold write
  match m.tree.makeDirs m.home target.parent with
  | (tree, .error g) => exact .inr ⟨_, rfl, rfl⟩
  | (tree, .ok ()) =>
    dsimp only
    split
    · exact .inr ⟨_, rfl, rfl⟩
    · left
      unfold fill
      simp only [Stream.readAll_fault, h]

end AtomicWrite

end SinkPipeline
