import SinkPipeline.Proofs.Output.AllOrNothing
import SinkPipeline.Proofs.Process.Independence

/-! # Replacing a file in a directory

  A sink writes its file in its own directory, which is there: it was found by
  walking it.  In a tree without links such a write does nothing but to put the
  file at the place that its path spells, or fails and does nothing at all.

  Whether it fails does not depend on generated files: none of them is in its
  way, and none has the name of a temporary file.
-/

namespace SinkPipeline

/-! ### Directories that are there -/

/-- An absolute path that spells the place of a directory. -/
structure Machine.Standing (m : Machine) (dir : Path) : Prop where
  /-- Its parts are legal. -/
  wellFormed : dir.WellFormed
  /-- It is absolute. -/
  absolute : dir.isAbsolute = true
  /-- It has no double points. -/
  plain : ".." ∉ dir.parts
  /-- It can be handed over. -/
  given : Tree.refusal? dir.toString = none
  /-- The directory is there. -/
  there : m.tree.entryAt m.home true dir.toString = .ok (dir.parts, .dir)

/-- The root directory is always there. -/
theorem Machine.standing_root (m : Machine) : m.Standing ⟨.root, []⟩ := by
  have hwellFormed : (Path.mk .root []).WellFormed := by
    intro part hpart
    cases hpart
  have hleads : m.tree.Leads Tree.maxLinks [] [] Tree.maxLinks [] := .here
  exact ⟨hwellFormed, rfl, by simp, rfl, Tree.Leads.entryAt hwellFormed (by decide) hleads⟩

namespace Machine.Standing

variable {m m' : Machine} {dir : Path}

/-- The names of its path lead to it. -/
theorem leads (h : m.Standing dir) (ht : m.tree.Linkless) :
    m.tree.Leads Tree.maxLinks (Tree.origin m.home dir) dir.parts Tree.maxLinks dir.parts := by
  have hleads := ht.leads_of_entryAt h.there
  rwa [Path.ofString_toString h.wellFormed] at hleads

/-- A path that leads to a directory, and has no double points, spells its place. -/
theorem of_entryAt (ht : m.tree.Linkless) {p : Place} (hwellFormed : dir.WellFormed)
    (habsolute : dir.isAbsolute = true) (hplain : ".." ∉ dir.parts)
    (hgiven : Tree.refusal? dir.toString = none)
    (h : m.tree.entryAt m.home true dir.toString = .ok (p, .dir)) :
    p = dir.parts ∧ m.Standing dir := by
  have hleads := ht.leads_of_entryAt h
  rw [Path.ofString_toString hwellFormed] at hleads
  have hp : p = dir.parts := by
    have hplace := (hleads.place_eq ht hplain).1
    rwa [Tree.origin, if_pos habsolute, List.nil_append] at hplace
  subst hp
  exact ⟨rfl, hwellFormed, habsolute, hplain, hgiven, h⟩

theorem alike (h : m.Standing dir) (ht : m.tree.Linkless) (halike : m.Alike m') :
    m'.Standing dir := by
  refine ⟨h.wellFormed, h.absolute, h.plain, h.given, ?_⟩
  rw [halike.home]
  exact halike.tree.entryAt_dir ht h.there

/-- Its path is not too long. -/
theorem not_too_long (h : m.Standing dir) :
    ¬Tree.maxPathBytes < dir.toString.utf8ByteSize := by
  intro hsize
  have hresolve := Tree.resolve_of_entryAt h.there
  rw [Tree.resolve_eq, if_neg (Path.toString_ne_empty h.wellFormed), if_pos hsize] at hresolve
  cases hresolve

theorem resolve (h : m.Standing dir) (ht : m.tree.Linkless) (followLast : Bool) :
    m.tree.resolve m.home followLast dir.toString = .ok (.occupied dir.parts .dir) := by
  have hwalk := ht.walk_of_leads (h.leads ht) (followLast || Tree.endsInSlash dir.toString)
  rw [Tree.resolve_eq, if_neg (Path.toString_ne_empty h.wellFormed), if_neg h.not_too_long,
    Path.ofString_toString h.wellFormed, hwalk]
  rfl

theorem stat (h : m.Standing dir) : m.tree.stat m.home dir.toString = .ok .dir := by
  unfold Tree.stat Tree.aboutPath
  rw [h.given, h.there]
  rfl

/-- **What is seen of a file** in a directory that is there depends on no other
    file. -/
theorem stat_child (h : m.Standing dir) (h' : m'.Standing dir) (ht : m.tree.Linkless)
    (ht' : m'.tree.Linkless) {name : String} (hname : Path.IsPart name) (hup : name ≠ "..")
    (hget : m'.tree.get? (dir.parts ++ [name]) = m.tree.get? (dir.parts ++ [name])) :
    m'.tree.stat m'.home (dir.child name).toString = m.tree.stat m.home (dir.child name).toString := by
  have hresolve : m'.tree.resolve m'.home true (dir.child name).toString =
      m.tree.resolve m.home true (dir.child name).toString := by
    rw [Tree.resolve_child _ _ _ h.wellFormed hname, Tree.resolve_child _ _ _ h.wellFormed hname,
      (h.leads ht).walk_append true (by simp), (h'.leads ht').walk_append true (by simp),
      ht.walk_single hup, ht'.walk_single hup, hget]
  unfold Tree.stat Tree.entryAt
  rw [hresolve]

/-- **Making a directory that is there** changes nothing. -/
theorem makeDirs (h : m.Standing dir) (ht : m.tree.Linkless) :
    m.tree.makeDirs m.home dir = (m.tree, .ok ()) := by
  have hmake : m.tree.makeDir m.home dir.toString = .error (.os .exists [dir.toString]) := by
    unfold Tree.makeDir Tree.aboutPath
    rw [h.given, h.resolve ht]
    rfl
  have hdir : m.tree.isDir? m.home dir.toString = .ok true := by
    unfold Tree.isDir? Tree.holds
    rw [h.stat]
    rfl
  have hensure : m.tree.ensureDir m.home dir.toString = .ok m.tree := by
    unfold Tree.ensureDir
    simp only [hmake, Fault.isOs, if_true, hdir]
    rfl
  have hpath : (Path.mk dir.anchor dir.parts.reverse.reverse).toString = dir.toString := by
    rw [List.reverse_reverse]
  unfold Tree.makeDirs Tree.ensureDirs
  simp only [hpath, hmake, hensure]

end Machine.Standing

namespace AtomicWrite

variable {m m' : Machine} {dir : Path} {name : String}

/-! ### Writing in such a directory -/

theorem withDirs_of_standing (h : m.Standing dir) (ht : m.tree.Linkless) :
    withDirs m (dir.child name) = m := by
  unfold withDirs
  rw [Path.parent_child, h.makeDirs ht]

/-- **A write in a directory that is there** fails and changes nothing, or puts
    the file at the place that its path spells. -/
theorem write_standing (h : m.Standing dir) (ht : m.tree.Linkless) (hname : Path.IsPart name)
    (s : Stream) :
    let out := write m (dir.child name) s
    (∃ f, out.result = .error f ∧ out.machine = m) ∨
      s.fault? = none ∧ Written m (dir.child name) s.bytes (dir.child name).parts out ∧
        out.machine = { m with
          tree := m.tree.put (dir.child name).parts (.file ⟨s.bytes, 0o644, m.now⟩)
          now := m.now + 1 } := by
  intro out
  have hdirs : withDirs m (dir.child name) = m := withDirs_of_standing h ht
  rcases write_cases m (h.wellFormed.child hname) s with ⟨f, hresult, hmachine⟩ |
    ⟨hfault, place, hwritten⟩
  · exact .inl ⟨f, hresult, hmachine.trans hdirs⟩
  · right
    obtain ⟨left, dir', name', hnameable, rfl, hleads⟩ := hwritten.named
    have hname' : name' = name := by
      have hchild := congrArg Path.parts hnameable.1
      rw [Path.parent_child] at hchild
      have hlast := congrArg List.getLast? hchild
      simpa [Path.child] using hlast.symm
    have hdir' : dir' = dir.parts := by
      rw [hdirs, Path.parent_child] at hleads
      exact hleads.unique (h.leads ht)
    subst hname' hdir'
    refine ⟨hfault, hwritten, ?_⟩
    have hmachine := hwritten.machine
    rwa [hdirs] at hmachine

/-! ### Temporary names on alike machines -/

/-- The name of a temporary file is none of a generated file. -/
theorem isGenerated_tempName (n : Nat) : SinkName.isGenerated (tempName n) = false := by
  have hlist := toList_tempName n
  have hstem : namePrefix.toList = '.' :: ['c', 'a', 'p', 'e', 'x', 'e', 'c', '-', 't', 'm', 'p', '-'] := by
    decide
  have hpoint : '.' ∉ hexName n := not_mem_hexName (by decide) n
  have hrest : '.' ∉ ['c', 'a', 'p', 'e', 'x', 'e', 'c', '-', 't', 'm', 'p', '-'] ++ hexName n := by
    simp [hpoint]
  have hnone : '.' ∉ ([] : List Char) := by simp
  have hpieces := Text.cutAt_append hnone
    (['c', 'a', 'p', 'e', 'x', 'e', 'c', '-', 't', 'm', 'p', '-'] ++ hexName n)
  rw [Text.cutAt_of_not_mem hrest, List.nil_append] at hpieces
  unfold SinkName.isGenerated
  rw [hlist, hstem, List.cons_append, hpieces]

/-- The fresh name is the first that is not taken. -/
theorem freshName_eq (names : List String) :
    ∃ n, freshName names = tempName n ∧ tempName n ∉ names ∧ ∀ k < n, tempName k ∈ names := by
  unfold freshName
  cases hfind : (List.range (names.length + 1)).find? fun n => !names.contains (tempName n) with
  | none =>
    obtain ⟨n, hn, hfresh⟩ := exists_fresh names
    have htaken := List.find?_eq_none.mp hfind n hn
    simp [hfresh] at htaken
  | some n =>
    obtain ⟨hfresh, -, hbefore⟩ := List.find?_range_eq_some.mp hfind
    exact ⟨n, rfl, by simpa using hfresh, by simpa using hbefore⟩

theorem freshName_of_free {names : List String} (h : tempName 0 ∉ names) :
    freshName names = tempName 0 := by
  obtain ⟨n, hn, -, hbefore⟩ := freshName_eq names
  cases n with
  | zero => exact hn
  | succ n => exact absurd (hbefore 0 (Nat.succ_pos n)) h

/-- The fresh name depends only on which such names are taken. -/
theorem freshName_congr {names names' : List String}
    (h : ∀ n, tempName n ∈ names' ↔ tempName n ∈ names) : freshName names' = freshName names := by
  obtain ⟨n, hn, hfresh, hbefore⟩ := freshName_eq names
  obtain ⟨n', hn', hfresh', hbefore'⟩ := freshName_eq names'
  rw [hn, hn']
  rcases Nat.lt_trichotomy n' n with hlt | rfl | hlt
  · exact absurd ((h n').mpr (hbefore n' hlt)) hfresh'
  · rfl
  · exact absurd ((h n).mp (hbefore' n hlt)) hfresh

theorem namesAt_standing (h : m.Standing dir) : namesAt m dir = m.tree.names dir.parts := by
  unfold namesAt
  rw [h.there]

/-- **The same temporary file** is used on alike machines. -/
theorem freshName_alike (h : m.Standing dir) (ht : m.tree.Linkless) (halike : m.Alike m') :
    freshName (namesAt m' dir) = freshName (namesAt m dir) := by
  rw [namesAt_standing h, namesAt_standing (h.alike ht halike)]
  refine freshName_congr fun n => ?_
  have hkept : ∀ t : Tree, t.stands dir.parts (tempName n) = true := by
    intro t
    simp [Tree.stands, isGenerated_tempName]
  have hmem : ∀ t : Tree, tempName n ∈ (t.names dir.parts).filter (t.stands dir.parts) ↔
      tempName n ∈ t.names dir.parts := by
    intro t
    simp [hkept t]
  rw [← hmem, ← hmem, halike.tree.names]

/-! ### Writing on alike machines -/

/-- A file that is begun has a name that can be used. -/
theorem nameable_of_createFile {t t' : Tree} {start place : Place} {p : Path} {now : Nat}
    (hp : p.WellFormed) (hname : Path.IsPart name) (hup : name ≠ "..")
    (h : t.createFile start (p.child name).toString now = .ok (place, t')) :
    Tree.Nameable (p.child name) name := by
  obtain ⟨hgiven, hmade⟩ := Tree.of_aboutPath_ok h
  rw [Tree.resolve_child t start true hp hname] at hmade
  split at hmade
  · cases hmade
  next hsize =>
  cases hwalk : t.walk true Tree.maxLinks (Tree.origin start p) (p.parts ++ [name]) with
  | error e =>
    rw [hwalk] at hmade
    cases hmade
  | ok target =>
    obtain ⟨left, dir, -, hlast⟩ := Tree.leads_of_walk_append (by simp) hwalk
    refine ⟨by rw [Path.parent_child], hup, hgiven, hsize, fun hlong => ?_⟩
    rw [Tree.walk, if_pos hlong] at hlast
    · cases hlast
    · exact hup

/-- A write that succeeds has a temporary file whose name can be used. -/
theorem nameable_temp (h : m.Standing dir) (ht : m.tree.Linkless) {s : Stream} {n : Nat}
    (hresult : (write m (dir.child name) s).result = .ok n) :
    Tree.Nameable (dir.child (freshName (namesAt m dir))) (freshName (namesAt m dir)) := by
  unfold write at hresult
  rw [Path.parent_child, h.makeDirs ht] at hresult
  dsimp only at hresult
  cases hcreate : m.tree.createFile m.home (dir.child (freshName (namesAt m dir))).toString m.now with
  | error f =>
    simp only [Machine.home] at hresult hcreate
    rw [hcreate] at hresult
    cases hresult
  | ok created =>
    obtain ⟨place, t'⟩ := created
    exact nameable_of_createFile h.wellFormed (isPart_freshName _).1 (isPart_freshName _).2 hcreate

/-- **A write in a directory that is there** succeeds if the names of the file
    and of the temporary file can be used and no directory is in the way. -/
theorem write_in_standing (h : m.Standing dir) (ht : m.tree.Linkless) (hpart : Path.IsPart name)
    (hname : Tree.Nameable (dir.child name) name)
    (htemp : Tree.Nameable (dir.child (freshName (namesAt m dir))) (freshName (namesAt m dir)))
    (hfree : m.tree.get? (dir.parts ++ [name]) ≠ some .dir) {s : Stream} (hs : s.fault? = none) :
    (write m (dir.child name) s).result = .ok s.bytes.length := by
  have hparent : (dir.child name).parent = dir := Path.parent_child dir name
  have hmade : m.tree.makeDirs m.home (dir.child name).parent = (m.tree, .ok ()) := by
    rw [hparent]
    exact h.makeDirs ht
  have hleads : m.tree.Leads Tree.maxLinks (Tree.origin m.home (dir.child name))
      (dir.child name).parent.parts Tree.maxLinks dir.parts := by
    rw [hparent]
    exact h.leads ht
  have htemp' : Tree.Nameable ((dir.child name).parent.child (freshName (m.tree.names dir.parts)))
      (freshName (m.tree.names dir.parts)) := by
    rwa [hparent, ← namesAt_standing h]
  exact write_succeeds (h.wellFormed.child hpart) hname hmade hleads hfree htemp' hs

/-- A file is written into the root directory if its name can be used, no
    directory is in the way and the first name of a temporary file is free. -/
theorem write_in_root (ht : m.tree.Linkless) (hpart : Path.IsPart name)
    (hname : Tree.Nameable ((Path.mk .root []).child name) name)
    (hfree : m.tree.get? [name] ≠ some .dir) (htemp : tempName 0 ∉ m.tree.names []) {s : Stream}
    (hs : s.fault? = none) :
    (write m ((Path.mk .root []).child name) s).result = .ok s.bytes.length := by
  have hroot := m.standing_root
  have hfresh : freshName (namesAt m ⟨.root, []⟩) = tempName 0 := by
    rw [namesAt_standing hroot]
    exact freshName_of_free htemp
  have hnameable : Tree.Nameable ((Path.mk .root []).child (tempName 0)) (tempName 0) :=
    ⟨rfl, (isPart_tempName 0).2, rfl, by decide, by decide⟩
  rw [← hfresh] at hnameable
  exact write_in_standing hroot ht hpart hname hnameable hfree hs

/-- **A write succeeds on both** of two alike machines, or on neither. -/
theorem write_alike (h : m.Standing dir) (ht : m.tree.Linkless) (halike : m.Alike m')
    (hname : Path.IsPart name) {s : Stream} {n : Nat}
    (hresult : (write m (dir.child name) s).result = .ok n) :
    (write m' (dir.child name) s).result = .ok n := by
  have htemp := nameable_temp h ht hresult
  rw [← freshName_alike h ht halike] at htemp
  rcases write_standing h ht hname s with ⟨f, hfailed, -⟩ | ⟨hfault, hwritten, -⟩
  · rw [hresult] at hfailed
    cases hfailed
  · have h' := h.alike ht halike
    have ht' := halike.tree.linkless ht
    have hlength : n = s.bytes.length := by
      have hsame := hresult.symm.trans hwritten.result
      simpa using hsame
    obtain ⟨left, dir', name', hnameable, hplace, -⟩ := hwritten.named
    have hname' : name' = name := by
      have hlast := congrArg List.getLast? hplace
      simpa [Path.child] using hlast.symm
    subst hname'
    -- What is no directory on one machine is none on an alike one.
    have hfree : m'.tree.get? (dir.parts ++ [name']) ≠ some .dir := by
      intro hdir
      refine hwritten.not_dir ?_
      rw [withDirs_of_standing h ht]
      exact halike.symm.tree.get?_eq_dir hdir
    rw [hlength]
    exact write_in_standing h' ht' hname hnameable htemp hfree hfault

end AtomicWrite

end SinkPipeline
