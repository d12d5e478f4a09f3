import SinkPipeline.Proofs.DirectoryWalk.Gathering
import SinkPipeline.Proofs.FileTree.Making
import SinkPipeline.Proofs.Planning

/-! # Where a walk goes

  A walk goes down from its root through directories, never through a link, and
  no further than paths can be spelled: a directory whose path has too many bytes
  is not listed.  In each directory it gathers what is no directory.

  So what is gathered can be told from the tree, without the walk.

  - `Stands.scan`, `Stands.looksLink_dir`, `Stands.looksDir_file`: what is seen of a
    directory that is there, and in it.
  - `meets_iff_visitsOf`, `meets_file_iff`, `not_meets_of_passes`: what a visit meets, told
    from the visits that it leads to.
  - `mem_iff_of_gathers`: what is gathered, by induction on the walk.
-/

namespace SinkPipeline

/-- A machine as an operating system keeps it, with links or without. -/
structure Machine.Orderly (m : Machine) : Prop where
  /-- Each place has one entry at most. -/
  distinct : (m.tree.entries.map (·.1)).Nodup
  /-- All names are legal. -/
  legal : ∀ dir, ∀ name ∈ m.tree.names dir, Tree.LegalName name
  /-- No name is too long. -/
  short : ∀ dir, ∀ name ∈ m.tree.names dir, ¬Tree.maxNameBytes < name.utf8ByteSize
  /-- The working directory has legal parts. -/
  cwd : m.cwd.WellFormed
  /-- The working directory is absolute. -/
  absolute : m.cwd.isAbsolute = true

/-- A machine that works in the root directory is one, if the names are legal and not
    too long. -/
theorem Machine.orderly_of_entries {m : Machine} (hcwd : m.cwd = ⟨.root, []⟩)
    (hdistinct : (m.tree.entries.map (·.1)).Nodup)
    (hnames : ∀ e ∈ m.tree.entries, ∀ name ∈ e.1,
      Tree.LegalName name ∧ ¬Tree.maxNameBytes < name.utf8ByteSize) : m.Orderly where
  distinct := hdistinct
  legal := by
    intro dir name hname
    obtain ⟨e, hmem, hplace⟩ := Tree.exists_of_mem_names hname
    exact (hnames e hmem name hplace).1
  short := by
    intro dir name hname
    obtain ⟨e, hmem, hplace⟩ := Tree.exists_of_mem_names hname
    exact (hnames e hmem name hplace).2
  cwd := by
    rw [hcwd]
    intro part hpart
    cases hpart
  absolute := by rw [hcwd]; rfl

namespace Tree

/-- What is followed to a directory is led to it. -/
theorem leads_of_walk {t : Tree} {links : Nat} {start dir : Place} {names : List String}
    (h : t.walk true links start names = .ok (.occupied dir .dir)) :
    ∃ left, t.Leads links start names left dir := by
  generalize hfollow : true = follow at h
  -- Only three steps of the walk go on: up, down, and across a link.
  fun_induction Tree.walk t follow links start names with
  | case1 =>
    cases h
    exact ⟨_, .here⟩
  | case2 _ _ _ ih =>
    obtain ⟨left, hleads⟩ := ih h
    exact ⟨left, .up hleads⟩
  | case6 _ _ _ _ hname hsize hget ih =>
    obtain ⟨left, hleads⟩ := ih h
    exact ⟨left, .down hname hsize hget hleads⟩
  | case11 _ _ _ hname hsize _ hget _ _ _ ih =>
    obtain ⟨left, hleads⟩ := ih h
    exact ⟨left, .across hname hsize hget hleads⟩
  | _ => cases h

/-- A path that leads to something is not too long. -/
theorem short_of_entryAt {t : Tree} {start p : Place} {followLast : Bool} {path : String}
    {e : Entry} (h : t.entryAt start followLast path = .ok (p, e)) :
    ¬maxPathBytes < path.utf8ByteSize := by
  intro hlong
  unfold Tree.entryAt at h
  rw [resolve_eq, if_pos hlong] at h
  split at h <;> cases h

/-- What leads to a file, links followed or not, looks like neither a directory nor a
    link. -/
theorem looks_file {t : Tree} {start p : Place} {path : String} {f : File}
    (hgiven : refusal? path = none)
    (hentry : ∀ followLast, t.entryAt start followLast path = .ok (p, .file f)) :
    t.looksDir start path = false ∧ t.looksLink start path = false := by
  unfold looksDir looksLink stat lstat aboutPath
  rw [hgiven, hentry, hentry]
  exact ⟨rfl, rfl⟩

/-- Below the place some names are those of directories, each in the one before. -/
def Dirs (t : Tree) (p : Place) (names : List String) : Prop :=
  ∀ q, q <+: names → q ≠ [] → t.get? (p ++ q) = some .dir

section

variable {t : Tree} {p : Place} {names more : List String} {name : String}

theorem dirs_nil (t : Tree) (p : Place) : t.Dirs p [] := by
  intro q hq hne
  exact absurd (List.prefix_nil.mp hq) hne

theorem Dirs.of_prefix (h : t.Dirs p names) (hmore : more <+: names) : t.Dirs p more := by
  intro q hq hne
  exact h q (hq.trans hmore) hne

theorem Dirs.concat (h : t.Dirs p names) (hget : t.get? (p ++ (names ++ [name])) = some .dir) :
    t.Dirs p (names ++ [name]) := by
  intro q hq hne
  rcases List.prefix_concat_iff.mp hq with rfl | hq
  · exact hget
  · exact h q hq hne

end

end Tree

/-- Each name of a directory that is reached is legal and not too long. -/
theorem Machine.Orderly.of_dirs {m : Machine} (hm : m.Orderly) {p : Place} {names : List String}
    (h : m.tree.Dirs p names) {name : String} (hname : name ∈ names) :
    Tree.LegalName name ∧ Tree.Plain name := by
  obtain ⟨before, after, rfl⟩ := List.append_of_mem hname
  have hget := h (before ++ [name]) ⟨after, by simp⟩ (by simp)
  rw [← List.append_assoc] at hget
  have hmem := Tree.mem_names_of_get? hget
  have hlegal := hm.legal _ name hmem
  exact ⟨hlegal, hlegal.ne_up, hm.short _ name hmem⟩

namespace DirectoryWalk

/-! ### Directories that are there -/

/-- The path leads to a directory at the place. -/
structure Stands (m : Machine) (path : Path) (p : Place) : Prop where
  /-- The path is direct. -/
  direct : path.Direct
  /-- The path can be used. -/
  usable : Tree.Usable path
  /-- It leads there. -/
  leads : ∃ left, m.tree.Leads Tree.maxLinks (Tree.origin m.home path) path.parts left p

section

variable {m : Machine} {path : Path} {p : Place} {names : List String} {name : String}

/-- The directories below one that is there are there, as far as their paths can be
    spelled. -/
theorem Stands.below (h : Stands m path p) (hm : m.Orderly) (hdirs : m.tree.Dirs p names)
    (hshort : ¬Tree.maxPathBytes < (path.below names).toString.utf8ByteSize) :
    Stands m (path.below names) (p ++ names) := by
  have hnames : ∀ name ∈ names, Tree.LegalName name ∧ Tree.Plain name := by
    intro name hname
    exact hm.of_dirs hdirs hname
  have hwellFormed : (path.below names).WellFormed :=
    h.direct.wellFormed.below fun name hname => (hnames name hname).1.isPart
  have hplain : ".." ∉ (path.below names).parts := by
    intro hup
    rcases List.mem_append.mp hup with hup | hup
    · exact h.direct.plain hup
    · exact (hnames _ hup).1.ne_up rfl
  have hgiven := Path.refusal?_below h.usable.given fun name hname => (hnames name hname).1.given
  refine ⟨⟨hwellFormed, h.direct.absolute, hplain⟩, ⟨hwellFormed, hgiven, hshort⟩, ?_⟩
  obtain ⟨left, hleads⟩ := h.leads
  have hrest := Tree.leads_of_dirs m.tree left names p (fun x hx => (hnames x hx).2) hdirs
  exact ⟨left, hleads.append hrest⟩

/-- The root directory is there. -/
theorem stands_root (m : Machine) : Stands m ⟨.root, []⟩ [] := by
  have hwellFormed : (Path.mk .root []).WellFormed := by
    intro part hpart
    cases hpart
  exact ⟨⟨hwellFormed, rfl, by simp⟩, ⟨hwellFormed, by decide, by decide⟩, Tree.maxLinks, .here⟩

/-- The path leads to the directory. -/
theorem Stands.entryAt (h : Stands m path p) :
    m.tree.entryAt m.home true path.toString = .ok (p, .dir) := by
  obtain ⟨left, hleads⟩ := h.leads
  exact hleads.entryAt h.usable.wellFormed h.usable.short

/-- A directory is seen there. -/
theorem Stands.stat (h : Stands m path p) : m.tree.stat m.home path.toString = .ok .dir := by
  unfold Tree.stat Tree.aboutPath
  rw [h.usable.given, h.entryAt]
  rfl

/-- The entries of a directory that is there. -/
theorem Stands.scan (h : Stands m path p) :
    m.tree.scan m.home path = .ok ((m.tree.sortedNames p).map fun name =>
      (name,
        match m.tree.get? (p ++ [name]) with
        | some .dir => true
        | some (.link _) => m.tree.looksDir m.home (path.child name).toString
        | _ => false)) := by
  exact Tree.scan_of_entryAt h.usable.given h.entryAt

/-- Following the text of a path below a directory that is there. -/
theorem Stands.resolve_child (h : Stands m path p) (hname : Tree.LegalName name) (followLast : Bool)
    (hshort : ¬Tree.maxPathBytes < (path.child name).toString.utf8ByteSize) :
    ∃ left, m.tree.resolve m.home followLast (path.child name).toString =
      m.tree.walk followLast left p [name] := by
  obtain ⟨left, hleads⟩ := h.leads
  refine ⟨left, ?_⟩
  rw [Tree.resolve_child _ _ _ h.usable.wellFormed hname.isPart, if_neg hshort]
  exact hleads.walk_append followLast (by simp)

/-- What is a directory itself does not look like a link. -/
theorem Stands.looksLink_dir (h : Stands m path p) (hname : Tree.LegalName name)
    (hsize : ¬Tree.maxNameBytes < name.utf8ByteSize)
    (hget : m.tree.get? (p ++ [name]) = some .dir) :
    m.tree.looksLink m.home (path.child name).toString = false := by
  have hlstat : ∀ target, m.tree.lstat m.home (path.child name).toString ≠ .ok (.link target) := by
    intro target hlstat
    obtain ⟨-, hentry⟩ := Tree.of_aboutPath_ok hlstat
    -- A path that is too long leads nowhere, and any other one to the directory.
    by_cases hshort : Tree.maxPathBytes < (path.child name).toString.utf8ByteSize
    · unfold Tree.entryAt at hentry
      rw [Tree.resolve_child _ _ _ h.usable.wellFormed hname.isPart, if_pos hshort] at hentry
      cases hentry
    · obtain ⟨left, hfound⟩ := h.resolve_child hname false hshort
      unfold Tree.entryAt at hentry
      rw [hfound, Tree.walk, if_neg hsize, hget] at hentry
      · dsimp only at hentry
        rw [Tree.walk] at hentry
        cases hentry
      · exact hname.ne_up
  unfold Tree.looksLink
  split
  · next target hfound => exact absurd hfound (hlstat target)
  · rfl

/-- A path that is seen to lead to a directory is not too long. -/
theorem short_of_looksDir {text : String} (h : m.tree.looksDir m.home text = true) :
    Tree.refusal? text = none ∧ ¬Tree.maxPathBytes < text.utf8ByteSize := by
  unfold Tree.looksDir at h
  split at h
  · next e hstat =>
    obtain ⟨hgiven, p, hentry⟩ := Tree.entryAt_of_stat hstat
    exact ⟨hgiven, Tree.short_of_entryAt hentry⟩
  · cases h

/-- What is a link to a directory looks like a link. -/
theorem Stands.looksLink_link (h : Stands m path p) (hname : Tree.LegalName name)
    (hsize : ¬Tree.maxNameBytes < name.utf8ByteSize) {target : String}
    (hget : m.tree.get? (p ++ [name]) = some (.link target))
    (hdir : m.tree.looksDir m.home (path.child name).toString = true) :
    m.tree.looksLink m.home (path.child name).toString = true := by
  obtain ⟨hgiven, hshort⟩ := short_of_looksDir hdir
  obtain ⟨left, hfound⟩ := h.resolve_child hname false hshort
  have hentry : m.tree.entryAt m.home false (path.child name).toString =
      .ok (p ++ [name], .link target) := by
    unfold Tree.entryAt
    rw [hfound, Tree.walk_single_occupied hname.ne_up hsize hget (by simp)]
    rfl
  unfold Tree.looksLink Tree.lstat Tree.aboutPath
  rw [hgiven, hentry]
  rfl

/-- The path of a file that is one itself leads to it. -/
theorem Stands.entryAt_file (h : Stands m path p) (hname : Tree.LegalName name)
    (hsize : ¬Tree.maxNameBytes < name.utf8ByteSize) {f : File}
    (hget : m.tree.get? (p ++ [name]) = some (.file f))
    (hshort : ¬Tree.maxPathBytes < (path.child name).toString.utf8ByteSize) (followLast : Bool) :
    m.tree.entryAt m.home followLast (path.child name).toString = .ok (p ++ [name], .file f) := by
  obtain ⟨left, hfound⟩ := h.resolve_child hname followLast hshort
  unfold Tree.entryAt
  rw [hfound, Tree.walk_single_file hname.ne_up hsize followLast hget]
  rfl

/-- What is a file itself is no directory. -/
theorem Stands.looksDir_file (h : Stands m path p) (hname : Tree.LegalName name)
    (hsize : ¬Tree.maxNameBytes < name.utf8ByteSize) {f : File}
    (hget : m.tree.get? (p ++ [name]) = some (.file f)) :
    m.tree.looksDir m.home (path.child name).toString = false := by
  by_contra hdir
  rw [Bool.not_eq_false] at hdir
  obtain ⟨hgiven, hshort⟩ := short_of_looksDir hdir
  unfold Tree.looksDir Tree.stat Tree.aboutPath at hdir
  rw [hgiven, h.entryAt_file hname hsize hget hshort] at hdir
  cases hdir

end

/-! ### What is to be visited -/

/-- Does the entry count as a file?  A link does unless it leads to a directory, as far
    as links are followed. -/
def CountsAsFile (m : Machine) (path : Path) : Entry → Prop
  | .file _ => True
  | .dir => False
  | .link _ => m.tree.looksDir m.home path.toString = false

/-- **A file below a directory**: every directory on the way is one itself and no link,
    and the path of the last one can be spelled. -/
structure ListedAt (m : Machine) (base : Path) (p : Place) (dirs : List String) (name : String)
    (f : FoundFile) : Prop where
  /-- The directories are there. -/
  reached : m.tree.Dirs p dirs
  /-- The path of the last one is not too long. -/
  short : ¬Tree.maxPathBytes < (base.below dirs).toString.utf8ByteSize
  /-- In it is something that counts as a file. -/
  there : ∃ e, m.tree.get? (p ++ (dirs ++ [name])) = some e ∧
    CountsAsFile m (base.below (dirs ++ [name])) e
  /-- It is known by its path and name. -/
  file : f = ⟨base.below (dirs ++ [name]), name,
    m.tree.looksLink m.home (base.below (dirs ++ [name])).toString⟩

/-- A visit that can be relied on: what is to be visited is below the directory, and
    there, or it is a link that is not entered. -/
def Sits (m : Machine) (base : Path) (p : Place) : Visit → Prop
  | .file dir name => ∃ dirs, dir = base.below dirs ∧ m.tree.Dirs p dirs ∧
      ¬Tree.maxPathBytes < dir.toString.utf8ByteSize ∧
      ∃ e, m.tree.get? (p ++ (dirs ++ [name])) = some e ∧ e ≠ .dir
  | .directory path isTop => ∃ dirs, path = base.below dirs ∧
      ((isTop = true ∧ dirs = []) ∨ (isTop = false ∧ dirs ≠ [] ∧
        (m.tree.Dirs p dirs ∨ m.tree.looksLink m.home path.toString = true)))

/-- The file with these names below the directory is met in the visit. -/
def Covers (base : Path) : Visit → List String → Prop
  | .file dir name, names => base.below names = dir.child name
  | .directory path _, names => ∃ more, more ≠ [] ∧ base.below names = path.below more

/-- The file is listed below the directory and met in the visit. -/
def Meets (m : Machine) (base : Path) (p : Place) (v : Visit) (f : FoundFile) : Prop :=
  ∃ dirs name, ListedAt m base p dirs name f ∧ Covers base v (dirs ++ [name])

section

variable {m : Machine} {base : Path} {p : Place} {dirs names : List String} {name : String}
  {path : Path} {isTop : Bool} {entries : List (String × Bool)}

theorem covers_file_iff :
    Covers base (.file (base.below dirs) name) names ↔ names = dirs ++ [name] := by
  rw [Covers, Path.child_below, Path.below_inj]

theorem covers_directory_iff :
    Covers base (.directory (base.below dirs) isTop) names ↔
      ∃ more, more ≠ [] ∧ names = dirs ++ more := by
  simp only [Covers, Path.below_below, Path.below_inj]

theorem prefix_of_covers {more above : List String} (hmore : more ≠ [])
    (h : above ++ [name] = dirs ++ more) : dirs <+: above := by
  rcases List.eq_nil_or_concat' more with rfl | ⟨front, last, rfl⟩
  · exact absurd rfl hmore
  rw [← List.append_assoc] at h
  obtain ⟨rfl, -⟩ := List.append_inj' h rfl
  exact List.prefix_append _ _

/-- The directory of a visit that is entered is there. -/
theorem stands_of_enters (hm : m.Orderly) (hbase : Stands m base p)
    (hsits : Sits m base p (.directory path isTop)) (henters : enters m path isTop = true)
    (hscan : m.tree.scan m.home path = .ok entries) :
    ∃ dirs, path = base.below dirs ∧ m.tree.Dirs p dirs ∧ Stands m path (p ++ dirs) := by
  obtain ⟨dirs, rfl, hdirs⟩ := hsits
  -- A link below the top is not entered.
  have hthere : m.tree.Dirs p dirs := by
    rcases hdirs with ⟨-, rfl⟩ | ⟨rfl, -, hdirs | hlink⟩
    · exact Tree.dirs_nil _ _
    · exact hdirs
    · unfold enters at henters
      rw [hlink] at henters
      cases henters
  obtain ⟨-, q, hentry⟩ := Tree.of_scan_ok hscan
  exact ⟨dirs, rfl, hthere, hbase.below hm hthere (Tree.short_of_entryAt hentry)⟩

/-- An entry of a directory that is there: its name, and whether it leads to a
    directory. -/
theorem Stands.mem_entries (h : Stands m path p) (hscan : m.tree.scan m.home path = .ok entries)
    {flag : Bool} :
    (name, flag) ∈ entries ↔ name ∈ m.tree.names p ∧ flag =
      match m.tree.get? (p ++ [name]) with
      | some .dir => true
      | some (.link _) => m.tree.looksDir m.home (path.child name).toString
      | _ => false := by
  have hentries := h.scan
  rw [hscan] at hentries
  cases hentries
  unfold Tree.sortedNames
  simp only [List.mem_map, List.mem_mergeSort, Prod.mk.injEq]
  constructor
  · rintro ⟨x, hx, rfl, rfl⟩
    exact ⟨hx, rfl⟩
  · rintro ⟨hx, hflag⟩
    exact ⟨name, hx, rfl, hflag.symm⟩

theorem mem_visitsOf_file : .file path name ∈ visitsOf path entries ↔ (name, false) ∈ entries := by
  unfold visitsOf
  simp

theorem mem_visitsOf_directory :
    .directory (path.child name) false ∈ visitsOf path entries ↔ (name, true) ∈ entries := by
  unfold visitsOf
  simp [Path.child]

theorem of_mem_visitsOf {v : Visit} (h : v ∈ visitsOf path entries) :
    ∃ name, (v = .file path name ∧ (name, false) ∈ entries) ∨
      (v = .directory (path.child name) false ∧ (name, true) ∈ entries) := by
  unfold visitsOf at h
  rcases List.mem_append.mp h with h | h
  · obtain ⟨⟨name, flag⟩, he, rfl⟩ := List.mem_map.mp h
    simp only [List.mem_filter, Bool.not_eq_true'] at he
    obtain ⟨he, rfl⟩ := he
    exact ⟨name, .inl ⟨rfl, he⟩⟩
  · obtain ⟨⟨name, flag⟩, he, rfl⟩ := List.mem_map.mp h
    simp only [List.mem_filter] at he
    obtain ⟨he, rfl⟩ := he
    exact ⟨name, .inr ⟨rfl, he⟩⟩

/-- What an entry of a directory is to be visited for is met in the directory. -/
theorem covers_of_mem_visitsOf {v : Visit} (h : v ∈ visitsOf (base.below dirs) entries)
    (hcovers : Covers base v names) : Covers base (.directory (base.below dirs) isTop) names := by
  rw [covers_directory_iff]
  obtain ⟨x, ⟨rfl, -⟩ | ⟨rfl, -⟩⟩ := of_mem_visitsOf h
  · exact ⟨[x], by simp, covers_file_iff.mp hcovers⟩
  · rw [Path.child_below] at hcovers
    obtain ⟨more, -, hmore⟩ := covers_directory_iff.mp hcovers
    exact ⟨x :: more, by simp, by simp [hmore]⟩

/-- **The entries of a directory** that is there can be relied on. -/
theorem sits_visitsOf (hm : m.Orderly) (hdirs : m.tree.Dirs p dirs)
    (h : Stands m (base.below dirs) (p ++ dirs))
    (hscan : m.tree.scan m.home (base.below dirs) = .ok entries) :
    ∀ v ∈ visitsOf (base.below dirs) entries, Sits m base p v := by
  intro v hv
  obtain ⟨name, ⟨rfl, he⟩ | ⟨rfl, he⟩⟩ := of_mem_visitsOf hv
  · obtain ⟨hname, hflag⟩ := (h.mem_entries hscan).mp he
    have hsome := Tree.get?_ne_none_of_mem_names hname
    rw [List.append_assoc] at hsome hflag
    obtain ⟨e, hget⟩ := Option.ne_none_iff_exists'.mp hsome
    refine ⟨dirs, rfl, hdirs, h.usable.short, e, hget, ?_⟩
    rintro rfl
    rw [hget] at hflag
    cases hflag
  · obtain ⟨hname, hflag⟩ := (h.mem_entries hscan).mp he
    have hlegal := hm.legal _ name hname
    have hsize := hm.short _ name hname
    have hpath := Path.child_below base dirs name
    refine ⟨dirs ++ [name], hpath, .inr ⟨rfl, by simp, ?_⟩⟩
    -- It is a directory itself, or a link to one.
    cases hget : m.tree.get? (p ++ dirs ++ [name]) with
    | none =>
      rw [hget] at hflag
      cases hflag
    | some e =>
      rw [hget] at hflag
      cases e with
      | file f => cases hflag
      | dir =>
        rw [List.append_assoc] at hget
        exact .inl (hdirs.concat hget)
      | link target => exact .inr (h.looksLink_link hlegal hsize hget hflag.symm)

/-- A directory on the way to what is listed is there. -/
theorem ListedAt.stands (hm : m.Orderly) (hbase : Stands m base p) {above : List String}
    {f : FoundFile} (hlisted : ListedAt m base p above name f) (hdirs : dirs <+: above) :
    m.tree.Dirs p dirs ∧ Stands m (base.below dirs) (p ++ dirs) := by
  have hthere := hlisted.reached.of_prefix hdirs
  refine ⟨hthere, hbase.below hm hthere ?_⟩
  obtain ⟨more, rfl⟩ := hdirs
  have hnames : ∀ x ∈ more, x ≠ "" := by
    intro x hx
    exact (hm.of_dirs hlisted.reached (List.mem_append_right _ hx)).1.isPart.1
  -- A path does not get longer on the way up.
  have hgrows := Path.utf8ByteSize_le_below (base.below dirs) hnames
  rw [Path.below_below] at hgrows
  have hshort := hlisted.short
  omega

/-- **What is met in a directory** is met in one of its entries. -/
theorem meets_iff_visitsOf (h : Stands m (base.below dirs) (p ++ dirs))
    (hscan : m.tree.scan m.home (base.below dirs) = .ok entries) {f : FoundFile} :
    Meets m base p (.directory (base.below dirs) isTop) f ↔
      ∃ v ∈ visitsOf (base.below dirs) entries, Meets m base p v f := by
  constructor
  · rintro ⟨above, name, hlisted, hcovers⟩
    obtain ⟨more, hmore, hnames⟩ := covers_directory_iff.mp hcovers
    obtain ⟨front, rfl⟩ := prefix_of_covers hmore hnames
    obtain ⟨e, hget, hcounts⟩ := hlisted.there
    cases front with
    | nil =>
      -- It is a file of this directory.
      rw [List.append_nil] at hlisted hget hcounts
      rw [← List.append_assoc] at hget
      have hflag : (name, false) ∈ entries := by
        rw [h.mem_entries hscan, hget]
        refine ⟨Tree.mem_names_of_get? hget, ?_⟩
        cases e with
        | file f => rfl
        | dir => cases hcounts
        | link target =>
          have hno : m.tree.looksDir m.home (base.below (dirs ++ [name])).toString = false :=
            hcounts
          rw [Path.child_below]
          exact hno.symm
      exact ⟨_, mem_visitsOf_file.mpr hflag, dirs, name, hlisted, covers_file_iff.mpr rfl⟩
    | cons first front =>
      -- It is further down, below a directory in this one.
      have hdir : m.tree.get? (p ++ (dirs ++ [first])) = some .dir :=
        hlisted.reached (dirs ++ [first]) ⟨front, by simp⟩ (by simp)
      rw [← List.append_assoc] at hdir
      have hflag : (first, true) ∈ entries := by
        rw [h.mem_entries hscan, hdir]
        exact ⟨Tree.mem_names_of_get? hdir, rfl⟩
      refine ⟨_, mem_visitsOf_directory.mpr hflag, _, name, hlisted, ?_⟩
      rw [Path.child_below, covers_directory_iff]
      exact ⟨front ++ [name], by simp, by simp⟩
  · rintro ⟨v, hv, above, name, hlisted, hcovers⟩
    exact ⟨above, name, hlisted, covers_of_mem_visitsOf hv hcovers⟩

/-- Nothing is met in a directory that is passed over. -/
theorem not_meets_of_passes (hm : m.Orderly) (hbase : Stands m base p)
    (hsits : Sits m base p (.directory path isTop))
    (hpassed : ∀ entries, m.tree.scan m.home path = .ok entries → enters m path isTop = false)
    (f : FoundFile) : ¬Meets m base p (.directory path isTop) f := by
  rintro ⟨above, name, hlisted, hcovers⟩
  obtain ⟨dirs, rfl, hsits⟩ := hsits
  obtain ⟨more, hmore, hnames⟩ := covers_directory_iff.mp hcovers
  have hprefix := prefix_of_covers hmore hnames
  obtain ⟨hthere, hstands⟩ := hlisted.stands hm hbase hprefix
  -- The directory can be listed, so it is passed over because it is not entered.
  have hout := hpassed _ hstands.scan
  unfold enters at hout
  rcases hsits with ⟨rfl, -⟩ | ⟨rfl, hne, -⟩
  · cases hout
  -- Below the top it is a directory itself, and so no link.
  rcases List.eq_nil_or_concat' dirs with rfl | ⟨front, last, rfl⟩
  · exact hne rfl
  obtain ⟨-, hfront⟩ := hlisted.stands hm hbase ((List.prefix_append front [last]).trans hprefix)
  have hmem : last ∈ front ++ [last] := List.mem_append_right _ (List.mem_singleton_self last)
  obtain ⟨hlegal, hplain⟩ := hm.of_dirs hthere hmem
  have hget := hthere (front ++ [last]) (List.prefix_refl _) (by simp)
  rw [← List.append_assoc] at hget
  have hlink := hfront.looksLink_dir hlegal hplain.short hget
  rw [Path.child_below] at hlink
  rw [hlink] at hout
  cases hout

/-- **What is met in a file** that is to be visited is the file, unless a directory
    is found in its place. -/
theorem meets_file_iff (hm : m.Orderly) (hbase : Stands m base p) {dir : Path}
    (hsits : Sits m base p (.file dir name)) {f : FoundFile} :
    Meets m base p (.file dir name) f ↔ m.tree.looksDir m.home (dir.child name).toString = false ∧
      f = ⟨dir.child name, name, m.tree.looksLink m.home (dir.child name).toString⟩ := by
  obtain ⟨dirs, rfl, hdirs, hshort, e, hget, hne⟩ := hsits
  rw [Path.child_below]
  constructor
  · rintro ⟨above, x, hlisted, hcovers⟩
    -- A visit of a file covers this file alone.
    obtain ⟨rfl, hx⟩ := List.append_inj' (covers_file_iff.mp hcovers) rfl
    obtain rfl : x = name := by simpa using hx
    refine ⟨?_, hlisted.file⟩
    obtain ⟨e', hget', hcounts⟩ := hlisted.there
    obtain rfl : e = e' := by
      rw [hget] at hget'
      exact Option.some_inj.mp hget'
    cases e with
    | file g =>
      rw [← List.append_assoc] at hget
      have hmem := Tree.mem_names_of_get? hget
      have hstands := hbase.below hm hdirs hshort
      have hno := hstands.looksDir_file (hm.legal _ _ hmem) (hm.short _ _ hmem) hget
      rwa [Path.child_below] at hno
    | dir => exact absurd rfl hne
    | link target => exact hcounts
  · rintro ⟨hno, hf⟩
    refine ⟨dirs, name, ⟨hdirs, hshort, ⟨e, hget, ?_⟩, hf⟩, covers_file_iff.mpr rfl⟩
    cases e with
    | file g => trivial
    | dir => exact absurd rfl hne
    | link target => exact hno

/-- **What is gathered** is what is met in what is to be visited. -/
theorem mem_iff_of_gathers (hm : m.Orderly) (hbase : Stands m base p) {vs : List Visit}
    {fs : List FoundFile} (h : Gathers m vs fs) (hsits : ∀ v ∈ vs, Sits m base p v)
    (f : FoundFile) : f ∈ fs ↔ ∃ v ∈ vs, Meets m base p v f := by
  induction h with
  | done => simp
  | file hfile _ ih =>
    rw [List.forall_mem_cons] at hsits
    rw [List.mem_cons, List.exists_mem_cons_iff, ih hsits.2, meets_file_iff hm hbase hsits.1]
    simp [hfile]
  | leaves hdir _ ih =>
    rw [List.forall_mem_cons] at hsits
    rw [List.exists_mem_cons_iff, ih hsits.2, meets_file_iff hm hbase hsits.1]
    simp [hdir]
  | passes hpassed _ ih =>
    rw [List.forall_mem_cons] at hsits
    have hnone := not_meets_of_passes hm hbase hsits.1 hpassed f
    rw [List.exists_mem_cons_iff, ih hsits.2, or_iff_right hnone]
  | lists henters hscan _ ih =>
    -- The entries that take the place of the directory can be relied on again.
    rw [List.forall_mem_cons] at hsits
    obtain ⟨dirs, rfl, hdirs, hstands⟩ := stands_of_enters hm hbase hsits.1 henters hscan
    have hnew := sits_visitsOf hm hdirs hstands hscan
    rw [ih (List.forall_mem_append.mpr ⟨hnew, hsits.2⟩), List.exists_mem_cons_iff,
      meets_iff_visitsOf hstands hscan]
    simp only [List.mem_append, or_and_right, exists_or]

end

end DirectoryWalk

end SinkPipeline
