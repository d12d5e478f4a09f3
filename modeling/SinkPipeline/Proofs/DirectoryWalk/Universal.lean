import SinkPipeline.Proofs.DirectoryWalk.Roots
import SinkPipeline.Proofs.Pattern.Segments

/-! # The universal glob

  The glob `**` below a root matches every file whose names below the root are each on
  one line, and no other one.  So, included, it leaves out the files with a line feed in
  one of their names; excluded, it leaves exactly these.

  The same is true of `**/d/**`: it matches what is below a directory `d`, as long as the
  names around it are each on one line.

  - `Root.matches_anything_iff`, `Root.matches_under_iff`: what the globs match.
  - `enumerates_filter`: two specs of one directory, the second of which accepts less.
  - `universal_glob_selects`: what is listed with these globs.
-/

namespace SinkPipeline

open Pattern

namespace Root

/-! ### What is below a root -/

/-- What stands between the text in front of relative globs and the names: nothing,
    unless the root is two slashes. -/
def gap (root : Path) : List Char := if root = ⟨.doubleRoot, []⟩ then ['/'] else []

section

variable {root : Path} {names : List String} {glob : String} {g : Glob}

theorem toString_below_eq (hdirect : root.Direct) (hnames : names ≠ []) :
    (root.below names).toString =
      stem root ++ String.ofList (gap root ++ ['/'].intercalate (names.map String.toList)) := by
  have hjoined : String.ofList (['/'].intercalate (names.map String.toList)) =
      "/".intercalate names := by
    apply String.toList_inj.mp
    rw [String.toList_ofList, String.toList_intercalate]
    rfl
  unfold gap
  by_cases hroot : root = ⟨.doubleRoot, []⟩
  · -- The text in front has only one of the two slashes.
    subst hroot
    rw [if_pos rfl, String.ofList_append, hjoined, ← String.append_assoc]
    rfl
  · rw [if_neg hroot, List.nil_append, hjoined]
    exact toString_below hdirect.absolute hdirect.wellFormed hroot hnames

/-- Names with slashes between them are cut into the names. -/
theorem cutAt_names (hnames : names ≠ []) (hparts : ∀ name ∈ names, Path.IsPart name) :
    Text.cutAt '/' (['/'].intercalate (names.map String.toList)) = names.map String.toList := by
  apply Text.cutAt_intercalate (by simpa using hnames)
  rw [List.forall_mem_map]
  intro name hname
  exact (hparts name hname).2.2

/-- The pieces below a root are the names. -/
theorem cutAt_below (root : Path) (hnames : names ≠ [])
    (hparts : ∀ name ∈ names, Path.IsPart name) :
    Text.cutAt '/' (gap root ++ ['/'].intercalate (names.map String.toList)) =
      (gap root).map (fun _ => []) ++ names.map String.toList := by
  have hcut := cutAt_names hnames hparts
  unfold gap
  split
  · rw [List.singleton_append, Text.cutAt, if_pos rfl, hcut]
    rfl
  · exact hcut

/-- **What a relative glob matches** below a root is told by the names. -/
theorem matches_below_iff (hspells : g.Spells glob.toList)
    (hrelative : glob.toList.head? ≠ some '/') (hdirect : root.Direct) (hnames : names ≠ []) :
    Matches root glob (root.below names).toString ↔
      gap root ++ ['/'].intercalate (names.map String.toList) ∈ g.language := by
  obtain ⟨e, he, haccepts⟩ := exists_ofGlob hspells (stem root)
  have hread := readGlob_of_relative hrelative root he
  unfold Matches
  rw [hread, toString_below_eq hdirect hnames]
  simp only [Except.ok.injEq, exists_eq_left', haccepts]
  constructor
  · rintro ⟨rest, hrest, hmem⟩
    rw [← String.toList_inj, String.toList_append, String.toList_append,
      List.append_cancel_left_eq, String.toList_ofList] at hrest
    rwa [hrest]
  · intro hmem
    exact ⟨_, rfl, by rwa [String.toList_ofList]⟩

/-- A relative glob that is closed can be read. -/
theorem exists_readGlobs (hspells : g.Spells glob.toList) (hrelative : glob.toList.head? ≠ some '/')
    (root : Path) : ∃ es, [glob].mapM (readGlob root) = .ok es := by
  obtain ⟨e, he, -⟩ := exists_ofGlob hspells (stem root)
  exact ⟨[e], readGlobs_ok_iff.mpr (.cons (readGlob_of_relative hrelative root he) .nil)⟩

/-- **The glob `**`** matches a file just if its names below the root are each on one
    line. -/
theorem matches_anything_iff (hdirect : root.Direct) (hnames : names ≠ [])
    (hparts : ∀ name ∈ names, Path.IsPart name) :
    Matches root "**" (root.below names).toString ↔ ∀ name ∈ names, '\n' ∉ name.toList := by
  have hline : '\n' ≠ '/' := by decide
  rw [matches_below_iff spells_anything (by decide) hdirect hnames, mem_language_anything_iff,
    Text.not_mem_iff_cutAt hline, cutAt_below root hnames hparts, List.forall_mem_append]
  simp

/-- What is not in front is behind. -/
theorem exists_of_append_eq {α : Type} {front rest above below : List α} {d : α} (hd : d ∉ front)
    (h : front ++ rest = above ++ d :: below) :
    ∃ inner, above = front ++ inner ∧ rest = inner ++ d :: below := by
  rcases List.append_eq_append_iff.mp h with ⟨inner, habove, hrest⟩ | ⟨back, hfront, hback⟩
  · exact ⟨inner, habove, hrest⟩
  · cases back with
    | nil => exact ⟨[], by simpa using hfront.symm, hback.symm⟩
    | cons x back =>
      obtain ⟨rfl, -⟩ := List.cons.inj hback
      exact absurd (by rw [hfront]; simp) hd

/-- **The glob `**/d/**`** matches a file just if one of the directories above it is named
    `d`, and the other names below the root are each on one line. -/
theorem matches_under_iff {d : String} (hd : ∀ c ∈ d.toList, isOrdinary c = true)
    (hpart : Path.IsPart d) (hdirect : root.Direct) (hnames : names ≠ [])
    (hparts : ∀ name ∈ names, Path.IsPart name) :
    Matches root (underText d) (root.below names).toString ↔
      ∃ above below, names = above ++ d :: below ∧ below ≠ [] ∧
        ∀ name ∈ above ++ below, '\n' ∉ name.toList := by
  have hrelative : (underText d).toList.head? ≠ some '/' := by simp [underText]
  have hnonempty : d.toList ≠ [] := fun h => hpart.1 (String.toList_inj.mp h)
  rw [matches_below_iff (spells_under hd) hrelative hdirect hnames,
    mem_language_under_iff hpart.2.2, cutAt_below root hnames hparts]
  constructor
  · rintro ⟨above, below, hcut, hbelow, hlines⟩
    -- The piece is none of those in front of the names, which are empty.
    have hfront : d.toList ∉ (gap root).map fun _ => ([] : List Char) := by
      intro hmem
      obtain ⟨-, -, hempty⟩ := List.mem_map.mp hmem
      exact hnonempty hempty.symm
    obtain ⟨inner, rfl, hinner⟩ := exists_of_append_eq hfront hcut
    -- So it is one of the names, and the pieces around it are the names around that.
    obtain ⟨front, rest, rfl, rfl, hrest⟩ := List.map_eq_append_iff.mp hinner
    obtain ⟨x, back, rfl, hx, rfl⟩ := List.map_eq_cons_iff.mp hrest
    rw [String.toList_inj.mp hx]
    refine ⟨front, back, rfl, by simpa using hbelow, ?_⟩
    intro name hname
    apply hlines
    rw [List.append_assoc, ← List.map_append]
    exact List.mem_append_right _ (List.mem_map_of_mem hname)
  · rintro ⟨above, below, rfl, hbelow, hlines⟩
    refine ⟨(gap root).map (fun _ => []) ++ above.map String.toList, below.map String.toList,
      by simp, by simpa using hbelow, ?_⟩
    rw [List.append_assoc, ← List.map_append, List.forall_mem_append]
    refine ⟨by simp, ?_⟩
    intro piece hpiece
    obtain ⟨name, hname, rfl⟩ := List.mem_map.mp hpiece
    exact hlines name hname

end

end Root

namespace DirectoryWalk

/-! ### Roots that accept less -/

section

variable {m : Machine} {root root' : Root} {p : Place} {dirs : List String} {name : String}
  {f : FoundFile}

/-- **A spec that accepts less** of the same directory: what it lists is a part of what
    the other one does. -/
theorem enumerates_filter (hm : m.Orderly) {s s' : RootSpec} (hroot : s.normalize m = .ok root)
    (hroot' : s'.normalize m = .ok root') (hs : (s.baseDir / s.root).WellFormed)
    (hpath : root'.path = root.path) {fs : List FoundFile}
    (hfs : Gathers m [.directory root.path true] fs) (keep : FoundFile → Bool)
    (hkeep : ∀ p dirs name f, ListedAt m root.path p dirs name f →
      (s'.Accepts root.path f.path.toString ↔
        s.Accepts root.path f.path.toString ∧ keep f = true)) (ν : Type) :
    Enumerates ν m root' ((fs.filter fun f => root.accepts f.path.toString).filter keep) := by
  obtain ⟨p, -, hstands⟩ := stands_of_normalize hm hroot hs
  -- The same is gathered for both, and only the choice is another one.
  have hsame : (fs.filter fun f => root.accepts f.path.toString).filter keep =
      fs.filter fun f => root'.accepts f.path.toString := by
    rw [List.filter_filter]
    refine List.filter_congr ?_
    intro f hf
    obtain ⟨dirs, name, hlisted⟩ := (mem_iff_listedAt hm hstands hfs f).mp hf
    rw [Bool.eq_iff_iff, accepts_iff_of_normalize hroot', hpath, hkeep p dirs name f hlisted,
      Bool.and_eq_true, accepts_iff_of_normalize hroot, and_comm]
  rw [hsame]
  exact enumerates_of_gathers root' (by rwa [hpath])

/-- Are the names of the file below its root each on one line? -/
def onOneLine (m : Machine) (root : Root) (f : FoundFile) : Bool :=
  !(relativePath m root f).toList.contains '\n'

theorem onOneLine_iff (hm : m.Orderly) (hdirect : root.path.Direct)
    (h : ListedAt m root.path p dirs name f) :
    onOneLine m root f = true ↔ ∀ x ∈ dirs ++ [name], '\n' ∉ x.toList := by
  have hline : '\n' ≠ '/' := by decide
  have hcut := Root.cutAt_names (by simp) fun x hx => (h.legal hm x hx).isPart
  have htext : (relativePath m root f).toList =
      ['/'].intercalate ((dirs ++ [name]).map String.toList) := by
    rw [relativePath_eq hm hdirect h, Path.toList_toString, if_neg (by simp)]
    rfl
  unfold onOneLine
  rw [Bool.not_eq_true', ← Bool.not_eq_true, List.contains_iff_mem, htext,
    Text.not_mem_iff_cutAt hline, hcut, List.forall_mem_map]

end

/-! ### One glob more -/

section

variable {m : Machine} {s : RootSpec} {root : Root} {glob : String} {g : Glob} {fs : List FoundFile}

/-- **With one include glob**, a spec lists what the glob matches. -/
theorem exists_enumerates_including (hm : m.Orderly) (hs : (s.baseDir / s.root).WellFormed)
    (hroot : { s with includes := [] }.normalize m = .ok root) (hspells : g.Spells glob.toList)
    (hrelative : glob.toList.head? ≠ some '/') (hfs : Gathers m [.directory root.path true] fs)
    (keep : FoundFile → Bool)
    (hkeep : ∀ p dirs name f, ListedAt m root.path p dirs name f →
      (keep f = true ↔ Root.Matches root.path glob f.path.toString)) (ν : Type) :
    ∃ root', { s with includes := [glob] }.normalize m = .ok root' ∧
      Enumerates ν m root' ((fs.filter fun f => root.accepts f.path.toString).filter keep) := by
  obtain ⟨es, hes⟩ := Root.exists_readGlobs hspells hrelative root.path
  have hroot' : { s with includes := [glob] }.normalize m = .ok { root with includes := es } := by
    rw [RootSpec.normalize_eq_ok_iff] at hroot ⊢
    obtain ⟨hpath, hstat, -, hexcludes⟩ := hroot
    exact ⟨hpath, hstat, hes, hexcludes⟩
  refine ⟨_, hroot', enumerates_filter hm hroot hroot' hs rfl hfs keep ?_ ν⟩
  intro p dirs name f hlisted
  rw [hkeep p dirs name f hlisted]
  unfold RootSpec.Accepts
  simp [and_comm]

/-- **With one exclude glob**, a spec lists what the glob does not match. -/
theorem exists_enumerates_excluding (hm : m.Orderly) (hs : (s.baseDir / s.root).WellFormed)
    (hroot : { s with excludes := [] }.normalize m = .ok root) (hspells : g.Spells glob.toList)
    (hrelative : glob.toList.head? ≠ some '/') (hfs : Gathers m [.directory root.path true] fs)
    (keep : FoundFile → Bool)
    (hkeep : ∀ p dirs name f, ListedAt m root.path p dirs name f →
      (keep f = true ↔ ¬Root.Matches root.path glob f.path.toString)) (ν : Type) :
    ∃ root', { s with excludes := [glob] }.normalize m = .ok root' ∧
      Enumerates ν m root' ((fs.filter fun f => root.accepts f.path.toString).filter keep) := by
  obtain ⟨es, hes⟩ := Root.exists_readGlobs hspells hrelative root.path
  have hroot' : { s with excludes := [glob] }.normalize m = .ok { root with excludes := es } := by
    rw [RootSpec.normalize_eq_ok_iff] at hroot ⊢
    obtain ⟨hpath, hstat, hincludes, -⟩ := hroot
    exact ⟨hpath, hstat, hincludes, hes⟩
  refine ⟨_, hroot', enumerates_filter hm hroot hroot' hs rfl hfs keep ?_ ν⟩
  intro p dirs name f hlisted
  rw [hkeep p dirs name f hlisted]
  unfold RootSpec.Accepts
  simp

/-- What is listed is matched by `**` just if it is on one line. -/
theorem onOneLine_iff_matches (hm : m.Orderly) (hdirect : root.path.Direct) {p : Place}
    {dirs : List String} {name : String} {f : FoundFile} (h : ListedAt m root.path p dirs name f) :
    onOneLine m root f = true ↔ Root.Matches root.path "**" f.path.toString := by
  rw [onOneLine_iff hm hdirect h, h.file,
    Root.matches_anything_iff hdirect (by simp) fun x hx => (h.legal hm x hx).isPart]

/-- Two stars as the only include glob leave what is on one line. -/
theorem exists_enumerates_including_anything (hm : m.Orderly)
    (hs : (s.baseDir / s.root).WellFormed)
    (hroot : { s with includes := [] }.normalize m = .ok root)
    (hfs : Gathers m [.directory root.path true] fs) (ν : Type) :
    ∃ root', { s with includes := ["**"] }.normalize m = .ok root' ∧ Enumerates ν m root'
      ((fs.filter fun f => root.accepts f.path.toString).filter (onOneLine m root)) := by
  have hdirect := direct_of_normalize hm hroot hs
  refine exists_enumerates_including hm hs hroot spells_anything (by decide) hfs _ ?_ ν
  intro p dirs name f hlisted
  exact onOneLine_iff_matches hm hdirect hlisted

/-- Two stars as the only exclude glob leave what is not. -/
theorem exists_enumerates_excluding_anything (hm : m.Orderly)
    (hs : (s.baseDir / s.root).WellFormed)
    (hroot : { s with excludes := [] }.normalize m = .ok root)
    (hfs : Gathers m [.directory root.path true] fs) (ν : Type) :
    ∃ root', { s with excludes := ["**"] }.normalize m = .ok root' ∧ Enumerates ν m root'
      ((fs.filter fun f => root.accepts f.path.toString).filter fun f => !onOneLine m root f) := by
  have hdirect := direct_of_normalize hm hroot hs
  refine exists_enumerates_excluding hm hs hroot spells_anything (by decide) hfs _ ?_ ν
  intro p dirs name f hlisted
  rw [← onOneLine_iff_matches hm hdirect hlisted, Bool.not_eq_true', Bool.not_eq_true]

end

/-- The file is below a directory `d` below the root, and the other names below the root
    are each on one line. -/
def IsUnder (root : Root) (d : String) (f : FoundFile) : Prop :=
  ∃ above below, f.path = root.path.below (above ++ d :: below) ∧ below ≠ [] ∧
    ∀ name ∈ above ++ below, '\n' ∉ name.toList

/-- **What the universal glob selects.**  As the only include glob, `**` leaves the files
    whose names below the root are each on one line; as the only exclude glob, it leaves
    the others.  As the only exclude glob, `**/d/**` takes away what is below a directory
    `d`, if the other names are each on one line. -/
theorem universal_glob_selects {m : Machine} (hm : m.Orderly) {s : RootSpec}
    (hs : (s.baseDir / s.root).WellFormed) (ν : Type) :
    (∀ root, { s with includes := [] }.normalize m = .ok root →
      ∃ root' files, { s with includes := ["**"] }.normalize m = .ok root' ∧
        Enumerates ν m root files ∧ Enumerates ν m root' (files.filter (onOneLine m root))) ∧
    ∀ root, { s with excludes := [] }.normalize m = .ok root →
      (∃ root' files, { s with excludes := ["**"] }.normalize m = .ok root' ∧
        Enumerates ν m root files ∧
        Enumerates ν m root' (files.filter fun f => !onOneLine m root f)) ∧
      ∀ d, Path.IsPart d → (∀ c ∈ d.toList, isOrdinary c = true) →
        ∃ root' files files', { s with excludes := [underText d] }.normalize m = .ok root' ∧
          Enumerates ν m root files ∧ Enumerates ν m root' files' ∧ files'.Sublist files ∧
          ∀ f ∈ files, f ∉ files' ↔ IsUnder root d f := by
  classical
  refine ⟨?_, ?_⟩
  · intro root hroot
    obtain ⟨fs, hfs⟩ := exists_gathers m [.directory root.path true]
    obtain ⟨root', hroot', hfiles⟩ := exists_enumerates_including_anything hm hs hroot hfs ν
    exact ⟨root', _, hroot', enumerates_of_gathers root hfs, hfiles⟩
  intro root hroot
  have hdirect := direct_of_normalize hm hroot hs
  obtain ⟨fs, hfs⟩ := exists_gathers m [.directory root.path true]
  refine ⟨?_, ?_⟩
  · obtain ⟨root', hroot', hfiles⟩ := exists_enumerates_excluding_anything hm hs hroot hfs ν
    exact ⟨root', _, hroot', enumerates_of_gathers root hfs, hfiles⟩
  intro d hpart hd
  have hrelative : (underText d).toList.head? ≠ some '/' := by simp [underText]
  -- What the glob matches is told by the names below the root, not by the text of the path.
  obtain ⟨root', hroot', hfiles⟩ := exists_enumerates_excluding hm hs hroot (spells_under hd)
    hrelative hfs (fun f => decide ¬IsUnder root d f) (by
      intro p dirs name f hlisted
      rw [decide_eq_true_iff, hlisted.file, Root.matches_under_iff hd hpart hdirect (by simp)
        fun x hx => (hlisted.legal hm x hx).isPart]
      simp only [IsUnder, Path.below_inj]) ν
  refine ⟨root', _, _, hroot', enumerates_of_gathers root hfs, hfiles, List.filter_sublist, ?_⟩
  intro f hf
  rw [List.mem_filter]
  simp [hf]

/-- A file in a directory, with a line feed in its name. -/
def feed : Machine where
  tree := ⟨[(["d"], .dir), (["d", "a\nb"], .file { bytes := [] })]⟩
  cwd := ⟨.root, []⟩

/-- All of it, without globs. -/
def feedSpec : RootSpec := { root := .ofString "." }

/-- The file. -/
def feedFile : FoundFile := ⟨⟨.root, ["d", "a\nb"]⟩, "a\nb", false⟩

theorem orderly_feed : feed.Orderly :=
  Machine.orderly_of_entries rfl (by decide) (by decide +kernel)

theorem wellFormed_feedSpec : (feedSpec.baseDir / feedSpec.root).WellFormed :=
  (Path.wellFormed_ofString _).join (Path.wellFormed_ofString _)

theorem normalize_feedSpec : feedSpec.normalize feed = .ok ⟨⟨.root, []⟩, [], []⟩ := by
  rw [RootSpec.normalize_eq_ok_iff]
  exact ⟨by decide, (stands_root feed).stat, rfl, rfl⟩

theorem gathers_feed : Gathers feed [.directory ⟨.root, []⟩ true] [feedFile] := by
  have hdir : Tree.LegalName "d" ∧ ¬Tree.maxNameBytes < "d".utf8ByteSize := by decide
  have hname : Tree.LegalName "a\nb" ∧ ¬Tree.maxNameBytes < "a\nb".utf8ByteSize := by decide
  have hroot := stands_root feed
  have hstands : Stands feed ⟨.root, ["d"]⟩ ["d"] :=
    hroot.below orderly_feed ((Tree.dirs_nil _ _).concat rfl) (by decide)
  have hscanTop : feed.tree.scan feed.home ⟨.root, []⟩ = .ok [("d", true)] := by
    rw [hroot.scan, Tree.sortedNames, show feed.tree.names [] = ["d"] from rfl,
      List.mergeSort_singleton]
    rfl
  have hscan : feed.tree.scan feed.home ⟨.root, ["d"]⟩ = .ok [("a\nb", false)] := by
    rw [hstands.scan, Tree.sortedNames, show feed.tree.names ["d"] = ["a\nb"] from rfl,
      List.mergeSort_singleton]
    rfl
  have henters : enters feed ⟨.root, ["d"]⟩ false = true := by
    have hlink := hroot.looksLink_dir hdir.1 hdir.2 rfl
    rw [enters, Bool.false_or, Bool.not_eq_true']
    exact hlink
  obtain ⟨hfile, hlink⟩ := Tree.looks_file (by decide)
    (hstands.entryAt_file hname.1 hname.2 rfl (by decide))
  have hlast := Gathers.file hfile .done
  rw [hlink] at hlast
  have hinner : Gathers feed [.directory ⟨.root, ["d"]⟩ false] [feedFile] :=
    .lists henters hscan hlast
  exact .lists rfl hscanTop hinner

/-- What `**` leaves of a directory with a line feed in a name. -/
theorem universal_glob_selects_feed :
    feed.Orderly ∧ ∃ root root' files,
      { feedSpec with includes := ["**"] }.normalize feed = .ok root' ∧
      Enumerates Unit feed root files ∧
      Enumerates Unit feed root' (files.filter (onOneLine feed root)) := by
  obtain ⟨hinclude, -⟩ := universal_glob_selects orderly_feed wellFormed_feedSpec Unit
  obtain ⟨root', files, hroot', hfiles, hkept⟩ := hinclude _ normalize_feedSpec
  exact ⟨orderly_feed, _, root', files, hroot', hfiles, hkept⟩

/-- **The universal glob is not neutral.**  Included, it leaves out the file with the line
    feed; excluded, it leaves it in. -/
theorem feed_not_neutral :
    feed.Orderly ∧ ∃ root, feedSpec.normalize feed = .ok root ∧
      Enumerates Unit feed root [feedFile] ∧
      (∃ root', { feedSpec with includes := ["**"] }.normalize feed = .ok root' ∧
        Enumerates Unit feed root' []) ∧
      ∃ root', { feedSpec with excludes := ["**"] }.normalize feed = .ok root' ∧
        Enumerates Unit feed root' [feedFile] := by
  have hline : onOneLine feed ⟨⟨.root, []⟩, [], []⟩ feedFile = false := by decide
  have hs := wellFormed_feedSpec
  obtain ⟨root₁, hroot₁, hincluded⟩ := exists_enumerates_including_anything orderly_feed hs
    normalize_feedSpec gathers_feed Unit
  obtain ⟨root₂, hroot₂, hexcluded⟩ := exists_enumerates_excluding_anything orderly_feed hs
    normalize_feedSpec gathers_feed Unit
  have hall : Enumerates Unit feed ⟨⟨.root, []⟩, [], []⟩ [feedFile] :=
    enumerates_of_gathers ⟨⟨.root, []⟩, [], []⟩ gathers_feed
  refine ⟨orderly_feed, _, normalize_feedSpec, hall, ⟨root₁, hroot₁, ?_⟩, root₂, hroot₂, ?_⟩
  · simpa [hline] using hincluded
  · simpa [hline, Root.accepts] using hexcluded

end DirectoryWalk

end SinkPipeline
