import SinkPipeline.Proofs.FileTree.Descending
import SinkPipeline.Proofs.Output.RoundTrip

/-! # Where the files of records are

  The path of a record is followed from the sink's directory.  Slashes and
  backslashes in front of it are taken off, so it is never absolute; double
  points in it are kept.

  - Without links, a file is at the place that the text of its path resolves to.
  - If the names of a record's path **stay below** the directory, its file is
    strictly below it, and so is the temporary file that is filled first.
  - If they do not, its file is not below the directory, unless the names leave
    it and come back by its own name.
-/

namespace SinkPipeline

open SinkPipeline.Place (StrictlyBelow)

/-! ### Paths of records -/

namespace Record

/-- The names of a record's path. -/
def names (r : Record) : List String := (Path.ofString (innerPath r.pathText)).parts

/-- Do the names of a record's path stay below the directory that they are
    followed from? -/
def staysBelow (r : Record) : Bool := Place.staysBelow 0 r.names

/-- The path of a record is never absolute. -/
theorem anchor_innerPath (path : String) : (Path.ofString (innerPath path)).anchor = .here := by
  have hhead : ∀ cs, (innerPath path).toList ≠ '/' :: cs := by
    intro cs h
    rw [innerPath, String.toList_ofList] at h
    have hkept := List.head?_dropWhile_not (fun c => c == '/' || c == '\\') path.toList
    rw [h] at hkept
    simp at hkept
  show Path.anchorOf (innerPath path).toList = .here
  unfold Path.anchorOf
  split
  · next h => exact absurd h (hhead _)
  · next h => exact absurd h (hhead _)
  · next h => exact absurd h (hhead _)
  · rfl

/-- So its file is, by its path, below the directory. -/
theorem target_eq_below (base : Path) (r : Record) :
    target base r.pathText = base.below r.names := by
  show base.join (Path.ofString (innerPath r.pathText)) = _
  unfold Path.join Path.isAbsolute
  rw [anchor_innerPath]
  rfl

end Record

/-! ### Places by their text -/

section

variable {m : Machine} {target : Path} {place : Place} {name : String}

/-- The absolute path of a path, name by name from where it starts. -/
theorem Machine.absolute_parts (hhome : ".." ∉ m.home) (p : Path) :
    (m.absolute p).parts = Path.collapse (Tree.origin m.home p).reverse p.parts := by
  show Path.collapse [] (m.cwd.join p).parts = _
  unfold Path.join Tree.origin
  split
  · rfl
  · have hplain : Path.collapse [] m.cwd.parts = m.home := Path.collapse_of_plain hhome
    rw [Path.collapse_append, hplain]

/-- Names below a path resolve below where the path does. -/
theorem Machine.absolute_below (hhome : ".." ∉ m.home) (p : Path) (names : List String) :
    (m.absolute (p.below names)).parts = Path.collapse (m.absolute p).parts.reverse names := by
  have horigin : Tree.origin m.home (p.below names) = Tree.origin m.home p := rfl
  rw [absolute_parts hhome, absolute_parts hhome, ← Path.collapse_append, horigin]
  rfl

/-- The last name of a path resolves to itself, unless it goes up. -/
theorem Machine.absolute_child (hhome : ".." ∉ m.home) (p : Path) (hname : name ≠ "..") :
    (m.absolute (p.child name)).parts = (m.absolute p).parts ++ [name] := by
  have horigin : Tree.origin m.home (p.child name) = Tree.origin m.home p := rfl
  rw [absolute_parts hhome, absolute_parts hhome, ← Path.collapse_concat _ _ hname, horigin]
  rfl

namespace AtomicWrite

/-- A directory that is led to by the names of a path, without links. -/
theorem eq_absolute_of_leads (ht : m.tree.Linkless) (hhome : ".." ∉ m.home) {p : Path}
    {left : Nat} {dir : Place}
    (h : (withDirs m target).tree.Leads Tree.maxLinks (Tree.origin m.home p) p.parts left dir) :
    dir = (m.absolute p).parts := by
  have hlinkless := (withDirs_addsDirs m target).linkless ht
  rw [h.eq_collapse hlinkless, Machine.absolute_parts hhome]

/-- **Without links, the place of a path is what its text resolves to.** -/
theorem PlaceOf.eq_absolute (h : PlaceOf m target place) (ht : m.tree.Linkless)
    (hhome : ".." ∉ m.home) : place = (m.absolute target).parts := by
  obtain ⟨left, dir, name, hname, rfl, hleads⟩ := h
  rw [hname.1] at hleads ⊢
  rw [Path.parent_child] at hleads
  rw [Machine.absolute_child hhome _ hname.2.1, ← eq_absolute_of_leads ht hhome hleads]

/-- A write leaves no link. -/
theorem Written.linkless {bytes : Bytes} {out : Outcome} (h : Written m target bytes place out)
    (ht : m.tree.Linkless) : out.machine.tree.Linkless := by
  rw [h.machine]
  exact ((withDirs_addsDirs m target).linkless ht).put_file _ h.named.ne_nil

/-! ### Temporary files -/

/-- The place of the temporary file of a write, if one can be begun. -/
def tempPlace? (m : Machine) (target : Path) : Option Place :=
  let m := withDirs m target
  let temp := target.parent.child (freshName (namesAt m target.parent))
  match m.tree.createFile m.home temp.toString m.now with
  | .ok (place, _) => some place
  | .error _ => none

/-- **The temporary file is in the directory of the file**, under a name that does
    not go up. -/
theorem tempPlace_eq (htarget : target.WellFormed) (ht : m.tree.Linkless) (hhome : ".." ∉ m.home)
    (h : tempPlace? m target = some place) :
    ∃ name, name ≠ ".." ∧ place = (m.absolute (target.parent.child name)).parts := by
  have hfresh := isPart_freshName (namesAt (withDirs m target) target.parent)
  refine ⟨_, hfresh.2, ?_⟩
  -- The name was chosen among those that the directory does not hold.
  have hunused : ∀ dir, (withDirs m target).tree.entryAt m.home true target.parent.toString =
      .ok (dir, .dir) → freshName (namesAt (withDirs m target) target.parent) ∉
        (withDirs m target).tree.names dir := by
    intro dir hentry
    have hnames : namesAt (withDirs m target) target.parent = (withDirs m target).tree.names dir := by
      unfold namesAt
      rw [show (withDirs m target).home = m.home from rfl, hentry]
    rw [hnames]
    exact freshName_not_mem _
  unfold tempPlace? at h
  dsimp only at h
  split at h
  · next found _ hcreate =>
    cases h
    obtain ⟨left, dir, hleads, -, hplace, -, -⟩ :=
      Tree.createFile_ok htarget.parent hfresh.1 hfresh.2 hunused hcreate
    rw [hplace, Machine.absolute_child hhome _ hfresh.2, eq_absolute_of_leads ht hhome hleads]
  · cases h

end AtomicWrite

end

/-! ### Records below a directory -/

section

variable {m : Machine} {base : Path} {r : Record}

namespace Record

theorem wellFormed_target (hbase : base.WellFormed) (r : Record) :
    (target base r.pathText).WellFormed :=
  hbase.join (Path.wellFormed_ofString _)

/-- **A record that stays below** resolves strictly below its directory. -/
theorem strictlyBelow_target (hhome : ".." ∉ m.home) (h : r.staysBelow = true) :
    StrictlyBelow (m.absolute base).parts (m.absolute (target base r.pathText)).parts := by
  rw [target_eq_below, Machine.absolute_below hhome]
  exact Place.strictlyBelow_collapse [] h

/-- **A record that resolves strictly below its directory** stays below, if its
    path does not hold the directory's own name. -/
theorem staysBelow_of_target (hhome : ".." ∉ m.home) {last : String}
    (hlast : (m.absolute base).parts.getLast? = some last) (hnames : last ∉ r.names)
    (h : StrictlyBelow (m.absolute base).parts (m.absolute (target base r.pathText)).parts) :
    r.staysBelow = true := by
  rw [target_eq_below, Machine.absolute_below hhome] at h
  obtain ⟨front, hfront⟩ := List.getLast?_eq_some_iff.mp hlast
  rw [hfront] at h
  exact Place.staysBelow_of_collapse [] hnames h

/-- Another name for the last one of some names that stay below. -/
theorem staysBelow_concat {front : List String} {name last : String} (hname : name ≠ "..") :
    ∀ {depth : Nat}, Place.staysBelow depth (front ++ [last]) = true →
      Place.staysBelow depth (front ++ [name]) = true := by
  induction front with
  | nil =>
    intro depth _
    simp [Place.staysBelow, hname]
  | cons up front ih =>
    intro depth h
    rw [List.cons_append, Place.staysBelow] at h ⊢
    by_cases hup : up = ".."
    · rw [if_pos hup, Bool.and_eq_true] at h ⊢
      exact ⟨h.1, ih h.2⟩
    · rw [if_neg hup] at h ⊢
      exact ih h

/-- **So does its temporary file.** -/
theorem strictlyBelow_temp (hbase : base.WellFormed) (ht : m.tree.Linkless)
    (hhome : ".." ∉ m.home) (h : r.staysBelow = true) {place : Place}
    (htemp : AtomicWrite.tempPlace? m (target base r.pathText) = some place) :
    StrictlyBelow (m.absolute base).parts place := by
  obtain ⟨name, hname, hplace⟩ :=
    AtomicWrite.tempPlace_eq (wellFormed_target hbase r) ht hhome htemp
  rw [hplace, target_eq_below]
  unfold staysBelow at h
  rcases List.eq_nil_or_concat' r.names with hnil | ⟨front, last, hnames⟩
  · rw [hnil] at h
    cases h
  · rw [hnames] at h ⊢
    rw [← Path.child_below, Path.parent_child, Path.child_below, Machine.absolute_below hhome]
    exact Place.strictlyBelow_collapse [] (staysBelow_concat hname h)

end Record

end

/-! ### Files that were written -/

namespace AtomicWrite

/-- **Files that are written one after the other** are where the text of their
    paths resolves to. -/
theorem Saves.place_eq {m m' : Machine} {xs : List Saved} (h : Saves xs m m')
    (ht : m.tree.Linkless) (hhome : ".." ∉ m.home) :
    ∀ x ∈ xs, x.place = (m.absolute x.target).parts := by
  induction h with
  | done _ _ => simp
  | @save m _ x xs out hwritten _ ih =>
    have hcwd : out.machine.cwd = m.cwd := by rw [hwritten.machine]
    have habsolute : out.machine.absolute = m.absolute := by
      unfold Machine.absolute
      rw [hcwd]
    have hrest := ih (hwritten.linkless ht) (hwritten.home.symm ▸ hhome)
    rw [habsolute] at hrest
    intro y hy
    rcases List.mem_cons.mp hy with rfl | hy
    · exact hwritten.named.eq_absolute ht hhome
    · exact hrest y hy

end AtomicWrite

namespace Materialize

variable {ν : Type}

section

variable {base : Path} {n : Nat} {lines : List (List Char)} {xs : List Saved}
  {w w' : Diary × Site ν}

/-- Each file that is written is asked for by one of the lines. -/
theorem HandlesAll.exists_asked (h : HandlesAll base n lines xs w w') {x : Saved} (hx : x ∈ xs) :
    ∃ line ∈ lines, asked base line = .writing x.target x.bytes := by
  have hfile := List.mem_map_of_mem (f := fun x : Saved => (x.target, x.bytes)) hx
  rw [h.saved_eq] at hfile
  obtain ⟨line, hline, hfile⟩ := List.mem_filterMap.mp hfile
  refine ⟨line, hline, ?_⟩
  unfold file? at hfile
  split at hfile
  · next target bytes hasked =>
    cases hfile
    exact hasked
  · cases hfile

/-- Lines that are handled leave no link. -/
theorem HandlesAll.linkless (h : HandlesAll base n lines xs w w')
    (ht : w.2.machine.tree.Linkless) :
    w'.2.machine.tree.Linkless ∧ w'.2.machine.cwd = w.2.machine.cwd := by
  induction h with
  | nil n w => exact ⟨ht, rfl⟩
  | cons first _ ih =>
    cases first with
    | blank _ _ => exact ih ht
    | dropped _ _ _ => exact ih ht
    | saved _ _ _ _ hwritten =>
      obtain ⟨hlinkless, hcwd⟩ := ih (hwritten.linkless ht)
      refine ⟨hlinkless, hcwd.trans ?_⟩
      rw [hwritten.machine]

end

/-- **Where the file of a record is**, below a directory on a machine. -/
structure Lands (m : Machine) (base : Path) (r : Record) (x : Saved) : Prop where
  /-- It has the record's path. -/
  target : x.target = Record.target base r.pathText
  /-- It is where the text of the path resolves to. -/
  place : x.place = (m.absolute x.target).parts
  /-- It is strictly below the directory if the record stays below. -/
  below : r.staysBelow = true → StrictlyBelow (m.absolute base).parts x.place
  /-- It is so only then, unless the record's path holds the directory's name. -/
  only : ∀ last, (m.absolute base).parts.getLast? = some last → last ∉ r.names →
    StrictlyBelow (m.absolute base).parts x.place → r.staysBelow = true

theorem lands_of_target {m : Machine} {base : Path} {r : Record} {x : Saved}
    (hhome : ".." ∉ m.home) (htarget : x.target = Record.target base r.pathText)
    (hplace : x.place = (m.absolute x.target).parts) : Lands m base r x where
  target := htarget
  place := hplace
  below h := by
    rw [hplace, htarget]
    exact Record.strictlyBelow_target hhome h
  only last hlast hnames h := by
    rw [hplace, htarget] at h
    exact Record.staysBelow_of_target hhome hlast hnames h

/-- **Where a stream of records writes.**  In a tree without links each file that
    is written, and so each that is reported, is where the text of its path
    resolves to.  That is strictly below the directory if the record's names
    stay below it, and only then unless the directory's own name is among them.
    Whenever such a record is reached, its temporary file is strictly below the
    directory too.  Nothing else changes but that directories may be made. -/
theorem multi_files_below_iff {base : Path} (hbase : base.WellFormed) {mode : Mode}
    (hmode : mode.writes = true) (stream : Stream) (D : Diary) (s : Site ν)
    (ht : s.machine.tree.Linkless) (hhome : ".." ∉ s.machine.home) :
    ∃ handled xs v r rest w,
      (multi mode base stream).runOn D s = (.ok (r, rest), w) ∧
      HandlesAll base 1 handled xs (D, s) v ∧ Finishes base stream handled xs v r w ∧
      (∀ result, r = .ok result → result.written = xs.map (·.target)) ∧
      (∀ x ∈ xs, ∃ line ∈ handled, ∃ record, recordOn line = some record ∧
        Lands s.machine base record x) ∧
      (∀ p, w.2.machine.tree.get? p ≠ s.machine.tree.get? p → (∃ x ∈ xs, x.place = p) ∨
        s.machine.tree.get? p = none ∧ w.2.machine.tree.get? p = some .dir) ∧
      (∀ before line after ys u, linesRead stream = before ++ line :: after →
        HandlesAll base 1 before ys (D, s) u →
        ∀ record, recordOn line = some record → record.staysBelow = true →
        ∀ p, AtomicWrite.tempPlace? u.2.machine (Record.target base record.pathText) = some p →
          StrictlyBelow (s.machine.absolute base).parts p) := by
  obtain ⟨handled, xs, v, r, rest, w, hrun, hall, hfinish⟩ := runOn_multi hbase hmode stream D s
  -- A run that is stopped may have made directories for a file it did not write.
  have hsaves : AtomicWrite.Saves xs s.machine w.2.machine := by
    cases hfinish with
    | completed _ _ => exact hall.saves (.refl _) rfl
    | interrupted _ _ => exact hall.saves (.refl _) rfl
    | stopped _ hstop => exact hall.saves hstop.addsDirs.1 hstop.addsDirs.2
  refine ⟨handled, xs, v, r, rest, w, hrun, hall, hfinish, ?_, ?_, ?_, ?_⟩
  · rintro result rfl
    cases hfinish
    rfl
  · intro x hx
    obtain ⟨line, hline, hasked⟩ := hall.exists_asked hx
    obtain ⟨record, hrecord, htarget⟩ := exists_record_of_asked hasked
    exact ⟨line, hline, record, hrecord,
      lands_of_target hhome htarget (hsaves.place_eq ht hhome x hx)⟩
  · intro p hchanged
    by_cases hplace : ∃ x ∈ xs, x.place = p
    · exact .inl hplace
    · have helsewhere := hsaves.elsewhere (p := p) fun x hx h => hplace ⟨x, hx, h⟩
      exact .inr (helsewhere.resolve_left hchanged)
  · intro before line after ys u _ hbefore record _ hstays p htemp
    obtain ⟨hlinkless, hcwd⟩ := hbefore.linkless ht
    have hhome' : ".." ∉ u.2.machine.home := by
      unfold Machine.home
      rwa [hcwd]
    have habsolute : u.2.machine.absolute base = s.machine.absolute base := by
      unfold Machine.absolute
      rw [hcwd]
    rw [← habsolute]
    exact Record.strictlyBelow_temp hbase hlinkless hhome' hstays htemp

/-! ### A record that goes up -/

/-- The line of a record whose path goes up first. -/
def upLine : List Char := Record.rawLine "../e".toList ['x']

/-- That line alone. -/
def upStream : Stream := .ofBytes (Text.Utf8.encodeChars (upLine ++ ['\n']))

theorem linkless_out : outSite.machine.tree.Linkless := by
  intro p target h
  unfold Tree.get? at h
  split at h
  · cases h
  · simp only [outSite, Tree.findEntry] at h
    split at h <;> cases h

theorem up_multi_files_below_iff :
    (Path.mk .root ["out"]).WellFormed ∧ Mode.build.writes = true ∧
    outSite.machine.tree.Linkless ∧ ".." ∉ outSite.machine.home ∧
    ∃ handled xs v r rest w,
      (multi .build ⟨.root, ["out"]⟩ upStream).runOn {} outSite = (.ok (r, rest), w) ∧
      HandlesAll ⟨.root, ["out"]⟩ 1 handled xs ({}, outSite) v ∧
      Finishes ⟨.root, ["out"]⟩ upStream handled xs v r w ∧
      (∀ result, r = .ok result → result.written = xs.map (·.target)) ∧
      (∀ x ∈ xs, ∃ line ∈ handled, ∃ record, recordOn line = some record ∧
        Lands outSite.machine ⟨.root, ["out"]⟩ record x) ∧
      (∀ p, w.2.machine.tree.get? p ≠ outSite.machine.tree.get? p → (∃ x ∈ xs, x.place = p) ∨
        outSite.machine.tree.get? p = none ∧ w.2.machine.tree.get? p = some .dir) ∧
      (∀ before line after ys u, linesRead upStream = before ++ line :: after →
        HandlesAll ⟨.root, ["out"]⟩ 1 before ys ({}, outSite) u →
        ∀ record, recordOn line = some record → record.staysBelow = true →
        ∀ p, AtomicWrite.tempPlace? u.2.machine
            (Record.target ⟨.root, ["out"]⟩ record.pathText) = some p →
          StrictlyBelow (outSite.machine.absolute ⟨.root, ["out"]⟩).parts p) :=
  ⟨bare_out.wellFormed, rfl, linkless_out, by decide,
    multi_files_below_iff bare_out.wellFormed rfl upStream {} outSite linkless_out (by decide)⟩

theorem linesRead_upStream : linesRead upStream = [upLine] := by
  unfold upStream linesRead
  rw [Stream.fault?_ofBytes, Stream.bytes_ofBytes, Text.Utf8.decode_encodeChars, Option.isNone_none,
    if_pos rfl, Text.linesOf_append_newline (by decide)]
  rfl

theorem asked_upLine :
    asked ⟨.root, ["out"]⟩ upLine = .writing ⟨.root, ["out", "..", "e"]⟩ [120] := by
  have hpath : ∀ c ∈ "../e".toList, Json.IsRaw c := Json.isRaw_of_all (by decide)
  have hcontent : ∀ c ∈ ['x'], Json.IsRaw c := Json.isRaw_of_all (by decide)
  have hspelled := Record.spellsFile_rawLine hpath hcontent
  have htarget : Record.target ⟨.root, ["out"]⟩ "../e" = ⟨.root, ["out", "..", "e"]⟩ := by decide
  rw [upLine, asked_of_spellsFile hspelled, String.ofList_toList, htarget]
  rfl

/-- The file can be written, beside the directory. -/
theorem write_up_succeeds :
    (AtomicWrite.write outSite.machine ⟨.root, ["out", "..", "e"]⟩ (.ofBytes [120])).result =
      .ok 1 := by
  have hwellFormed : (Path.mk .root ["out", "..", "e"]).WellFormed := by
    unfold Path.WellFormed Path.IsPart
    decide
  have hleads : outSite.machine.tree.Leads Tree.maxLinks [] ["out", ".."] Tree.maxLinks [] :=
    .down (by decide) (by decide) rfl (.up .here)
  have husable : Tree.Usable ⟨.root, ["out", ".."]⟩ := ⟨hwellFormed.parent, rfl, by decide⟩
  have hmade : outSite.machine.tree.makeDirs outSite.machine.home ⟨.root, ["out", ".."]⟩ =
      (outSite.machine.tree, .ok ()) := by
    obtain ⟨hmake, hensure⟩ := Tree.ensureDir_of_leads husable hleads
    refine Tree.ensureDirs_of_found rfl (fun args h => ?_) hensure
    cases hmake.symm.trans h
  have hfresh : AtomicWrite.freshName (outSite.machine.tree.names []) = AtomicWrite.tempName 0 :=
    AtomicWrite.freshName_of_free (by decide)
  have hname : Tree.Nameable ⟨.root, ["out", "..", "e"]⟩ "e" := by
    unfold Tree.Nameable
    decide
  have htemp : Tree.Nameable ((Path.mk .root ["out", ".."]).child (AtomicWrite.tempName 0))
      (AtomicWrite.tempName 0) := by
    unfold Tree.Nameable
    decide
  rw [← hfresh] at htemp
  exact AtomicWrite.write_succeeds hwellFormed hname hmade hleads (by decide) htemp
    (Stream.fault?_ofBytes _)

/-- A record whose path goes up leaves its file **outside of the directory**. -/
theorem up_not_below :
    outSite.machine.tree.Linkless ∧ ∃ rest w,
      (multi .build ⟨.root, ["out"]⟩ upStream).runOn {} outSite =
        (.ok (.ok {
          isMulti := true
          written := [⟨.root, ["out", "..", "e"]⟩]
          bytesWritten := 1
          dropped := 0 }, rest), w) ∧
      outSite.machine.tree.get? ["e"] = none ∧
      w.2.machine.tree.get? ["e"] = some (.file ⟨[120], 0o644, 0⟩) ∧
      ¬StrictlyBelow (outSite.machine.absolute ⟨.root, ["out"]⟩).parts
        (outSite.machine.absolute ⟨.root, ["out", "..", "e"]⟩).parts := by
  refine ⟨linkless_out, ?_⟩
  have hmode : Mode.build.writes = true := rfl
  rcases runOn_multi_of_line bare_out.wellFormed hmode linesRead_upStream (Stream.fault?_ofBytes _) {}
      outSite with ⟨xs, rest, w, hline, hrun⟩ | ⟨f, rest, w, hstop, hrun⟩
  · -- Of the three things that a line can do, this one asks for a file.
    cases hline with
    | blank _ hasked =>
      rw [asked_upLine] at hasked
      cases hasked
    | dropped _ _ hasked =>
      rw [asked_upLine] at hasked
      cases hasked
    | saved _ _ x hasked hwritten =>
      rw [asked_upLine] at hasked
      obtain ⟨htarget, hbytes⟩ := Asked.writing.inj hasked
      have hdropped : [upLine].countP (drops ⟨.root, ["out"]⟩) = 0 := by
        simp [drops, asked_upLine]
      have hplace : x.place = ["e"] := by
        rw [hwritten.named.eq_absolute linkless_out (by decide), ← htarget]
        decide
      have hpaths : [x].map (fun y : Saved => y.target) = [⟨.root, ["out", "..", "e"]⟩] := by
        simp [htarget]
      have htotal : totalBytes [x] = 1 := by simp [totalBytes, ← hbytes]
      have hget := hwritten.get?
      rw [hplace, ← hbytes] at hget
      rw [hpaths, htotal, hdropped] at hrun
      exact ⟨rest, _, hrun, rfl, hget, by decide⟩
  · -- The line would stop the run, but its file can be written.
    cases hstop with
    | faulty _ hasked =>
      rw [asked_upLine] at hasked
      cases hasked
    | unwritten _ _ hasked hresult =>
      rw [asked_upLine] at hasked
      obtain ⟨rfl, rfl⟩ := Asked.writing.inj hasked
      rw [write_up_succeeds] at hresult
      cases hresult

end Materialize

end SinkPipeline
