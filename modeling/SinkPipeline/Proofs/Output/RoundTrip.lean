import SinkPipeline.Proofs.Output.Filling
import SinkPipeline.Proofs.Output.Records

/-! # Files that are written and read back as records

  Some files, none of them above another, are written as records, each on a line
  of its own.  A sink of many outputs that is given these lines below an empty
  directory leaves just these files there: no line is dropped, and none stops
  the run.

  The lines may be written in any way that a record can be, the last one may
  end in a line feed or not, and the stream may be cut anywhere.  What is asked
  of the files is that they **fit**: the operating system takes their paths and
  those of their temporary files only up to some length.
-/

namespace SinkPipeline

open SinkPipeline.Tree (Bare Holds)

/-! ### Files on lines -/

/-- A file, and a line that it is written on as a record. -/
structure Packed extends Leaf where
  /-- The line. -/
  line : List Char
  /-- The path does not start with a backslash. -/
  unslashed : ∀ cs, (Path.mk .here parts).toString.toList ≠ '\\' :: cs
  /-- The line is a record of the file. -/
  spelled : Record.SpellsFile (Path.mk .here parts).toString bytes line

namespace Packed

/-- The text of some files, with or without a line feed at its end. -/
def textOf (ended : Bool) (xs : List Packed) : List Char :=
  if ended then xs.flatMap fun x => x.line ++ ['\n'] else ['\n'].intercalate (xs.map (·.line))

theorem newline_not_mem (x : Packed) : '\n' ∉ x.line :=
  Materialize.newline_not_mem_of_spellsFile x.spelled

theorem line_ne_nil (x : Packed) : x.line ≠ [] := Materialize.ne_nil_of_spellsFile x.spelled

/-- **The lines of the text** are those of the files. -/
theorem linesOf_textOf (ended : Bool) (xs : List Packed) :
    Text.linesOf (textOf ended xs) = xs.map (·.line) := by
  induction xs with
  | nil => cases ended <;> rfl
  | cons x xs ih =>
    cases ended with
    | true =>
      have hsplit : textOf true (x :: xs) = x.line ++ '\n' :: textOf true xs := by simp [textOf]
      rw [hsplit, Text.linesOf_append_newline x.newline_not_mem, ih, List.map_cons]
    | false =>
      cases xs with
      | nil =>
        have hlast : textOf false [x] = x.line := by simp [textOf]
        rw [hlast, Text.linesOf_of_not_mem x.newline_not_mem x.line_ne_nil]
        rfl
      | cons y ys =>
        have hsplit : textOf false (x :: y :: ys) = x.line ++ '\n' :: textOf false (y :: ys) := by
          simp [textOf]
        rw [hsplit, Text.linesOf_append_newline x.newline_not_mem, ih]
        rfl

/-- No slash or backslash has to be taken off the path. -/
theorem innerPath_eq (x : Packed) :
    Record.innerPath (Path.mk .here x.parts).toString = (Path.mk .here x.parts).toString := by
  unfold Record.innerPath
  have hback := x.unslashed
  have hslash : ∀ cs, (Path.mk .here x.parts).toString.toList ≠ '/' :: cs := by
    intro cs
    rw [Path.toList_toString, if_neg fun h => x.named h.2]
    exact Path.head_intercalate x.isPart cs
  cases htext : (Path.mk .here x.parts).toString.toList with
  | nil => rw [List.dropWhile_nil, ← htext, String.ofList_toList]
  | cons c cs =>
    have hc : ¬(c == '/' || c == '\\') = true := by
      rw [Bool.or_eq_true, beq_iff_eq, beq_iff_eq]
      rintro (rfl | rfl)
      · exact hslash cs htext
      · exact hback cs htext
    rw [List.dropWhile_cons, if_neg hc, ← htext, String.ofList_toList]

/-- The record's path leads to the file below the directory. -/
theorem record_target (x : Packed) (base : Path) :
    Record.target base (Path.mk .here x.parts).toString = x.target base := by
  have hwellFormed : (Path.mk .here x.parts).WellFormed := x.isPart
  unfold Record.target
  rw [x.innerPath_eq, Path.ofString_toString hwellFormed]
  rfl

/-- **What the line of a file asks for** is to write the file. -/
theorem asked_eq (x : Packed) (base : Path) :
    Materialize.asked base x.line = .writing (x.target base) x.bytes := by
  rw [Materialize.asked_of_spellsFile x.spelled, x.record_target]

/-- Each character of a path is a slash or one of a name. -/
theorem mem_path {parts : List String} (hne : parts ≠ []) {c : Char}
    (h : c ∈ (Path.mk .here parts).toString.toList) : c = '/' ∨ ∃ part ∈ parts, c ∈ part.toList := by
  rw [Path.toList_toString, if_neg fun h => hne h.2] at h
  -- By induction on the pieces: what is put between them is a slash.
  have hmem : ∀ pieces : List (List Char), c ∈ ['/'].intercalate pieces →
      c = '/' ∨ ∃ piece ∈ pieces, c ∈ piece := by
    intro pieces hc
    induction pieces with
    | nil => simp at hc
    | cons piece pieces ih =>
      cases pieces with
      | nil => exact .inr ⟨piece, by simp, by simpa using hc⟩
      | cons next rest =>
        rw [List.intercalate_cons_cons, List.append_assoc] at hc
        rcases List.mem_append.mp hc with hc | hc
        · exact .inr ⟨piece, by simp, hc⟩
        · rcases List.mem_append.mp hc with hc | hc
          · exact .inl (List.mem_singleton.mp hc)
          · rcases ih hc with h | ⟨other, hother, hc⟩
            · exact .inl h
            · exact .inr ⟨other, by simp [hother], hc⟩
  rcases hmem _ h with h | ⟨piece, hpiece, hc⟩
  · exact .inl h
  · obtain ⟨part, hpart, rfl⟩ := List.mem_map.mp hpiece
    exact .inr ⟨part, hpart, hc⟩

/-- Is the text a name whose characters may all stand raw? -/
def IsRawName (part : String) : Prop :=
  part ≠ "" ∧ part ≠ "." ∧ part ≠ ".." ∧ part.utf8ByteSize ≤ Tree.maxNameBytes ∧
    ∀ c ∈ part.toList, c ≠ '/' ∧ Json.IsRaw c ∧ (Text.CodePoint.ofHeld c).isSurrogate = false

instance (part : String) : Decidable (IsRawName part) :=
  have : Decidable (∀ c ∈ part.toList, c ≠ '/' ∧ Json.IsRaw c ∧
      (Text.CodePoint.ofHeld c).isSurrogate = false) := List.decidableBAll _ _
  inferInstanceAs (Decidable (_ ∧ _ ∧ _ ∧ _ ∧ _))

/-- A file of text on its shortest line, if nothing has to be escaped. -/
def raw (parts : List String) (content : List Char) (named : parts ≠ [])
    (hparts : ∀ part ∈ parts, IsRawName part) (hcontent : ∀ c ∈ content, Json.IsRaw c) : Packed where
  parts := parts
  bytes := Text.Utf8.encodeChars content
  line := Record.rawLine (Path.mk .here parts).toString.toList content
  named := named
  isPart part hpart := by
    obtain ⟨hempty, hpoint, -, -, hchars⟩ := hparts part hpart
    exact ⟨hempty, hpoint, fun hslash => (hchars _ hslash).1 rfl⟩
  plain part hpart := by
    obtain ⟨-, -, hup, hshort, -⟩ := hparts part hpart
    exact ⟨hup, Nat.not_lt.mpr hshort⟩
  scalar part hpart c hc := by
    obtain ⟨-, hraw, hscalar⟩ := (hparts part hpart).2.2.2.2 c hc
    refine ⟨?_, hscalar⟩
    rintro rfl
    exact absurd hraw (by decide)
  unslashed cs hcs := by
    have hmem : '\\' ∈ (Path.mk .here parts).toString.toList := by simp [hcs]
    rcases mem_path named hmem with h | ⟨part, hpart, hc⟩
    · cases h
    · exact absurd ((hparts part hpart).2.2.2.2 _ hc).2.1 (by decide)
  spelled := by
    have hpath : ∀ c ∈ (Path.mk .here parts).toString.toList, Json.IsRaw c := by
      intro c hc
      rcases mem_path named hc with rfl | ⟨part, hpart, hc⟩
      · decide
      · exact ((hparts part hpart).2.2.2.2 c hc).2.1
    have h := Record.spellsFile_rawLine hpath hcontent
    rwa [String.ofList_toList] at h

end Packed

namespace Materialize

variable {ν : Type}

/-! ### The run -/

section

variable {base : Path} {dir : Place} {t₀ : Tree} {n : Nat} {xs : List Packed} {saved : List Saved}
  {w w' : Diary × Site ν}

/-- **After the lines of some files** the directory holds these files too. -/
theorem HandlesAll.holds (h : HandlesAll base n (xs.map (·.line)) saved w w')
    {held : List Leaf} (hheld : t₀.Holds dir held w.2.machine.tree)
    (hb : t₀.Bare w.2.machine.home base dir)
    (hapart : (held ++ xs.map (·.toLeaf)).Pairwise Leaf.Apart) :
    t₀.Holds dir (held ++ xs.map (·.toLeaf)) w'.2.machine.tree ∧
      w'.2.machine.home = w.2.machine.home := by
  generalize hlines : xs.map (·.line) = lines at h
  -- Over the lines: the file of each one is added to what is held.
  induction h generalizing xs held with
  | nil n w =>
    obtain rfl := List.map_eq_nil_iff.mp hlines
    simpa using hheld
  | @cons n line lines _ _ w v w' first _ ih =>
    obtain ⟨x, xs, rfl, rfl, hrest⟩ := List.map_eq_cons_iff.mp hlines
    have hassoc : held ++ (x :: xs).map (·.toLeaf) = held ++ [x.toLeaf] ++ xs.map (·.toLeaf) := by
      simp
    rw [hassoc] at hapart ⊢
    have hx : ∀ z ∈ held, z.Apart x.toLeaf := by
      intro z hz
      exact (List.pairwise_append.mp (List.pairwise_append.mp hapart).1).2.2 z hz _ (by simp)
    have hasked := x.asked_eq base
    -- Its line asks for the file, so it is neither blank nor dropped.
    cases first with
    | blank _ h =>
      rw [hasked] at h
      cases h
    | dropped _ _ h =>
      rw [hasked] at h
      cases h
    | saved D s y h hwritten =>
      rw [hasked] at h
      obtain ⟨htarget, hbytes⟩ := Asked.writing.inj h
      rw [← htarget, ← hbytes] at hwritten
      have hhome := hwritten.home
      obtain ⟨hall, hhome'⟩ := ih (hwritten.holds hheld hb hx) (hhome ▸ hb) hapart hrest
      exact ⟨hall, hhome'.trans hhome⟩

/-- The lines that are read are those of the files, wherever the stream is cut. -/
theorem linesRead_textOf {stream : Stream} {ended : Bool} (hfault : stream.fault? = none)
    (hbytes : stream.bytes = Text.Utf8.encodeChars (Packed.textOf ended xs)) :
    linesRead stream = xs.map (·.line) := by
  rw [linesRead, hfault, Option.isNone_none, if_pos rfl, hbytes, Text.Utf8.decode_encodeChars,
    Packed.linesOf_textOf]

/-- Each line of a file asks for it. -/
theorem filterMap_file?_line (base : Path) (xs : List Packed) :
    (xs.map (·.line)).filterMap (file? base) = xs.map fun x => (x.target base, x.bytes) := by
  rw [List.filterMap_map, ← List.filterMap_eq_map]
  refine List.filterMap_congr fun x _ => ?_
  simp [file?, x.asked_eq base]

/-- No line of a file is dropped. -/
theorem countP_drops_line (base : Path) (xs : List Packed) :
    (xs.map (·.line)).countP (drops base) = 0 := by
  rw [List.countP_eq_zero]
  intro line hline
  obtain ⟨x, -, rfl⟩ := List.mem_map.mp hline
  simp [drops, x.asked_eq base]

/-- **No line of a file that fits stops the run.** -/
theorem not_stops {f : Fault} {held : List Leaf} {y : Packed} (hheld : t₀.Holds dir held w.2.machine.tree)
    (hb : t₀.Bare w.2.machine.home base dir) (hapart : ∀ x ∈ held, x.Apart y.toLeaf) {count : Nat}
    (hfits : y.Fits base count) (hcount : held.length < count) : ¬Stops base y.line f w w' := by
  intro hstop
  have hasked := y.asked_eq base
  cases hstop with
  | faulty _ h =>
    rw [hasked] at h
    cases h
  | unwritten D s h hresult =>
    rw [hasked] at h
    obtain ⟨rfl, rfl⟩ := Asked.writing.inj h
    have hsucceeds := AtomicWrite.write_next_succeeds hheld hb hapart hfits hcount
      (Stream.fault?_ofBytes y.bytes)
    rw [hsucceeds] at hresult
    cases hresult

/-- The files that were written once the lines of some files have been handled. -/
theorem HandlesAll.saved_of_lines (h : HandlesAll base n (xs.map (·.line)) saved w w') :
    saved.map (·.target) = xs.map (fun x => x.target base) ∧
      totalBytes saved = (xs.flatMap (·.bytes)).length := by
  have hsaved := h.saved_eq
  rw [filterMap_file?_line] at hsaved
  constructor
  · have htargets := congrArg (List.map Prod.fst) hsaved
    simpa [Function.comp_def] using htargets
  · have hbytes := congrArg (List.flatMap Prod.snd) hsaved
    rw [List.flatMap_map, List.flatMap_map] at hbytes
    exact congrArg List.length hbytes

/-- **The lines of files that fit are all handled**: the run comes to its end. -/
theorem Finishes.handled_eq {stream : Stream} {handled : List (List Char)} {s : Site ν} {D : Diary}
    {v : Diary × Site ν} {r : Except Fault Materialized}
    (hb : s.machine.tree.Bare s.machine.home base dir)
    (hapart : (xs.map (·.toLeaf)).Pairwise Leaf.Apart) (hfits : ∀ x ∈ xs, x.Fits base xs.length)
    (hfault : stream.fault? = none) (hread : linesRead stream = xs.map (·.line))
    (hall : HandlesAll base 1 handled saved (D, s) v)
    (h : Finishes base stream handled saved v r w) :
    handled = xs.map (·.line) ∧ w = v ∧ r = .ok {
      isMulti := true
      written := saved.map (·.target)
      bytesWritten := totalBytes saved
      dropped := handled.countP (drops base) } := by
  cases h with
  | completed hlines _ => exact ⟨hlines.trans hread, rfl, rfl⟩
  | interrupted _ hsome =>
    rw [hfault] at hsome
    cases hsome
  | stopped hlines hstop =>
    -- The line that stops the run is that of a file, and those before it are written.
    rw [hread] at hlines
    obtain ⟨before, after, rfl, hbefore, hafter⟩ := List.map_eq_append_iff.mp hlines
    obtain ⟨y, after, rfl, rfl, -⟩ := List.map_eq_cons_iff.mp hafter
    rw [← hbefore] at hall
    rw [List.map_append, List.map_cons, List.pairwise_append] at hapart
    obtain ⟨hheld, hhome⟩ := hall.holds (Tree.holds_nil _ dir) hb (by simpa using hapart.1)
    rw [List.nil_append] at hheld
    refine absurd hstop (not_stops hheld (hhome ▸ hb) (fun x hx => hapart.2.2 x hx _ (by simp))
      (hfits y (by simp)) ?_)
    simp

end

/-! ### The round trip -/

/-- A site with an empty directory. -/
def outSite : Site Unit :=
  ⟨{ tree := ⟨[(["out"], .dir)]⟩, cwd := ⟨.root, []⟩ }, [], ()⟩

theorem bare_out :
    outSite.machine.tree.Bare outSite.machine.home ⟨.root, ["out"]⟩ ["out"] where
  wellFormed part hpart := by
    obtain rfl := List.mem_singleton.mp hpart
    unfold Path.IsPart
    decide
  given := rfl
  leads := ⟨Tree.maxLinks, .down (by decide) (by decide) rfl .here⟩
  empty q hq := by
    have hne : ¬["out"] = "out" :: q := by simpa using hq.symm
    simp [outSite, Tree.get?, Tree.findEntry, hne]

/-- Two files in one directory. -/
def pages : List Packed :=
  [.raw ["docs", "a"] ['h', 'i'] (by decide) (by decide) (Json.isRaw_of_all (by decide)),
    .raw ["docs", "b"] [] (by decide) (by decide) (Json.isRaw_of_all (by decide))]

/-- Their text, cut inside the first line. -/
def pagesStream : Stream :=
  .ofEvents [.chunk ((Text.Utf8.encodeChars (Packed.textOf false pages)).take 20),
    .chunk ((Text.Utf8.encodeChars (Packed.textOf false pages)).drop 20)]

/-- Only files whose paths are not too long are written. -/
theorem HandlesAll.short {base : Path} {n : Nat} {lines : List (List Char)} {saved : List Saved}
    {w w' : Diary × Site ν} (h : HandlesAll base n lines saved w w') :
    ∀ x ∈ saved, x.target.toString.utf8ByteSize ≤ Tree.maxPathBytes := by
  induction h with
  | nil n w => simp
  | cons first _ ih =>
    intro x hx
    rcases List.mem_append.mp hx with hx | hx
    · cases first with
      | blank _ _ => cases hx
      | dropped _ _ _ => cases hx
      | saved _ _ y _ hwritten =>
        obtain rfl := List.mem_singleton.mp hx
        exact hwritten.short
    · exact ih x hx

/-- **A path that is too long** lets the run fail.  Files that were written before
    are left, and their paths were not too long. -/
theorem multi_fails_of_long {base : Path} (hbase : base.WellFormed) {mode : Mode}
    (hmode : mode.writes = true) {xs : List Packed} {x : Packed} (hx : x ∈ xs)
    (hlong : Tree.maxPathBytes < (x.target base).toString.utf8ByteSize) {stream : Stream}
    (D : Diary) (s : Site ν) (ended : Bool) (hfault : stream.fault? = none)
    (hbytes : stream.bytes = Text.Utf8.encodeChars (Packed.textOf ended xs)) :
    ∃ f rest w saved, (multi mode base stream).runOn D s = (.ok (.error f, rest), w) ∧
      AtomicWrite.Saves saved s.machine w.2.machine ∧
      ∀ y ∈ saved, y.target.toString.utf8ByteSize ≤ Tree.maxPathBytes ∧
        ∃ z ∈ xs, y.target = z.target base := by
  obtain ⟨handled, saved, v, r, rest, w, hrun, hall, hfinish⟩ := runOn_multi hbase hmode stream D s
  have hread := linesRead_textOf hfault hbytes
  cases hfinish with
  | interrupted _ hsome =>
    rw [hfault] at hsome
    cases hsome
  | stopped hlines hstop =>
    refine ⟨_, rest, w, saved, hrun, hall.saves hstop.addsDirs.1 hstop.addsDirs.2, fun y hy =>
      ⟨hall.short y hy, ?_⟩⟩
    rw [hread] at hlines
    obtain ⟨before, after, rfl, rfl, -⟩ := List.map_eq_append_iff.mp hlines
    have hmem := List.mem_map_of_mem (f := fun y : Saved => (y.target, y.bytes)) hy
    rw [hall.saved_eq, filterMap_file?_line] at hmem
    obtain ⟨z, hz, hsame⟩ := List.mem_map.mp hmem
    exact ⟨z, by simp [hz], (congrArg Prod.fst hsame).symm⟩
  | completed hlines _ =>
    -- All files would have been written, this one among them.
    rw [hread] at hlines
    subst hlines
    have hmem : (x.target base, x.bytes) ∈ saved.map fun y => (y.target, y.bytes) := by
      rw [hall.saved_eq, filterMap_file?_line]
      exact List.mem_map.mpr ⟨x, hx, rfl⟩
    obtain ⟨y, hy, hsame⟩ := List.mem_map.mp hmem
    have htarget : y.target = x.target base := congrArg Prod.fst hsame
    have hshort := hall.short y hy
    rw [htarget] at hshort
    exact absurd hshort (Nat.not_le.mpr hlong)

/-- A name of some letters. -/
def letters (n : Nat) : String := String.ofList (List.replicate n 'a')

theorem utf8ByteSize_letters (n : Nat) : (letters n).utf8ByteSize = n := by
  unfold letters
  induction n with
  | zero => rfl
  | succ n ih =>
    have hsplit : List.replicate (n + 1) 'a' = ['a'] ++ List.replicate n 'a' := rfl
    have hletter : (String.ofList ['a']).utf8ByteSize = 1 := by decide
    rw [hsplit, String.ofList_append, String.utf8ByteSize_append, ih, hletter, Nat.add_comm]

theorem isRawName_letters {n : Nat} (hn : 2 < n) (hshort : n ≤ Tree.maxNameBytes) :
    Packed.IsRawName (letters n) := by
  have hsize := utf8ByteSize_letters n
  have hne : ∀ s : String, s.utf8ByteSize ≤ 2 → letters n ≠ s := by
    rintro s hs rfl
    omega
  refine ⟨hne _ (by decide), hne _ (by decide), hne _ (by decide), by rwa [hsize], ?_⟩
  intro c hc
  rw [letters, String.toList_ofList] at hc
  obtain rfl := List.eq_of_mem_replicate hc
  decide

/-- An empty file below nineteen directories, all of them of long names. -/
def deepFile : Packed :=
  .raw (List.replicate 20 (letters 250)) [] (by simp)
    (fun _ hpart => List.eq_of_mem_replicate hpart ▸ isRawName_letters (by decide) (by decide))
    (by simp)

end Materialize

end SinkPipeline
