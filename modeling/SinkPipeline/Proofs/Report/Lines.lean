import SinkPipeline.Proofs.Report.Printing
import SinkPipeline.Report.Summary

/-! # The lines of a report

  Each line of a report is meant to tell something.  The line of a sink is given
  its name and its files, and they stand between words of the report's own; the
  other lines of output are given numbers, which are quiet.

  What the line of a sink is given is told as it is if it is verbatim, and only
  then: a tag in it vanishes or is a fault, a backslash in front of a bracket and
  the colons of an emoji vanish, and what is not steady ends the line or is left
  out.
-/

namespace SinkPipeline

open Markup Emoji

/-! ### Numbers -/

namespace Number

theorem isQuiet_of_isDigit {c : Char} (h : c.isDigit = true) : isQuiet c = true := by
  have hrange : 48 ≤ c.toNat ∧ c.toNat ≤ 57 := by
    have hbounds := h
    simp only [Char.isDigit, ge_iff_le, Bool.and_eq_true, decide_eq_true_eq,
      UInt32.le_iff_toNat_le] at hbounds
    exact hbounds
  have hne : ∀ d : Char, d.isDigit = false → c ≠ d := by
    rintro d hd rfl
    rw [hd] at h
    cases h
  have hcontrol : isControl c = false := by simp [isControl]; omega
  simp [isQuiet, isSteady, isMark, hcontrol, hne '\t' (by decide), hne '\n' (by decide),
    hne ':' (by decide), hne '[' (by decide), hne '\\' (by decide), hne ']' (by decide)]

theorem quiet_digitsOf (n : Nat) : Quiet (digitsOf n) := fun _ hc =>
  isQuiet_of_isDigit (Nat.isDigit_of_mem_toDigits (by decide) (by decide) hc)

theorem quiet_toString (n : Nat) : Quiet (toString n).toList := by
  rw [Nat.toString_eq_repr, Nat.repr_eq_ofList_toDigits, String.toList_ofList]
  exact quiet_digitsOf n

/-- A number with a fixed number of places is quiet, finite or not. -/
theorem quiet_fixedText (places : Nat) (x : Float) : Quiet (fixedText places x).toList := by
  have hsigned : ∀ negative cs, Quiet cs → Quiet (signed negative cs) := by
    intro negative cs hcs
    cases negative
    · exact hcs
    · exact List.forall_mem_cons.mpr ⟨by decide, hcs⟩
  have hpoint : ∀ cs, Quiet cs → Quiet (if places = 0 then [] else '.' :: cs) := by
    intro cs hcs
    split
    · exact fun _ hc => absurd hc List.not_mem_nil
    · exact List.forall_mem_cons.mpr ⟨by decide, hcs⟩
  unfold fixedText
  cases parts? x with
  | none =>
    show Quiet (specialText plainNames x).toList
    unfold specialText
    split
    · decide
    · split <;> decide
  | some parts =>
    obtain ⟨negative, m, q⟩ := parts
    have hdigits : Quiet (padZeros (places + 1) (digitsOf (scaled m q places))) := by
      refine Quiet.append (fun c hc => ?_) (quiet_digitsOf _)
      rw [List.eq_of_mem_replicate hc]
      decide
    show Quiet (String.ofList _).toList
    rw [String.toList_ofList]
    refine hsigned _ _ (Quiet.append (fun c hc => hdigits c (List.mem_of_mem_take hc)) ?_)
    exact hpoint _ fun c hc => hdigits c (List.mem_of_mem_drop hc)

end Number

namespace Report

/-! ### Lines as they are meant -/

/-- The files of a sink, as a line lists them. -/
def filesText (cwd : Path) (e : ExecutedSink) : String :=
  ", ".intercalate (e.written.map fun p => Path.display cwd p.toString)

/-- What the line of a sink tells about its files. -/
def target (cwd : Path) (e : ExecutedSink) : String :=
  if e.dryRun then "(dry-run, nothing written)"
  else if filesText cwd e = "" then "no files" else filesText cwd e

/-- The line of a sink as it is meant to be read. -/
def lineOf (cwd : Path) (e : ExecutedSink) : String :=
  "✓ " ++ e.name ++ " → " ++ target cwd e ++ " " ++ Number.fixedText 0 e.elapsed ++ " ms"

/-- The lines of a sink as they are meant to be read. -/
def linesOf (cwd : Path) (e : ExecutedSink) : List String :=
  lineOf cwd e ::
    (if e.dropped = 0 then [] else ["  " ++ toString e.dropped ++ " malformed record(s) dropped"])

/-- The totals as they are meant to be read. -/
def totalsOf (s : RunSummary) : String :=
  toString s.executed.length ++ " CapExec(s) executed, " ++ toString s.filesWritten ++
    " file(s) written"

/-- What the line of a sink is given: its name, and its files if it lists any. -/
def given (cwd : Path) (e : ExecutedSink) : String :=
  if e.dryRun = false ∧ filesText cwd e ≠ "" then e.name ++ " → " ++ filesText cwd e else e.name

/-! ### Words of the report -/

/-- The looks of a report. -/
def looks : List String := ["green", "yellow", "dim", "bold"]

theorem isLook_of_mem {look : String} (h : look ∈ looks) : IsLook look.toList := by
  have hstarts : ∀ look ∈ looks,
      (look.toList.head?.any fun c => startsTag c && c != '/') = true := by decide +kernel
  have hplain : ∀ look ∈ looks,
      (look.toList.all fun c => !isMark c && c != ']' && c != '=') = true := by decide +kernel
  have htrimmed : ∀ look ∈ looks, Text.stripBlanks look.toList = look.toList := by decide +kernel
  have hmix : ∀ look ∈ looks, ∀ w ∈ (Text.words look.toList).map String.ofList,
      Look.argument? "rgb" (Text.lower w).toList = none := by decide +kernel
  refine ⟨?_, ?_, htrimmed look h, Look.exists_normalForm (hmix look h)⟩
  · simpa [and_assoc] using (Option.any_eq_true _ _).mp (hstarts look h)
  · simpa [and_assoc] using hplain look h

theorem toList_styled (look text : String) :
    (styled look text).toList = styledText look.toList text.toList := by
  simp [styled, styledText]

/-- The words of a report, some of them in a look. -/
theorem spoken_styled {look text : String} (hlook : look ∈ looks) (htext : Quiet text.toList)
    (hne : text.toList ≠ []) {markup told : List Char} (h : Spoken markup told) :
    Spoken ((styled look text).toList ++ markup) (text.toList ++ told) := by
  rw [toList_styled]
  exact .styled (isLook_of_mem hlook) htext hne h

theorem spoken_milliseconds (x : Float) :
    Spoken (styled "dim" (Number.fixedText 0 x ++ " ms")).toList
      (Number.fixedText 0 x ++ " ms").toList := by
  have hquiet : Quiet (Number.fixedText 0 x ++ " ms").toList := by
    rw [String.toList_append]
    exact (Number.quiet_fixedText 0 x).append (by decide)
  have hdim : "dim" ∈ looks := by decide
  have hspoken := spoken_styled hdim hquiet (by simp) .nil
  rwa [List.append_nil, List.append_nil] at hspoken

theorem targetText_eq (cwd : Path) (e : ExecutedSink) :
    targetText cwd e =
      if e.dryRun then styled "dim" "(dry-run, nothing written)"
      else if filesText cwd e = "" then styled "dim" "no files" else filesText cwd e := rfl

/-- What a line tells in place of files. -/
theorem spoken_remark {remark : String} (h : Quiet remark.toList) (hne : remark.toList ≠ [])
    (x : Float) :
    Spoken ("→ ".toList ++ ((styled "dim" remark).toList ++ (" ".toList ++
        (styled "dim" (Number.fixedText 0 x ++ " ms")).toList)))
      ("→ ".toList ++ (remark.toList ++ (" ".toList ++ (Number.fixedText 0 x ++ " ms").toList))) :=
  .quiet (by decide) (by decide) <| spoken_styled (by decide) h hne <|
    .quiet (by decide) (by decide) (spoken_milliseconds x)

/-- What stands in a sink's line behind what the line is given, and how it is
    meant to be told. -/
structure Follows (cwd : Path) (e : ExecutedSink) (markup told : List Char) : Prop where
  /-- It is words of the report. -/
  spoken : Spoken markup told
  /-- They do not end in a blank. -/
  last : told.getLast? = some 's'
  /-- The line goes on with them. -/
  line : (sinkLine cwd e).toList = (styled "green" "✓").toList ++
    (" ".toList ++ ((given cwd e).toList ++ (" ".toList ++ markup)))
  /-- So does the line that is meant. -/
  meant : (lineOf cwd e).toList = "✓ ".toList ++ ((given cwd e).toList ++ (" ".toList ++ told))

theorem follows_remark {cwd : Path} {e : ExecutedSink} {remark : String}
    (hquiet : Quiet remark.toList) (hne : remark.toList ≠ [])
    (hmarkup : targetText cwd e = styled "dim" remark) (htarget : target cwd e = remark)
    (hgiven : given cwd e = e.name) : ∃ markup told, Follows cwd e markup told := by
  refine ⟨_, _, spoken_remark hquiet hne e.elapsed, ?_, ?_, ?_⟩
  · simp only [String.toList_append, ← List.append_assoc]
    rw [List.getLast?_append]
    rfl
  · rw [hgiven]
    simp only [sinkLine, hmarkup, String.toList_append, List.append_assoc]
    rfl
  · rw [hgiven]
    simp only [lineOf, htarget, String.toList_append, List.append_assoc]
    rfl

/-- **A sink's line** is what it is given between words of the report. -/
theorem exists_follows (cwd : Path) (e : ExecutedSink) :
    ∃ markup told, Follows cwd e markup told := by
  by_cases hdry : e.dryRun = true
  · have htext : targetText cwd e = styled "dim" "(dry-run, nothing written)" := by
      rw [targetText_eq, if_pos hdry]
    have htarget : target cwd e = "(dry-run, nothing written)" := by rw [target, if_pos hdry]
    have hgiven : given cwd e = e.name := by rw [given, if_neg (by simp [hdry])]
    exact follows_remark (by decide) (by decide) htext htarget hgiven
  · by_cases hfiles : filesText cwd e = ""
    · have htext : targetText cwd e = styled "dim" "no files" := by
        rw [targetText_eq, if_neg hdry, if_pos hfiles]
      have htarget : target cwd e = "no files" := by rw [target, if_neg hdry, if_pos hfiles]
      have hgiven : given cwd e = e.name := by rw [given, if_neg (by simp [hfiles])]
      exact follows_remark (by decide) (by decide) htext htarget hgiven
    · -- The files belong to what the line is given; only the time follows.
      have hgiven : given cwd e = e.name ++ " → " ++ filesText cwd e := by
        rw [given, if_pos ⟨by simpa using hdry, hfiles⟩]
      refine ⟨_, _, spoken_milliseconds e.elapsed, by simp, ?_, ?_⟩
      · rw [hgiven]
        simp only [sinkLine, targetText_eq, if_neg hdry, if_neg hfiles, String.toList_append,
          List.append_assoc]
      · rw [hgiven]
        simp only [lineOf, target, if_neg hdry, if_neg hfiles, String.toList_append,
          List.append_assoc]

/-! ### The line of a sink -/

/-- The scanner in front of what the line of a sink is given. -/
def front : Scanner := (Scanner.read {} (styled "green" "✓").toList).read " ".toList

theorem front_shows : front.Shows [] "✓ ".toList := by
  have hgreen : "green" ∈ looks := by decide
  have htick : Quiet "✓".toList := by decide
  have hblank : Quiet " ".toList := by decide
  have hspoken := spoken_styled hgreen htick (by decide) (.quiet hblank (by decide) .nil)
  have hshows := hspoken.shows (s := {}) rfl .start
  rw [List.append_nil, Scanner.read_append] at hshows
  exact hshows

theorem front_stands : front.scan = .between 0 ∧ front.unread = [' '] ∧ front.total = 0 := by
  decide +kernel

namespace Follows

variable {cwd : Path} {e : ExecutedSink} {markup told : List Char}

theorem read_sinkLine (h : Follows cwd e markup told) :
    Scanner.read {} (sinkLine cwd e).toList =
      ((front.read (given cwd e).toList).read " ".toList).read markup := by
  rw [h.line]
  simp only [Scanner.read_append]
  rfl

/-- Without tags, what the line is given is shown without its escapes and with
    its emoji. -/
theorem shown_sinkLine (h : Follows cwd e markup told) (htagless : ¬ HoldsTag (given cwd e).toList) :
    shown (sinkLine cwd e).toList =
      .ok ("✓ ".toList ++ (replace (plain (given cwd e).toList) ++ (" ".toList ++ told))) := by
  have hblank : Quiet " ".toList := by decide
  have hquiet : Quiet front.unread := by
    rw [front_stands.2.1]
    exact hblank
  have hgiven := front_shows.tagless front_stands.1 hquiet htagless
  -- The blank parts a backslash at the end of a name from the tag behind it.
  have hease := Scanner.atEase_read_quiet (front.read (given cwd e).toList) hblank (by decide)
  have hall := h.spoken.shows hease (hgiven.quiet hblank)
  rw [← h.read_sinkLine] at hall
  have hshown := hall.shown_eq
  simpa only [List.append_assoc] using hshown

/-- The line that is meant has just the marks that it is given. -/
theorem marks_lineOf (h : Follows cwd e markup told) :
    marks (lineOf cwd e).toList = marks (given cwd e).toList := by
  have hwords : marks "✓ ".toList = 0 ∧ marks " ".toList = 0 := by decide
  rw [h.meant]
  simp only [marks_append, h.spoken.quiet_told.marks_eq]
  omega

end Follows

/-- With a tag in it, some mark of what the line is given is not shown. -/
theorem marks_shown_lt {cwd : Path} {e : ExecutedSink} {cs : List Char}
    (h : HoldsTag (given cwd e).toList) (hshown : shown (sinkLine cwd e).toList = .ok cs) :
    marks cs < marks (given cwd e).toList := by
  obtain ⟨markup, told, hfollows⟩ := exists_follows cwd e
  have hfront := front_stands.2.2
  calc marks cs
      ≤ (Scanner.read {} (sinkLine cwd e).toList).total := marks_shown_le hshown
    _ ≤ ((front.read (given cwd e).toList).read " ".toList).total := by
        rw [hfollows.read_sinkLine]
        exact hfollows.spoken.total_read_le _
    _ ≤ (front.read (given cwd e).toList).total := Scanner.total_read_le _ _
    _ < marks (given cwd e).toList := by
        have hless := front.total_read_of_holdsTag h
        omega

/-- No line that is printed then tells all that was given. -/
theorem marks_line_lt {cwd : Path} {e : ExecutedSink} {lines : List String}
    (h : HoldsTag (given cwd e).toList) (hprinted : printed (sinkLine cwd e) = .ok lines) :
    ∀ line ∈ lines, marks line.toList < marks (given cwd e).toList := by
  obtain ⟨cs, hcs, -, hlines⟩ := exists_of_printed hprinted
  exact fun line hline => Nat.lt_of_le_of_lt (hlines line hline).1 (marks_shown_lt h hcs)

/-- **The line of a sink is told just if what it is given is verbatim.** -/
theorem printed_sinkLine_iff (cwd : Path) (e : ExecutedSink) :
    printed (sinkLine cwd e) = .ok [lineOf cwd e] ↔ Verbatim (given cwd e).toList := by
  obtain ⟨markup, told, hfollows⟩ := exists_follows cwd e
  have hwords : Quiet "✓ ".toList ∧ Quiet " ".toList := by decide
  have htold := hfollows.spoken.quiet_told
  constructor
  · intro h
    obtain ⟨cs, hcs, -, hlines⟩ := exists_of_printed h
    obtain ⟨hmarks, hsteady⟩ := hlines (lineOf cwd e) (by simp)
    rw [hfollows.marks_lineOf] at hmarks
    -- A tag would have taken a mark away.
    have htagless : ¬ HoldsTag (given cwd e).toList := fun htag => by
      have hless := marks_shown_lt htag hcs
      omega
    have hshown := hfollows.shown_sinkLine htagless
    rw [hcs] at hshown
    cases hshown
    refine verbatim_of_marks htagless (fun c hc => hsteady c ?_) ?_
    · rw [hfollows.meant]
      simp [hc]
    · simp only [marks_append, hwords.1.marks_eq, hwords.2.marks_eq, htold.marks_eq] at hmarks
      omega
  · intro h
    have hshown := hfollows.shown_sinkLine h.tagless
    rw [h.shown_eq, ← hfollows.meant] at hshown
    have hprinted := printed_of_shown hshown ?_ ?_
    · rwa [String.ofList_toList] at hprinted
    · rw [hfollows.meant]
      simp only [List.mem_append]
      rintro c (hc | hc | hc | hc)
      · exact hwords.1.steady c hc
      · exact h.steady c hc
      · exact hwords.2.steady c hc
      · exact htold.steady c hc
    · rw [hfollows.meant]
      simp only [List.getLast?_append, hfollows.last]
      rintro c ⟨⟩
      decide

/-! ### The other lines -/

/-- The line about dropped lines is told as it is meant. -/
theorem printed_dropped (n : Nat) :
    printed ("  " ++ styled "yellow" (toString n ++ " malformed record(s) dropped")) =
      .ok ["  " ++ toString n ++ " malformed record(s) dropped"] := by
  have hyellow : "yellow" ∈ looks := by decide
  have hquiet : Quiet (toString n ++ " malformed record(s) dropped").toList := by
    rw [String.toList_append]
    exact (Number.quiet_toString n).append (by decide)
  have hspoken :
      Spoken ("  " ++ styled "yellow" (toString n ++ " malformed record(s) dropped")).toList
        ("  " ++ toString n ++ " malformed record(s) dropped").toList := by
    have hindent : Quiet "  ".toList := by decide
    have hwords := Spoken.quiet hindent (by decide) (spoken_styled hyellow hquiet (by simp) .nil)
    simpa only [String.toList_append, List.append_nil, List.append_assoc] using hwords
  have hprinted := hspoken.printed_eq ?_
  · rwa [String.ofList_toList] at hprinted
  · rw [String.toList_append, List.getLast?_append]
    rintro c ⟨⟩
    decide

/-- The totals are told as they are meant. -/
theorem printed_totals (s : RunSummary) : printed (totalsLine s) = .ok [totalsOf s] := by
  have hbold : "bold" ∈ looks := by decide
  have hexecuted : Quiet " CapExec(s) executed, ".toList := by decide
  have hwritten : Quiet " file(s) written".toList := by decide
  have hne : ∀ n : Nat, (toString n).toList ≠ [] := by
    intro n hnil
    rw [Nat.toString_eq_repr, Nat.repr_eq_ofList_toDigits, String.toList_ofList] at hnil
    exact Nat.toDigits_ne_nil hnil
  have hspoken : Spoken (totalsLine s).toList (totalsOf s).toList := by
    have hwords := spoken_styled hbold (Number.quiet_toString s.executed.length) (hne _) <|
      .quiet hexecuted (by decide) <|
      spoken_styled hbold (Number.quiet_toString s.filesWritten) (hne _) <|
      .quiet hwritten (by decide) .nil
    simpa only [totalsLine, totalsOf, String.toList_append, List.append_nil, List.append_assoc]
      using hwords
  have hprinted := hspoken.printed_eq ?_
  · rwa [String.ofList_toList] at hprinted
  · rw [totalsOf, String.toList_append, List.getLast?_append]
    rintro c ⟨⟩
    decide

end Report

end SinkPipeline
