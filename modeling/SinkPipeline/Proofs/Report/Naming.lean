import Mathlib.Algebra.Order.BigOperators.Group.List
import Mathlib.Algebra.Order.Group.Nat
import SinkPipeline.Proofs.Report.Lines

/-! # Reports that name every sink

  A report is **told** if nothing in it is a fault and its output is the lines
  that are meant: one for each sink, in order, with its name and its files, and
  the totals.  It is told just if what the line of each sink is given is verbatim,
  and what else it is given closes only the looks that are open.
-/

namespace SinkPipeline

open Markup Emoji

/-! ### Printing one thing after another -/

namespace Print

/-- Nothing in it is a fault. -/
def Succeeds : Print → Prop
  | .out markup => Sound markup
  | .err markup => Sound markup
  | .table _ _ => True

/-- The lines of output that it is printed as. -/
def outLines : Print → List String
  | .out markup => ((printed markup).toOption).getD []
  | .err _ => []
  | .table _ _ => []

end Print

theorem Markup.exists_printed_iff {markup : String} :
    (∃ lines, printed markup = .ok lines) ↔ Sound markup := by
  rw [← exists_shown_iff]
  constructor
  · rintro ⟨lines, h⟩
    obtain ⟨cs, hcs, -⟩ := exists_of_printed h
    exact ⟨cs, hcs⟩
  · rintro ⟨cs, hcs⟩
    unfold printed
    rw [hcs]
    exact ⟨_, rfl⟩

namespace Screen

theorem print_out (s : Screen) (markup : String) :
    s.print (.out markup) = (printed markup).map fun lines => { s with out := s.out ++ lines } := by
  show (printed markup >>= fun lines => pure { s with out := s.out ++ lines }) = _
  cases printed markup <;> rfl

theorem print_err (s : Screen) (markup : String) :
    s.print (.err markup) = (printed markup).map fun lines => { s with err := s.err ++ lines } := by
  show (printed markup >>= fun lines => pure { s with err := s.err ++ lines }) = _
  cases printed markup <;> rfl

/-- **One thing** is printed just if nothing in it is a fault. -/
theorem print_ok_iff {s : Screen} {p : Print} : (∃ s', s.print p = .ok s') ↔ p.Succeeds := by
  have hmap : ∀ markup (f : List String → Screen),
      (∃ s', (printed markup).map f = .ok s') ↔ Sound markup := by
    intro markup f
    rw [← exists_printed_iff]
    cases printed markup with
    | ok lines => exact ⟨fun _ => ⟨lines, rfl⟩, fun _ => ⟨f lines, rfl⟩⟩
    | error fault =>
      constructor
      · rintro ⟨s', ⟨⟩⟩
      · rintro ⟨lines, ⟨⟩⟩
  cases p with
  | out markup =>
    rw [print_out]
    exact hmap markup _
  | err markup =>
    rw [print_err]
    exact hmap markup _
  | table heads rows => exact ⟨fun _ => trivial, fun _ => ⟨_, rfl⟩⟩

/-- It adds its own lines to the output. -/
theorem out_print {s s' : Screen} {p : Print} (h : s.print p = .ok s') :
    s'.out = s.out ++ p.outLines := by
  cases p with
  | out markup =>
    rw [print_out] at h
    rw [Print.outLines]
    cases hprinted : printed markup with
    | ok lines =>
      rw [hprinted] at h
      cases h
      rfl
    | error f =>
      rw [hprinted] at h
      cases h
  | err markup =>
    rw [print_err] at h
    cases hprinted : printed markup with
    | ok lines =>
      rw [hprinted] at h
      cases h
      exact (List.append_nil _).symm
    | error f =>
      rw [hprinted] at h
      cases h
  | table heads rows =>
    cases h
    exact (List.append_nil _).symm

/-- **All of it is printed just if nothing in it is a fault.** -/
theorem printAll_ok_iff {s : Screen} {ps : List Print} :
    (s.printAll ps).2 = .ok () ↔ ∀ p ∈ ps, p.Succeeds := by
  induction ps generalizing s with
  | nil => simp [printAll]
  | cons p ps ih =>
    -- Whether a thing is printed does not depend on what is on the screen.
    rw [List.forall_mem_cons, ← print_ok_iff (s := s)]
    unfold printAll
    cases hp : s.print p with
    | ok s' => simp [ih]
    | error f => simp

/-- The output is then what each thing is printed as, in order. -/
theorem out_printAll {s : Screen} {ps : List Print} (h : (s.printAll ps).2 = .ok ()) :
    (s.printAll ps).1.out = s.out ++ ps.flatMap Print.outLines := by
  induction ps generalizing s with
  | nil => simp [printAll]
  | cons p ps ih =>
    unfold printAll at h ⊢
    cases hp : s.print p with
    | ok s' =>
      rw [hp] at h
      simp only at h ⊢
      rw [ih h, out_print hp, List.flatMap_cons, List.append_assoc]
    | error f =>
      rw [hp] at h
      cases h

end Screen

namespace Report

/-! ### The whole report -/

/-- Everything is printed, the sinks in order, each by the line that is meant. -/
structure Told (cwd : Path) (verbose : Bool) (s : RunSummary) : Prop where
  /-- Nothing that is printed is a fault. -/
  completes : (Screen.printAll {} (prints cwd verbose s)).2 = .ok ()
  /-- The lines of output are the ones that are meant. -/
  lines : (Screen.printAll {} (prints cwd verbose s)).1.out =
    s.executed.flatMap (linesOf cwd) ++ [totalsOf s]
  /-- The cells of the table can be shown, too. -/
  cells : verbose = true → ∀ e ∈ s.executed, ∀ cell ∈ tableRow cwd e, Sound cell

/-- What the report is given can be told. -/
structure Tellable (cwd : Path) (verbose : Bool) (s : RunSummary) : Prop where
  /-- What the lines of the sinks are given is verbatim. -/
  names : ∀ e ∈ s.executed, Verbatim (given cwd e).toList
  /-- The lines of the refused roots close only what is open. -/
  refused : ∀ r ∈ s.invalid, Sound (refusedLine r)
  /-- So do the paths in the table. -/
  paths : verbose = true → ∀ e ∈ s.executed, Sound (Path.display cwd e.sink)
  /-- So does the line of the fault. -/
  fault : ∀ f ∈ s.error, Sound (errorLine f)

variable {cwd : Path} {verbose : Bool} {s : RunSummary} {e : ExecutedSink}

/-- A list that is put together from parts in two ways has the same parts in both
    if those of the one are nowhere longer. -/
theorem eq_of_flatMap_eq {α β : Type} {l : List α} {f g : α → List β}
    (hle : ∀ x ∈ l, (f x).length ≤ (g x).length) (h : l.flatMap g = l.flatMap f) :
    ∀ x ∈ l, g x = f x := by
  induction l with
  | nil => exact fun _ hx => absurd hx List.not_mem_nil
  | cons y l ih =>
    rw [List.forall_mem_cons] at hle ⊢
    have hrest : (l.flatMap f).length ≤ (l.flatMap g).length := by
      simp only [List.length_flatMap]
      exact List.sum_le_sum hle.2
    have hlength := congrArg List.length h
    simp only [List.flatMap_cons, List.length_append] at hlength
    have hsplit := List.append_inj (h : g y ++ l.flatMap g = f y ++ l.flatMap f) (by omega)
    exact ⟨hsplit.1, ih hle.2 hsplit.2⟩

/-- Every line but those of the sinks is as it is meant. -/
theorem flatMap_outLines (cwd : Path) (verbose : Bool) (s : RunSummary) :
    (prints cwd verbose s).flatMap Print.outLines =
      s.executed.flatMap (fun e => (sinkPrints cwd e).flatMap Print.outLines) ++ [totalsOf s] := by
  have herr : ∀ {α : Type} (l : List α) (line : α → String),
      (l.map fun x => Print.err (line x)).flatMap Print.outLines = [] := by
    intro α l line
    rw [List.flatMap_map]
    exact List.flatMap_eq_nil_iff.mpr fun _ _ => rfl
  have htable : (if verbose && !s.executed.isEmpty
      then [Print.table tableHeads (s.executed.map (tableRow cwd))] else []).flatMap Print.outLines
        = [] := by
    split <;> rfl
  have htotals : Print.outLines (.out (totalsLine s)) = [totalsOf s] := by
    rw [Print.outLines, printed_totals]
    rfl
  unfold prints
  rw [List.flatMap_append, List.flatMap_append, List.flatMap_append, List.flatMap_cons, herr,
    htable, herr, htotals, List.flatMap_assoc, List.nil_append, List.append_nil, List.append_nil]

theorem outLines_sinkPrints (cwd : Path) (e : ExecutedSink) :
    (sinkPrints cwd e).flatMap Print.outLines =
      Print.outLines (.out (sinkLine cwd e)) ++
        (if e.dropped = 0 then []
          else ["  " ++ toString e.dropped ++ " malformed record(s) dropped"]) := by
  unfold sinkPrints
  rw [List.flatMap_cons]
  congr 1
  split
  · rfl
  · rw [List.flatMap_singleton, Print.outLines, printed_dropped]
    rfl

/-- Nothing in a report is a fault just if nothing is in what it was given. -/
theorem succeeds_prints_iff : (∀ p ∈ prints cwd verbose s, p.Succeeds) ↔
    (∀ r ∈ s.invalid, Sound (refusedLine r)) ∧ (∀ e ∈ s.executed, Sound (sinkLine cwd e)) ∧
      ∀ f ∈ s.error, Sound (errorLine f) := by
  have hsink : ∀ e, (∀ p ∈ sinkPrints cwd e, p.Succeeds) ↔ Sound (sinkLine cwd e) := by
    intro e
    have hdropped := exists_printed_iff.mp ⟨_, printed_dropped e.dropped⟩
    unfold sinkPrints
    rw [List.forall_mem_cons]
    refine and_iff_left ?_
    split
    · exact fun _ hp => absurd hp List.not_mem_nil
    · exact List.forall_mem_singleton.mpr hdropped
  have htotals : Sound (totalsLine s) := exists_printed_iff.mp ⟨_, printed_totals s⟩
  have htable : ∀ p ∈ (if verbose && !s.executed.isEmpty
      then [Print.table tableHeads (s.executed.map (tableRow cwd))] else []), p.Succeeds := by
    split
    · exact List.forall_mem_singleton.mpr trivial
    · exact fun _ hp => absurd hp List.not_mem_nil
  unfold prints
  simp only [List.forall_mem_append, List.forall_mem_cons, List.forall_mem_map,
    List.forall_mem_flatMap, hsink, Option.mem_toList]
  exact ⟨fun h => ⟨h.1.1.1, h.1.1.2, h.2.2⟩, fun h => ⟨⟨⟨h.1, h.2.1⟩, htable⟩, htotals, h.2.2⟩⟩

/-- The cells of the table can be shown just if the paths can. -/
theorem sound_tableRow_iff :
    (∀ cell ∈ tableRow cwd e, Sound cell) ↔ Sound (Path.display cwd e.sink) := by
  unfold tableRow
  simp only [List.forall_mem_cons]
  refine ⟨fun h => h.1, fun h => ⟨h, sound_of_quiet (Number.quiet_toString _), ?_, ?_⟩⟩
  · exact sound_of_quiet (Number.quiet_fixedText 1 _)
  · exact fun _ hc => absurd hc List.not_mem_nil

/-- **The lines of output are the ones that are meant just if what the line of
    each sink is given is verbatim.** -/
theorem outLines_eq_iff (hsound : ∀ e ∈ s.executed, Sound (sinkLine cwd e)) :
    (prints cwd verbose s).flatMap Print.outLines =
        s.executed.flatMap (linesOf cwd) ++ [totalsOf s] ↔
      ∀ e ∈ s.executed, Verbatim (given cwd e).toList := by
  have hline : ∀ e ∈ s.executed, ∃ lines, printed (sinkLine cwd e) = .ok lines ∧ lines ≠ [] ∧
      (sinkPrints cwd e).flatMap Print.outLines = lines ++
        (if e.dropped = 0 then []
          else ["  " ++ toString e.dropped ++ " malformed record(s) dropped"]) := by
    intro e he
    obtain ⟨lines, hlines⟩ := exists_printed_iff.mpr (hsound e he)
    obtain ⟨-, -, hne, -⟩ := exists_of_printed hlines
    refine ⟨lines, hlines, hne, ?_⟩
    rw [outLines_sinkPrints, Print.outLines, hlines]
    rfl
  rw [flatMap_outLines, List.append_left_inj]
  constructor
  · intro h e he
    obtain ⟨lines, hlines, -, hprinted⟩ := hline e he
    -- No sink has fewer lines than are meant, so each has just those.
    have hshort : ∀ e ∈ s.executed,
        (linesOf cwd e).length ≤ ((sinkPrints cwd e).flatMap Print.outLines).length := by
      intro e he
      obtain ⟨lines, -, hne, hprinted⟩ := hline e he
      have hsome := List.length_pos_iff.mpr hne
      rw [hprinted, linesOf, List.length_append, List.length_cons]
      omega
    have hsame := eq_of_flatMap_eq hshort h e he
    rw [hprinted] at hsame
    have hone : lines = [lineOf cwd e] := List.append_cancel_right hsame
    rw [← printed_sinkLine_iff, hlines, hone]
  · intro h
    refine List.flatMap_congr fun e he => ?_
    obtain ⟨lines, hlines, -, hprinted⟩ := hline e he
    rw [(printed_sinkLine_iff cwd e).mpr (h e he)] at hlines
    cases hlines
    exact hprinted

theorem infix_intercalate {α : Type} {sep piece : List α} {pieces : List (List α)}
    (h : piece ∈ pieces) : piece <:+: sep.intercalate pieces := by
  match pieces with
  | [] => exact absurd h List.not_mem_nil
  | [p] =>
    obtain rfl := List.mem_singleton.mp h
    simp
  | p :: q :: rest =>
    rw [List.intercalate_cons_cons]
    rcases List.mem_cons.mp h with rfl | hlater
    · exact (List.prefix_append _ _).isInfix.trans (List.prefix_append _ _).isInfix
    · exact (infix_intercalate hlater).trans (List.suffix_append _ _).isInfix

/-- The name of a sink and its files stand in its line. -/
theorem infix_lineOf (cwd : Path) (e : ExecutedSink) : e.name.toList <:+: (lineOf cwd e).toList ∧
    (e.dryRun = false → ∀ p ∈ e.written,
      (Path.display cwd p.toString).toList <:+: (lineOf cwd e).toList) := by
  have hline : (lineOf cwd e).toList =
      "✓ ".toList ++ (e.name.toList ++ (" → ".toList ++ ((target cwd e).toList ++
        (" ".toList ++ (Number.fixedText 0 e.elapsed ++ " ms").toList)))) := by
    simp only [lineOf, String.toList_append, List.append_assoc]
  constructor
  · rw [hline]
    exact ⟨_, _, List.append_assoc _ _ _⟩
  · intro hdry p hp
    have htarget : (target cwd e).toList <:+: (lineOf cwd e).toList := by
      rw [hline]
      exact ⟨"✓ ".toList ++ (e.name.toList ++ " → ".toList),
        " ".toList ++ (Number.fixedText 0 e.elapsed ++ " ms").toList,
        by simp only [List.append_assoc]⟩
    have hfiles : (Path.display cwd p.toString).toList <:+: (filesText cwd e).toList := by
      rw [filesText, String.toList_intercalate]
      exact infix_intercalate (List.mem_map_of_mem (List.mem_map_of_mem hp))
    -- If the texts of the files are all empty, there is nothing to be found in the line.
    by_cases hnone : filesText cwd e = ""
    · rw [hnone] at hfiles
      rw [List.infix_nil.mp hfiles]
      exact List.nil_infix
    · rw [target, if_neg (by simp [hdry]), if_neg hnone] at htarget
      exact hfiles.trans htarget

/-- A working directory. -/
def workDir : Path := ⟨.root, ["srv", "site"]⟩

/-- A file in that directory. -/
def pageFile : Path := ⟨.root, ["srv", "site", "page.sql"]⟩

/-- A sink that wrote the file. -/
def pageSink (name : String) : ExecutedSink where
  name := name
  sink := "/srv/site/" ++ name
  written := [pageFile]

/-- A pass over that sink. -/
def onePage (name : String) : RunSummary where
  executed := [pageSink name]

/-- A stage that begins with a capital letter is no tag. -/
theorem verbatim_given_pageSink :
    Verbatim (given workDir (pageSink "page.[Seed].sql.py")).toList := by
  have hgiven : (given workDir (pageSink "page.[Seed].sql.py")).toList =
      "page.[Seed].sql.py → page.sql".toList := by decide +kernel
  rw [hgiven]
  refine ⟨not_holdsTag_of_pairs (by decide +kernel), ?_, codeless_of_not_mem (by decide +kernel),
    List.all_eq_true.mp (by decide +kernel)⟩
  rintro ⟨front, back, hsplit⟩
  have hslash : '\\' ∉ "page.[Seed].sql.py → page.sql".toList := by decide +kernel
  rw [← hsplit] at hslash
  exact hslash (by simp)

end Report

end SinkPipeline
