import SinkPipeline.Text.Lines

/-! # Lines across chunks

  A reader of lines that is given a stream chunk by chunk finds the lines of the
  whole stream, wherever the chunks end:

  - what has been **fed** to it is all that matters, not how it was cut;
  - its lines so far are the complete lines of what has been decoded, and it
    holds the line begun after them;
  - at the end of the stream the two together are the lines of the decoded text.
-/

namespace SinkPipeline.Text

/-! ### Pieces between line feeds -/

/-- A text without line feeds is a line begun. -/
theorem splitLines_of_not_mem {cs : List Char} (h : '\n' ∉ cs) : splitLines cs = ([], cs) := by
  induction cs with
  | nil => rfl
  | cons c cs ih =>
    have hc : c ≠ '\n' := fun hc => h (by simp [hc])
    have hcs : '\n' ∉ cs := fun hcs => h (by simp [hcs])
    rw [splitLines, if_neg hc, ih hcs]

/-- The first line feed ends the first line. -/
theorem splitLines_append_newline {line : List Char} (h : '\n' ∉ line) (rest : List Char) :
    splitLines (line ++ '\n' :: rest) = (line :: (splitLines rest).1, (splitLines rest).2) := by
  induction line with
  | nil => simp [splitLines]
  | cons c line ih =>
    have hc : c ≠ '\n' := fun hc => h (by simp [hc])
    have hline : '\n' ∉ line := fun hline => h (by simp [hline])
    rw [List.cons_append, splitLines, if_neg hc, ih hline]

/-- The first line feed ends the first of the lines. -/
theorem linesOf_append_newline {line : List Char} (h : '\n' ∉ line) (rest : List Char) :
    linesOf (line ++ '\n' :: rest) = line :: linesOf rest := by
  unfold linesOf
  rw [splitLines_append_newline h]
  dsimp only
  split
  · rfl
  · rfl

/-- A last line, if something of it is there. -/
theorem linesOf_of_not_mem {line : List Char} (h : '\n' ∉ line) (hne : line ≠ []) :
    linesOf line = [line] := by
  unfold linesOf
  rw [splitLines_of_not_mem h]
  simp [hne]

/-- No piece holds a line feed. -/
theorem newline_not_mem_splitLines (cs : List Char) :
    (∀ line ∈ (splitLines cs).1, '\n' ∉ line) ∧ '\n' ∉ (splitLines cs).2 := by
  induction cs with
  | nil => simp [splitLines]
  | cons c cs ih =>
    obtain ⟨hlines, hlast⟩ := ih
    rw [splitLines]
    by_cases hc : c = '\n'
    · rw [if_pos hc]
      simpa using ⟨hlines, hlast⟩
    · rw [if_neg hc]
      have hc' : '\n' ≠ c := fun h => hc h.symm
      cases hrest : (splitLines cs).1 with
      | nil => simpa [hc'] using hlast
      | cons line lines =>
        rw [hrest] at hlines
        simp only [List.mem_cons, forall_eq_or_imp] at hlines ⊢
        exact ⟨⟨by simpa [hc'] using hlines.1, hlines.2⟩, hlast⟩

/-- A text is a line begun, or its first line comes before a line feed. -/
theorem mem_newline_cases (cs : List Char) :
    '\n' ∉ cs ∨ ∃ line rest, '\n' ∉ line ∧ cs = line ++ '\n' :: rest := by
  induction cs with
  | nil => simp
  | cons c cs ih =>
    by_cases hc : c = '\n'
    · exact .inr ⟨[], cs, by simp, by simp [hc]⟩
    · have hc' : '\n' ≠ c := fun h => hc h.symm
      rcases ih with hnone | ⟨line, rest, hline, rfl⟩
      · exact .inl (by simpa [hc'] using hnone)
      · exact .inr ⟨c :: line, rest, by simpa [hc'] using hline, rfl⟩

/-- **More of a text**: its lines are the complete lines of the first part, and
    those of the line begun there with the second part after it. -/
theorem splitLines_append (cs more : List Char) :
    splitLines (cs ++ more) =
      ((splitLines cs).1 ++ (splitLines ((splitLines cs).2 ++ more)).1,
        (splitLines ((splitLines cs).2 ++ more)).2) := by
  -- Over the length: each step takes one complete line off the front.
  generalize hn : cs.length = n
  induction n using Nat.strongRecOn generalizing cs with
  | _ n ih =>
    rcases mem_newline_cases cs with hnone | ⟨line, rest, hline, rfl⟩
    · rw [splitLines_of_not_mem hnone]
      simp
    · have hshort : rest.length < n := by
        rw [← hn, List.length_append, List.length_cons]
        omega
      rw [List.append_assoc, List.cons_append, splitLines_append_newline hline,
        splitLines_append_newline hline, ih _ hshort rest rfl]
      rfl

/-- What has no line feed goes to the line begun. -/
theorem splitLines_append_of_not_mem (cs : List Char) {more : List Char} (h : '\n' ∉ more) :
    splitLines (cs ++ more) = ((splitLines cs).1, (splitLines cs).2 ++ more) := by
  have hlast : '\n' ∉ (splitLines cs).2 ++ more := by
    simp [h, (newline_not_mem_splitLines cs).2]
  rw [splitLines_append, splitLines_of_not_mem hlast]
  simp

/-- Cutting character by character, from a line begun. -/
theorem foldl_cutLines (cs : List Char) {begun : List Char} (hbegun : '\n' ∉ begun)
    (acc : List (List Char)) :
    cs.foldl cutLines (begun.reverse, acc) =
      ((splitLines (begun ++ cs)).2.reverse, (splitLines (begun ++ cs)).1.reverse ++ acc) := by
  induction cs generalizing begun acc with
  | nil =>
    rw [List.append_nil, splitLines_of_not_mem hbegun]
    rfl
  | cons c cs ih =>
    rw [List.foldl_cons, cutLines]
    by_cases hc : c = '\n'
    · subst hc
      rw [if_pos rfl, splitLines_append_newline hbegun, List.reverse_reverse]
      have hrest := @ih [] (by simp) (begun :: acc)
      rw [List.reverse_nil, List.nil_append] at hrest
      rw [hrest]
      simp
    · have hc' : '\n' ≠ c := fun h => hc h.symm
      have hmore : '\n' ∉ begun ++ [c] := by simp [hbegun, hc']
      have hrest := ih hmore acc
      rw [List.reverse_append, List.append_assoc] at hrest
      rw [if_neg hc]
      exact hrest

/-! ### Readers -/

namespace LineReader

/-- **What has been fed to a reader** is all that it knows: it stands where the
    decoder stands, and holds the line begun. -/
def after (bytes : Bytes) : LineReader :=
  ⟨(Utf8.run .start bytes).1, (splitLines (Utf8.run .start bytes).2).2.reverse⟩

/-- **One chunk**: the lines that it completes are those that come to the
    complete lines of what was fed before. -/
theorem feed_after (bytes chunk : Bytes) :
    ((after bytes).feed chunk).1 = after (bytes ++ chunk) ∧
      (splitLines (Utf8.run .start (bytes ++ chunk)).2).1 =
        (splitLines (Utf8.run .start bytes).2).1 ++ ((after bytes).feed chunk).2 := by
  have hbegun := (newline_not_mem_splitLines (Utf8.run .start bytes).2).2
  have hcut := foldl_cutLines (Utf8.run (Utf8.run .start bytes).1 chunk).2 hbegun []
  unfold feed after
  rw [Utf8.run_append, splitLines_append]
  dsimp only
  rw [hcut]
  simp

/-- What is owed at the end of the input is no line feed. -/
theorem newline_not_mem_finish (s : Utf8.State) : '\n' ∉ Utf8.finish s := by
  cases s with
  | start => simp [Utf8.finish]
  | inside value owed low high =>
    rw [Utf8.finish, List.mem_singleton]
    decide

/-- **The end of the stream**: the lines of the decoded text are the complete
    ones and the last one that the reader gives. -/
theorem linesOf_decode (bytes : Bytes) :
    linesOf (Utf8.decode bytes) =
      (splitLines (Utf8.run .start bytes).2).1 ++ (after bytes).finish.toList := by
  have hsplit := splitLines_append_of_not_mem (Utf8.run .start bytes).2
    (newline_not_mem_finish (Utf8.run .start bytes).1)
  unfold linesOf Utf8.decode finish after
  dsimp only
  rw [hsplit, List.reverse_reverse]
  dsimp only
  split
  · simp
  · simp

/-- Without the end of the stream there are only the complete lines. -/
theorem splitLines_decode (bytes : Bytes) :
    (splitLines (Utf8.decode bytes)).1 = (splitLines (Utf8.run .start bytes).2).1 := by
  unfold Utf8.decode
  rw [splitLines_append_of_not_mem _ (newline_not_mem_finish _)]

end LineReader

end SinkPipeline.Text
