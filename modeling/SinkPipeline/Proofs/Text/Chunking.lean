import SinkPipeline.Proofs.Text.Decoding
import SinkPipeline.Proofs.Text.Lines

/-! # Lines do not depend on chunks

  A stream may be cut anywhere: inside a character, inside an ill-formed part, or
  into chunks that hold nothing.  The lines that a reader gives are those of the
  whole input, decoded at once and split at line feeds.

  - `feedAll_after`: after some chunks a reader stands where it would stand after
    their concatenation, and has given the complete lines of it.
  - `readAll_eq`: at the end of the stream the lines are those of the decoded
    concatenation.
  - `splitOn_eq_splitLines`: the pieces between line feeds are the complete lines
    and the line begun.
-/

namespace SinkPipeline.Text

/-! ### Pieces between line feeds -/

/-- Some pieces without one empty piece at the end. -/
def dropFinalEmpty (pieces : List (List Char)) : List (List Char) :=
  if pieces.getLast? = some [] then pieces.dropLast else pieces

/-- **The pieces of a text** are its complete lines and the line begun. -/
theorem splitOn_eq_splitLines (cs : List Char) :
    cs.splitOn '\n' = (splitLines cs).1 ++ [(splitLines cs).2] := by
  -- Over the length: each step takes one complete line off the front.
  generalize hn : cs.length = n
  induction n using Nat.strongRecOn generalizing cs with
  | _ n ih =>
    rcases mem_newline_cases cs with hnone | ⟨line, rest, hline, rfl⟩
    · rw [List.splitOn_eq_singleton hnone, splitLines_of_not_mem hnone]
      rfl
    · have hshort : rest.length < n := by
        rw [← hn, List.length_append, List.length_cons]
        omega
      have hsplit : (line ++ '\n' :: rest).splitOn '\n' =
          line.splitOn '\n' ++ rest.splitOn '\n' :=
        List.splitOnP_append_cons line rest (by simp)
      rw [hsplit, List.splitOn_eq_singleton hline, ih _ hshort rest rfl,
        splitLines_append_newline hline]
      rfl

/-- The lines of a text are its pieces without one empty piece at the end. -/
theorem linesOf_eq_dropFinalEmpty (cs : List Char) :
    linesOf cs = dropFinalEmpty (cs.splitOn '\n') := by
  unfold linesOf dropFinalEmpty
  rw [splitOn_eq_splitLines]
  by_cases hlast : (splitLines cs).2 = []
  · simp [hlast]
  · simp [hlast]

namespace LineReader

/-! ### Chunk after chunk -/

/-- A reader to which nothing has been fed. -/
theorem after_nil : after [] = {} := rfl

/-- **Some chunks**: the reader stands after their concatenation, and the lines
    given are those that come to the complete lines of what was fed before. -/
theorem feedAll_after (bytes : Bytes) (chunks : List Bytes) :
    ((after bytes).feedAll chunks).1 = after (bytes ++ chunks.flatten) ∧
      (splitLines (Utf8.run .start (bytes ++ chunks.flatten)).2).1 =
        (splitLines (Utf8.run .start bytes).2).1 ++ ((after bytes).feedAll chunks).2 := by
  induction chunks generalizing bytes with
  | nil => simp [feedAll]
  | cons chunk chunks ih =>
    obtain ⟨hafter, hlines⟩ := feed_after bytes chunk
    obtain ⟨hrest, hmore⟩ := ih (bytes ++ chunk)
    rw [List.flatten_cons, ← List.append_assoc, feedAll, hafter]
    refine ⟨hrest, ?_⟩
    rw [hmore, hlines, List.append_assoc]

/-- **All chunks of a stream**: the lines are those of the decoded concatenation. -/
theorem readAll_eq (chunks : List Bytes) :
    readAll chunks = linesOf (Utf8.decode chunks.flatten) := by
  obtain ⟨hafter, hlines⟩ := feedAll_after [] chunks
  rw [List.nil_append, after_nil] at hafter hlines
  have hgiven : (splitLines (Utf8.run .start chunks.flatten).2).1 = (feedAll {} chunks).2 := hlines
  unfold readAll
  dsimp only
  rw [hafter, linesOf_decode, hgiven]

/-- **Line iteration does not depend on chunking.**  The concatenation of the
    chunks has one reading, in which each maximal ill-formed part is one U+FFFD;
    the lines are the pieces of this text between line feeds, without one empty
    piece at the end; and other chunks of the same bytes give the same lines. -/
theorem readAll_of_any_chunks (chunks : List Bytes) :
    ∃ text, (∀ cs, Utf8.Reads chunks.flatten cs ↔ cs = text) ∧
      readAll chunks = dropFinalEmpty (text.splitOn '\n') ∧
      ∀ others : List Bytes, others.flatten = chunks.flatten → readAll others = readAll chunks := by
  refine ⟨Utf8.decode chunks.flatten, Utf8.reads_iff chunks.flatten, ?_, ?_⟩
  · rw [readAll_eq, linesOf_eq_dropFinalEmpty]
  · intro others hsame
    rw [readAll_eq, readAll_eq, hsame]

/-- A character cut in two, an empty chunk, a character cut short before a line
    feed, a byte that begins no character, and one cut short at the end. -/
theorem readAll_cut_characters :
    readAll [[0x61, 0xE2], [], [0x82, 0xAC, 0x0A, 0xE2, 0x82], [0x0A, 0x62, 0xFF, 0xF0, 0x9F]] =
        readAll [[0x61, 0xE2, 0x82, 0xAC, 0x0A, 0xE2, 0x82, 0x0A, 0x62, 0xFF, 0xF0, 0x9F]] ∧
      readAll [[0x61, 0xE2, 0x82, 0xAC, 0x0A, 0xE2, 0x82, 0x0A, 0x62, 0xFF, 0xF0, 0x9F]] =
        [['a', '€'], ['\uFFFD'], ['b', '\uFFFD', '\uFFFD']] := by
  obtain ⟨_, _, _, hothers⟩ := readAll_of_any_chunks
    [[0x61, 0xE2, 0x82, 0xAC, 0x0A, 0xE2, 0x82, 0x0A, 0x62, 0xFF, 0xF0, 0x9F]]
  exact ⟨hothers _ (by decide), by decide⟩

end LineReader

end SinkPipeline.Text
