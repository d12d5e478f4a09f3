import SinkPipeline.Text.Utf8

/-! # Lines of a byte stream

  The lines of a stream of UTF-8 are the pieces between line feeds; a last
  piece without a line feed counts when it is not empty.  The reader takes the
  stream chunk by chunk and gives each line as soon as its line feed has been
  read, so a chunk may end anywhere, also inside a character.
-/

namespace SinkPipeline.Text

/-- The pieces of a text between line feeds: the complete lines, and what
    stands after the last line feed. -/
def splitLines : List Char → List (List Char) × List Char
  | [] => ([], [])
  | c :: cs =>
    let rest := splitLines cs
    if c = '\n' then ([] :: rest.1, rest.2)
    else
      match rest.1 with
      | [] => ([], c :: rest.2)
      | line :: lines => ((c :: line) :: lines, rest.2)

/-- The lines of a text: one last empty piece is no line. -/
def linesOf (cs : List Char) : List (List Char) :=
  let parts := splitLines cs
  if parts.2 = [] then parts.1 else parts.1 ++ [parts.2]

/-- A reader of lines: the decoder's state and the line begun, in reverse. -/
structure LineReader where
  /-- Where the decoder stands. -/
  decoder : Utf8.State := .start
  /-- The characters of the unfinished line, last one first. -/
  partialLine : List Char := []
  deriving DecidableEq, Repr

/-- One decoded character: `acc` holds the unfinished line and the finished
    ones, both in reverse. -/
def cutLines (acc : List Char × List (List Char)) (c : Char) : List Char × List (List Char) :=
  if c = '\n' then ([], acc.1.reverse :: acc.2) else (c :: acc.1, acc.2)

/-- One chunk: the reader after it and the lines that it completes. -/
def LineReader.feed (r : LineReader) (chunk : Bytes) : LineReader × List (List Char) :=
  let out := Utf8.run r.decoder chunk
  let cut := out.2.foldl cutLines (r.partialLine, [])
  (⟨out.1, cut.1⟩, cut.2.reverse)

/-- The end of the stream: the last line, if something of it is there. -/
def LineReader.finish (r : LineReader) : Option (List Char) :=
  -- A character cut short at the end is part of the last line.
  let line := r.partialLine.reverse ++ Utf8.finish r.decoder
  if line = [] then none else some line

/-- Some chunks, one after the other: the reader after them and the lines that
    they complete. -/
def LineReader.feedAll (r : LineReader) : List Bytes → LineReader × List (List Char)
  | [] => (r, [])
  | chunk :: chunks =>
    let out := r.feed chunk
    let rest := out.1.feedAll chunks
    (rest.1, out.2 ++ rest.2)

/-- All chunks of a stream that ends: its lines, in order. -/
def LineReader.readAll (chunks : List Bytes) : List (List Char) :=
  let out := LineReader.feedAll {} chunks
  out.2 ++ out.1.finish.toList

end SinkPipeline.Text
