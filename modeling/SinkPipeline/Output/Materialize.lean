import SinkPipeline.Orchestrator
import SinkPipeline.Output.AtomicWrite
import SinkPipeline.Output.Record
import SinkPipeline.Text.Lines

/-! # Materializing outputs

  The output of a sink becomes files.  A sink of **one** output writes its whole
  stream to one file.  A sink of **many** outputs writes a record per line; the
  files are written in the order of the lines, while the stream is being read,
  and a line that is no record is dropped and counted.  Blank lines do not
  count as dropped.

  In a dry run the stream is read to its end and nothing is written.  The
  stream is closed at the end in every case.
-/

namespace SinkPipeline

/-- Does a run of a mode write its outputs? -/
def Mode.writes : Mode → Bool
  | .dryRun => false
  | .build | .watch => true

/-- The mode of a word that need not be that of a mode: whatever is not the word
    for a dry run counts as a build or as itself. -/
def Mode.ofWord (w : String) : Mode := (Mode.all.find? (·.word == w)).getD .build

/-- What became of the output of a sink. -/
structure Materialized where
  /-- Does the sink have many outputs? -/
  isMulti : Bool
  /-- The files that were written, in order. -/
  written : List Path := []
  /-- How many bytes were written. -/
  bytesWritten : Nat := 0
  /-- Was it a dry run? -/
  dryRun : Bool := false
  /-- How many lines were dropped. -/
  dropped : Nat := 0

namespace Materialize

variable {ν : Type}

/-- Read a stream to its end and write nothing. -/
def dryRun (isMulti : Bool) (s : Stream) : Except Fault Materialized × Stream :=
  let out := s.drain
  (out.1.map fun _ => { isMulti := isMulti, dryRun := true }, out.2)

/-- Write a stream to one file. -/
def single (mode : Mode) (target : Path) (s : Stream) :
    Act (Site ν) (Except Fault Materialized × Stream) := do
  if !mode.writes then return dryRun false s
  let (r, s) ← Act.atomicWrite target s
  return (r.map fun n => { isMulti := false, written := [target], bytesWritten := n }, s)

/-! ### Many outputs -/

/-- How far the lines have been handled. -/
structure Progress where
  /-- The reader of the lines. -/
  reader : Text.LineReader := {}
  /-- How many lines there have been. -/
  lines : Nat := 0
  /-- The files that were written, last one first. -/
  written : List Path := []
  /-- How many bytes were written. -/
  bytes : Nat := 0
  /-- How many lines were dropped. -/
  dropped : Nat := 0

/-- Write the file of a record. -/
def writeRecord (base : Path) (p : Progress) (r : Record) : Act (Site ν) Progress := do
  let target := Record.target base r.pathText
  -- The content is decoded before anything is made for its file.
  let bytes ← Act.ofExcept r.decode
  let n ← Act.ofExcept (← Act.atomicWrite target (Stream.ofBytes bytes)).1
  return { p with written := target :: p.written, bytes := p.bytes + n }

/-- Handle one line. -/
def handleLine (base : Path) (p : Progress) (line : List Char) : Act (Site ν) Progress := do
  -- Every line counts for the numbering, a blank one only for that.
  let p := { p with lines := p.lines + 1 }
  match Text.stripBlanks line with
  | [] => return p
  | text =>
    match ← Act.ofExcept (Record.ofLine (String.ofList text)) with
    | some r => writeRecord base p r
    | none =>
      Act.log Act.outputLogger "debug" "materialize.record_dropped" [("line", .int p.lines)]
      return { p with dropped := p.dropped + 1 }

/-- Handle the lines that a chunk completes. -/
def handleChunk (base : Path) (p : Progress) (chunk : Bytes) : Act (Site ν) Progress :=
  let out := p.reader.feed chunk
  out.2.foldlM (handleLine base) { p with reader := out.1 }

/-- Handle what is left when the stream has ended. -/
def handleEnd (base : Path) (p : Progress) : Act (Site ν) Progress :=
  match p.reader.finish with
  | none => return p
  | some line => handleLine base p line

/-- What became of the lines. -/
def Progress.result (p : Progress) : Materialized :=
  { isMulti := true, written := p.written.reverse, bytesWritten := p.bytes, dropped := p.dropped }

/-- Write one file per record below a directory. -/
def multi (mode : Mode) (base : Path) (s : Stream) :
    Act (Site ν) (Except Fault Materialized × Stream) := do
  if !mode.writes then return dryRun true s
  let out ← s.foldAct (handleChunk base) {}
  let closed := out.stream.close
  match out.fault with
  | some f => return (.error f, closed)
  | none =>
    -- Only a stream without a fault has a last line; elsewhere it may be half of one.
    let r ← Act.attempt (handleEnd base out.value)
    return (r.map Progress.result, closed)

end Materialize

end SinkPipeline
