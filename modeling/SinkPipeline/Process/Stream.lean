import SinkPipeline.Fault.Context
import SinkPipeline.Process.Script

/-! # Byte streams

  A **byte stream** is read chunk by chunk, up to its end or to a fault.  It
  comes from a source, or it is the output of a process whose input is fed from
  another stream; so behind every stream stands a **lineage** of processes down
  to a source.

  What feeds a process is a task of its own.  It begins to run when the program
  waits for something for the first time, and when it ends, or is called off
  while it runs, it closes the stream that it feeds from.  A feeder called off
  before it has begun does nothing at all.
-/

namespace SinkPipeline

/-- What reading a stream gives next. -/
inductive StreamEvent where
  /-- Some bytes. -/
  | chunk (bytes : Bytes)
  /-- A fault; nothing comes after it. -/
  | fault (f : Fault)

/-- How far the task that feeds a process has come. -/
inductive Feeder where
  /-- It has not begun. -/
  | unstarted
  /-- It is feeding. -/
  | feeding
  /-- It has ended, or was called off. -/
  | done
  deriving DecidableEq, Repr

/-- How a process stands. -/
inductive ProcessStatus where
  /-- It is running. -/
  | running
  /-- It has ended with a status. -/
  | ended (status : Int)
  deriving DecidableEq, Repr

/-- A process that was started. -/
structure Process where
  /-- Its command line. -/
  argv : List String
  /-- The directory that it was given. -/
  cwd : Option String
  /-- Its environment. -/
  env : Env
  /-- The status that it ends with if it is left alone. -/
  verdict : Int
  /-- How it stands. -/
  status : ProcessStatus := .running
  /-- What feeds it. -/
  feeder : Feeder := .unstarted
  deriving DecidableEq

/-- Where a stream comes from. -/
inductive Lineage where
  /-- A source, and whether it has been closed. -/
  | source (closed : Bool)
  /-- A process fed from another stream. -/
  | process (p : Process) (before : Lineage)
  deriving DecidableEq

namespace Lineage

/-- Has the source been closed? -/
def sourceClosed : Lineage → Bool
  | .source closed => closed
  | .process _ before => before.sourceClosed

/-- The processes, the last of the chain first. -/
def processes : Lineage → List Process
  | .source _ => []
  | .process p before => p :: before.processes

/-- The status that a call to end a process leaves: a running one is killed. -/
def kill (p : Process) : Process :=
  { p with
    feeder := .done
    status := match p.status with
      | .running => .ended (-9)
      | s => s }

/-- Close a stream: its feeder is called off and its process killed.  The
    stream before it is closed by the feeder, if that has begun. -/
def close : Lineage → Lineage
  | .source _ => .source true
  | .process p before =>
    .process (kill p) (if p.feeder = .feeding then before.close else before)

/-- The program has waited for something: every feeder has begun. -/
def startFeeders : Lineage → Lineage
  | .source closed => .source closed
  | .process p before =>
    .process (if p.feeder = .unstarted then { p with feeder := .feeding } else p)
      before.startFeeders

/-- The stream has been read to its end: every process has ended as it would,
    and every feeder has closed what it fed from. -/
def settle : Lineage → Lineage
  | .source _ => .source true
  | .process p before =>
    .process
      { p with
        feeder := .done
        status := match p.status with
          | .running => .ended p.verdict
          | s => s }
      before.settle

/-- What is left of a lineage once its stream has been read to the end: a bare
    source is not closed by that. -/
def finish : Lineage → Lineage
  | .source closed => .source closed
  | .process p before => (Lineage.process p before).settle

end Lineage

/-- A byte stream. -/
structure Stream where
  /-- What has not been read. -/
  unread : List StreamEvent
  /-- Where it comes from. -/
  lineage : Lineage := .source false

namespace Stream

/-- A source with some chunks. -/
def ofEvents (events : List StreamEvent) : Stream := ⟨events, .source false⟩

/-- A source of given bytes: one chunk, or none if there are no bytes. -/
def ofBytes (bytes : Bytes) : Stream := ofEvents (if bytes = [] then [] else [.chunk bytes])

/-- The stream without chunks. -/
def empty : Stream := ofEvents []

/-- Close a stream: nothing more is read from it. -/
def close (s : Stream) : Stream := { s with lineage := s.lineage.close }

/-- Has the source of a stream been closed? -/
def sourceClosed (s : Stream) : Bool := s.lineage.sourceClosed

/-- How a stream was read: what was folded over its chunks, the fault that it
    ended in, and the stream after that. -/
structure Outcome (α : Type) where
  /-- The value so far. -/
  value : α
  /-- The fault that ended the reading. -/
  fault : Option Fault
  /-- The stream after that. -/
  stream : Stream

/-- Read a stream to its end, a step for each chunk.  Reading stops at the
    first fault, of the stream or of a step. -/
def fold {α : Type} (step : α → Bytes → α × Option Fault) (s : Stream) (init : α) : Outcome α :=
  let rec go : List StreamEvent → α → Outcome α
    | [], acc => ⟨acc, none, ⟨[], s.lineage.finish⟩⟩
    | .fault f :: rest, acc => ⟨acc, some f, ⟨rest, s.lineage.finish⟩⟩
    | .chunk bytes :: rest, acc =>
      match step acc bytes with
      | (acc, none) => go rest acc
      -- Only the step has failed: the processes go on until the stream is closed.
      | (acc, some f) => ⟨acc, some f, ⟨rest, s.lineage.startFeeders⟩⟩
  go s.unread init

/-- The chunks up to the end or the fault, last one first. -/
def readChunks (s : Stream) : Outcome (List Bytes) :=
  s.fold (fun acc bytes => (bytes :: acc, none)) []

/-- All bytes up to the end or the fault. -/
def readAll (s : Stream) : Outcome Bytes :=
  let r := s.readChunks
  ⟨r.value.reverse.flatten, r.fault, r.stream⟩

/-- Read a stream to its end and close it: how many bytes there were. -/
def drain (s : Stream) : Except Fault Nat × Stream :=
  let r := s.fold (fun n bytes => (n + bytes.length, none)) 0
  (match r.fault with
    | none => .ok r.value
    | some f => .error f, r.stream.close)

end Stream

end SinkPipeline
