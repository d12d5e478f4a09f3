import SinkPipeline.Site

/-! # Writing a file all or nothing

  A stream is written to a file in three steps: the directories above the file
  are made, the stream is written to a **temporary file** of a fresh name beside
  it, and the temporary file is renamed onto the file.  So the file holds either
  what it held before or the whole stream.  When a step fails the temporary file
  is taken away again; directories that were made stay.

  Faults of the operating system and of unusable values, the stream's own
  included, are reported as a failure to write; all others are passed on.  The
  stream is closed at the end, whatever happens.
-/

namespace SinkPipeline

namespace AtomicWrite

/-- What the names of temporary files begin with. -/
def namePrefix : String := ".capexec-tmp-"

/-- The digits of a number in hexadecimal, at least 32 of them. -/
def hexName (n : Nat) : List Char :=
  let ds := Nat.toDigits 16 n
  List.replicate (32 - ds.length) '0' ++ ds

/-- The name of the temporary file of a number. -/
def tempName (n : Nat) : String := namePrefix ++ String.ofList (hexName n)

/-- The name of a temporary file that is none of the given names. -/
def freshName (names : List String) : String :=
  -- Of one more number than there are names, one at least is free.
  tempName (((List.range (names.length + 1)).find? fun n => !names.contains (tempName n)).getD 0)

/-- The names in the directory at a path, none if there is no directory. -/
def namesAt (m : Machine) (dir : Path) : List String :=
  match m.tree.entryAt m.home true dir.toString with
  | .ok (p, .dir) => m.tree.names p
  | _ => []

/-- The fault that a failure to write a file ends in. -/
def failure (target : Path) (f : Fault) : Fault :=
  let text := target.toString
  if f.isOs || f.isValue then
    Fault.ofKind .materialize ("Failed to write " ++ text ++ ": " ++ f.message)
      { path := .str text } (some f)
  else f

/-- How a write ended: the machine and the stream after it, and how many bytes
    were written or why none were. -/
structure Outcome where
  /-- The machine. -/
  machine : Machine
  /-- The stream, closed. -/
  stream : Stream
  /-- How many bytes were written. -/
  result : Except Fault Nat

/-- Write a stream to the temporary file `temp`, which is at `place`, and rename
    it onto the target. -/
def fill (m : Machine) (target temp : Path) (place : Place) (s : Stream) : Outcome :=
  let read := s.readAll
  let stop (f : Fault) : Outcome :=
    ⟨{ m with tree := m.tree.erase place }, read.stream.close, .error (failure target f)⟩
  match read.fault with
  | some f => stop f
  | none =>
    -- All bytes are in the temporary file before the target is touched.
    let full := m.tree.put place (.file ⟨read.value, 0o644, m.now⟩)
    match full.rename m.home place temp.toString target.toString with
    | .ok tree => ⟨{ m with tree := tree, now := m.now + 1 }, read.stream.close, .ok read.value.length⟩
    | .error f => stop f

/-- Write a stream to a file. -/
def write (m : Machine) (target : Path) (s : Stream) : Outcome :=
  let stop (m : Machine) (f : Fault) : Outcome := ⟨m, s.close, .error (failure target f)⟩
  match m.tree.makeDirs m.home target.parent with
  | (tree, .error f) => stop { m with tree := tree } f
  | (tree, .ok ()) =>
    let m := { m with tree := tree }
    let temp := target.parent.child (freshName (namesAt m target.parent))
    match m.tree.createFile m.home temp.toString m.now with
    | .error f => stop m f
    | .ok (place, tree) => fill { m with tree := tree } target temp place s

end AtomicWrite

namespace Act

/-- The logger of outputs. -/
def outputLogger : String := "capexec.materialize"

/-- Write a stream to a file: how many bytes there were, and the stream after
    that. -/
def atomicWrite {ν : Type} (target : Path) (s : Stream) : Act (Site ν) (Except Fault Nat × Stream) := do
  let out := AtomicWrite.write (← machine) target s
  modifyMachine fun _ => out.machine
  match out.result with
  | .ok n =>
    log outputLogger "debug" "materialize.written"
      [("path", .str target.toString), ("bytes", .int n)]
  | .error _ => pure ()
  return (out.result, out.stream)

end Act

end SinkPipeline
