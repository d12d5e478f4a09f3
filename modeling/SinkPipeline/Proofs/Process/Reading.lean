import SinkPipeline.Process.Stream

/-! # Reading a stream

  What a stream holds is told by two functions of its events: the **bytes** up
  to the end or the first fault, and that **fault**.  Reading to the end gives
  exactly these two, however the bytes are cut into chunks.

  A consumer that reads chunk by chunk makes single **reads**.  Reading to the
  end is nothing but reads until there is no more chunk.
-/

namespace SinkPipeline

namespace Stream

/-! ### Bytes and fault -/

/-- The bytes of some events up to the end or the first fault. -/
def bytesOf : List StreamEvent → Bytes
  | [] => []
  | .fault _ :: _ => []
  | .chunk bytes :: rest => bytes ++ bytesOf rest

/-- The first fault of some events. -/
def faultOf : List StreamEvent → Option Fault
  | [] => none
  | .fault f :: _ => some f
  | .chunk _ :: rest => faultOf rest

/-- The bytes of a stream up to its end or its fault. -/
def bytes (s : Stream) : Bytes := bytesOf s.unread

/-- The fault that a stream ends in, if it does not just end. -/
def fault? (s : Stream) : Option Fault := faultOf s.unread

@[simp] theorem bytes_empty : Stream.empty.bytes = [] := rfl

@[simp] theorem fault?_empty : Stream.empty.fault? = none := rfl

@[simp] theorem bytes_ofBytes (bytes : Bytes) : (ofBytes bytes).bytes = bytes := by
  unfold ofBytes Stream.bytes
  split
  · next h => simp [ofEvents, bytesOf, h]
  · simp [ofEvents, bytesOf]

@[simp] theorem fault?_ofBytes (bytes : Bytes) : (ofBytes bytes).fault? = none := by
  unfold ofBytes Stream.fault?
  split <;> rfl

/-! ### Reading to the end -/

/-- A fold that no step ends goes up to the end or the first fault, and leaves
    a lineage that is finished. -/
theorem fold_go_collect (s : Stream) (events : List StreamEvent) (acc : List Bytes) :
    (fold.go (fun acc bytes => (bytes :: acc, none)) s events acc).value.reverse.flatten
        = acc.reverse.flatten ++ bytesOf events ∧
      (fold.go (fun acc bytes => (bytes :: acc, none)) s events acc).fault = faultOf events ∧
      (fold.go (fun acc bytes => (bytes :: acc, none)) s events acc).stream.lineage
        = s.lineage.finish := by
  induction events generalizing acc with
  | nil => simp [fold.go, bytesOf, faultOf]
  | cons e rest ih =>
    cases e with
    | fault f => simp [fold.go, bytesOf, faultOf]
    | chunk bytes =>
      obtain ⟨hvalue, hfault, hlineage⟩ := ih (bytes :: acc)
      refine ⟨?_, ?_, ?_⟩
      · rw [fold.go]
        rw [hvalue]
        simp [bytesOf]
      · rw [fold.go]
        exact hfault
      · rw [fold.go]
        exact hlineage

/-- **Reading to the end** gives the bytes of the stream. -/
@[simp] theorem readAll_value (s : Stream) : s.readAll.value = s.bytes := by
  have h := (fold_go_collect s s.unread []).1
  simpa [readAll, readChunks, fold, bytes] using h

/-- Reading to the end ends in the fault of the stream. -/
@[simp] theorem readAll_fault (s : Stream) : s.readAll.fault = s.fault? :=
  (fold_go_collect s s.unread []).2.1

/-- What is left after reading to the end comes from a finished lineage. -/
@[simp] theorem readAll_lineage (s : Stream) : s.readAll.stream.lineage = s.lineage.finish :=
  (fold_go_collect s s.unread []).2.2

/-- A fold that only counts goes up to the end or the first fault, too. -/
theorem fold_go_count (s : Stream) (events : List StreamEvent) (n : Nat) :
    (fold.go (fun n bytes => (n + bytes.length, none)) s events n).value =
        n + (bytesOf events).length ∧
      (fold.go (fun n bytes => (n + bytes.length, none)) s events n).fault = faultOf events := by
  induction events generalizing n with
  | nil => exact ⟨rfl, rfl⟩
  | cons e rest ih =>
    cases e with
    | fault f => exact ⟨rfl, rfl⟩
    | chunk bytes =>
      obtain ⟨hvalue, hfault⟩ := ih (n + bytes.length)
      rw [fold.go]
      refine ⟨?_, hfault⟩
      show (fold.go _ s rest (n + bytes.length)).value = n + (bytes ++ bytesOf rest).length
      rw [hvalue, List.length_append, Nat.add_assoc]

/-- **Draining a stream** counts its bytes, or ends in its fault. -/
theorem drain_result (s : Stream) :
    s.drain.1 =
      match s.fault? with
      | none => .ok s.bytes.length
      | some f => .error f := by
  obtain ⟨hvalue, hfault⟩ := fold_go_count s s.unread 0
  unfold drain fold
  dsimp only
  rw [hvalue, hfault, Nat.zero_add]
  rfl

/-! ### Single reads -/

/-- One read of a consumer: a chunk or the fault, or nothing at the end. -/
def read (s : Stream) : Option StreamEvent × Stream :=
  match s.unread with
  | [] => (none, ⟨[], s.lineage.finish⟩)
  | .fault f :: rest => (some (.fault f), ⟨rest, s.lineage.finish⟩)
  | .chunk bytes :: rest => (some (.chunk bytes), ⟨rest, s.lineage.startFeeders⟩)

/-- A stream after some reads. -/
def afterReads : Nat → Stream → Stream
  | 0, s => s
  | n + 1, s => afterReads n s.read.2

/-- Reads until there is no more chunk: the chunks that they gave, last one
    first, the fault that ended them, and the stream after that. -/
def readLoop : Nat → List Bytes → Stream → Outcome (List Bytes)
  | 0, acc, s => ⟨acc, none, s⟩
  | n + 1, acc, s =>
    match s.read with
    | (some (.chunk bytes), rest) => readLoop n (bytes :: acc) rest
    | (some (.fault f), rest) => ⟨acc, some f, rest⟩
    | (none, rest) => ⟨acc, none, rest⟩

end Stream

namespace Lineage

/-- That feeders have begun makes no difference once all is settled. -/
theorem settle_startFeeders (l : Lineage) : l.startFeeders.settle = l.settle := by
  induction l with
  | source closed => rfl
  | process p before ih =>
    by_cases h : p.feeder = .unstarted
    · simp [startFeeders, settle, h, ih]
    · simp [startFeeders, settle, h, ih]

theorem finish_startFeeders (l : Lineage) : l.startFeeders.finish = l.finish := by
  cases l with
  | source closed => rfl
  | process p before => exact settle_startFeeders (.process p before)

end Lineage

namespace Stream

/-- **Reading to the end is reading chunk by chunk**: a loop with more reads
    than there are events is the fold that `readAll` is made from. -/
theorem readLoop_eq_fold_go (origin s : Stream) (acc : List Bytes) (n : Nat)
    (hlineage : s.lineage.finish = origin.lineage.finish) (hn : s.unread.length < n) :
    readLoop n acc s = fold.go (fun acc bytes => (bytes :: acc, none)) origin s.unread acc := by
  induction n generalizing s acc with
  | zero => omega
  | succ n ih =>
    obtain ⟨unread, lineage⟩ := s
    cases unread with
    | nil => simp_all [readLoop, read, fold.go]
    | cons e rest =>
      cases e with
      | fault f => simp_all [readLoop, read, fold.go]
      | chunk bytes =>
        have hrest : rest.length < n := by simpa using hn
        have hbegun : (Lineage.startFeeders lineage).finish = origin.lineage.finish := by
          rw [Lineage.finish_startFeeders]; exact hlineage
        have := ih ⟨rest, lineage.startFeeders⟩ (bytes :: acc) hbegun hrest
        simpa [readLoop, read, fold.go] using this

theorem readLoop_eq_readChunks (s : Stream) (n : Nat) (hn : s.unread.length < n) :
    readLoop n [] s = s.readChunks :=
  readLoop_eq_fold_go s s [] n rfl hn

end Stream

end SinkPipeline
