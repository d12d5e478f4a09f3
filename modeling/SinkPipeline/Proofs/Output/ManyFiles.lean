import SinkPipeline.Output.Materialize
import SinkPipeline.Proofs.Output.Successive
import SinkPipeline.Proofs.Running
import SinkPipeline.Proofs.Text.Lines

/-! # What a stream of records does

  A sink of many outputs is run line by line.  What a line **asks** for is told
  by its text alone: nothing, to be dropped, to write a file, or a fault.

  - A line that is **handled** does what it asks for: a file is written all or
    nothing, a dropped line is logged with its number.
  - A line **stops** the run if it asks for a fault or its file cannot be
    written; then nothing is changed but that directories may have been made.

  The run handles the lines of the stream in order, up to the first that stops
  it or to the end of the stream.
-/

namespace SinkPipeline

namespace Act

variable {ν : Type}

/-- Writing a file: the machine after it, and a record if it was written. -/
theorem runOn_atomicWrite (target : Path) (stream : Stream) (D : Diary) (s : Site ν) :
    (atomicWrite target stream).runOn D s =
      (.ok ((AtomicWrite.write s.machine target stream).result,
          (AtomicWrite.write s.machine target stream).stream),
        match (AtomicWrite.write s.machine target stream).result with
        | .ok n =>
          D.logged outputLogger "debug" "materialize.written"
            [("path", .str target.toString), ("bytes", .int n)]
        | .error _ => D,
        { s with machine := (AtomicWrite.write s.machine target stream).machine }) := by
  have hmachine : (machine : Act (Site ν) Machine).runOn D s = (.ok s.machine, D, s) := rfl
  unfold atomicWrite
  rw [runOn_bind, hmachine]
  dsimp only
  generalize AtomicWrite.write s.machine target stream = out
  obtain ⟨m, rest, result⟩ := out
  cases result <;> rfl

end Act

namespace Materialize

variable {ν : Type}

/-! ### What a line asks for -/

/-- What a line asks for. -/
inductive Asked where
  /-- It is blank. -/
  | nothing
  /-- It is no record. -/
  | dropping
  /-- It is a record: these bytes are to be written to that file. -/
  | writing (target : Path) (bytes : Bytes)
  /-- It cannot be read, or the content of its record cannot be decoded. -/
  | fault (f : Fault)

/-- What the text of a line asks for, below a directory. -/
def asked (base : Path) (line : List Char) : Asked :=
  match Text.stripBlanks line with
  | [] => .nothing
  | text =>
    match Record.ofLine (String.ofList text) with
    | .error f => .fault f
    | .ok none => .dropping
    | .ok (some r) =>
      match r.decode with
      | .error f => .fault f
      | .ok bytes => .writing (Record.target base r.pathText) bytes

/-- Is the line to be dropped? -/
def drops (base : Path) (line : List Char) : Bool :=
  match asked base line with
  | .dropping => true
  | _ => false

/-- The file that a line asks for, with its bytes. -/
def file? (base : Path) (line : List Char) : Option (Path × Bytes) :=
  match asked base line with
  | .writing target bytes => some (target, bytes)
  | _ => none

/-- The record that a line holds, if it holds one. -/
def recordOn (line : List Char) : Option Record :=
  match Record.ofLine (String.ofList (Text.stripBlanks line)) with
  | .ok r => r
  | .error _ => none

/-- A line that asks for a file holds the record of the file. -/
theorem exists_record_of_asked {base target : Path} {line : List Char} {bytes : Bytes}
    (h : asked base line = .writing target bytes) :
    ∃ r, recordOn line = some r ∧ target = Record.target base r.pathText := by
  unfold asked at h
  split at h
  · cases h
  · split at h
    · cases h
    · cases h
    · next r hread =>
      split at h
      · cases h
      · refine ⟨r, ?_, (Asked.writing.inj h).1.symm⟩
        unfold recordOn
        rw [hread]

/-- Every file is below the directory by a path with legal parts. -/
theorem wellFormed_of_asked {base target : Path} {line : List Char} {bytes : Bytes}
    (hbase : base.WellFormed) (h : asked base line = .writing target bytes) :
    target.WellFormed := by
  unfold asked at h
  split at h
  · cases h
  · split at h
    · cases h
    · cases h
    · split at h
      · cases h
      · rw [← (Asked.writing.inj h).1]
        exact hbase.join (Path.wellFormed_ofString _)

/-- The handling of a line does what the line asks for. -/
theorem handleLine_eq (base : Path) (p : Progress) (line : List Char) :
    (handleLine base p line : Act (Site ν) Progress) =
      (match asked base line with
      | .nothing => pure { p with lines := p.lines + 1 }
      | .dropping => do
        Act.log Act.outputLogger "debug" "materialize.record_dropped" [("line", .int (p.lines + 1))]
        pure { p with lines := p.lines + 1, dropped := p.dropped + 1 }
      | .fault f => Act.fail f
      | .writing target bytes => do
        let n ← Act.ofExcept (← Act.atomicWrite target (Stream.ofBytes bytes)).1
        pure { p with
          lines := p.lines + 1, written := target :: p.written, bytes := p.bytes + n }) := by
  unfold handleLine asked
  cases Text.stripBlanks line with
  | nil => rfl
  | cons c text =>
    dsimp only
    cases Record.ofLine (String.ofList (c :: text)) with
    | error f => rfl
    | ok found =>
      cases found with
      | none => rfl
      | some r =>
        show writeRecord base { p with lines := p.lines + 1 } r = _
        unfold writeRecord
        dsimp only
        cases r.decode <;> rfl

/-! ### Lines that are handled -/

/-- How many bytes were written. -/
def totalBytes (xs : List Saved) : Nat := (xs.flatMap (·.bytes)).length

/-- **A line that is handled**, by its number: a blank line does nothing, a line
    that is no record is logged, and the file of a record is written. -/
inductive Handles (base : Path) (n : Nat) (line : List Char) :
    List Saved → Diary × Site ν → Diary × Site ν → Prop where
  | blank (w : Diary × Site ν) (hasked : asked base line = .nothing) : Handles base n line [] w w
  | dropped (D : Diary) (s : Site ν) (hasked : asked base line = .dropping) :
      Handles base n line [] (D, s)
        (D.logged Act.outputLogger "debug" "materialize.record_dropped" [("line", .int n)], s)
  | saved (D : Diary) (s : Site ν) (x : Saved) {out : AtomicWrite.Outcome}
      (hasked : asked base line = .writing x.target x.bytes)
      (hwritten : AtomicWrite.Written s.machine x.target x.bytes x.place out) :
      Handles base n line [x] (D, s)
        (D.logged Act.outputLogger "debug" "materialize.written"
          [("path", .str x.target.toString), ("bytes", .int x.bytes.length)],
        { s with machine := out.machine })

/-- Lines that are handled one after the other, the first one by the number `n`. -/
inductive HandlesAll (base : Path) :
    Nat → List (List Char) → List Saved → Diary × Site ν → Diary × Site ν → Prop where
  | nil (n : Nat) (w : Diary × Site ν) : HandlesAll base n [] [] w w
  | cons {n : Nat} {line : List Char} {lines : List (List Char)} {xs ys : List Saved}
      {w w' w'' : Diary × Site ν} (first : Handles base n line xs w w')
      (rest : HandlesAll base (n + 1) lines ys w' w'') :
      HandlesAll base n (line :: lines) (xs ++ ys) w w''

/-- **A line that stops the run** with a fault: it asks for it, or its file
    cannot be written, and then directories may have been made. -/
inductive Stops (base : Path) (line : List Char) (f : Fault) :
    Diary × Site ν → Diary × Site ν → Prop where
  | faulty (w : Diary × Site ν) (hasked : asked base line = .fault f) : Stops base line f w w
  | unwritten (D : Diary) (s : Site ν) {target : Path} {bytes : Bytes}
      (hasked : asked base line = .writing target bytes)
      (hresult : (AtomicWrite.write s.machine target (.ofBytes bytes)).result = .error f) :
      Stops base line f (D, s) (D, { s with machine := AtomicWrite.withDirs s.machine target })

/-- **The first line that stops the run** is somewhere among some lines, and
    those before it are handled. -/
def StopsIn (base : Path) (n : Nat) (lines : List (List Char)) (f : Fault)
    (w w' : Diary × Site ν) : Prop :=
  ∃ before line after xs v, lines = before ++ line :: after ∧ HandlesAll base n before xs w v ∧
    Stops base line f v w'

section

variable {base : Path} {n : Nat} {line : List Char} {lines more : List (List Char)}
  {xs ys : List Saved} {f : Fault} {w w' w'' : Diary × Site ν}

theorem HandlesAll.append (h : HandlesAll base n lines xs w w')
    (hmore : HandlesAll base (n + lines.length) more ys w' w'') :
    HandlesAll base n (lines ++ more) (xs ++ ys) w w'' := by
  induction h with
  | nil n w => exact hmore
  | @cons n line lines xs _ _ _ _ first _ ih =>
    rw [List.length_cons, ← Nat.add_assoc, Nat.add_right_comm] at hmore
    rw [List.cons_append, List.append_assoc]
    exact .cons first (ih hmore)

theorem HandlesAll.single (h : Handles base n line xs w w') : HandlesAll base n [line] xs w w' := by
  have := HandlesAll.cons h (.nil (n + 1) w')
  rwa [List.append_nil] at this

/-- More lines after the one that stops the run make no difference. -/
theorem StopsIn.append_right (h : StopsIn base n lines f w w') (more : List (List Char)) :
    StopsIn base n (lines ++ more) f w w' := by
  obtain ⟨before, line, after, xs, v, rfl, hbefore, hstop⟩ := h
  exact ⟨before, line, after ++ more, xs, v, by simp, hbefore, hstop⟩

/-- The lines before may be handled first. -/
theorem StopsIn.of_handled (h : HandlesAll base n lines xs w w')
    (hmore : StopsIn base (n + lines.length) more f w' w'') :
    StopsIn base n (lines ++ more) f w w'' := by
  obtain ⟨before, line, after, ys, v, rfl, hbefore, hstop⟩ := hmore
  exact ⟨lines ++ before, line, after, xs ++ ys, v, by simp, h.append hbefore, hstop⟩

/-- The files that were written are those that the lines ask for, in order. -/
theorem HandlesAll.saved_eq (h : HandlesAll base n lines xs w w') :
    xs.map (fun x => (x.target, x.bytes)) = lines.filterMap (file? base) := by
  induction h with
  | nil n w => rfl
  | cons first _ ih =>
    rw [List.map_append, ih]
    cases first with
    | blank _ hasked => simp [file?, hasked]
    | dropped _ _ hasked => simp [file?, hasked]
    | saved _ _ x hasked _ => simp [file?, hasked]

/-- Each line that is handled is blank, is dropped, or has its file. -/
theorem HandlesAll.count (h : HandlesAll base n lines xs w w') :
    xs.length + lines.countP (drops base) =
      lines.countP fun line => !(Text.stripBlanks line).isEmpty := by
  induction h with
  | nil n w => rfl
  | @cons n line lines xs ys _ _ _ first _ ih =>
    rw [List.length_append, List.countP_cons, List.countP_cons, ← ih]
    -- Of a blank line nothing is asked, and only of such a line.
    have hblank : asked base line = .nothing ↔ Text.stripBlanks line = [] := by
      unfold asked
      cases Text.stripBlanks line with
      | nil => simp
      | cons c text =>
        dsimp only
        constructor
        · intro h
          (repeat' split at h) <;> cases h
        · intro h
          cases h
    cases first with
    | blank _ hasked => simp [drops, hasked, hblank.1 hasked]
    | dropped _ _ hasked =>
      have hne : Text.stripBlanks line ≠ [] := fun h => by simp [hblank.2 h] at hasked
      simp [drops, hasked, hne]
      omega
    | saved _ _ x hasked _ =>
      have hne : Text.stripBlanks line ≠ [] := fun h => by simp [hblank.2 h] at hasked
      simp [drops, hasked, hne]
      omega

end

/-! ### The run -/

/-- How far the run is once some lines have been handled and their files
    written. -/
def Progress.of (base : Path) (reader : Text.LineReader) (lines : List (List Char))
    (xs : List Saved) : Progress where
  reader := reader
  lines := lines.length
  written := (xs.map (·.target)).reverse
  bytes := totalBytes xs
  dropped := lines.countP (drops base)

section

variable {base : Path} {reader : Text.LineReader}

/-- **One line** is handled, or stops the run. -/
theorem runOn_handleLine (hbase : base.WellFormed) (reader : Text.LineReader)
    (lines : List (List Char)) (xs : List Saved) (line : List Char) (D : Diary) (s : Site ν) :
    (∃ ys w, Handles base (lines.length + 1) line ys (D, s) w ∧
      (handleLine base (.of base reader lines xs) line).runOn D s =
        (.ok (.of base reader (lines ++ [line]) (xs ++ ys)), w)) ∨
    (∃ f w, Stops base line f (D, s) w ∧
      (handleLine base (.of base reader lines xs) line).runOn D s = (.error f, w)) := by
  rw [handleLine_eq]
  cases hasked : asked base line with
  | nothing =>
    refine .inl ⟨[], _, .blank _ hasked, ?_⟩
    simp [Progress.of, drops, hasked, Act.runOn_pure]
  | dropping =>
    refine .inl ⟨[], _, .dropped D s hasked, ?_⟩
    simp only [Act.runOn_bind, Act.runOn_log, Act.runOn_pure]
    simp [Progress.of, drops, hasked]
  | fault f => exact .inr ⟨f, _, .faulty _ hasked, rfl⟩
  | writing target bytes =>
    have htarget := wellFormed_of_asked hbase hasked
    simp only [Act.runOn_bind, Act.runOn_atomicWrite, Act.runOn_ofExcept, Act.runOn_pure]
    rcases AtomicWrite.write_cases s.machine htarget (.ofBytes bytes) with
      ⟨f, hresult, hmachine⟩ | ⟨-, place, hwritten⟩
    · refine .inr ⟨f, _, .unwritten D s hasked hresult, ?_⟩
      simp only [hresult, hmachine]
    · rw [Stream.bytes_ofBytes] at hwritten
      refine .inl ⟨[⟨target, htarget, bytes, place⟩], _, .saved D s ⟨target, htarget, bytes, place⟩
        hasked hwritten, ?_⟩
      simp only [hwritten.result]
      simp [Progress.of, drops, hasked, totalBytes]

/-- **Some lines** are handled, or one of them stops the run. -/
theorem runOn_handleLines (hbase : base.WellFormed) (reader : Text.LineReader)
    (more : List (List Char)) :
    ∀ (lines : List (List Char)) (xs : List Saved) (D : Diary) (s : Site ν),
      (∃ ys w, HandlesAll base (lines.length + 1) more ys (D, s) w ∧
        (more.foldlM (handleLine base) (.of base reader lines xs)).runOn D s =
          (.ok (.of base reader (lines ++ more) (xs ++ ys)), w)) ∨
      (∃ f w, StopsIn base (lines.length + 1) more f (D, s) w ∧
        (more.foldlM (handleLine base) (.of base reader lines xs)).runOn D s = (.error f, w)) := by
  induction more with
  | nil =>
    intro lines xs D s
    refine .inl ⟨[], _, .nil _ _, ?_⟩
    simp [Act.runOn_pure]
  | cons line more ih =>
    intro lines xs D s
    rw [List.foldlM_cons, Act.runOn_bind]
    rcases runOn_handleLine hbase reader lines xs line D s with
      ⟨ys, ⟨D', s'⟩, hline, hrun⟩ | ⟨f, w, hstop, hrun⟩
    · rw [hrun]
      dsimp only
      -- The numbers of the lines go on from those that have been handled.
      have hlength : (lines ++ [line]).length + 1 = lines.length + 1 + [line].length := by simp
      rcases ih (lines ++ [line]) (xs ++ ys) D' s' with ⟨zs, w, hrest, hrun'⟩ | ⟨f, w, hstop, hrun'⟩
      · refine .inl ⟨ys ++ zs, w, .cons hline ?_, ?_⟩
        · rwa [hlength] at hrest
        · rw [hrun']
          simp
      · refine .inr ⟨f, w, ?_, hrun'⟩
        rw [hlength] at hstop
        exact StopsIn.of_handled (.single hline) hstop
    · rw [hrun]
      exact .inr ⟨f, w, ⟨[], line, more, [], (D, s), rfl, .nil _ _, hstop⟩, rfl⟩

/-- The complete lines of some bytes, as far as they have been decoded. -/
def complete (bytes : Bytes) : List (List Char) :=
  (Text.splitLines (Text.Utf8.run .start bytes).2).1

/-- The lines that a chunk completes, after some bytes. -/
def completedBy (fed bytes : Bytes) : List (List Char) := ((Text.LineReader.after fed).feed bytes).2

theorem complete_append (fed bytes : Bytes) :
    complete (fed ++ bytes) = complete fed ++ completedBy fed bytes :=
  (Text.LineReader.feed_after fed bytes).2

/-- A chunk is handled line by line, by what it completes. -/
theorem handleChunk_eq (base : Path) (fed bytes : Bytes) (xs : List Saved) :
    (handleChunk base (.of base (.after fed) (complete fed) xs) bytes : Act (Site ν) Progress) =
      (completedBy fed bytes).foldlM (handleLine base)
        (.of base (.after (fed ++ bytes)) (complete fed) xs) := by
  rw [← (Text.LineReader.feed_after fed bytes).1]
  rfl

/-- **One chunk**: the lines that it completes are handled, or one of them stops the
    run. -/
theorem runOn_handleChunk (hbase : base.WellFormed) (fed bytes : Bytes) (xs : List Saved) (D : Diary)
    (s : Site ν) :
    (∃ ys w, HandlesAll base ((complete fed).length + 1) (completedBy fed bytes) ys (D, s) w ∧
      (handleChunk base (.of base (.after fed) (complete fed) xs) bytes).runOn D s =
        (.ok (.of base (.after (fed ++ bytes)) (complete (fed ++ bytes)) (xs ++ ys)), w)) ∨
    (∃ f w, StopsIn base ((complete fed).length + 1) (completedBy fed bytes) f (D, s) w ∧
      (handleChunk base (.of base (.after fed) (complete fed) xs) bytes).runOn D s =
        (.error f, w)) := by
  rw [handleChunk_eq, complete_append]
  exact runOn_handleLines hbase _ _ _ xs D s

/-- **The chunks of a stream**: the lines that they complete are handled, up to
    the end of the stream or its fault, or one of them stops the run. -/
theorem runOn_foldAct_go (hbase : base.WellFormed) (stream : Stream) (events : List StreamEvent) :
    ∀ (fed : Bytes) (xs : List Saved) (D : Diary) (s : Site ν), ∃ more out w,
      complete (fed ++ Stream.bytesOf events) = complete fed ++ more ∧
      (Stream.foldAct.go (handleChunk base) stream events
        (.of base (.after fed) (complete fed) xs)).runOn D s = (.ok out, w) ∧
      ((∃ ys, HandlesAll base ((complete fed).length + 1) more ys (D, s) w ∧
        out.fault = Stream.faultOf events ∧
        out.value = .of base (.after (fed ++ Stream.bytesOf events))
          (complete (fed ++ Stream.bytesOf events)) (xs ++ ys)) ∨
      (∃ f, StopsIn base ((complete fed).length + 1) more f (D, s) w ∧ out.fault = some f)) := by
  induction events with
  | nil =>
    intro fed xs D s
    refine ⟨[], ⟨.of base (.after fed) (complete fed) xs, none, _⟩, (D, s), ?_, rfl, .inl ⟨[], .nil _ _, rfl, ?_⟩⟩
    · simp [Stream.bytesOf]
    · simp [Stream.bytesOf]
  | cons e events ih =>
    intro fed xs D s
    cases e with
    | fault f =>
      refine ⟨[], ⟨.of base (.after fed) (complete fed) xs, some f, _⟩, (D, s), ?_, rfl,
        .inl ⟨[], .nil _ _, rfl, ?_⟩⟩
      · simp [Stream.bytesOf]
      · simp [Stream.bytesOf]
    | chunk bytes =>
      have hassoc : fed ++ Stream.bytesOf (.chunk bytes :: events) =
          (fed ++ bytes) ++ Stream.bytesOf events := by simp [Stream.bytesOf]
      rw [hassoc, Stream.foldAct.go, Act.runOn_bind, Act.runOn_attempt]
      rcases runOn_handleChunk hbase fed bytes xs D s with
        ⟨ys, ⟨D', s'⟩, hnow, hrun⟩ | ⟨f, w, hstop, hrun⟩
      · rw [hrun]
        dsimp only
        obtain ⟨more, out, w, hmore, hgo, hend⟩ := ih (fed ++ bytes) (xs ++ ys) D' s'
        have hlength : (complete (fed ++ bytes)).length + 1 = (complete fed).length + 1 +
            (completedBy fed bytes).length := by
          rw [complete_append, List.length_append]
          omega
        refine ⟨completedBy fed bytes ++ more, out, w, ?_, hgo, ?_⟩
        · rw [hmore, complete_append, List.append_assoc]
        · rw [hlength] at hend
          rcases hend with ⟨zs, hall, hfault, hvalue⟩ | ⟨f, hstop, hfault⟩
          · refine .inl ⟨ys ++ zs, hnow.append hall, hfault, ?_⟩
            rw [hvalue, List.append_assoc xs]
          · exact .inr ⟨f, .of_handled hnow hstop, hfault⟩
      · rw [hrun]
        -- The chunks after it are not looked at.
        obtain ⟨more, -, -, hmore, -, -⟩ := ih (fed ++ bytes) [] D s
        refine ⟨completedBy fed bytes ++ more, _, w, ?_, rfl, .inr ⟨f, hstop.append_right more, rfl⟩⟩
        rw [hmore, complete_append, List.append_assoc]

end

/-! ### What is left -/

/-- **What is left of some files** that were written one after the other. -/
structure Leaves (xs : List Saved) (m m' : Machine) : Prop where
  /-- The last file written at a place is there. -/
  last : ∀ before x after, xs = before ++ x :: after → (∀ y ∈ after, y.place ≠ x.place) →
    ∃ mtime, m'.tree.get? x.place = some (.file ⟨x.bytes, 0o644, mtime⟩)
  /-- Elsewhere nothing has changed but that directories may have been made. -/
  elsewhere : ∀ p, (∀ x ∈ xs, x.place ≠ p) →
    m'.tree.get? p = m.tree.get? p ∨ m.tree.get? p = none ∧ m'.tree.get? p = some .dir
  /-- Files of the same path were written to the same place. -/
  same_place : ∀ x ∈ xs, ∀ y ∈ xs, x.target = y.target → x.place = y.place
  /-- The last file of a path is read by the path, unless links were replaced. -/
  read : (∀ x ∈ xs, ∀ l, m.tree.get? x.place ≠ some (.link l)) →
    ∀ before x after, xs = before ++ x :: after → (∀ y ∈ after, y.place ≠ x.place) →
      m'.tree.readFile m'.home x.target.toString = .ok x.bytes

section

variable {base : Path} {n : Nat} {line : List Char} {lines : List (List Char)} {xs : List Saved}
  {f : Fault} {w w' : Diary × Site ν} {m m' : Machine}

theorem leaves_of_saves (h : AtomicWrite.Saves xs m m') : Leaves xs m m' where
  last before x after hxs hafter := by
    subst hxs
    exact h.get?_last hafter
  elsewhere _ hp := h.elsewhere hp
  same_place _ hx _ hy htarget := h.same_place hx hy htarget
  read hlinks before x after hxs hafter := by
    subst hxs
    exact h.readFile_last hafter hlinks

/-- Lines that are handled write their files one after the other. -/
theorem HandlesAll.saves (h : HandlesAll base n lines xs w w')
    (hdirs : w'.2.machine.tree.AddsDirs m'.tree) (hhome : m'.home = w'.2.machine.home) :
    AtomicWrite.Saves xs w.2.machine m' := by
  induction h with
  | nil n w => exact .done hdirs hhome
  | cons first _ ih =>
    cases first with
    | blank _ _ => exact ih hdirs hhome
    | dropped _ _ _ => exact ih hdirs hhome
    | saved _ _ x _ hwritten => exact .save hwritten (ih hdirs hhome)

/-- A line that stops the run adds directories at most. -/
theorem Stops.addsDirs (h : Stops base line f w w') :
    w.2.machine.tree.AddsDirs w'.2.machine.tree ∧ w'.2.machine.home = w.2.machine.home := by
  cases h with
  | faulty w _ => exact ⟨.refl _, rfl⟩
  | unwritten D s _ _ => exact ⟨AtomicWrite.withDirs_addsDirs _ _, rfl⟩

end

/-! ### The law -/

/-- **The lines of a stream that are read**: a last line without a line feed counts
    only if the stream just ends. -/
def linesRead (stream : Stream) : List (List Char) :=
  if stream.fault?.isNone then Text.linesOf (Text.Utf8.decode stream.bytes)
  else (Text.splitLines (Text.Utf8.decode stream.bytes)).1

/-- **How a run ends** once some lines have been handled. -/
inductive Finishes (base : Path) (stream : Stream) (handled : List (List Char)) (xs : List Saved)
    (v : Diary × Site ν) : Except Fault Materialized → Diary × Site ν → Prop where
  /-- The stream has ended, and all of its lines have been handled. -/
  | completed (hlines : handled = linesRead stream) (hfault : stream.fault? = none) :
      Finishes base stream handled xs v
        (.ok {
          isMulti := true
          written := xs.map (·.target)
          bytesWritten := totalBytes xs
          dropped := handled.countP (drops base) }) v
  /-- The stream has ended in a fault, and all lines before it have been handled. -/
  | interrupted {f : Fault} (hlines : handled = linesRead stream)
      (hfault : stream.fault? = some f) : Finishes base stream handled xs v (.error f) v
  /-- The next line stops the run. -/
  | stopped {line : List Char} {after : List (List Char)} {f : Fault} {w : Diary × Site ν}
      (hlines : linesRead stream = handled ++ line :: after) (hstop : Stops base line f v w) :
      Finishes base stream handled xs v (.error f) w

section

variable {base : Path}

/-- The first line that stops the run, among those of the stream. -/
theorem finishes_of_stopsIn {stream : Stream} {lines more : List (List Char)} {f : Fault}
    {w w' : Diary × Site ν} (hlines : linesRead stream = lines ++ more)
    (h : StopsIn base 1 lines f w w') :
    ∃ handled xs v, HandlesAll base 1 handled xs w v ∧
      Finishes base stream handled xs v (.error f) w' := by
  obtain ⟨before, line, after, xs, v, rfl, hbefore, hstop⟩ := h
  have hread : linesRead stream = before ++ line :: (after ++ more) := by
    rw [hlines, List.append_assoc, List.cons_append]
  exact ⟨before, xs, v, hbefore, .stopped hread hstop⟩

/-- **A line that asks for a fault**, when it is next, ends the run in the fault and
    leaves everything as it is. -/
theorem Finishes.of_asked_fault {stream : Stream} {handled after : List (List Char)}
    {line : List Char} {xs : List Saved} {v w : Diary × Site ν} {res : Except Fault Materialized} {f : Fault}
    (h : Finishes base stream handled xs v res w)
    (hlines : linesRead stream = handled ++ line :: after) (hasked : asked base line = .fault f) :
    res = .error f ∧ w = v := by
  -- There is a next line, so the run has not come to the end of the lines.
  have hmore : handled ≠ linesRead stream := by
    rw [hlines]
    simp
  cases h with
  | completed hend _ => exact absurd hend hmore
  | interrupted hend _ => exact absurd hend hmore
  | stopped hlines' hstop =>
    rw [hlines'] at hlines
    obtain ⟨rfl, -⟩ := List.cons.inj (List.append_cancel_left hlines)
    cases hstop with
    | faulty _ hfault => exact ⟨by rw [Asked.fault.inj (hfault.symm.trans hasked)], rfl⟩
    | unwritten _ _ hwriting _ => cases hwriting.symm.trans hasked

/-- The last line, if there is one, is handled like the others. -/
theorem handleEnd_eq (base : Path) (p : Progress) :
    (handleEnd base p : Act (Site ν) Progress) =
      p.reader.finish.toList.foldlM (handleLine base) p := by
  unfold handleEnd
  cases p.reader.finish with
  | none => rfl
  | some line => simp

/-- How far the run is when all lines have been handled is what it gives. -/
theorem Progress.result_of (base : Path) (reader : Text.LineReader) (lines : List (List Char))
    (xs : List Saved) :
    (Progress.of base reader lines xs).result = {
      isMulti := true
      written := xs.map (·.target)
      bytesWritten := totalBytes xs
      dropped := lines.countP (drops base) } := by
  simp [Progress.result, Progress.of]

/-- Before a fault only complete lines are read. -/
theorem linesRead_of_fault {stream : Stream} {f : Fault} (h : stream.fault? = some f) :
    linesRead stream = complete stream.bytes := by
  rw [linesRead, h, Text.LineReader.splitLines_decode]
  rfl

theorem linesRead_of_end {stream : Stream} (h : stream.fault? = none) :
    linesRead stream =
      complete stream.bytes ++ (Text.LineReader.after stream.bytes).finish.toList := by
  rw [linesRead, h, Option.isNone_none, if_pos rfl, Text.LineReader.linesOf_decode]
  rfl

theorem exists_linesRead (stream : Stream) :
    ∃ more, linesRead stream = complete stream.bytes ++ more := by
  cases h : stream.fault? with
  | none => exact ⟨_, linesRead_of_end h⟩
  | some f => exact ⟨[], by rw [linesRead_of_fault h, List.append_nil]⟩

/-- **After the last chunk** the last line is handled if there is one, or stops the
    run. -/
theorem runOn_handleEnd (hbase : base.WellFormed) (bytes : Bytes) (xs : List Saved)
    (w : Diary × Site ν) :
    (∃ ys w', HandlesAll base ((complete bytes).length + 1)
        (Text.LineReader.after bytes).finish.toList ys w w' ∧
      (handleEnd base (.of base (.after bytes) (complete bytes) xs)).runOn w.1 w.2 =
        (.ok (.of base (.after bytes)
          (complete bytes ++ (Text.LineReader.after bytes).finish.toList) (xs ++ ys)), w')) ∨
    (∃ f w', StopsIn base ((complete bytes).length + 1)
        (Text.LineReader.after bytes).finish.toList f w w' ∧
      (handleEnd base (.of base (.after bytes) (complete bytes) xs)).runOn w.1 w.2 =
        (.error f, w')) := by
  rw [handleEnd_eq]
  exact runOn_handleLines hbase (.after bytes) _ (complete bytes) xs w.1 w.2

/-- The run of a stream. -/
theorem runOn_multi (hbase : base.WellFormed) {mode : Mode} (hmode : mode.writes = true)
    (stream : Stream) (D : Diary) (s : Site ν) :
    ∃ handled xs v r rest w,
      (multi mode base stream).runOn D s = (.ok (r, rest), w) ∧
      HandlesAll base 1 handled xs (D, s) v ∧ Finishes base stream handled xs v r w := by
  obtain ⟨lines, out, w, hlines, hgo, hend⟩ :=
    runOn_foldAct_go hbase stream stream.unread [] [] D s
  have hbytes : [] ++ Stream.bytesOf stream.unread = stream.bytes := rfl
  rw [hbytes, show complete [] = [] from rfl, List.nil_append] at hlines
  rw [hbytes, show complete [] = [] from rfl] at hend
  subst hlines
  have hfold : (stream.foldAct (handleChunk base) {} : Act (Site ν) _).runOn D s = (.ok out, w) :=
    hgo
  unfold multi
  rw [hmode, Bool.not_true, if_neg Bool.false_ne_true, Act.runOn_bind, hfold]
  dsimp only
  rcases hend with ⟨ys, hall, hfault, hvalue⟩ | ⟨f, hstop, hfault⟩
  · rw [hfault, show Stream.faultOf stream.unread = stream.fault? from rfl]
    -- A last line without a line feed counts only if the stream just ends.
    cases hstream : stream.fault? with
    | some f =>
      exact ⟨_, ys, w, .error f, out.stream.close, w, rfl, hall,
        .interrupted (linesRead_of_fault hstream).symm hstream⟩
    | none =>
      dsimp only
      rw [Act.runOn_bind, Act.runOn_attempt, hvalue]
      rcases runOn_handleEnd hbase stream.bytes ([] ++ ys) w with
        ⟨zs, v, hmore, hrun⟩ | ⟨f, v, hstop, hrun⟩
      · rw [hrun]
        rw [Nat.add_comm] at hmore
        refine ⟨_, ys ++ zs, v, .ok _, out.stream.close, v, rfl, hall.append hmore, ?_⟩
        rw [List.nil_append, Progress.result_of]
        exact .completed (linesRead_of_end hstream).symm hstream
      · rw [hrun]
        rw [Nat.add_comm] at hstop
        have hread := linesRead_of_end hstream
        obtain ⟨handled, xs, v', hall', hfinish⟩ :=
          finishes_of_stopsIn (by rw [hread, List.append_nil]) (hstop.of_handled hall)
        exact ⟨handled, xs, v', .error f, out.stream.close, v, rfl, hall', hfinish⟩
  · obtain ⟨more, hread⟩ := exists_linesRead stream
    obtain ⟨handled, xs, v, hall, hfinish⟩ := finishes_of_stopsIn hread hstop
    rw [hfault]
    exact ⟨handled, xs, v, .error f, out.stream.close, w, rfl, hall, hfinish⟩

/-- **The run of a stream of one line**: the line is handled, or stops it. -/
theorem runOn_multi_of_line (hbase : base.WellFormed) {mode : Mode} (hmode : mode.writes = true)
    {stream : Stream} {line : List Char} (hread : linesRead stream = [line])
    (hfault : stream.fault? = none) (D : Diary) (s : Site ν) :
    (∃ xs rest w, Handles base 1 line xs (D, s) w ∧
      (multi mode base stream).runOn D s =
        (.ok (.ok {
          isMulti := true
          written := xs.map (·.target)
          bytesWritten := totalBytes xs
          dropped := [line].countP (drops base) }, rest), w)) ∨
    ∃ f rest w, Stops base line f (D, s) w ∧
      (multi mode base stream).runOn D s = (.ok (.error f, rest), w) := by
  obtain ⟨handled, xs, v, r, rest, w, hrun, hall, hfinish⟩ := runOn_multi hbase hmode stream D s
  cases hfinish with
  | completed hlines _ =>
    rw [hlines, hread] at hall hrun
    cases hall with
    | cons first more =>
      cases more
      rw [List.append_nil] at hrun
      exact .inl ⟨_, rest, _, first, hrun⟩
  | interrupted _ hsome =>
    rw [hfault] at hsome
    cases hsome
  | stopped hlines hstop =>
    rw [hread] at hlines
    obtain ⟨rfl, hline⟩ : handled = [] ∧ _ :=
      (List.singleton_eq_append_iff.mp hlines).resolve_right (by simp)
    obtain rfl := (List.cons.inj hline).1
    cases hall
    exact .inr ⟨_, rest, w, hstop, hrun⟩

/-- **What a stream of records does.**  The lines of the stream are handled in
    order, up to the end of the stream, to its fault, or to the first line that
    stops the run.  The files that are written are those that the lines handled
    ask for, and each such line is blank, dropped, or has its file.  In the tree
    these files are left, however the run ends, and nothing else has changed
    but that directories may have been made. -/
theorem multi_acts_by_lines (hbase : base.WellFormed) {mode : Mode} (hmode : mode.writes = true)
    (stream : Stream) (D : Diary) (s : Site ν) :
    ∃ handled xs v r rest w,
      (multi mode base stream).runOn D s = (.ok (r, rest), w) ∧
      HandlesAll base 1 handled xs (D, s) v ∧ Finishes base stream handled xs v r w ∧
      xs.map (fun x => (x.target, x.bytes)) = handled.filterMap (file? base) ∧
      xs.length + handled.countP (drops base) =
        handled.countP (fun line => !(Text.stripBlanks line).isEmpty) ∧
      Leaves xs s.machine w.2.machine := by
  obtain ⟨handled, xs, v, r, rest, w, hrun, hall, hfinish⟩ := runOn_multi hbase hmode stream D s
  refine ⟨handled, xs, v, r, rest, w, hrun, hall, hfinish, hall.saved_eq, hall.count,
    leaves_of_saves ?_⟩
  cases hfinish with
  | completed _ _ => exact hall.saves (.refl _) rfl
  | interrupted _ _ => exact hall.saves (.refl _) rfl
  | stopped _ hstop => exact hall.saves hstop.addsDirs.1 hstop.addsDirs.2

end

/-- A site on a machine without files. -/
def bareSite : Site Unit := ⟨{ tree := {}, cwd := ⟨.root, []⟩ }, [], ()⟩

/-- Two chunks: a line that is no record, cut in two, and a line begun. -/
def scraps : Stream := .ofEvents [.chunk [120], .chunk [10, 123]]

theorem scraps_multi_acts_by_lines :
    ∃ handled xs v r rest w,
      (multi .build (.ofString "/out") scraps).runOn {} bareSite = (.ok (r, rest), w) ∧
      HandlesAll (.ofString "/out") 1 handled xs ({}, bareSite) v ∧
      Finishes (.ofString "/out") scraps handled xs v r w ∧
      xs.map (fun x => (x.target, x.bytes)) = handled.filterMap (file? (.ofString "/out")) ∧
      xs.length + handled.countP (drops (.ofString "/out")) =
        handled.countP (fun line => !(Text.stripBlanks line).isEmpty) ∧
      Leaves xs bareSite.machine w.2.machine :=
  multi_acts_by_lines (Path.wellFormed_ofString _) rfl scraps {} bareSite

end Materialize

end SinkPipeline
