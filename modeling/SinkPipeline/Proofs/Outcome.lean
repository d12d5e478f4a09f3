import SinkPipeline.Proofs.Execution
import SinkPipeline.Proofs.Output.Failing
import SinkPipeline.Proofs.Planning

/-! # What becomes of one sink

  The **outcome** of a sink on a machine is what its own chain gives, once that
  is written to the sink's file, or the fault in which the chain or the write
  ends.  With it the machine is **settled**: the file holds the output then, and
  nothing else has changed; after a fault nothing has changed at all.

  - Every fault is one of this library.
  - The settled machine is alike.
  - On alike machines the outcomes are the same up to which fault it is, if the
    programs are indifferent to generated files and the plan spares them.
-/

namespace SinkPipeline

/-! ### Faults of this library -/

/-- A fault of this library is an ordinary one. -/
theorem Fault.isOrdinary_of_isEngine {f : Fault} (h : f.isEngine = true) : f.isOrdinary = true := by
  cases f with
  | engine => rfl
  | plain => cases h
  | os => cases h
  | invalid => cases h
  | cancelled => cases h
  | interrupted => cases h

/-- A stage that can be handed over is refused by the operating system only. -/
theorem Machine.isOs_of_launch {m : Machine} {env : Env} {stage : Stage} {f : Fault}
    (hgiven : refusal? env stage = none) (h : m.launch env stage = .error f) : f.isOs = true := by
  cases hstart : m.startPlace stage with
  | error g =>
    unfold launch at h
    simp only [hgiven, hstart, bind, Except.bind] at h
    cases h
    unfold startPlace at hstart
    split at hstart
    · cases hstart
    · split at hstart <;> cases hstart <;> rfl
  | ok start =>
    cases hfound : m.firstProgram start .noEntry (candidates env stage.command) with
    | error e =>
      cases (launch_of_missing hgiven hstart hfound).symm.trans h
      rfl
    | ok b => cases (launch_of_found hgiven hstart hfound).symm.trans h

namespace Pipeline

/-- **An execution fails with a fault of this library** if its stages can be
    handed over. -/
theorem Failing.isEngine {m : Machine} {overlay : Env} {inherit : Bool} {stages : List Stage}
    {target : Path} {f : Fault}
    (hgiven : ∀ stage ∈ stages, Machine.refusal? (m.envOf overlay inherit stage) stage = none)
    (h : Failing m overlay inherit stages target f) : f.isEngine = true := by
  cases h with
  | @launching ls stage rest cause hsplit _ hcause =>
    have hos := Machine.isOs_of_launch (hgiven stage (by simp [hsplit])) hcause
    rw [if_pos hos]
    rfl
  | running => rfl
  | writing _ _ hwrite =>
    exact (AtomicWrite.isMaterialize_of_write (Stream.fault?_ofBytes _) hwrite).isEngine

end Pipeline

/-! ### Outcomes -/

/-- A name of a tree that something was put into is that of the new place, or
    was there before. -/
theorem Tree.mem_names_put {t : Tree} {p dir : Place} {e : Entry} {name : String}
    (h : name ∈ (t.put p e).names dir) : dir ++ [name] = p ∨ name ∈ t.names dir := by
  unfold Tree.names Tree.put at h
  obtain ⟨⟨q, e'⟩, hmem, hname⟩ := List.mem_filterMap.mp h
  rcases List.mem_cons.mp hmem with hnew | hold
  · cases hnew
    exact .inl (place_of_listed hname)
  · exact .inr (List.mem_filterMap.mpr ⟨(q, e'), List.mem_of_mem_filter hold, hname⟩)

namespace Pass

open Pipeline

/-- The outcome of a sink on a machine: what its own chain gives, once that is
    written to the sink's file, or a fault. -/
def outcome (o : RunOptions) (settings : Settings) (mode : Mode) (m : Machine) (s : FileSink) :
    Except Fault Bytes :=
  match m.chain (projectEnv s o.context mode) settings.inheritEnv
      (planOf o settings mode m s).stages .empty with
  | .error (f, _) => .error f
  | .ok stream => (AtomicWrite.write m (outputPath s) stream).result.map fun _ => stream.bytes

/-- The machine once a sink has had its outcome: the sink's file holds the
    output or, if there is none, nothing has changed. -/
def settle (m : Machine) (s : FileSink) : Option Bytes → Machine
  | none => m
  | some bytes => { m with
      tree := m.tree.put (outputPath s).parts (.file ⟨bytes, 0o644, m.now⟩)
      now := m.now + 1 }

/-- What the execution of a sink's plan gives for an output. -/
def delivered (s : FileSink) (bytes : Bytes) : Delivered :=
  .files { isMulti := false, written := [outputPath s], bytesWritten := bytes.length }

section

variable {o : RunOptions} {settings : Settings} {mode : Mode} {m : Machine} {dir : Path}
  {name : String} {s : FileSink}

/-- **The execution of a sink's plan** ends as its outcome says, on the machine
    that this settles. -/
theorem carryOut_eq (o : RunOptions) (settings : Settings) (mode : Mode) (hm : m.Sane) (h : FoundAt m dir name s) :
    carryOut m (projectEnv s o.context mode) settings.inheritEnv (planOf o settings mode m s) =
      ((outcome o settings mode m s).map (delivered s),
        settle m s (outcome o settings mode m s).toOption) := by
  unfold carryOut outcome
  cases m.chain (projectEnv s o.context mode) settings.inheritEnv
      (planOf o settings mode m s).stages .empty with
  | error e => rfl
  | ok stream =>
    have hpath := h.outputPath_eq
    have hwrite := AtomicWrite.write_standing h.standing hm.linkless h.legal_outputName.isPart stream
    rw [← hpath] at hwrite
    dsimp only at hwrite ⊢
    show ((AtomicWrite.write m (outputPath s) stream).result.map _,
      (AtomicWrite.write m (outputPath s) stream).machine) = _
    rcases hwrite with ⟨f, hresult, hmachine⟩ | ⟨-, hwritten, hmachine⟩
    · rw [hresult, hmachine]
      rfl
    · rw [hwritten.result, hmachine]
      rfl

/-- No directory is in the way of an output. -/
theorem get?_ne_dir_of_outcome (hm : m.Sane) (h : FoundAt m dir name s) {bytes : Bytes}
    (hout : outcome o settings mode m s = .ok bytes) :
    m.tree.get? (outputPath s).parts ≠ some .dir := by
  unfold outcome at hout
  split at hout
  · cases hout
  · next stream _ =>
    have hwrite := AtomicWrite.write_standing h.standing hm.linkless h.legal_outputName.isPart stream
    rw [← h.outputPath_eq] at hwrite
    rcases hwrite with ⟨f, hresult, -⟩ | ⟨-, hwritten, -⟩
    · rw [hresult] at hout
      cases hout
    · have hfree := hwritten.not_dir
      rwa [h.outputPath_eq, AtomicWrite.withDirs_of_standing h.standing hm.linkless,
        ← h.outputPath_eq] at hfree

/-- **The settled machine** is alike, and still as an operating system keeps it. -/
theorem settle_alike (o : RunOptions) (settings : Settings) (mode : Mode) (hm : m.Sane)
    (h : FoundAt m dir name s) :
    m.Alike (settle m s (outcome o settings mode m s).toOption) ∧
      (settle m s (outcome o settings mode m s).toOption).Sane := by
  cases hout : outcome o settings mode m s with
  | error f => exact ⟨.refl m, hm⟩
  | ok bytes =>
    have hplace : (outputPath s).parts = dir.parts ++ [s.parsed.outputName] := by
      rw [h.outputPath_eq]
      rfl
    -- All that is written is a generated file, and alike trees may differ in these.
    have hgen : Place.isGenerated (outputPath s).parts = true := by
      rw [hplace, Place.isGenerated_append]
      exact h.spelledBy.isGenerated_outputName
    have hfree : Tree.FileOrNone (m.tree.get? (outputPath s).parts) := by
      have hdir := get?_ne_dir_of_outcome hm h hout
      cases hget : m.tree.get? (outputPath s).parts with
      | none => exact .inl rfl
      | some e =>
        cases e with
        | file f => exact .inr ⟨f, rfl⟩
        | dir => exact absurd hget hdir
        | link target => exact absurd hget (hm.linkless _ target)
    have halike : m.Alike (settle m s (some bytes)) :=
      ⟨Tree.alike_put ⟨bytes, 0o644, m.now⟩ hgen hfree, rfl, rfl, rfl⟩
    refine ⟨halike, halike.tree.linkless hm.linkless, ?_, hm.cwd, hm.absolute, hm.env⟩
    intro d n hn
    rcases Tree.mem_names_put hn with hnew | hold
    · rw [hplace] at hnew
      have hname : n = s.parsed.outputName := by
        have hlast := congrArg List.getLast? hnew
        simpa using hlast
      rw [hname]
      exact h.legal_outputName
    · exact hm.legal d n hold

/-- **The fault of an outcome** is one of this library. -/
theorem isEngine_of_outcome (hm : m.Sane) (h : FoundAt m dir name s) {f : Fault}
    (hout : outcome o settings mode m s = .error f) : f.isEngine = true := by
  have hcarried := carryOut_eq o settings mode hm h
  rw [hout] at hcarried
  have htarget : outputPath (planOf o settings mode m s).source = dir.child s.parsed.outputName :=
    h.outputPath_eq
  have hwellFormed : (outputPath (planOf o settings mode m s).source).WellFormed := by
    rw [htarget]
    exact h.standing.wellFormed.child h.legal_outputName.isPart
  rcases carryOut_cases m (projectEnv s o.context mode) settings.inheritEnv
      (planOf o settings mode m s) hwellFormed with
    ⟨g, hresult, hfails, -⟩ | ⟨ls, out, place, -, -, -, -, hsucceeds⟩
  · rw [hcarried] at hresult
    cases hresult
    exact hfails.isEngine fun stage hmem => refusal?_of_mem_stages hm h hmem
  · cases hcarried.symm.trans hsucceeds

/-- A write has the same outcome on alike machines, up to which fault it is. -/
theorem write_result_alike (hm : m.Sane) (h : FoundAt m dir name s) {m' : Machine}
    (halike : m.Alike m') (stream : Stream) :
    ((AtomicWrite.write m' (outputPath s) stream).result.map fun _ => stream.bytes).toOption =
      ((AtomicWrite.write m (outputPath s) stream).result.map fun _ => stream.bytes).toOption := by
  have hpart := h.legal_outputName.isPart
  rw [h.outputPath_eq]
  cases hresult : (AtomicWrite.write m (dir.child s.parsed.outputName) stream).result with
  | ok n =>
    rw [AtomicWrite.write_alike h.standing hm.linkless halike hpart hresult]
  | error f =>
    cases hresult' : (AtomicWrite.write m' (dir.child s.parsed.outputName) stream).result with
    | ok n =>
      have h' := h.standing.alike hm.linkless halike
      have hback := AtomicWrite.write_alike h' (halike.tree.linkless hm.linkless) halike.symm hpart
        hresult'
      cases hresult.symm.trans hback
    | error f' => rfl

/-- **On alike machines the outcomes are the same**, up to which fault it is. -/
theorem outcome_alike (hm : m.Sane) (hprograms : m.Indifferent) (h : FoundAt m dir name s)
    (hspares : SparesGenerated o settings mode m s) {m' : Machine} (halike : m.Alike m') :
    (outcome o settings mode m' s).toOption = (outcome o settings mode m s).toOption := by
  unfold outcome
  rw [hspares.planOf_alike hm h halike]
  rcases halike.chain hm.linkless hprograms (fun stage hmem => hspares.stages h hmem) .empty with
    ⟨stream, hchain, hchain'⟩ | ⟨e, e', hchain, hchain'⟩
  · rw [hchain, hchain']
    exact write_result_alike hm h halike stream
  · rw [hchain, hchain']
    rfl

end

end Pass

end SinkPipeline
