import SinkPipeline.Pipeline
import SinkPipeline.Proofs.Ending
import SinkPipeline.Proofs.Output.Replacing
import SinkPipeline.Proofs.Process.Composition

/-! # What executing a plan does

  Executing a plan of one output is **all or nothing**.  Either the output of
  its chain is in the file of the sink and no other file has changed, or no file
  has changed at all.  A plan fails for one of three reasons: a stage cannot be
  launched, a stage does not end with zero, or the output cannot be written.

  The plan's execution is first shown to end as two functions of the machine
  say, one for the chain and one for the write; these are then looked into.
-/

namespace SinkPipeline

namespace Act

variable {ν : Type}

/-! ### Processes and files -/

theorem processLogger_ne : processLogger ≠ Orchestrator.logger := by decide

theorem outputLogger_ne : outputLogger ≠ Orchestrator.logger := by decide

theorem ends_spawn (overlay : Env) (inherit : Bool) (stage : Stage) (input : Stream) (s : Site ν) :
    (spawn overlay inherit stage input).Ends s
      (.ok (s.machine.spawn overlay inherit stage input)) s := by
  unfold spawn
  refine (notes_log processLogger_ne _ _ _).bind fun _ => ?_
  exact (ends_machine s).bind_silent (ends_pure _ s)

/-- Starting the stages of a chain one by one gives the machine's chain. -/
theorem ends_chain (overlay : Env) (inherit : Bool) (stages : List Stage) (input : Stream)
    (s : Site ν) :
    (chain overlay inherit stages input).Ends s
      (.ok (s.machine.chain overlay inherit stages input)) s := by
  induction stages generalizing input with
  | nil => exact ends_pure _ s
  | cons stage stages ih =>
    unfold chain Machine.chain
    refine (ends_spawn overlay inherit stage input s).bind_silent ?_
    cases s.machine.spawn overlay inherit stage input with
    | error e => exact ends_pure _ s
    | ok t => exact ih t

/-- A write ends as the machine's does. -/
theorem ends_atomicWrite (target : Path) (stream : Stream) (s : Site ν) :
    let out := AtomicWrite.write s.machine target stream
    (atomicWrite target stream).Ends s (.ok (out.result, out.stream))
      { s with machine := out.machine } := by
  intro out
  unfold atomicWrite
  refine (ends_machine s).bind_silent ?_
  refine (ends_modifyState _ s).bind_silent ?_
  cases out.result with
  | ok n => exact (notes_log outputLogger_ne _ _ _).bind fun _ => ends_pure _ _
  | error f => exact ends_pure _ _

end Act

namespace Pipeline

variable {ν : Type}

/-! ### Execution as a function of the machine -/

/-- How the execution of a plan of one output ends, and the machine after it. -/
def carryOut (m : Machine) (overlay : Env) (inherit : Bool) (p : Plan) :
    Except Fault Delivered × Machine :=
  match m.chain overlay inherit p.stages .empty with
  | .error (f, _) => (.error f, m)
  | .ok stream =>
    let out := AtomicWrite.write m (outputPath p.source) stream
    (out.result.map fun n =>
      .files { isMulti := false, written := [outputPath p.source], bytesWritten := n }, out.machine)

theorem ends_orFail {x : Act (Site ν) (Except (Fault × Stream) Stream)} {s : Site ν}
    {r : Except (Fault × Stream) Stream} (hx : x.Ends s (.ok r) s) :
    (orFail x).Ends s (r.mapError (·.1)) s := by
  refine hx.bind_silent ?_
  cases r with
  | ok stream => exact Act.ends_pure _ s
  | error e => exact Act.ends_fail e.1 s

/-- Starting the pre stages, the sink and the post stages one after the other is
    starting all stages. -/
theorem ends_start (o : PipelineOptions ν) (overlay : Env) (p : Plan) (s : Site ν) :
    (start o overlay p).Ends s
      ((s.machine.chain overlay o.inheritEnv p.stages .empty).mapError (·.1)) s := by
  have hpre := ends_orFail (Act.ends_chain overlay o.inheritEnv p.pre .empty s)
  unfold start Plan.stages
  rw [Machine.chain_append]
  cases hgiven : s.machine.chain overlay o.inheritEnv p.pre .empty with
  | error e =>
    rw [hgiven] at hpre
    exact hpre.bind_error
  | ok given =>
    rw [hgiven] at hpre
    refine hpre.bind_silent ?_
    have hsink := ends_orFail (Act.ends_spawn overlay o.inheritEnv p.sink given s)
    show Act.Ends _ s ((s.machine.spawn overlay o.inheritEnv p.sink given >>=
      s.machine.chain overlay o.inheritEnv p.post).mapError (·.1)) s
    cases hmade : s.machine.spawn overlay o.inheritEnv p.sink given with
    | error e =>
      rw [hmade] at hsink
      exact hsink.bind_error
    | ok made =>
      rw [hmade] at hsink
      exact hsink.bind_silent (ends_orFail (Act.ends_chain overlay o.inheritEnv p.post made s))

theorem ends_deliver {o : PipelineOptions ν} (hhook : o.hooks.materializeSingle = none) {p : Plan}
    (hsingle : p.source.parsed.isMulti = false) (hmode : p.mode.writes = true) (stream : Stream)
    (s : Site ν) :
    let out := AtomicWrite.write s.machine (outputPath p.source) stream
    (deliver o p stream).Ends s
      (out.result.map fun n =>
        .files { isMulti := false, written := [outputPath p.source], bytesWritten := n })
      { s with machine := out.machine } := by
  intro out
  have hwrite : (Materialize.single p.mode (outputPath p.source) stream).Ends s
      (.ok (out.result.map fun n =>
        { isMulti := false, written := [outputPath p.source], bytesWritten := n }, out.stream))
      { s with machine := out.machine } := by
    unfold Materialize.single
    rw [hmode]
    exact (Act.ends_atomicWrite (outputPath p.source) stream s).bind_silent (Act.ends_pure _ _)
  unfold deliver
  simp only [hsingle, hhook]
  refine hwrite.bind_silent ?_
  cases out.result with
  | ok n => exact (Act.ends_ofExcept _ _).bind_silent (Act.ends_pure _ _)
  | error f => exact (Act.ends_ofExcept _ _).bind_error

/-- **The execution of a plan** ends as its chain and its write do. -/
theorem ends_execute {o : PipelineOptions ν} (hhook : o.hooks.materializeSingle = none) {p : Plan}
    (hsingle : p.source.parsed.isMulti = false) (hmode : p.mode.writes = true) {s : Site ν}
    {overlay : Env} (hoverlay : (overlayOf o p).Ends s (.ok overlay) s) :
    (execute o p).Ends s (carryOut s.machine overlay o.inheritEnv p).1
      { s with machine := (carryOut s.machine overlay o.inheritEnv p).2 } := by
  unfold execute
  refine hoverlay.bind_silent (Act.Ends.logStep (fun _ => ?_) _ _ _)
  have hstart := ends_start o overlay p s
  unfold carryOut
  cases hchain : s.machine.chain overlay o.inheritEnv p.stages .empty with
  | error e =>
    rw [hchain] at hstart
    exact hstart.bind_error
  | ok stream =>
    rw [hchain] at hstart
    exact hstart.bind_silent (ends_deliver hhook hsingle hmode stream s)

/-- How the execution of a plan ends if nothing is to be written. -/
def rehearse (m : Machine) (overlay : Env) (inherit : Bool) (p : Plan) : Except Fault Delivered :=
  match m.chain overlay inherit p.stages .empty with
  | .error (f, _) => .error f
  | .ok stream => stream.drain.1.map fun _ =>
      .files { isMulti := p.source.parsed.isMulti, dryRun := true }

/-- What becomes of the last stream of a plan, and the stream after that, if no
    hook decides. -/
def materialize (mode : Mode) (s : FileSink) (stream : Stream) :
    Act (Site ν) (Except Fault Materialized × Stream) :=
  if s.parsed.isMulti then Materialize.multi mode (sinkDir s) stream
  else Materialize.single mode (outputPath s) stream

/-- Without hooks the last stream of a plan is materialized. -/
theorem deliver_eq {o : PipelineOptions ν} (hsingle : o.hooks.materializeSingle = none)
    (hmulti : o.hooks.materializeMulti = none) (p : Plan) (stream : Stream) :
    deliver o p stream = do
      return .files (← Act.ofExcept (← materialize p.mode p.source stream).1) := by
  unfold deliver materialize
  cases p.source.parsed.isMulti <;> simp [hsingle, hmulti]

/-- A stream that nothing is written of is drained. -/
theorem ends_materialize_dry {mode : Mode} (hmode : mode.writes = false) (sink : FileSink)
    (stream : Stream) (s : Site ν) :
    (materialize mode sink stream).Ends s
      (.ok (Materialize.dryRun sink.parsed.isMulti stream)) s := by
  unfold materialize Materialize.multi Materialize.single
  rw [hmode]
  cases sink.parsed.isMulti <;> exact Act.ends_pure _ s

/-- **The execution of a plan that writes nothing** ends as its chain does, and
    changes nothing. -/
theorem ends_execute_dry {o : PipelineOptions ν} (hsingle : o.hooks.materializeSingle = none)
    (hmulti : o.hooks.materializeMulti = none) {p : Plan} (hmode : p.mode.writes = false)
    {s : Site ν} {overlay : Env} (hoverlay : (overlayOf o p).Ends s (.ok overlay) s) :
    (execute o p).Ends s (rehearse s.machine overlay o.inheritEnv p) s := by
  unfold execute
  refine hoverlay.bind_silent (Act.Ends.logStep (fun _ => ?_) _ _ _)
  have hstart := ends_start o overlay p s
  unfold rehearse
  cases hchain : s.machine.chain overlay o.inheritEnv p.stages .empty with
  | error e =>
    rw [hchain] at hstart
    exact hstart.bind_error
  | ok stream =>
    rw [hchain] at hstart
    refine hstart.bind_silent ?_
    rw [deliver_eq hsingle hmulti]
    refine (ends_materialize_dry hmode p.source stream s).bind_silent ?_
    have hresult : (Materialize.dryRun p.source.parsed.isMulti stream).1 =
        stream.drain.1.map fun _ => { isMulti := p.source.parsed.isMulti, dryRun := true } := rfl
    rw [hresult]
    dsimp only
    cases stream.drain.1 with
    | ok n => exact (Act.ends_ofExcept _ s).bind_silent (Act.ends_pure _ s)
    | error f => exact (Act.ends_ofExcept _ s).bind_error

/-! ### All or nothing -/

/-- Why an execution fails: a stage cannot be launched, a stage does not end with
    zero, or what comes out cannot be written. -/
inductive Failing (m : Machine) (overlay : Env) (inherit : Bool) (stages : List Stage)
    (target : Path) : Fault → Prop
  | launching {ls : List Launched} {stage : Stage} {rest : List Stage} {cause : Fault} :
      stages = ls.map (·.stage) ++ stage :: rest → (∀ l ∈ ls, m.Starts overlay inherit l) →
      m.launch (m.envOf overlay inherit stage) stage = .error cause →
      Failing m overlay inherit stages target
        (if cause.isOs then Machine.spawnFault stage cause else cause)
  | running {ls : List Launched} {l : Launched} {given : Bytes} :
      ls.map (·.stage) = stages → (∀ l ∈ ls, m.Starts overlay inherit l) → l ∈ ls →
      (l.react given).status ≠ 0 →
      Failing m overlay inherit stages target
        (Fault.stageExit l.stage.argv (l.react given).status)
  | writing {ls : List Launched} {f : Fault} :
      ls.map (·.stage) = stages → (∀ l ∈ ls, m.Starts overlay inherit l) →
      (AtomicWrite.write m target (.ofBytes (Launched.feed ls []))).result = .error f →
      Failing m overlay inherit stages target f

/-- A fault of a stage is none that a write would hide. -/
theorem failure_stageExit (target : Path) (argv : List String) (status : Int) :
    AtomicWrite.failure target (Fault.stageExit argv status) = Fault.stageExit argv status := rfl

/-- **The cases of a chain.**  A stage cannot be launched; or every stage is, then
    the bytes of the chain are those that the programs feed each other, and its
    fault is the one that surfaces. -/
theorem chain_cases (m : Machine) (overlay : Env) (inherit : Bool) (stages : List Stage)
    (target : Path) :
    (∃ f input, m.chain overlay inherit stages .empty = .error (f, input) ∧
      Failing m overlay inherit stages target f) ∨
      ∃ (ls : List Launched) (stream : Stream), ls.map (·.stage) = stages ∧
        (∀ l ∈ ls, m.Starts overlay inherit l) ∧
        m.chain overlay inherit stages .empty = .ok stream ∧
        stream.bytes = Launched.feed ls [] ∧ stream.fault? = Launched.surfacing ls [] none := by
  obtain ⟨ls, hstart, hall | ⟨stage, rest, cause, hsplit, hcause⟩⟩ :=
    m.exists_launched overlay inherit stages
  · obtain ⟨stream, hchain, hbytes, hfault⟩ := Machine.chain_of_starts ls hstart .empty
    rw [hall] at hchain
    rw [Stream.bytes_empty] at hbytes hfault
    rw [Stream.fault?_empty] at hfault
    exact .inr ⟨ls, stream, hall, hstart, hchain, hbytes, hfault⟩
  · left
    -- The stages before the one that is refused are launched.
    obtain ⟨stream, hchain, -⟩ := Machine.chain_of_starts ls hstart .empty
    have hstops := Machine.chain_stops rest hchain hcause
    rw [← hsplit] at hstops
    have hfails : Failing m overlay inherit stages target _ := .launching hsplit hstart hcause
    by_cases hos : cause.isOs = true
    · rw [if_pos hos] at hfails hstops
      exact ⟨_, _, hstops, hfails⟩
    · rw [if_neg hos] at hfails hstops
      exact ⟨_, _, hstops, hfails⟩

/-- The fault of a stage surfaces where a launched chain fails. -/
theorem failing_of_surfacing {m : Machine} {overlay : Env} {inherit : Bool} {stages : List Stage}
    {target : Path} {ls : List Launched} {f : Fault} (hall : ls.map (·.stage) = stages)
    (hstart : ∀ l ∈ ls, m.Starts overlay inherit l)
    (hfault : Launched.surfacing ls [] none = some f) :
    Failing m overlay inherit stages target f ∧ AtomicWrite.failure target f = f := by
  rcases Launched.surfacing_eq_some hfault with hnone | ⟨l, hl, given, hstatus, rfl⟩
  · cases hnone
  · exact ⟨.running hall hstart hl hstatus, failure_stageExit target _ _⟩

/-- **A write that fails** does so because a stage failed, or would fail with all
    bytes of the chain as well. -/
theorem failing_of_write {m : Machine} {overlay : Env} {inherit : Bool} {stages : List Stage}
    {target : Path} {ls : List Launched} {stream : Stream} {f : Fault}
    (hall : ls.map (·.stage) = stages) (hstart : ∀ l ∈ ls, m.Starts overlay inherit l)
    (hbytes : stream.bytes = Launched.feed ls [])
    (hfault : stream.fault? = Launched.surfacing ls [] none)
    (hresult : (AtomicWrite.write m target stream).result = .error f) :
    Failing m overlay inherit stages target f := by
  cases hsurfaces : stream.fault? with
  | none =>
    refine .writing hall hstart ?_
    rw [← hbytes, ← AtomicWrite.write_result_of_no_fault m _ hsurfaces, hresult]
  | some g =>
    rw [hsurfaces] at hfault
    rcases AtomicWrite.write_result_of_fault m target hsurfaces with hpassed | ⟨e, hsame, hbare⟩
    · obtain ⟨hfails, hsame⟩ := failing_of_surfacing hall hstart hfault.symm
      rw [hresult, hsame] at hpassed
      cases hpassed
      exact hfails
    · rw [hresult] at hsame
      cases hsame
      exact .writing hall hstart (hbytes ▸ hbare)

/-- The cases of an execution. -/
theorem carryOut_cases (m : Machine) (overlay : Env) (inherit : Bool) (p : Plan)
    (htarget : (outputPath p.source).WellFormed) :
    (∃ f, (carryOut m overlay inherit p).1 = .error f ∧
      Failing m overlay inherit p.stages (outputPath p.source) f ∧
      ((carryOut m overlay inherit p).2 = m ∨
        (carryOut m overlay inherit p).2 = AtomicWrite.withDirs m (outputPath p.source))) ∨
      ∃ (ls : List Launched) (out : AtomicWrite.Outcome) (place : Place),
        ls.map (·.stage) = p.stages ∧ (∀ l ∈ ls, m.Starts overlay inherit l) ∧
        Launched.surfacing ls [] none = none ∧
        AtomicWrite.Written m (outputPath p.source) (Launched.feed ls []) place out ∧
        carryOut m overlay inherit p =
          (.ok (.files {
            isMulti := false
            written := [outputPath p.source]
            bytesWritten := (Launched.feed ls []).length }), out.machine) := by
  rcases chain_cases m overlay inherit p.stages (outputPath p.source) with
    ⟨f, input, hchain, hfails⟩ | ⟨ls, stream, hall, hstart, hchain, hbytes, hfault⟩
  · left
    unfold carryOut
    rw [hchain]
    exact ⟨f, rfl, hfails, .inl rfl⟩
  · -- Every stage is launched: what is left is the write.
    unfold carryOut
    rw [hchain]
    dsimp only
    rcases AtomicWrite.write_cases m htarget stream with
      ⟨f, hresult, hmachine⟩ | ⟨hnone, place, hwritten⟩
    · left
      have hfails := failing_of_write hall hstart hbytes hfault hresult
      rw [hresult]
      exact ⟨f, rfl, hfails, .inr hmachine⟩
    · right
      rw [hnone] at hfault
      rw [hbytes] at hwritten
      refine ⟨ls, _, place, hall, hstart, hfault.symm, hwritten, ?_⟩
      rw [hwritten.result]
      rfl

/-- **An execution that writes nothing** fails for no other reason. -/
theorem failing_of_rehearse {m : Machine} {overlay : Env} {inherit : Bool} {p : Plan} {f : Fault}
    (h : rehearse m overlay inherit p = .error f) :
    Failing m overlay inherit p.stages (outputPath p.source) f := by
  unfold rehearse at h
  rcases chain_cases m overlay inherit p.stages (outputPath p.source) with
    ⟨g, input, hchain, hfails⟩ | ⟨ls, stream, hall, hstart, hchain, -, hfault⟩
  · rw [hchain] at h
    cases h
    exact hfails
  · rw [hchain] at h
    dsimp only at h
    rw [Stream.drain_result] at h
    cases hsurfaces : stream.fault? with
    | none =>
      rw [hsurfaces] at h
      cases h
    | some g =>
      rw [hsurfaces] at h hfault
      cases h
      exact (failing_of_surfacing hall hstart hfault.symm).1

/-- **Executing a plan of one output is all or nothing.**  It may give a result:
    then its chain ran to its end, the output of the chain is in the sink's file,
    and everywhere else nothing has changed but that directories may be new.  Or
    it ends in a fault, for one of the three reasons: then no file was created,
    changed or taken away. -/
theorem execute_all_or_nothing (o : PipelineOptions ν) (p : Plan)
    (hproject : o.hooks.projectEnv = none) (hmaterialize : o.hooks.materializeSingle = none)
    (hsingle : p.source.parsed.isMulti = false) (hmode : p.mode.writes = true) (d : Diary)
    (s : Site ν) :
    let overlay := Projection.entries (sinkPath p.source) p.source.parsed p.mode.word
    let target := outputPath p.source
    ∃ r d' s', (execute o p).runOn d s = (r, d', s') ∧
      ((∃ ls : List Launched, ls.map (·.stage) = p.stages ∧
          (∀ l ∈ ls, s.machine.Starts overlay o.inheritEnv l) ∧
          Launched.surfacing ls [] none = none ∧
          r = .ok (.files {
            isMulti := false, written := [target], bytesWritten := (Launched.feed ls []).length }) ∧
          ∃ place, AtomicWrite.PlaceOf s.machine target place ∧
            s'.machine.tree.get? place =
              some (.file ⟨Launched.feed ls [], 0o644, s.machine.now⟩) ∧
            (∀ q ≠ place, s'.machine.tree.get? q = s.machine.tree.get? q ∨
              s.machine.tree.get? q = none ∧ s'.machine.tree.get? q = some .dir) ∧
            ((∀ l, s.machine.tree.get? place ≠ some (.link l)) →
              s'.machine.tree.readFile s.machine.home target.toString =
                .ok (Launched.feed ls []))) ∨
        ∃ f, r = .error f ∧ Failing s.machine overlay o.inheritEnv p.stages target f ∧
          ∀ q, s'.machine.tree.get? q = s.machine.tree.get? q ∨
            s.machine.tree.get? q = none ∧ s'.machine.tree.get? q = some .dir) := by
  intro overlay target
  have htarget : target.WellFormed :=
    (Path.wellFormed_ofString _).parent.join (Path.wellFormed_ofString _)
  have hoverlay : (overlayOf o p).Ends s (.ok overlay) s := by
    unfold overlayOf
    rw [hproject]
    exact Act.ends_pure _ s
  obtain ⟨d', hrun, -⟩ := ends_execute hmaterialize hsingle hmode hoverlay d
  refine ⟨_, d', _, hrun, ?_⟩
  rcases carryOut_cases s.machine overlay o.inheritEnv p htarget with
    ⟨f, hresult, hfails, hmachine⟩ | ⟨ls, out, place, hall, hstart, hnone, hwritten, hcarried⟩
  · -- A stage that is not launched fails before any directory is made, the write after.
    right
    refine ⟨f, hresult, hfails, ?_⟩
    show s.machine.tree.AddsDirs (carryOut s.machine overlay o.inheritEnv p).2.tree
    rcases hmachine with hmachine | hmachine
    · rw [hmachine]
      exact .refl _
    · rw [hmachine]
      exact Tree.makeDirs_addsDirs _ _ _
  · left
    simp only [hcarried]
    refine ⟨ls, hall, hstart, hnone, rfl, place, hwritten.named, hwritten.get?,
      fun q hq => hwritten.elsewhere hq, fun hlink => ?_⟩
    have hread := hwritten.readFile htarget hlink
    rwa [hwritten.machine] at hread ⊢

/-- A program that adds two bytes to its input. -/
def greet : Behaviour := fun _ input => ⟨input ++ [104, 105], 0, false⟩

/-- A machine with that program in a file. -/
def greetMachine : Machine where
  tree := ⟨[(["greet"], .file ⟨[35, 33, 103], 0o755, 0⟩)]⟩
  cwd := ⟨.root, []⟩
  programs := fun bytes => if bytes = [35, 33, 103] then some greet else none

/-- A stage of that program. -/
def greetStage : Stage := { command := "/greet" }

/-- A plan that runs the program twice. -/
def greetPlan : Plan where
  source := {
    key := "/x.txt.sh"
    spec := ⟨⟨.root, []⟩, [], []⟩
    item := ⟨⟨.root, ["x.txt.sh"]⟩, "x.txt.sh", false⟩
    name := "x.txt.sh"
    parsed := { basename := "x", nature := "txt", isMulti := false, domain := "sh" }
    payload := none }
  pre := []
  sink := greetStage
  post := [greetStage]
  mode := .build

/-- What its processes are told. -/
def greetOverlay : Env :=
  Projection.entries (sinkPath greetPlan.source) greetPlan.source.parsed greetPlan.mode.word

/-- The two launched stages of that plan. -/
def greetLaunched : Launched :=
  ⟨greetStage, greet,
    greetMachine.callOf (greetMachine.envOf greetOverlay true greetStage) greetStage []⟩

theorem starts_greetLaunched : greetMachine.Starts greetOverlay true greetLaunched := by
  have henv : greetMachine.envOf greetOverlay true greetStage =
      [("CAPEXEC_MODE", "build"), ("CAPEXEC_SINK", "/x.txt.sh"), ("CAPEXEC_DIR", "/"),
        ("CAPEXEC_BASENAME", "x"), ("CAPEXEC_NATURE", "txt")] := by decide
  have hgiven : Machine.refusal? (greetMachine.envOf greetOverlay true greetStage) greetStage = none := by
    rw [henv]
    rfl
  have hname : Tree.Nameable ((Path.mk .root []).child "greet") "greet" :=
    ⟨rfl, by decide, rfl, by decide, by decide⟩
  have hpart : Path.IsPart "greet" := ⟨by decide, by decide, by decide⟩
  have hpath : ((Path.mk .root []).child "greet").toString = "/greet" := by decide
  have hstart : greetMachine.startPlace greetStage = .ok [] := rfl
  refine Machine.starts_of_program hgiven hstart ?_ rfl
  exact Machine.firstProgram_in_root hname hpart hpath rfl (by decide) rfl rfl _ []

/-- Its output can be written. -/
theorem write_greet {s : Stream} (h : s.fault? = none) :
    (AtomicWrite.write greetMachine (outputPath greetPlan.source) s).result = .ok s.bytes.length := by
  have htarget : outputPath greetPlan.source = (Path.mk .root []).child "x.auto.txt" := by decide
  have hname : Tree.Nameable ((Path.mk .root []).child "x.auto.txt") "x.auto.txt" :=
    ⟨rfl, by decide, rfl, by decide, by decide⟩
  have hpart : Path.IsPart "x.auto.txt" := ⟨by decide, by decide, by decide⟩
  rw [htarget]
  exact AtomicWrite.write_in_root (Tree.linkless_of_file _ _) hpart hname (by decide) (by decide) h

/-- Whatever is launched for that plan is its own two stages. -/
theorem eq_greetLaunched {ls : List Launched} {rest : List Stage}
    (hstages : greetPlan.stages = ls.map (·.stage) ++ rest)
    (hstart : ∀ l ∈ ls, greetMachine.Starts greetOverlay true l) : ∀ l ∈ ls, l = greetLaunched := by
  intro l hl
  have hmem : l.stage ∈ greetPlan.stages := by
    rw [hstages]
    exact List.mem_append_left _ (List.mem_map_of_mem hl)
  have hstage : l.stage = greetStage := by simpa [greetPlan, Plan.stages] using hmem
  exact Machine.eq_of_starts (hstart l hl) starts_greetLaunched hstage

theorem greet_execute_all_or_nothing :
    ∃ d' s', (execute {} greetPlan).runOn {} (⟨greetMachine, [], ()⟩ : Site Unit) =
        (.ok (.files {
          isMulti := false, written := [outputPath greetPlan.source], bytesWritten := 4 }), d', s') ∧
      s'.machine.tree.readFile [] (outputPath greetPlan.source).toString =
        .ok [104, 105, 104, 105] := by
  have hboth {ls : List Launched} (hstages : ls.map (·.stage) = greetPlan.stages)
      (hstart : ∀ l ∈ ls, greetMachine.Starts greetOverlay true l) :
      ls = [greetLaunched, greetLaunched] := by
    have hlength : ls.length = 2 := by
      simpa [greetPlan, Plan.stages] using congrArg List.length hstages
    refine List.eq_replicate_iff.mpr ⟨hlength, ?_⟩
    exact eq_greetLaunched (hstages.symm.trans (List.append_nil _).symm) hstart
  obtain ⟨r, d', s', hrun, hends⟩ :=
    execute_all_or_nothing {} greetPlan rfl rfl rfl rfl {} (⟨greetMachine, [], ()⟩ : Site Unit)
  rcases hends with ⟨ls, hstages, hstart, -, rfl, place, -, -, -, hread⟩ | ⟨f, -, hfails, -⟩
  · obtain rfl := hboth hstages hstart
    exact ⟨d', s', hrun, hread fun l hlink => Tree.linkless_of_file _ _ _ l hlink⟩
  · exfalso
    cases hfails with
    | @launching ls stage rest cause hsplit hstart hcause =>
      have hmem : stage ∈ greetPlan.stages := by simp [hsplit]
      have hstage : stage = greetStage := by simpa [greetPlan, Plan.stages] using hmem
      rw [hstage] at hcause
      have hstarts := starts_greetLaunched
      unfold Machine.Starts at hstarts
      cases hcause.symm.trans hstarts
    | @running ls l given hstages hstart hl hstatus =>
      rw [eq_greetLaunched (hstages.symm.trans (List.append_nil _).symm) hstart l hl] at hstatus
      exact hstatus rfl
    | @writing ls f hstages hstart hwrite =>
      rw [write_greet (Stream.fault?_ofBytes _)] at hwrite
      cases hwrite

end Pipeline

end SinkPipeline
