import SinkPipeline.Process.Machine
import SinkPipeline.Proofs.FileTree.Changing
import SinkPipeline.Proofs.Process.Reading

/-! # What a chain computes

  A stage that can be started is a **launched** stage: its program is known, and
  how that is called.  A list of launched stages has a meaning that says nothing
  of streams, chunks or feeders:

  - **feed**: the bytes that come out at the end, each program being given all
    that the one before it wrote;
  - **statuses**: how each program ended, in the order of the chain;
  - **first failure**: the earliest stage that did not end with zero.

  The main statement is that reading the stream of a chain gives just these:
  the bytes compose, and the fault that surfaces is the most upstream one.  It
  holds for any cut of the bytes into chunks, between the stages too.
-/

namespace SinkPipeline

/-- A stage with the program that it runs and how the program is called. -/
structure Launched where
  /-- The stage. -/
  stage : Stage
  /-- Its program. -/
  program : Behaviour
  /-- How the program is called. -/
  call : Call

namespace Launched

/-! ### The meaning of launched stages -/

/-- What the program does with an input. -/
def react (l : Launched) (input : Bytes) : Reaction := l.program l.call input

/-- The bytes that come out at the end. -/
def feed : List Launched → Bytes → Bytes
  | [], input => input
  | l :: ls, input => feed ls (l.react input).output

/-- How each program ends, in the order of the chain. -/
def statuses : List Launched → Bytes → List (Stage × Int)
  | [], _ => []
  | l :: ls, input => (l.stage, (l.react input).status) :: statuses ls (l.react input).output

/-- The fault of the first stage that does not end with zero. -/
def firstFailure (ls : List Launched) (input : Bytes) : Option Fault :=
  ((statuses ls input).find? fun e => e.2 ≠ 0).map fun e => Fault.stageExit e.1.argv e.2

/-- Does every program read its input to the end? -/
def ReadToEnd : List Launched → Bytes → Prop
  | [], _ => True
  | l :: ls, input => (l.react input).closesInput = false ∧ ReadToEnd ls (l.react input).output

/-- The fault that arrives at the end of a chain when `arriving` arrives at its
    start.  A program that closes its input while much is waiting stops it. -/
def surfacing : List Launched → Bytes → Option Fault → Option Fault
  | [], _, arriving => arriving
  | l :: ls, input, arriving =>
    let r := l.react input
    let kept :=
      if r.closesInput && Machine.waitingCapacity < input.length then none else arriving
    let own := if r.status = 0 then none else some (Fault.stageExit l.stage.argv r.status)
    surfacing ls r.output (kept.or own)

theorem firstFailure_nil (input : Bytes) : firstFailure [] input = none := rfl

theorem firstFailure_cons (l : Launched) (ls : List Launched) (input : Bytes) :
    firstFailure (l :: ls) input =
      (if (l.react input).status = 0 then none
        else some (Fault.stageExit l.stage.argv (l.react input).status)).or
        (firstFailure ls (l.react input).output) := by
  by_cases h : (l.react input).status = 0 <;> simp [firstFailure, statuses, h]

/-- There is no failure just if every program ends with zero. -/
theorem firstFailure_eq_none_iff (ls : List Launched) (input : Bytes) :
    firstFailure ls input = none ↔ ∀ e ∈ statuses ls input, e.2 = 0 := by
  simp [firstFailure]

/-- **The most upstream fault surfaces**, whatever the later stages end with, if
    every program reads its input to the end. -/
theorem surfacing_of_readToEnd (ls : List Launched) (input : Bytes) (arriving : Option Fault)
    (h : ReadToEnd ls input) :
    surfacing ls input arriving = arriving.or (firstFailure ls input) := by
  induction ls generalizing input arriving with
  | nil => simp [surfacing, firstFailure_nil]
  | cons l ls ih =>
    obtain ⟨hopen, hrest⟩ := h
    rw [surfacing, hopen]
    simp only [Bool.false_and, Bool.false_eq_true, if_false]
    rw [ih _ _ hrest, firstFailure_cons]
    cases arriving <;> simp

/-- A fault that surfaces behind a chain is the input's, or a stage's that did
    not end with zero. -/
theorem surfacing_eq_some {ls : List Launched} {input : Bytes} {arriving : Option Fault}
    {f : Fault} (h : surfacing ls input arriving = some f) :
    arriving = some f ∨
      ∃ l ∈ ls, ∃ given, (l.react given).status ≠ 0 ∧
        f = Fault.stageExit l.stage.argv (l.react given).status := by
  induction ls generalizing input arriving with
  | nil => exact .inl h
  | cons l ls ih =>
    rw [surfacing] at h
    rcases ih h with hhere | ⟨k, hk, hlater⟩
    · rcases Option.or_eq_some_iff.mp hhere with hkept | ⟨-, hown⟩
      · left
        split at hkept
        · cases hkept
        · exact hkept
      · right
        split at hown
        · cases hown
        · next hstatus => exact ⟨l, by simp, input, hstatus, (Option.some.inj hown).symm⟩
    · exact .inr ⟨k, by simp [hk], hlater⟩

end Launched

namespace Machine

variable (m : Machine) (overlay : Env) (inherit : Bool)

/-- Is this how the machine starts a stage? -/
def Starts (l : Launched) : Prop :=
  m.launch (m.envOf overlay inherit l.stage) l.stage = .ok (l.program, l.call)

/-- How a stage's program is called from a directory. -/
def callOf (m : Machine) (env : Env) (stage : Stage) (start : Place) : Call where
  args := stage.args
  env := env
  cwd := placeText start
  file := fun path => (m.tree.readFile start path).toOption

/-- A stage whose program is found is launched, unless it cannot be handed over. -/
theorem launch_of_found {m : Machine} {env : Env} {stage : Stage} {start : Place} {b : Behaviour}
    (hgiven : refusal? env stage = none) (hstart : m.startPlace stage = .ok start)
    (hfound : m.firstProgram start .noEntry (candidates env stage.command) = .ok b) :
    m.launch env stage = .ok (b, m.callOf env stage start) := by
  unfold launch
  simp only [hgiven, hstart, hfound, bind, Except.bind]
  rfl

/-- A stage starts if it can be handed over and its program is found. -/
theorem starts_of_program {m : Machine} {overlay : Env} {inherit : Bool} {l : Launched}
    {start : Place} (hgiven : refusal? (m.envOf overlay inherit l.stage) l.stage = none)
    (hstart : m.startPlace l.stage = .ok start)
    (hfound : m.firstProgram start .noEntry
      (candidates (m.envOf overlay inherit l.stage) l.stage.command) = .ok l.program)
    (hcall : l.call = m.callOf (m.envOf overlay inherit l.stage) l.stage start) :
    m.Starts overlay inherit l := by
  unfold Starts
  rw [hcall]
  exact launch_of_found hgiven hstart hfound

/-- **A program in the root directory** is found under its path. -/
theorem firstProgram_in_root {m : Machine} {name path : String} {f : File} {b : Behaviour}
    (hname : Tree.Nameable ((Path.mk .root []).child name) name) (hpart : Path.IsPart name)
    (hpath : ((Path.mk .root []).child name).toString = path)
    (hget : m.tree.get? [name] = some (.file f)) (hmode : f.mode &&& 0o111 ≠ 0)
    (hscript : startsScript f.bytes = true) (hprogram : m.programs f.bytes = some b) (env : Env)
    (start : Place) : m.firstProgram start .noEntry (candidates env path) = .ok b := by
  have hcandidates : candidates env path = [path] := by
    unfold candidates
    rw [if_pos]
    simp [← hpath, Path.toString_child, Path.anchorText]
  have hroot : (Path.mk .root []).WellFormed := by
    intro part hpart
    cases hpart
  have hleads : m.tree.Leads Tree.maxLinks [] [] Tree.maxLinks [] := .here
  have hentry : m.tree.entryAt start true path = .ok ([name], .file f) := by
    rw [← hpath]
    exact Tree.entryAt_of_leads (hroot.child hpart) hname hleads hget
  rw [hcandidates]
  unfold firstProgram programAt
  simp only [hentry, bind, Except.bind, if_neg hmode, hscript, hprogram]
  rfl

/-! ### One stage -/

/-- The events of a process hold what it wrote. -/
theorem bytesOf_outputOf (stage : Stage) (r : Reaction) (input : Bytes) (arriving : Option Fault) :
    Stream.bytesOf (outputOf stage r input arriving) = r.output := by
  unfold outputOf
  dsimp only
  generalize Option.or _ _ = ending
  by_cases h : r.output = [] <;> cases ending <;> simp [h, Stream.bytesOf]

/-- They end in the fault that surfaces behind the process. -/
theorem faultOf_outputOf (l : Launched) (input : Bytes) (arriving : Option Fault) :
    Stream.faultOf (outputOf l.stage (l.react input) input arriving) =
      Launched.surfacing [l] input arriving := by
  unfold outputOf Launched.surfacing Launched.surfacing
  dsimp only
  generalize Option.or _ _ = ending
  by_cases h : (l.react input).output = [] <;> cases ending <;> simp [h, Stream.faultOf]

variable {m overlay inherit}

/-- A stage is launched in one way only. -/
theorem eq_of_starts {l l' : Launched}
    (h : m.Starts overlay inherit l) (h' : m.Starts overlay inherit l')
    (hstage : l.stage = l'.stage) : l = l' := by
  unfold Starts at h h'
  rw [hstage, h'] at h
  obtain ⟨stage, program, call⟩ := l
  cases h
  cases hstage
  rfl

/-- The program of a launched stage sees the environment of the stage. -/
theorem Starts.env {l : Launched} (h : m.Starts overlay inherit l) :
    l.call.env = m.envOf overlay inherit l.stage := by
  unfold Starts launch at h
  cases hrefused : refusal? (m.envOf overlay inherit l.stage) l.stage with
  | some f =>
    rw [hrefused] at h
    cases h
  | none =>
    rw [hrefused] at h
    cases hplace : m.startPlace l.stage with
    | error f =>
      rw [hplace] at h
      cases h
    | ok start =>
      rw [hplace] at h
      cases hprogram : m.firstProgram start .noEntry
          (candidates (m.envOf overlay inherit l.stage) l.stage.command) with
      | error e =>
        simp only [hprogram, bind, Except.bind] at h
        cases h
      | ok b =>
        simp only [hprogram, bind, Except.bind] at h
        obtain ⟨-, hcall⟩ := Prod.mk.inj (Except.ok.inj h)
        rw [← hcall]

/-- Starting a launched stage. -/
theorem spawn_eq_streamOf {l : Launched} (h : m.Starts overlay inherit l) (input : Stream) :
    m.spawn overlay inherit l.stage input =
      .ok (streamOf l.stage (m.envOf overlay inherit l.stage) l.program l.call input) := by
  unfold Starts at h
  simp only [spawn, h]

/-- A chain that begins with a launched stage. -/
theorem chain_cons_of_starts {l : Launched} (h : m.Starts overlay inherit l) (stages : List Stage)
    (input : Stream) :
    m.chain overlay inherit (l.stage :: stages) input =
      m.chain overlay inherit stages
        (streamOf l.stage (m.envOf overlay inherit l.stage) l.program l.call input) := by
  show (m.spawn overlay inherit l.stage input >>= fun s => m.chain overlay inherit stages s) = _
  rw [spawn_eq_streamOf h]
  rfl

/-- The stream of a launched stage: its bytes and its fault. -/
theorem streamOf_reads (l : Launched) (env : Env) (input : Stream) :
    (streamOf l.stage env l.program l.call input).bytes = (l.react input.bytes).output ∧
      (streamOf l.stage env l.program l.call input).fault? =
        Launched.surfacing [l] input.bytes input.fault? := by
  constructor
  · rw [← Stream.readAll_value input]
    exact bytesOf_outputOf _ _ _ _
  · rw [← Stream.readAll_value input, ← Stream.readAll_fault input]
    exact faultOf_outputOf l _ _

/-! ### A whole chain -/

/-- **The stream of a chain** of launched stages: its bytes are those that the
    programs feed each other, its fault is the one that surfaces. -/
theorem chain_of_starts (ls : List Launched) (h : ∀ l ∈ ls, m.Starts overlay inherit l)
    (input : Stream) :
    ∃ s, m.chain overlay inherit (ls.map (·.stage)) input = .ok s ∧
      s.bytes = Launched.feed ls input.bytes ∧
      s.fault? = Launched.surfacing ls input.bytes input.fault? := by
  induction ls generalizing input with
  | nil => exact ⟨input, rfl, rfl, rfl⟩
  | cons l ls ih =>
    obtain ⟨hbytes, hfault⟩ := streamOf_reads l (m.envOf overlay inherit l.stage) input
    obtain ⟨s, hchain, hsBytes, hsFault⟩ := ih (fun k hk => h k (by simp [hk])) (streamOf ..)
    refine ⟨s, ?_, ?_, ?_⟩
    · rw [List.map_cons, chain_cons_of_starts (h l (by simp)), hchain]
    · rw [hsBytes, hbytes]
      rfl
    · rw [hsFault, hbytes, hfault]
      rfl

/-- A chain is started stage by stage. -/
theorem chain_append (first second : List Stage) (input : Stream) :
    m.chain overlay inherit (first ++ second) input =
      m.chain overlay inherit first input >>= m.chain overlay inherit second := by
  induction first generalizing input with
  | nil => rfl
  | cons stage first ih =>
    show (m.spawn overlay inherit stage input >>= fun s =>
        m.chain overlay inherit (first ++ second) s) = _
    simp only [ih]
    exact (bind_assoc _ _ _).symm

/-- A stage that cannot be run ends the chain. -/
theorem chain_stops {ls : List Launched} {stage : Stage} {cause : Fault} (rest : List Stage)
    {input s : Stream} (hchain : m.chain overlay inherit (ls.map (·.stage)) input = .ok s)
    (hrefused : m.launch (m.envOf overlay inherit stage) stage = .error cause) :
    m.chain overlay inherit (ls.map (·.stage) ++ stage :: rest) input =
      .error (if cause.isOs then (spawnFault stage cause, s.close) else (cause, s)) := by
  have hspawn : m.spawn overlay inherit stage s =
      .error (if cause.isOs then (spawnFault stage cause, s.close) else (cause, s)) := by
    simp only [spawn, hrefused]
  rw [chain_append, hchain]
  show (m.spawn overlay inherit stage s >>= fun t => m.chain overlay inherit rest t) = _
  rw [hspawn]
  rfl

/-- Every stage is launched, or there is a first one that cannot be. -/
theorem exists_launched (m : Machine) (overlay : Env) (inherit : Bool) (stages : List Stage) :
    ∃ ls : List Launched, (∀ l ∈ ls, m.Starts overlay inherit l) ∧
      (ls.map (·.stage) = stages ∨
        ∃ stage rest cause, stages = ls.map (·.stage) ++ stage :: rest ∧
          m.launch (m.envOf overlay inherit stage) stage = .error cause) := by
  induction stages with
  | nil => exact ⟨[], by simp, .inl rfl⟩
  | cons stage stages ih =>
    match hlaunch : m.launch (m.envOf overlay inherit stage) stage with
    | .error cause => exact ⟨[], by simp, .inr ⟨stage, stages, cause, rfl, hlaunch⟩⟩
    | .ok (b, call) =>
      obtain ⟨ls, hstart, hends⟩ := ih
      refine ⟨⟨stage, b, call⟩ :: ls, ?_, ?_⟩
      · intro l hl
        rcases List.mem_cons.mp hl with rfl | hl
        · exact hlaunch
        · exact hstart l hl
      · rcases hends with rfl | ⟨stage', rest, cause, rfl, hcause⟩
        · exact .inl rfl
        · exact .inr ⟨stage', rest, cause, rfl, hcause⟩

/-! ### Any cut into chunks -/

variable (m overlay inherit)

/-- The stream `u` comes from chaining stages behind the stream `s`, where the
    output of each stage may reach the next one in other chunks than those it
    was written in. -/
inductive Chained : List Stage → Stream → Stream → Prop
  | nil (s : Stream) : Chained [] s s
  | cons {stage : Stage} {stages : List Stage} {s t cut u : Stream} :
      m.spawn overlay inherit stage s = .ok t →
      cut.bytes = t.bytes → cut.fault? = t.fault? →
      Chained stages cut u → Chained (stage :: stages) s u

variable {m overlay inherit}

/-- A chain that is started was started stage by stage. -/
theorem of_chain_cons {stage : Stage} {stages : List Stage} {input s : Stream}
    (h : m.chain overlay inherit (stage :: stages) input = .ok s) :
    ∃ t, m.spawn overlay inherit stage input = .ok t ∧ m.chain overlay inherit stages t = .ok s := by
  rw [chain] at h
  cases hspawn : m.spawn overlay inherit stage input with
  | error e =>
    rw [hspawn] at h
    cases h
  | ok t =>
    rw [hspawn] at h
    exact ⟨t, rfl, h⟩

/-- What `chain` gives is such a stream, cut as the stages wrote it. -/
theorem chained_of_chain {stages : List Stage} {input s : Stream}
    (h : m.chain overlay inherit stages input = .ok s) :
    m.Chained overlay inherit stages input s := by
  induction stages generalizing input with
  | nil =>
    obtain rfl : input = s := by simpa [chain] using h
    exact .nil _
  | cons stage stages ih =>
    obtain ⟨t, hspawn, hrest⟩ := of_chain_cons h
    exact .cons hspawn rfl rfl (ih hrest)

theorem chained_reads {ls : List Launched} (h : ∀ l ∈ ls, m.Starts overlay inherit l)
    {input u : Stream} (hu : m.Chained overlay inherit (ls.map (·.stage)) input u) :
    u.bytes = Launched.feed ls input.bytes ∧
      u.fault? = Launched.surfacing ls input.bytes input.fault? := by
  induction ls generalizing input with
  | nil =>
    cases hu
    exact ⟨rfl, rfl⟩
  | cons l ls ih =>
    obtain ⟨hbytes, hfault⟩ := streamOf_reads l (m.envOf overlay inherit l.stage) input
    cases hu with
    | @cons _ _ _ t cut _ hspawn hcutBytes hcutFault hrest =>
      obtain rfl : streamOf l.stage _ l.program l.call input = t := by
        rw [spawn_eq_streamOf (h l (by simp))] at hspawn
        exact Except.ok.inj hspawn
      obtain ⟨huBytes, huFault⟩ := ih (fun k hk => h k (by simp [hk])) hrest
      rw [huBytes, huFault, hcutBytes, hcutFault, hbytes, hfault]
      exact ⟨rfl, rfl⟩

/-- **A chain composes its stages and never masks a failure.**  When every stage
    starts and reads its input to the end, reading the chain's stream chunk by
    chunk gives the input's bytes fed through the programs in order, and then the
    most upstream failure: that of the input, or else that of the first stage
    whose status is not zero.  No cut into chunks makes a difference; without
    stages the stream is the input itself. -/
theorem chain_composes (m : Machine) (overlay : Env) (inherit : Bool) (ls : List Launched)
    (input : Stream) (hstart : ∀ l ∈ ls, m.Starts overlay inherit l)
    (hread : Launched.ReadToEnd ls input.bytes) :
    ∃ s, m.chain overlay inherit (ls.map (·.stage)) input = .ok s ∧
      (ls = [] → s = input) ∧
      m.Chained overlay inherit (ls.map (·.stage)) input s ∧
      ∀ u, m.Chained overlay inherit (ls.map (·.stage)) input u →
        (∀ n, u.unread.length < n → u.readChunks = Stream.readLoop n [] u) ∧
        u.readAll.value = Launched.feed ls input.bytes ∧
        u.readAll.fault = input.fault?.or (Launched.firstFailure ls input.bytes) ∧
        (u.readAll.fault = none ↔
          input.fault? = none ∧ ∀ e ∈ Launched.statuses ls input.bytes, e.2 = 0) := by
  obtain ⟨s, hchain, -, -⟩ := chain_of_starts ls hstart input
  refine ⟨s, hchain, ?_, chained_of_chain hchain, fun u hu => ?_⟩
  · rintro rfl
    exact (Except.ok.inj hchain).symm
  · obtain ⟨hbytes, hfault⟩ := chained_reads hstart hu
    have hsurfaces : u.readAll.fault = input.fault?.or (Launched.firstFailure ls input.bytes) := by
      rw [Stream.readAll_fault, hfault, Launched.surfacing_of_readToEnd ls _ _ hread]
    refine ⟨fun n hn => (Stream.readLoop_eq_readChunks u n hn).symm, ?_, hsurfaces, ?_⟩
    · rw [Stream.readAll_value, hbytes]
    · rw [hsurfaces, Option.or_eq_none_iff, Launched.firstFailure_eq_none_iff]

/-- A program that writes its input twice and ends with the number of its
    arguments. -/
def twice : Behaviour := fun call input => ⟨input ++ input, call.args.length, false⟩

/-- A machine with that program in a file. -/
def twiceMachine : Machine where
  tree := ⟨[(["twice"], .file ⟨[35, 33, 116], 0o755, 0⟩)]⟩
  cwd := ⟨.root, []⟩
  programs := fun bytes => if bytes = [35, 33, 116] then some twice else none

/-- A stage of that program. -/
def twiceStage (args : List String) : Launched :=
  let stage : Stage := { command := "/twice", args := args }
  ⟨stage, twice, twiceMachine.callOf [] stage []⟩

theorem starts_twiceStage {args : List String}
    (hgiven : refusal? (twiceMachine.envOf [] false (twiceStage args).stage) (twiceStage args).stage =
      none) : twiceMachine.Starts [] false (twiceStage args) := by
  have hname : Tree.Nameable ((Path.mk .root []).child "twice") "twice" :=
    ⟨rfl, by decide, rfl, by decide, by decide⟩
  have hpart : Path.IsPart "twice" := ⟨by decide, by decide, by decide⟩
  have hpath : ((Path.mk .root []).child "twice").toString = "/twice" := by decide
  have hstart : twiceMachine.startPlace (twiceStage args).stage = .ok [] := rfl
  refine starts_of_program hgiven hstart ?_ rfl
  exact firstProgram_in_root hname hpart hpath rfl (by decide) rfl rfl _ []

theorem twice_chain_composes :
    ∃ s, twiceMachine.chain [] false
        ([twiceStage [], twiceStage ["a", "b"], twiceStage ["c"]].map (·.stage))
        (.ofEvents [.chunk [1], .chunk [2]]) = .ok s ∧
      s.readAll.value = [1, 2, 1, 2, 1, 2, 1, 2, 1, 2, 1, 2, 1, 2, 1, 2] ∧
      s.readAll.fault = some (Fault.stageExit ["/twice", "a", "b"] 2) := by
  have hstart : ∀ l ∈ [twiceStage [], twiceStage ["a", "b"], twiceStage ["c"]],
      twiceMachine.Starts [] false l := by
    simp only [List.forall_mem_cons]
    exact ⟨starts_twiceStage rfl, starts_twiceStage rfl, starts_twiceStage rfl, List.forall_mem_nil _⟩
  obtain ⟨s, hchain, -, hchained, hreads⟩ := chain_composes twiceMachine [] false
    [twiceStage [], twiceStage ["a", "b"], twiceStage ["c"]]
    (.ofEvents [.chunk [1], .chunk [2]]) hstart ⟨rfl, rfl, rfl, trivial⟩
  obtain ⟨-, hvalue, hfault, -⟩ := hreads s hchained
  exact ⟨s, hchain, hvalue.trans rfl, hfault.trans rfl⟩

end Machine

end SinkPipeline
