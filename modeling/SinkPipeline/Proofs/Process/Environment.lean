import SinkPipeline.Proofs.Execution
import SinkPipeline.Proofs.Process.Closing
import SinkPipeline.Proofs.Running

/-! # What processes see

  A process sees the entries of its own stage, then the overlay of the plan,
  then the environment of the machine if that is inherited, and nothing else.
  So what one stage is given is never seen by another one.

  This is a law about layers first.  Then it is followed through a chain, to the
  processes that executing a plan starts: before the sink, for the sink and
  after it.
-/

namespace SinkPipeline

namespace Env

/-! ### Layers -/

/-- Is each variable given once? -/
def Distinct (env : Env) : Prop := (env.map (·.1)).Nodup

instance (env : Env) : Decidable env.Distinct := inferInstanceAs (Decidable (List.Nodup _))

/-- A variable that is not there has no value. -/
theorem get?_eq_none {env : Env} {k : String} (h : k ∉ env.map (·.1)) : env.get? k = none := by
  induction env with
  | nil => rfl
  | cons p env ih =>
    rw [List.map_cons, List.mem_cons, not_or] at h
    obtain ⟨hne, hrest⟩ := h
    simp [get?, Ne.symm hne, ih hrest]

/-- **A later layer wins.** -/
theorem get?_override (env : Env) {more : Env} (h : more.Distinct) (k : String) :
    (env.override more).get? k = (more.get? k).or (env.get? k) := by
  induction more generalizing env with
  | nil => rfl
  | cons p more ih =>
    obtain ⟨n, v⟩ := p
    unfold Distinct at h ih
    rw [List.map_cons, List.nodup_cons] at h
    obtain ⟨hfresh, hrest⟩ := h
    show ((env.set n v).override more).get? k = _
    rw [ih (env.set n v) hrest, get?_set]
    by_cases hk : n = k
    · -- The variable is not given again.
      subst hk
      simp [get?, get?_eq_none hfresh]
    · simp [get?, hk, Ne.symm hk]

/-- **The three layers**: the stage's own entries, then the overlay, then the
    parent's environment if it is inherited. -/
theorem get?_layered (parent : Env) {overlay own : Env} (hoverlay : overlay.Distinct)
    (hown : own.Distinct) (inherit : Bool) (k : String) :
    (layered parent overlay own inherit).get? k =
      (own.get? k).or ((overlay.get? k).or (if inherit then parent.get? k else none)) := by
  unfold layered
  rw [get?_override _ hown, get?_override _ hoverlay]
  cases inherit with
  | true => rfl
  | false => rfl

end Env

namespace Machine

/-! ### The processes of a chain -/

/-- The processes that were started for a chain, the first one first, whether
    all of its stages were started or not. -/
def started : Except (Fault × Stream) Stream → List Process
  | .ok s => s.lineage.processes.reverse
  | .error (_, s) => s.lineage.processes.reverse

variable {m : Machine} {overlay : Env} {inherit : Bool}

/-- **Each process of a chain sees the three layers** of its own stage. -/
theorem Starts.get?_env {l : Launched} (h : m.Starts overlay inherit l)
    (hoverlay : overlay.Distinct) (hown : (l.stage.env.getD []).Distinct) (k : String) :
    l.call.env.get? k =
      ((l.stage.env.getD []).get? k).or
        ((overlay.get? k).or (if inherit then m.env.get? k else none)) := by
  rw [h.env]
  exact Env.get?_layered m.env hoverlay hown inherit k

/-- The processes of a chain on a source are those of the stages up to the first
    one that is refused. -/
theorem exists_started (m : Machine) (overlay : Env) (inherit : Bool) (stages : List Stage)
    {input : Stream} (hinput : input.lineage.processes = []) :
    ∃ ls : List Launched, (∀ l ∈ ls, m.Starts overlay inherit l) ∧
      ls.map (·.stage) <+: stages ∧
      (started (m.chain overlay inherit stages input)).map Process.given = ls.map Launched.given ∧
      ∀ s, m.chain overlay inherit stages input = .ok s →
        ls.map (·.stage) = stages ∧ s.bytes = Launched.feed ls input.bytes := by
  obtain ⟨ls, hstart, hends⟩ := m.exists_launched overlay inherit stages
  obtain ⟨s, hchain, hbytes, -⟩ := chain_of_starts ls hstart input
  have hgiven := chain_given hstart hchain
  rw [hinput, List.map_nil, List.append_nil] at hgiven
  refine ⟨ls, hstart, ?_⟩
  rcases hends with hall | ⟨stage, rest, cause, hsplit, hcause⟩
  · rw [hall] at hchain
    refine ⟨hall ▸ List.prefix_rfl, ?_, ?_⟩
    · rw [hchain, started, List.map_reverse, hgiven, List.reverse_reverse]
    · intro t ht
      cases hchain.symm.trans ht
      exact ⟨hall, hbytes⟩
  · have hstops := chain_stops rest hchain hcause
    rw [← hsplit] at hstops
    refine ⟨⟨stage :: rest, hsplit.symm⟩, ?_, ?_⟩
    · rw [hstops]
      split
      · -- Closing the stages that were started changes nothing of what they were given.
        show (s.lineage.close.processes.reverse).map Process.given = _
        rw [List.map_reverse, Lineage.map_close Lineage.blind_given, hgiven, List.reverse_reverse]
      · rw [started, List.map_reverse, hgiven, List.reverse_reverse]
    · intro t ht
      cases hstops.symm.trans ht

end Machine

namespace Pipeline

variable {ν : Type}

/-! ### Executing a plan -/

/-- The execution of a plan whose overlay is known: its chain, and what is done
    with the stream that comes out of it. -/
theorem runOn_execute {o : PipelineOptions ν} {p : Plan} {d d₁ : Diary} {s s₁ : Site ν}
    {overlay : Env} (hproject : (overlayOf o p).runOn d s = (.ok overlay, d₁, s₁)) :
    match s₁.machine.chain overlay o.inheritEnv p.stages .empty with
    | .ok stream => ∃ d₂ d₃ d' r s',
        (deliver o p stream).runOn d₂ s₁ = (r, d₃, s') ∧ (execute o p).runOn d s = (r, d', s')
    | .error (f, _) => ∃ d', (execute o p).runOn d s = (.error f, d', s₁) := by
  let metrics : Fields :=
    [("capexec", .str p.source.name), ("multi", .bool p.source.parsed.isMulti)]
  obtain ⟨d₂, hstart, -⟩ :=
    ends_start o overlay p s₁ (d₁.stepping "fs.execute" stepOptions metrics)
  have hexecute : (execute o p).runOn d s =
      (Act.logStep "fs.execute" stepOptions metrics fun _ => do
        deliver o p (← start o overlay p)).runOn d₁ s₁ := by
    unfold execute
    rw [Act.runOn_bind, hproject]
  rw [hexecute, Act.runOn_logStep, Act.runOn_bind, hstart]
  cases s₁.machine.chain overlay o.inheritEnv p.stages .empty with
  | ok stream => exact ⟨d₂, _, _, _, _, rfl, rfl⟩
  | error e => exact ⟨_, rfl⟩

/-- A machine whose environment gives two variables. -/
def layersMachine : Machine := { greetMachine with env := [("A", "machine"), ("B", "machine")] }

/-- A plan whose first stage gives one of them too, and whose second one gives one
    of the overlay's. -/
def layersPlan : Plan :=
  { greetPlan with
    pre := [{ greetStage with env := some [("A", "first")] }]
    sink := { greetStage with env := some [("CAPEXEC_MODE", "own")] }
    post := [greetStage] }

/-- Its stages can be started. -/
theorem starts_layers (stage : Stage) (hstage : stage ∈ layersPlan.stages) :
    ∃ l, l.stage = stage ∧ layersMachine.Starts greetOverlay true l := by
  have hname : Tree.Nameable ((Path.mk .root []).child "greet") "greet" :=
    ⟨rfl, by decide, rfl, by decide, by decide⟩
  have hpart : Path.IsPart "greet" := ⟨by decide, by decide, by decide⟩
  have hpath : ((Path.mk .root []).child "greet").toString = "/greet" := by decide
  have hfound : ∀ env, layersMachine.firstProgram [] .noEntry (Machine.candidates env "/greet") =
      .ok greet := fun env =>
    Machine.firstProgram_in_root hname hpart hpath rfl (by decide) rfl rfl env []
  have hstart : ∀ own : Option Env,
      Machine.refusal? (layersMachine.envOf greetOverlay true { greetStage with env := own })
        { greetStage with env := own } = none →
      ∃ l, l.stage = { greetStage with env := own } ∧
        layersMachine.Starts greetOverlay true l := fun own hgiven =>
    ⟨⟨_, greet, _⟩, rfl, Machine.launch_of_found hgiven rfl (hfound _)⟩
  simp only [layersPlan, Plan.stages, List.cons_append, List.nil_append, List.mem_cons,
    List.not_mem_nil, or_false] at hstage
  rcases hstage with rfl | rfl | rfl
  · exact hstart _ (by decide)
  · exact hstart _ (by decide)
  · exact hstart none (by decide)

end Pipeline

end SinkPipeline
