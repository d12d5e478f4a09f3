import SinkPipeline.Proofs.Outcome

/-! # One step of a pass

  While a pass **seeks** the next sink it moves as its discovery does.  When it
  finds one, it prepares the sink's plan and **holds** it.  Then it executes the
  plan, and seeks on or ends in a fault, as the outcome and the policy say.

  The ids of a run and how long things took are the only values of its cursor
  that depend on what has been noted before, so steps are said for any of them.
-/

namespace SinkPipeline

namespace Pass

open Pipeline

variable {ν : Type} {o : RunOptions} {settings : Settings} {mode : Mode} {policy : Policy}

/-- The pass seeks its next sink from the cursor of its discovery. -/
def Seeks (mode : Mode) (policy : Policy) (c : SinkCursor) (x : RunCursor) : Prop :=
  ∃ r : Orchestrator.Run, r.mode = mode ∧ r.policy = policy ∧ x = .seeking r c

/-- The pass holds the plan of a sink. -/
def Holds (mode : Mode) (policy : Policy) (s : FileSink) (p : Plan) (c : SinkCursor) (x : RunCursor) :
    Prop :=
  ∃ r : Orchestrator.Run, r.mode = mode ∧ r.policy = policy ∧ x = .holding r s p c

/-- The options of a pass leave preparing to the library. -/
theorem plain_pipeline (o : RunOptions) (settings : Settings) :
    Plain (pipeline o settings : PipelineOptions ν) := ⟨rfl, rfl, rfl, rfl, rfl, rfl⟩

/-- **A pass begins** to seek. -/
theorem gives_start (settings : Settings) (hmode : o.mode = mode.word)
    (hpolicy : o.onError = policy.word) (c : SinkCursor) (site : Site ν) {x : RunCursor} (hx : x = .unstarted c) :
    ((events o settings).step x).Gives site (fun p => ∃ x', p = .skip x' ∧ Seeks mode policy c x')
      site := by
  subst hx
  have hpolicyOf : Policy.ofValue (.str o.onError) = .ok policy := by
    rw [hpolicy]
    cases policy <;> rfl
  have hmodeOf : Mode.ofValue (.str o.mode) = .ok mode := by
    rw [hmode]
    cases mode <;> rfl
  have hstart : (Orchestrator.start (orchestration o) : Act (Site ν) _).Gives site
      (fun r => r.mode = mode ∧ r.policy = policy) site := by
    unfold Orchestrator.start orchestration
    dsimp only
    rw [hpolicyOf, hmodeOf]
    refine (Act.ends_ofExcept _ site).bind_gives_silent ?_
    refine (Act.ends_ofExcept _ site).bind_gives_silent ?_
    exact Act.notes_newRunId.bind_gives fun id => Act.gives_pure ⟨rfl, rfl⟩ site
  refine hstart.bind_gives ?_
  rintro r ⟨hr, hr'⟩
  exact Act.gives_pure ⟨_, rfl, r, hr, hr', rfl⟩ site

/-- **A pass that seeks** moves on as its discovery does. -/
theorem gives_seeking_skip (site : Site ν) {c c' : SinkCursor} (hfind : find site.machine c = .skip c') :
    ∃ refused, ∀ x, Seeks mode policy c x → ((events o settings).step x).Gives site
      (fun p => ∃ x', p = .skip x' ∧ Seeks mode policy c' x') { site with refused := refused } := by
  obtain ⟨refused, hstep⟩ := ends_find c site
  rw [hfind] at hstep
  refine ⟨refused, ?_⟩
  rintro x ⟨r, hmode, hpolicy, rfl⟩
  exact hstep.bind_gives_silent (Act.gives_pure ⟨_, rfl, r, hmode, hpolicy, rfl⟩ _)

/-- **A pass ends** when its discovery does. -/
theorem ends_seeking_done (o : RunOptions) (settings : Settings) (mode : Mode) (policy : Policy)
    (site : Site ν) {c : SinkCursor} (hfind : find site.machine c = .done) :
    ∃ refused, ∀ x, Seeks mode policy c x → ((events o settings).step x).Ends site (.ok .done)
      { site with refused := refused } [("capexec.run_complete", .null)] := by
  obtain ⟨refused, hstep⟩ := ends_find c site
  rw [hfind] at hstep
  refine ⟨refused, ?_⟩
  rintro x ⟨r, hmode, hpolicy, rfl⟩
  refine hstep.bind ?_
  exact (Act.ends_log "debug" "capexec.run_complete" _ _).bind_silent (Act.ends_pure _ _)

/-- **A sink that is found is prepared**: the pass tells so, and holds its plan. -/
theorem gives_seeking_item (o : RunOptions) (settings : Settings) (mode : Mode) (policy : Policy)
    (site : Site ν) {c c' : SinkCursor} {s : FileSink}
    (hfind : find site.machine c = .item s c') :
    ∃ refused, ∀ x, Seeks mode policy c x → ((events o settings).step x).Gives site
      (fun p => ∃ i x', p = .item i x' ∧ i = .prepared (planOf o settings mode site.machine s) ∧
        Holds mode policy s (planOf o settings mode site.machine s) c' x')
      { site with refused := refused } [("capexec.prepared", .str s.name)] := by
  obtain ⟨refused, hstep⟩ := ends_find c site
  rw [hfind] at hstep
  refine ⟨refused, ?_⟩
  rintro x ⟨r, rfl, rfl, rfl⟩
  refine hstep.bind_gives ?_
  have hprepare := (ends_prepare (plain_pipeline o settings) o.context s r.mode
    { site with refused := refused }).withContext (Orchestrator.workContext r (.str s.name) "prepare")
  refine hprepare.bind_gives ?_
  refine (Act.ends_log "debug" "capexec.prepared" _ _).bind_gives_silent ?_
  exact Act.gives_pure ⟨_, _, rfl, rfl, r, rfl, rfl, rfl⟩ _

/-! ### Plans that are held -/

section

variable {site site' : Site ν} {s : FileSink} {p : Plan} {c : SinkCursor} {x : RunCursor}

/-- **A plan whose execution gives something**: the pass tells so, and seeks on. -/
theorem gives_holding_of_ok {r : Delivered}
    (hexecute : (execute (pipeline o settings) p).Ends site (.ok r) site')
    (hx : Holds mode policy s p c x) :
    ((events o settings).step x).Gives site
      (fun q => ∃ i x', q = .item i x' ∧ (∃ elapsed, i = .executed p r elapsed) ∧
        Seeks mode policy c x')
      site' [("capexec.executed", .str s.name)] := by
  obtain ⟨run, hmode, hpolicy, rfl⟩ := hx
  have hwork := Act.gives_timedResult (fun _ => hexecute) (.str "capexec.execute")
  refine (hwork.withContext (Orchestrator.workContext run (.str s.name) "execute")).bind_gives ?_
  rintro _ ⟨⟨n, _⟩, rfl, rfl⟩
  refine Act.notes_diary.bind_gives fun d => (Act.notes_timer? n).bind_gives fun t => ?_
  refine (Act.ends_log "info" "capexec.executed" _ _).bind_gives_silent ?_
  refine Act.gives_pure ⟨_, _, rfl, ⟨_, rfl⟩, ?_⟩ _
  exact ⟨{ run with processed := run.processed + 1 }, hmode, hpolicy, rfl⟩

variable {f : Fault}

/-- **A plan whose execution fails is skipped** under that policy: the pass tells
    so, and seeks on. -/
theorem gives_holding_of_error
    (hexecute : (execute (pipeline o settings) p).Ends site (.error f) site')
    (hf : f.isOrdinary = true) (hx : Holds mode .skip s p c x) :
    ((events o settings).step x).Gives site
      (fun q => ∃ x', q = .skip x' ∧ Seeks mode .skip c x') site'
      [("capexec.error", .str s.name)] := by
  obtain ⟨run, hmode, hpolicy, rfl⟩ := hx
  have hwork := Act.ends_timedResult_error (fun _ => hexecute) (.str "capexec.execute")
  refine (hwork.withContext (Orchestrator.workContext run (.str s.name) "execute")).bind_gives ?_
  dsimp only [Orchestrator.onFault]
  rw [if_pos hf, hpolicy]
  refine (Act.ends_log "error" "capexec.error" _ site').bind_gives_silent ?_
  exact Act.gives_pure
    ⟨_, rfl, { run with policy := .skip, failed := run.failed + 1 }, hmode, rfl, rfl⟩ _

/-- **A plan whose execution fails ends the pass** under the other policy. -/
theorem ends_holding_of_error
    (hexecute : (execute (pipeline o settings) p).Ends site (.error f) site')
    (hf : f.isOrdinary = true) (hx : Holds mode .abort s p c x) :
    ((events o settings).step x).Ends site (.error f) site'
      [("capexec.error", .str s.name)] := by
  obtain ⟨run, hmode, hpolicy, rfl⟩ := hx
  have hwork := Act.ends_timedResult_error (fun _ => hexecute) (.str "capexec.execute")
  refine (hwork.withContext (Orchestrator.workContext run (.str s.name) "execute")).bind ?_
  dsimp only [Orchestrator.onFault]
  rw [if_pos hf, hpolicy]
  exact (Act.ends_log "error" "capexec.error" _ site').bind_silent (Act.ends_fail f site')

end

section

variable {site : Site ν} {dir : Path} {name : String} {s : FileSink} {c : SinkCursor} {x : RunCursor}

/-- The execution of the plan of a sink ends as its outcome says. -/
theorem ends_execute_planOf (o : RunOptions) (settings : Settings) (hm : site.machine.Sane)
    (h : FoundAt site.machine dir name s) (hsingle : s.parsed.isMulti = false) (hwrites : mode.writes = true) :
    (execute (pipeline o settings) (planOf o settings mode site.machine s)).Ends site
      ((outcome o settings mode site.machine s).map (delivered s))
      { site with
        machine := settle site.machine s (outcome o settings mode site.machine s).toOption } := by
  have hoverlay : (overlayOf (pipeline o settings : PipelineOptions ν)
      (planOf o settings mode site.machine s)).Ends site (.ok (projectEnv s o.context mode)) site :=
    Act.ends_pure _ site
  have hexecute := ends_execute (o := pipeline o settings) rfl
    (p := planOf o settings mode site.machine s) hsingle hwrites hoverlay
  have hcarried := carryOut_eq o settings mode hm h
  have hinherit : (pipeline o settings : PipelineOptions ν).inheritEnv = settings.inheritEnv := rfl
  rwa [hinherit, hcarried] at hexecute

/-- **A plan with an output is executed**: the pass tells so, and seeks on. -/
theorem gives_holding_ok (hm : site.machine.Sane) (h : FoundAt site.machine dir name s)
    (hsingle : s.parsed.isMulti = false) (hwrites : mode.writes = true) {bytes : Bytes}
    (hout : outcome o settings mode site.machine s = .ok bytes)
    (hx : Holds mode policy s (planOf o settings mode site.machine s) c x) :
    ((events o settings).step x).Gives site
      (fun p => ∃ i x', p = .item i x' ∧
        (∃ elapsed, i = .executed (planOf o settings mode site.machine s) (delivered s bytes) elapsed) ∧
        Seeks mode policy c x')
      { site with machine := settle site.machine s (some bytes) }
      [("capexec.executed", .str s.name)] := by
  have hexecute := ends_execute_planOf o settings hm h hsingle hwrites
  rw [hout] at hexecute
  exact gives_holding_of_ok hexecute hx

section

variable {f : Fault}

/-- **A plan without an output is skipped** under that policy: the pass tells so,
    and seeks on. -/
theorem gives_holding_skip (hm : site.machine.Sane) (h : FoundAt site.machine dir name s)
    (hsingle : s.parsed.isMulti = false) (hwrites : mode.writes = true)
    (hout : outcome o settings mode site.machine s = .error f)
    (hx : Holds mode .skip s (planOf o settings mode site.machine s) c x) :
    ((events o settings).step x).Gives site (fun p => ∃ x', p = .skip x' ∧ Seeks mode .skip c x') site
      [("capexec.error", .str s.name)] := by
  have hexecute := ends_execute_planOf o settings hm h hsingle hwrites
  rw [hout] at hexecute
  have hf := Fault.isOrdinary_of_isEngine (isEngine_of_outcome hm h hout)
  exact gives_holding_of_error hexecute hf hx

/-- **A plan without an output ends the pass** under the other policy. -/
theorem ends_holding_abort (hm : site.machine.Sane) (h : FoundAt site.machine dir name s)
    (hsingle : s.parsed.isMulti = false) (hwrites : mode.writes = true)
    (hout : outcome o settings mode site.machine s = .error f)
    (hx : Holds mode .abort s (planOf o settings mode site.machine s) c x) :
    ((events o settings).step x).Ends site (.error f) site [("capexec.error", .str s.name)] := by
  have hexecute := ends_execute_planOf o settings hm h hsingle hwrites
  rw [hout] at hexecute
  have hf := Fault.isOrdinary_of_isEngine (isEngine_of_outcome hm h hout)
  exact ends_holding_of_error hexecute hf hx

end

end

end Pass

end SinkPipeline
