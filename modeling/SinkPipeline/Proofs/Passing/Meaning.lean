import SinkPipeline.Proofs.Passing.Stepping

/-! # What a pass means

  A pass **handles** the sinks below its roots one after the other: each has its
  outcome on the machine as those before it have left it.  A fault ends the pass
  under one policy, and is passed over under the other.

  - A pass gives what this says, whatever the fuel if it is enough.  So the
    files that it writes while its discovery is still under way change nothing
    about the sinks that it finds.
  - If the programs are indifferent to generated files, and the plans spare
    them, every outcome is the one that the sink has on the machine from before
    the pass.
-/

namespace SinkPipeline.Pass

open Pipeline

/-! ### Handling sinks -/

/-- The sinks that are handled, each with its output if it has one: all sinks,
    or all up to the first one without. -/
def handle (o : RunOptions) (settings : Settings) (mode : Mode) (policy : Policy) (m : Machine) :
    List FileSink → List (FileSink × Option Bytes)
  | [] => []
  | s :: ss =>
    let output := (outcome o settings mode m s).toOption
    (s, output) ::
      if policy = .abort ∧ output = none then []
      else handle o settings mode policy (settle m s output) ss

/-- The fault of the first sink without an output. -/
def firstFault (o : RunOptions) (settings : Settings) (mode : Mode) (m : Machine) :
    List FileSink → Option Fault
  | [] => none
  | s :: ss =>
    match outcome o settings mode m s with
    | .error f => some f
    | .ok bytes => firstFault o settings mode (settle m s (some bytes)) ss

/-- The fault that ends the pass, if one does. -/
def ending (o : RunOptions) (settings : Settings) (mode : Mode) (policy : Policy) (m : Machine)
    (ss : List FileSink) : Option Fault :=
  if policy = .abort then firstFault o settings mode m ss else none

/-- The machine once the sinks have been handled: the file of each sink with an
    output holds that output. -/
def settled (m : Machine) (handled : List (FileSink × Option Bytes)) : Machine :=
  handled.foldl (fun m p => settle m p.1 p.2) m

/-- The sinks that were executed, as the summary lists them, but for how long
    that took: those with an output. -/
def executedOf (handled : List (FileSink × Option Bytes)) : List ExecutedSink :=
  handled.filterMap fun p => p.2.map fun _ =>
    { name := p.1.name, sink := p.1.key, written := [outputPath p.1] }

/-- An executed sink without how long it took. -/
def untimed (e : ExecutedSink) : ExecutedSink := { e with elapsed := 0.0 }

/-- What is reported of one sink: that it was prepared, then that it was
    executed or failed. -/
def storyOf (p : FileSink × Option Bytes) : List (String × Json) :=
  [("capexec.prepared", .str p.1.name),
    (if p.2.isSome then "capexec.executed" else "capexec.error", .str p.1.name)]

/-- What is reported of a pass: what is reported of each sink that is handled
    and, if no fault ends the pass, its end. -/
def story (policy : Policy) (handled : List (FileSink × Option Bytes)) : List (String × Json) :=
  handled.flatMap storyOf ++
    if policy = .abort ∧ handled.any (·.2.isNone) = true then []
    else [("capexec.run_complete", .null)]

/-! ### What a pass lists -/

/-- From any cursor of the kind, the pass lists these sinks but for how long each
    took, and ends in the fault, if there is one. -/
def SumsUp {ν : Type} (o : RunOptions) (settings : Settings) (n : Nat) (site : Site ν)
    (C : RunCursor → Prop) (listed : List ExecutedSink) (fault : Option Fault) (site' : Site ν)
    (h : List (String × Json)) : Prop :=
  (events o settings).Takes (fun e => return executedOf? e) n site C
    (fun items => (items.filterMap id).map untimed = listed) fault site' h

section

variable {ν : Type} {o : RunOptions} {settings : Settings} {n : Nat} {site site₁ site' : Site ν}
  {C C' : RunCursor → Prop} {listed : List ExecutedSink} {fault : Option Fault}
  {h h₁ h₂ : List (String × Json)}

theorem sumsUp_done (hstep : ∀ x, C x → ((events o settings).step x).Ends site (.ok .done) site' h) :
    SumsUp o settings 1 site C [] none site' h := by
  refine (Source.takes_done hstep).mono ?_
  rintro _ rfl
  rfl

theorem sumsUp_fail {f : Fault}
    (hstep : ∀ x, C x → ((events o settings).step x).Ends site (.error f) site' h) :
    SumsUp o settings 1 site C [] (some f) site' h := by
  refine (Source.takes_fail hstep).mono ?_
  rintro _ rfl
  rfl

/-- A plan that is prepared is not listed. -/
theorem sumsUp_prepared {p : Plan}
    (hstep : ∀ x, C x → ((events o settings).step x).Gives site
      (fun q => ∃ i x', q = .item i x' ∧ i = .prepared p ∧ C' x') site₁ h₁)
    (hrest : SumsUp o settings n site₁ C' listed fault site' h₂) :
    SumsUp o settings (n + 1) site C listed fault site' (h₁ ++ h₂) := by
  have htakes := Source.takes_item (B := (· = none)) hstep
    (fun i hi => Act.gives_pure (by rw [hi]; rfl) _) hrest
  refine htakes.mono ?_
  rintro _ ⟨_, items, rfl, rfl, hitems⟩
  exact hitems

/-- A plan that is executed is listed. -/
theorem sumsUp_executed {p : Plan} {r : Delivered} {e : ExecutedSink}
    (he : ∀ elapsed, (executedOf? (.executed p r elapsed)).map untimed = some e)
    (hstep : ∀ x, C x → ((events o settings).step x).Gives site
      (fun q => ∃ i x', q = .item i x' ∧ (∃ elapsed, i = .executed p r elapsed) ∧ C' x') site₁ h₁)
    (hrest : SumsUp o settings n site₁ C' listed fault site' h₂) :
    SumsUp o settings (n + 1) site C (e :: listed) fault site' (h₁ ++ h₂) := by
  have hmade : ∀ i : RunEvent Plan Delivered, (∃ elapsed, i = .executed p r elapsed) →
      (pure (executedOf? i) : Act (Site ν) _).Gives site₁ (fun b => b.map untimed = some e) site₁ := by
    rintro _ ⟨elapsed, rfl⟩
    exact Act.gives_pure (R := fun b => Option.map untimed b = some e) (he elapsed) _
  refine (Source.takes_item hstep hmade hrest).mono ?_
  rintro _ ⟨b, items, rfl, hb, hitems⟩
  obtain ⟨e', rfl, rfl⟩ := Option.map_eq_some_iff.mp hb
  rw [← hitems]
  rfl

end

/-! ### Handling the sinks of a list -/

section

variable {o : RunOptions} {settings : Settings} {mode : Mode} {policy : Policy} {m : Machine}
  {s : FileSink} {ss : List FileSink}

/-- After a sink with an output the rest is handled. -/
theorem handle_cons_of_ok {bytes : Bytes} (hout : outcome o settings mode m s = .ok bytes) :
    handle o settings mode policy m (s :: ss) =
      (s, some bytes) :: handle o settings mode policy (settle m s (some bytes)) ss := by
  simp [handle, hout, Except.toOption]

/-- So it is after one without, under one policy. -/
theorem handle_skip_cons_of_error {f : Fault} (hout : outcome o settings mode m s = .error f) :
    handle o settings mode .skip m (s :: ss) = (s, none) :: handle o settings mode .skip m ss := by
  simp [handle, hout, Except.toOption, settle]

/-- Under the other policy nothing is handled after it. -/
theorem handle_abort_cons_of_error {f : Fault} (hout : outcome o settings mode m s = .error f) :
    handle o settings mode .abort m (s :: ss) = [(s, none)] := by
  simp [handle, hout, Except.toOption]

theorem ending_cons_of_ok {bytes : Bytes} (hout : outcome o settings mode m s = .ok bytes) :
    ending o settings mode policy m (s :: ss) =
      ending o settings mode policy (settle m s (some bytes)) ss := by
  simp only [ending, firstFault, hout]

theorem story_cons_of_some (bytes : Bytes) (handled : List (FileSink × Option Bytes)) :
    story policy ((s, some bytes) :: handled) = storyOf (s, some bytes) ++ story policy handled := by
  unfold story
  rw [List.flatMap_cons, List.any_cons, Option.isNone_some, Bool.false_or, List.append_assoc]

theorem story_skip_cons (p : FileSink × Option Bytes) (handled : List (FileSink × Option Bytes)) :
    story .skip (p :: handled) = storyOf p ++ story .skip handled := by
  simp [story]

/-! ### A whole pass -/

variable {ν : Type}

/-- From any cursor of the kind, the pass handles the sinks: it lists those that
    were executed, ends in the fault that ends it, and leaves the machine as
    they settle it. -/
def Handles (o : RunOptions) (settings : Settings) (mode : Mode) (policy : Policy) (site : Site ν)
    (C : RunCursor → Prop) (ss : List FileSink) (h : List (String × Json)) : Prop :=
  ∃ n refused, (events o settings).Takes (fun e => return executedOf? e) n site C
    (fun items => (items.filterMap id).map untimed =
      executedOf (handle o settings mode policy site.machine ss))
    (ending o settings mode policy site.machine ss)
    { site with
      machine := settled site.machine (handle o settings mode policy site.machine ss)
      refused := refused } h

/-- **A plan that is held** is executed, and the rest is handled if there is an
    output or the policy says so. -/
theorem handles_holding {site : Site ν} {dir : Path} {name : String} {c : SinkCursor}
    (hm : site.machine.Sane) (hfound : FoundAt site.machine dir name s)
    (hsingle : s.parsed.isMulti = false) (hwrites : mode.writes = true)
    (hrest : ∀ output, (outcome o settings mode site.machine s).toOption = output →
      Handles o settings mode policy { site with machine := settle site.machine s output }
        (Seeks mode policy c) ss
        (story policy (handle o settings mode policy (settle site.machine s output) ss))) :
    Handles o settings mode policy site
      (Holds mode policy s (planOf o settings mode site.machine s) c) (s :: ss)
      (story policy (handle o settings mode policy site.machine (s :: ss))).tail := by
  unfold Handles
  cases hout : outcome o settings mode site.machine s with
  | ok bytes =>
    obtain ⟨n, refused, hn⟩ := hrest (some bytes) (by rw [hout]; rfl)
    rw [handle_cons_of_ok hout, ending_cons_of_ok hout, story_cons_of_some]
    refine ⟨n + 1, refused, ?_⟩
    exact sumsUp_executed (fun _ => rfl)
      (fun x hx => gives_holding_ok hm hfound hsingle hwrites hout hx) hn
  | error f =>
    -- Without an output, the policy says whether the rest is handled.
    cases policy with
    | skip =>
      obtain ⟨n, refused, hn⟩ := hrest none (by rw [hout]; rfl)
      rw [handle_skip_cons_of_error hout, story_skip_cons]
      refine ⟨n + 1, refused, ?_⟩
      exact Source.takes_skip
        (fun x hx => gives_holding_skip hm hfound hsingle hwrites hout hx) hn
    | abort =>
      have hends : ending o settings mode .abort site.machine (s :: ss) = some f := by
        simp only [ending, firstFault, hout, if_true]
      rw [handle_abort_cons_of_error hout, hends]
      exact ⟨1, site.refused,
        sumsUp_fail fun x hx => ends_holding_abort hm hfound hsingle hwrites hout hx⟩

/-- **The sinks of a list are handled.**  The induction is on the list.  The
    machine changes with every sink, and stays alike to the one that the list
    was read off. -/
theorem handles_seeking (hm : m.Sane) (hwrites : mode.writes = true)
    (hsingle : ∀ s ∈ ss, s.parsed.isMulti = false) {site : Site ν} (hsane : site.machine.Sane)
    (halike : m.Alike site.machine) {c : SinkCursor} (hc : SoundAt site.machine c)
    (hlists : Lists m (tidy c) ss) :
    Handles o settings mode policy site (Seeks mode policy c) ss
      (story policy (handle o settings mode policy site.machine ss)) := by
  induction ss generalizing site c with
  | nil =>
    obtain ⟨c', hmoves, ⟨-, hdone⟩ | ⟨_, _, _, _, _, hcons, -⟩⟩ :=
      moves_of_lists hm hsane halike hc hlists
    · refine takes_of_moves (C := Seeks mode policy) (fun s _ _ hfind => gives_seeking_skip s hfind)
        hmoves fun refused => ?_
      obtain ⟨refused', hstep⟩ := ends_seeking_done o settings mode policy
        { site with refused := refused } hdone
      have hstory : story policy (handle o settings mode policy site.machine []) =
          [("capexec.run_complete", .null)] := by simp [story, handle]
      have hends : ending o settings mode policy site.machine [] = none := by simp [ending, firstFault]
      rw [hstory, hends]
      exact ⟨1, refused', sumsUp_done hstep⟩
    · cases hcons
  | cons s ss ih =>
    obtain ⟨c', hmoves, ⟨hnil, -⟩ | ⟨_, _, next, dir, name, hcons, hfind, hsound, hrest, hfound⟩⟩ :=
      moves_of_lists hm hsane halike hc hlists
    · cases hnil
    cases hcons
    refine takes_of_moves (C := Seeks mode policy) (fun s _ _ hfind => gives_seeking_skip s hfind)
      hmoves fun refused => ?_
    obtain ⟨refused', hprepared⟩ := gives_seeking_item o settings mode policy
      { site with refused := refused } hfind
    -- What is done with the sink leaves a machine that is still alike to `m`.
    have hholding : Handles o settings mode policy { site with refused := refused' }
        (Holds mode policy s (planOf o settings mode site.machine s) next) (s :: ss)
        (story policy (handle o settings mode policy site.machine (s :: ss))).tail := by
      refine handles_holding hsane hfound
        (hsingle s (by simp)) hwrites fun output houtput => ?_
      subst houtput
      obtain ⟨hstill, hstays⟩ :=
        settle_alike o settings mode hsane hfound
      exact ih (fun t ht => hsingle t (by simp [ht])) hstays (halike.trans hstill)
        (hsound.alike hsane hstill) hrest
    obtain ⟨n, refused'', hn⟩ := hholding
    have hsums := sumsUp_prepared hprepared hn
    exact ⟨n + 1, refused'', hsums⟩

end

end SinkPipeline.Pass
