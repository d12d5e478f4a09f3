import SinkPipeline.Proofs.Passing.Whole

/-! # What a pass leaves

  Whatever a pass is asked for, it gives a summary, and the machine that it leaves
  is **alike**: of the files only generated ones have changed.  This holds in every
  mode, a dry run included, under both policies, for every way in which sinks fail,
  and if the mode or the policy that was asked for is none.

  - `exists_ends_execute`: what one execution does, in every mode.
  - `Settles.skip`, `Settles.item`, `Settles.done`, `Settles.fail`: one step.
  - `settles_seeking`: the sinks of a list, by induction over the list.
-/

namespace SinkPipeline

/-- Of things that are found by their words, the one found has the word. -/
theorem word_of_find? {α : Type} {wordOf : α → String} {all : List α} {word : String} {x : α}
    (h : all.find? (fun y => (Json.str word).str? == some (wordOf y)) = some x) :
    word = wordOf x := by
  have hsame := List.find?_some h
  simpa [Json.str?] using hsame

/-- A word that spells a mode is the word for it. -/
theorem Mode.word_of_ofValue {word : String} {mode : Mode} (h : Mode.ofValue (.str word) = .ok mode) :
    word = mode.word := by
  unfold Mode.ofValue at h
  split at h
  · next hfind =>
    cases h
    exact word_of_find? hfind
  · cases h

/-- A word that spells a policy is the word for it. -/
theorem Policy.word_of_ofValue {word : String} {policy : Policy}
    (h : Policy.ofValue (.str word) = .ok policy) : word = policy.word := by
  unfold Policy.ofValue at h
  split at h
  · next hfind =>
    cases h
    exact word_of_find? hfind
  · cases h

/-- A word that spells no mode is reported by a fault of this library. -/
theorem Mode.isEngine_of_ofValue {v : Json} {f : Fault} (h : Mode.ofValue v = .error f) :
    f.isEngine = true := by
  unfold Mode.ofValue at h
  split at h
  · cases h
  · cases h
    rfl

/-- So is one that spells no policy. -/
theorem Policy.isEngine_of_ofValue {v : Json} {f : Fault} (h : Policy.ofValue v = .error f) :
    f.isEngine = true := by
  unfold Policy.ofValue at h
  split at h
  · cases h
  · cases h
    rfl

namespace Pass

open Pipeline

variable {ν : Type} {o : RunOptions} {settings : Settings}

/-! ### One execution -/

/-- **In every mode** the execution of a sink's plan gives something or ends in a
    fault of this library, and leaves an alike machine. -/
theorem exists_ends_execute (o : RunOptions) (settings : Settings) (mode : Mode) {site : Site ν}
    {dir : Path} {name : String} {s : FileSink} (hm : site.machine.Sane)
    (hfound : FoundAt site.machine dir name s) (hsingle : s.parsed.isMulti = false) :
    ∃ r after, (execute (pipeline o settings) (planOf o settings mode site.machine s)).Ends site r
        { site with machine := after } ∧
      (∀ f, r = .error f → f.isEngine = true) ∧ site.machine.Alike after ∧ after.Sane := by
  by_cases hwrites : mode.writes = true
  · -- What is written is the output of the sink, so the file is a generated one.
    have hexecute := ends_execute_planOf o settings hm hfound hsingle hwrites
    have hsettled := settle_alike o settings mode hm hfound
    refine ⟨_, _, hexecute, ?_, hsettled⟩
    intro f hf
    cases hout : outcome o settings mode site.machine s with
    | ok bytes =>
      rw [hout] at hf
      cases hf
    | error g =>
      rw [hout] at hf
      cases hf
      exact isEngine_of_outcome hm hfound hout
  · -- Nothing is written, so nothing has changed.
    have hoverlay : (overlayOf (pipeline o settings : PipelineOptions ν)
        (planOf o settings mode site.machine s)).Ends site (.ok (projectEnv s o.context mode)) site :=
      Act.ends_pure _ site
    have hdry : (planOf o settings mode site.machine s).mode.writes = false := by
      show mode.writes = false
      simpa using hwrites
    have hexecute := ends_execute_dry (o := pipeline o settings) rfl rfl hdry hoverlay
    refine ⟨_, site.machine, hexecute, ?_, .refl _, hm⟩
    intro f hf
    have hfailing := failing_of_rehearse hf
    apply hfailing.isEngine
    intro stage hmem
    exact refusal?_of_mem_stages hm hfound hmem

/-! ### Steps of a pass -/

/-- From any cursor of the kind, the pass comes to its end, or to a fault of this
    library, and leaves an alike machine. -/
def Settles (o : RunOptions) (settings : Settings) (site : Site ν) (C : RunCursor → Prop) : Prop :=
  ∃ n site' fault told, (∀ f, fault = some f → f.isEngine = true) ∧
    site.machine.Alike site'.machine ∧ site'.machine.Sane ∧
    (events o settings).Takes (fun e => return executedOf? e) n site C (fun _ => True) fault site' told

section

variable {site site₁ : Site ν} {C C' : RunCursor → Prop} {told : List (String × Json)}

/-- A step that gives nothing. -/
theorem Settles.skip (hstep : ∀ x, C x → ((events o settings).step x).Gives site
      (fun p => ∃ x', p = .skip x' ∧ C' x') site₁ told)
    (halike : site.machine.Alike site₁.machine) (hrest : Settles o settings site₁ C') : Settles o settings site C := by
  obtain ⟨n, site', fault, more, hfault, halike', hsane, htakes⟩ := hrest
  exact ⟨n + 1, site', fault, told ++ more, hfault, halike.trans halike', hsane,
    Source.takes_skip hstep htakes⟩

/-- A step that gives an event. -/
theorem Settles.item {Q : RunEvent Plan Delivered → Prop}
    (hstep : ∀ x, C x → ((events o settings).step x).Gives site
      (fun p => ∃ i x', p = .item i x' ∧ Q i ∧ C' x') site₁ told)
    (halike : site.machine.Alike site₁.machine) (hrest : Settles o settings site₁ C') : Settles o settings site C := by
  obtain ⟨n, site', fault, more, hfault, halike', hsane, htakes⟩ := hrest
  refine ⟨n + 1, site', fault, told ++ more, hfault, halike.trans halike', hsane, ?_⟩
  -- What is done about the event changes nothing.
  have hpure : ∀ i, Q i → (return executedOf? i : Act (Site ν) _).Gives site₁ (fun _ => True) site₁ := by
    intro i _
    exact Act.gives_pure trivial site₁
  have htaken := Source.takes_item (B := fun _ => True) hstep hpure htakes
  exact htaken.mono fun _ _ => trivial

/-- A step that ends the pass. -/
theorem Settles.done
    (hstep : ∀ x, C x → ((events o settings).step x).Ends site (.ok .done) site₁ told)
    (halike : site.machine.Alike site₁.machine) (hsane : site₁.machine.Sane) :
    Settles o settings site C := by
  refine ⟨1, site₁, none, told, ?_, halike, hsane, (Source.takes_done hstep).mono fun _ _ => trivial⟩
  intro f hf
  cases hf

/-- A step that fails. -/
theorem Settles.fail {f : Fault} (hf : f.isEngine = true)
    (hstep : ∀ x, C x → ((events o settings).step x).Ends site (.error f) site₁ told)
    (halike : site.machine.Alike site₁.machine) (hsane : site₁.machine.Sane) :
    Settles o settings site C := by
  refine ⟨1, site₁, some f, told, ?_, halike, hsane,
    (Source.takes_fail hstep).mono fun _ _ => trivial⟩
  intro g hg
  cases hg
  exact hf

end

/-! ### Whole passes -/

section

variable {mode : Mode} {policy : Policy} {m : Machine} {site : Site ν} {ss : List FileSink}
  {c c' : SinkCursor}

/-- The pass moves as its discovery does. -/
theorem settles_of_moves (hmoves : Moves site.machine c c')
    (hrest : ∀ refused, Settles o settings { site with refused := refused } (Seeks mode policy c')) :
    Settles o settings site (Seeks mode policy c) := by
  generalize hmachine : site.machine = m at hmoves
  induction hmoves generalizing site with
  | here => exact hrest site.refused
  | @on c c₁ c' hfind _ ih =>
    obtain ⟨refused, hstep⟩ := gives_seeking_skip site (hmachine ▸ hfind)
    have hnext : Settles o settings { site with refused := refused } (Seeks mode policy c₁) :=
      ih hrest hmachine
    exact .skip hstep (.refl _) hnext

/-- **A plan that is held** is executed, and the pass seeks on or ends. -/
theorem settles_holding {s : FileSink} {dir : Path} {name : String} (hm : site.machine.Sane)
    (hfound : FoundAt site.machine dir name s) (hsingle : s.parsed.isMulti = false)
    (hrest : ∀ after, site.machine.Alike after → after.Sane →
      Settles o settings { site with machine := after } (Seeks mode policy c)) :
    Settles o settings site (Holds mode policy s (planOf o settings mode site.machine s) c) := by
  obtain ⟨r, after, hexecute, hengine, halike, hsane⟩ :=
    exists_ends_execute o settings mode hm hfound hsingle
  have hnext := hrest after halike hsane
  cases r with
  | ok result => exact .item (fun x hx => gives_holding_of_ok hexecute hx) halike hnext
  | error f =>
    have hf := hengine f rfl
    have hordinary := Fault.isOrdinary_of_isEngine hf
    -- Only now the policy matters: it says whether the pass seeks on.
    cases policy with
    | skip => exact .skip (fun x hx => gives_holding_of_error hexecute hordinary hx) halike hnext
    | abort => exact .fail hf (fun x hx => ends_holding_of_error hexecute hordinary hx) halike hsane

/-- **The sinks of a list are passed over**, on a machine that stays alike to the one
    that the list was read off.  The induction is on the list. -/
theorem settles_seeking (hm : m.Sane) (hsingle : ∀ s ∈ ss, s.parsed.isMulti = false)
    (hsane : site.machine.Sane) (halike : m.Alike site.machine) (hc : SoundAt site.machine c)
    (hlists : Lists m (tidy c) ss) : Settles o settings site (Seeks mode policy c) := by
  induction ss generalizing site c with
  | nil =>
    obtain ⟨c', hmoves, ⟨-, hdone⟩ | ⟨_, _, _, _, _, hcons, -⟩⟩ :=
      moves_of_lists hm hsane halike hc hlists
    · apply settles_of_moves hmoves
      intro refused
      obtain ⟨refused', hstep⟩ := ends_seeking_done o settings mode policy
        { site with refused := refused } hdone
      exact .done hstep (.refl _) hsane
    · cases hcons
  | cons s ss ih =>
    obtain ⟨c', hmoves, ⟨hnil, -⟩ | ⟨_, _, next, dir, name, hcons, hfind, hsound, hrest, hfound⟩⟩ :=
      moves_of_lists hm hsane halike hc hlists
    · cases hnil
    cases hcons
    apply settles_of_moves hmoves
    intro refused
    obtain ⟨refused', hprepared⟩ := gives_seeking_item o settings mode policy
      { site with refused := refused } hfind
    have hholding : Settles o settings { site with refused := refused' }
        (Holds mode policy s (planOf o settings mode site.machine s) next) := by
      refine settles_holding hsane hfound (hsingle s (by simp)) ?_
      intro after hstill hstays
      -- The rest is listed on the machine from the beginning, which is still alike.
      have hothers : ∀ t ∈ ss, t.parsed.isMulti = false := by
        intro t ht
        exact hsingle t (by simp [ht])
      exact ih hothers hstays (halike.trans hstill) (hsound.alike hsane hstill) hrest
    exact .item hprepared (.refl _) hholding

/-- A pass begins to seek, or the mode or the policy that it was given is none. -/
theorem settles_unstarted (hsane : site.machine.Sane)
    (hseeks : ∀ mode policy, Settles o settings site (Seeks mode policy c)) :
    Settles o settings site (· = .unstarted c) := by
  -- A start that is refused fails as the engine does, and touches nothing.
  have hstart : ∀ f, (Orchestrator.start (orchestration o) : Act (Site ν) _).Ends site (.error f)
      site → f.isEngine = true → Settles o settings site (· = .unstarted c) := by
    intro f hends hf
    have hstep : ∀ x, x = .unstarted c → ((events o settings).step x).Ends site (.error f) site := by
      rintro _ rfl
      exact hends.bind_error
    exact .fail hf hstep (.refl _) hsane
  cases hpolicy : Policy.ofValue (.str o.onError) with
  | error f =>
    refine hstart f ?_ (Policy.isEngine_of_ofValue hpolicy)
    unfold Orchestrator.start orchestration
    dsimp only
    rw [hpolicy]
    exact (Act.ends_ofExcept _ site).bind_error
  | ok policy =>
    cases hmode : Mode.ofValue (.str o.mode) with
    | error f =>
      refine hstart f ?_ (Mode.isEngine_of_ofValue hmode)
      unfold Orchestrator.start orchestration
      dsimp only
      rw [hpolicy, hmode]
      refine (Act.ends_ofExcept _ site).bind_silent ?_
      exact (Act.ends_ofExcept _ site).bind_error
    | ok mode =>
      have hgives : ∀ x, x = .unstarted c → ((events o settings).step x).Gives site
          (fun p => ∃ x', p = .skip x' ∧ Seeks mode policy c x') site := by
        intro x hx
        exact gives_start settings (Mode.word_of_ofValue hmode) (Policy.word_of_ofValue hpolicy) c
          site hx
      exact .skip hgives (.refl _) (hseeks mode policy)

/-- **Whatever is asked for, a pass over sinks with one output gives a summary**, and
    leaves an alike machine. -/
theorem gives_run_leaving (o : RunOptions) (settings : Settings) (hm : m.Sane)
    (hspecs : ∀ spec ∈ o.specs m.cwd, (spec.baseDir / spec.root).WellFormed)
    (hlists : Lists m (tidy { specs := o.specs m.cwd }) ss)
    (hsingle : ∀ s ∈ ss, s.parsed.isMulti = false) (notes : ν) :
    ∃ n site' told, m.Alike site'.machine ∧ site'.machine.Sane ∧
      ∀ fuel, n ≤ fuel → ∀ refused,
        (run fuel o settings).Gives ⟨m, refused, notes⟩ (fun _ => True) site' told := by
  have hsound : SoundAt m { specs := o.specs m.cwd } := ⟨hspecs, fun root g hg => by cases hg⟩
  have hsettles : Settles o settings ⟨m, [], notes⟩ (· = beginAt (o.specs m.cwd)) := by
    apply settles_unstarted hm
    intro mode policy
    exact settles_seeking hm hsingle hm (.refl m) hsound hlists
  obtain ⟨n, site', fault, told, hfault, halike, hsane, htakes⟩ := hsettles
  refine ⟨n, site', told, halike, hsane, ?_⟩
  intro fuel hfuel refused d
  obtain ⟨summary, d', hrun, -, hcourse⟩ := gives_run_of_takes htakes hfault fuel hfuel refused d
  exact ⟨summary, d', hrun, trivial, hcourse⟩

end

end Pass

end SinkPipeline
