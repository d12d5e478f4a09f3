import SinkPipeline.Proofs.Discovery.Gathering
import SinkPipeline.Proofs.Passing.Whole
import SinkPipeline.Proofs.Process.Draining
import SinkPipeline.Proofs.Process.Refusing

/-! # Dry runs

  A dry run **rehearses** the sinks that a discovery of its own gives: it starts
  the chain of each and drains what comes out, whatever that is.  The machine
  stays as it is, so no sink makes a difference to another and each fault is one
  of its own chain.

  - Under one policy all sinks are tried, under the other all up to the first
    that fails.
  - A sink that is tried is executed just if its chain can be drained without a
    fault: every stage is launched, and every stage that does not end with zero
    is cut off by a later one.

  This holds on every machine, with links or without, and for sinks with one
  output and with many.
-/

namespace SinkPipeline

/-- A fault of a value is an ordinary one. -/
theorem Fault.isOrdinary_of_isValue {f : Fault} (h : f.isValue = true) : f.isOrdinary = true := by
  cases f with
  | plain => rfl
  | invalid => rfl
  | os => rfl
  | engine => rfl
  | cancelled => cases h
  | interrupted => cases h

namespace Pipeline

/-- **An execution fails with an ordinary fault**, whatever its stages are given. -/
theorem Failing.isOrdinary {m : Machine} {overlay : Env} {inherit : Bool} {stages : List Stage}
    {target : Path} {f : Fault} (h : Failing m overlay inherit stages target f) :
    f.isOrdinary = true := by
  cases h with
  | @launching ls stage rest cause _ _ hcause =>
    split
    · rfl
    · next hnot =>
      cases hgiven : Machine.refusal? (m.envOf overlay inherit stage) stage with
      | none => exact absurd (Machine.isOs_of_launch hgiven hcause) hnot
      | some f =>
        have hrefused : m.launch (m.envOf overlay inherit stage) stage = .error f := by
          unfold Machine.launch
          rw [hgiven]
          rfl
        cases hrefused.symm.trans hcause
        exact Fault.isOrdinary_of_isValue (Machine.isValue_of_refusal? hgiven)
  | running => rfl
  | writing _ _ hwrite =>
    have hmaterialize := AtomicWrite.isMaterialize_of_write (Stream.fault?_ofBytes _) hwrite
    exact Fault.isOrdinary_of_isEngine hmaterialize.isEngine

end Pipeline

namespace Pass

open Pipeline

/-! ### What a dry run means -/

section

variable (policy : Policy) (fault? : FileSink → Option Fault)

/-- The sinks that are tried: all of them or, under one policy, all up to the
    first that fails. -/
def tried : List FileSink → List FileSink
  | [] => []
  | s :: ss => s :: if policy = .abort ∧ (fault? s).isSome then [] else tried ss

/-- The fault that ends the run, if one does. -/
def endingOf (ss : List FileSink) : Option Fault :=
  if policy = .abort then ss.findSome? fault? else none

/-- The sinks that were executed, as the summary lists them, but for how long
    that took: those that were tried and did not fail.  Nothing was written. -/
def rehearsed (ss : List FileSink) : List ExecutedSink :=
  ((tried policy fault? ss).filter fun s => (fault? s).isNone).map fun s =>
    { name := s.name, sink := s.key, dryRun := true }

/-- What is reported of a dry run: each sink that is tried was prepared, and then
    executed or failed; and if no fault ends the run, its end. -/
def dryStory (ss : List FileSink) : List (String × Json) :=
  ((tried policy fault? ss).flatMap fun s =>
    [("capexec.prepared", .str s.name),
      (if (fault? s).isNone then "capexec.executed" else "capexec.error", .str s.name)]) ++
    if (endingOf policy fault? ss).isNone then [("capexec.run_complete", .null)] else []

end

section

variable {policy : Policy} {fault? : FileSink → Option Fault} {s : FileSink} {ss : List FileSink}

/-- The run goes on behind a sink that does not fail, and under one policy behind
    every sink. -/
theorem tried_cons (h : policy = .abort → fault? s = none) :
    tried policy fault? (s :: ss) = s :: tried policy fault? ss := by
  show (s :: if policy = .abort ∧ (fault? s).isSome then [] else tried policy fault? ss) = _
  rw [if_neg]
  rintro ⟨habort, hfails⟩
  simp [h habort] at hfails

theorem endingOf_cons (h : policy = .abort → fault? s = none) :
    endingOf policy fault? (s :: ss) = endingOf policy fault? ss := by
  unfold endingOf
  split
  · next habort => rw [List.findSome?_cons, h habort]
  · rfl

theorem dryStory_cons (h : policy = .abort → fault? s = none) :
    dryStory policy fault? (s :: ss) =
      ("capexec.prepared", .str s.name) ::
        (if (fault? s).isNone then "capexec.executed" else "capexec.error", .str s.name) ::
          dryStory policy fault? ss := by
  unfold dryStory
  rw [tried_cons h, endingOf_cons h]
  rfl

theorem rehearsed_cons_of_none (h : fault? s = none) :
    rehearsed policy fault? (s :: ss) =
      { name := s.name, sink := s.key, dryRun := true } :: rehearsed policy fault? ss := by
  unfold rehearsed
  rw [tried_cons fun _ => h, List.filter_cons_of_pos (by rw [h]; rfl), List.map_cons]

theorem rehearsed_cons_of_some {f : Fault} (hskip : policy = .skip) (h : fault? s = some f) :
    rehearsed policy fault? (s :: ss) = rehearsed policy fault? ss := by
  have hgoes : policy = .abort → fault? s = none := by
    intro habort
    rw [hskip] at habort
    cases habort
  unfold rehearsed
  rw [tried_cons hgoes, List.filter_cons_of_neg (by simp [h])]

end

/-! ### One sink -/

section

variable {ν : Type} (o : RunOptions) (settings : Settings) (m : Machine) (s : FileSink)

/-- The fault in which the rehearsal of a sink ends, if it ends in one. -/
def rehearsalFault? : Option Fault :=
  match rehearse m (projectEnv s o.context .dryRun) settings.inheritEnv
    (planOf o settings .dryRun m s) with
  | .ok _ => none
  | .error f => some f

/-- What a rehearsal gives: the fault or, if there is none, that nothing was
    written. -/
theorem rehearse_eq :
    rehearse m (projectEnv s o.context .dryRun) settings.inheritEnv
        (planOf o settings .dryRun m s) =
      match rehearsalFault? o settings m s with
      | none => .ok (.files { isMulti := s.parsed.isMulti, dryRun := true })
      | some f => .error f := by
  unfold rehearsalFault? rehearse
  cases m.chain (projectEnv s o.context .dryRun) settings.inheritEnv
      (planOf o settings .dryRun m s).stages .empty with
  | error e => rfl
  | ok stream =>
    dsimp only
    cases stream.drain.1 with
    | ok n => rfl
    | error f => rfl

/-- A rehearsal goes well just if its chain can be drained without a fault. -/
theorem rehearsalFault?_eq_none_iff_drain :
    rehearsalFault? o settings m s = none ↔
      ∃ stream n, m.chain (projectEnv s o.context .dryRun) settings.inheritEnv
          (planOf o settings .dryRun m s).stages .empty = .ok stream ∧ stream.drain.1 = .ok n := by
  unfold rehearsalFault? rehearse
  cases m.chain (projectEnv s o.context .dryRun) settings.inheritEnv
      (planOf o settings .dryRun m s).stages .empty with
  | error e => simp
  | ok stream =>
    dsimp only
    cases hdrain : stream.drain.1 with
    | ok n => simp [Except.map, hdrain]
    | error f => simp [Except.map, hdrain]

/-- **When a rehearsal goes well**: every stage is launched, and every stage that
    does not end with zero is cut off by a later one. -/
theorem rehearsalFault?_eq_none_iff :
    rehearsalFault? o settings m s = none ↔
      ∃ ls : List Launched, ls.map (·.stage) = (planOf o settings .dryRun m s).stages ∧
        (∀ l ∈ ls, m.Starts (projectEnv s o.context .dryRun) settings.inheritEnv l) ∧
        Launched.Excused ls [] := by
  rw [rehearsalFault?_eq_none_iff_drain, Machine.drain_ok_iff]

/-- Where every program reads its input to the end, every program has to end with
    zero. -/
theorem rehearsalFault?_eq_none_iff_statuses {ls : List Launched}
    (hall : ls.map (·.stage) = (planOf o settings .dryRun m s).stages)
    (hstart : ∀ l ∈ ls, m.Starts (projectEnv s o.context .dryRun) settings.inheritEnv l)
    (hread : Launched.ReadToEnd ls []) :
    rehearsalFault? o settings m s = none ↔ ∀ e ∈ Launched.statuses ls [], e.2 = 0 := by
  obtain ⟨stream, hchain, hdrain⟩ := Machine.drain_of_starts ls hstart
  rw [hall] at hchain
  rw [rehearsalFault?_eq_none_iff_drain, ← Launched.excused_iff_of_readToEnd hread, ← hdrain]
  simp [hchain]

/-- The fault of a rehearsal is an ordinary one. -/
theorem isOrdinary_of_rehearsalFault? {f : Fault} (h : rehearsalFault? o settings m s = some f) :
    f.isOrdinary = true := by
  have hfails : rehearse m (projectEnv s o.context .dryRun) settings.inheritEnv
      (planOf o settings .dryRun m s) = .error f := by rw [rehearse_eq, h]
  exact (failing_of_rehearse hfails).isOrdinary

/-- The execution of a sink's plan in a dry run is its rehearsal. -/
theorem ends_execute_rehearsal (site : Site ν) :
    (execute (pipeline o settings) (planOf o settings .dryRun site.machine s)).Ends site
      (match rehearsalFault? o settings site.machine s with
        | none => .ok (.files { isMulti := s.parsed.isMulti, dryRun := true })
        | some f => .error f) site := by
  have hoverlay : (overlayOf (pipeline o settings : PipelineOptions ν)
      (planOf o settings .dryRun site.machine s)).Ends site
        (.ok (projectEnv s o.context .dryRun)) site := Act.ends_pure _ site
  have hexecute := ends_execute_dry (o := pipeline o settings) rfl rfl
    (p := planOf o settings .dryRun site.machine s) rfl hoverlay
  rw [← rehearse_eq]
  exact hexecute

end

/-! ### A whole pass -/

section

variable {ν : Type} {o : RunOptions} {settings : Settings} {policy : Policy} {s : FileSink}
  {ss : List FileSink}

/-- From any cursor of the kind, the pass rehearses the sinks, and leaves the
    machine as it was. -/
def Rehearses (o : RunOptions) (settings : Settings) (policy : Policy) (site : Site ν)
    (C : RunCursor → Prop) (ss : List FileSink) (h : List (String × Json)) : Prop :=
  ∃ n refused, (events o settings).Takes (fun e => return executedOf? e) n site C
    (fun items => (items.filterMap id).map untimed =
      rehearsed policy (rehearsalFault? o settings site.machine) ss)
    (endingOf policy (rehearsalFault? o settings site.machine) ss)
    { site with refused := refused } h

section Holding

variable {site : Site ν} {c : SinkCursor}

/-- A plan that is held and does not fail is listed, and the rest is rehearsed. -/
theorem rehearses_holding_of_none
    (hrest : Rehearses o settings policy site (Seeks .dryRun policy c) ss
      (dryStory policy (rehearsalFault? o settings site.machine) ss))
    (hfault : rehearsalFault? o settings site.machine s = none) :
    Rehearses o settings policy site
      (Holds .dryRun policy s (planOf o settings .dryRun site.machine s) c) (s :: ss)
      (dryStory policy (rehearsalFault? o settings site.machine) (s :: ss)).tail := by
  have hexecute := ends_execute_rehearsal o settings s site
  rw [hfault] at hexecute
  have hgoes : policy = .abort → rehearsalFault? o settings site.machine s = none := fun _ => hfault
  obtain ⟨n, refused, hn⟩ := hrest
  unfold Rehearses
  rw [endingOf_cons hgoes, dryStory_cons hgoes, rehearsed_cons_of_none hfault, hfault]
  refine ⟨n + 1, refused, ?_⟩
  exact sumsUp_executed (fun _ => rfl) (fun x hx => gives_holding_of_ok hexecute hx) hn

/-- One that fails is left out of the summary under one policy, and the run goes on. -/
theorem rehearses_holding_skip {f : Fault}
    (hrest : Rehearses o settings .skip site (Seeks .dryRun .skip c) ss
      (dryStory .skip (rehearsalFault? o settings site.machine) ss))
    (hfault : rehearsalFault? o settings site.machine s = some f) :
    Rehearses o settings .skip site
      (Holds .dryRun .skip s (planOf o settings .dryRun site.machine s) c) (s :: ss)
      (dryStory .skip (rehearsalFault? o settings site.machine) (s :: ss)).tail := by
  have hexecute := ends_execute_rehearsal o settings s site
  rw [hfault] at hexecute
  have hordinary := isOrdinary_of_rehearsalFault? o settings site.machine s hfault
  have hgoes : Policy.skip = .abort → rehearsalFault? o settings site.machine s = none := by
    intro habort
    cases habort
  obtain ⟨n, refused, hn⟩ := hrest
  unfold Rehearses
  rw [endingOf_cons hgoes, dryStory_cons hgoes, rehearsed_cons_of_some rfl hfault, hfault]
  refine ⟨n + 1, refused, ?_⟩
  exact Source.takes_skip (fun x hx => gives_holding_of_error hexecute hordinary hx) hn

/-- Under the other policy it ends the run, and nothing behind it is tried. -/
theorem rehearses_holding_abort {f : Fault}
    (hfault : rehearsalFault? o settings site.machine s = some f) :
    Rehearses o settings .abort site
      (Holds .dryRun .abort s (planOf o settings .dryRun site.machine s) c) (s :: ss)
      (dryStory .abort (rehearsalFault? o settings site.machine) (s :: ss)).tail := by
  have hexecute := ends_execute_rehearsal o settings s site
  rw [hfault] at hexecute
  have hordinary := isOrdinary_of_rehearsalFault? o settings site.machine s hfault
  have hends : endingOf .abort (rehearsalFault? o settings site.machine) (s :: ss) = some f := by
    unfold endingOf
    rw [if_pos rfl, List.findSome?_cons, hfault]
  have htold : dryStory .abort (rehearsalFault? o settings site.machine) (s :: ss) =
      [("capexec.prepared", .str s.name), ("capexec.error", .str s.name)] := by
    unfold dryStory
    rw [hends]
    simp [tried, hfault]
  have hnone : rehearsed .abort (rehearsalFault? o settings site.machine) (s :: ss) = [] := by
    simp [rehearsed, tried, hfault]
  unfold Rehearses
  rw [hends, htold, hnone]
  exact ⟨1, site.refused, sumsUp_fail fun x hx => ends_holding_of_error hexecute hordinary hx⟩

/-- **A plan that is held** is rehearsed, and then the rest, unless a fault ends
    the run. -/
theorem rehearses_holding
    (hrest : Rehearses o settings policy site (Seeks .dryRun policy c) ss
      (dryStory policy (rehearsalFault? o settings site.machine) ss)) :
    Rehearses o settings policy site
      (Holds .dryRun policy s (planOf o settings .dryRun site.machine s) c) (s :: ss)
      (dryStory policy (rehearsalFault? o settings site.machine) (s :: ss)).tail := by
  cases hfault : rehearsalFault? o settings site.machine s with
  | none => exact rehearses_holding_of_none hrest hfault
  | some f =>
    cases policy with
    | skip => exact rehearses_holding_skip hrest hfault
    | abort => exact rehearses_holding_abort hfault

end Holding

/-- **The sinks that a discovery finds are rehearsed.**  The induction is on the
    steps of the discovery, which sees the same machine in each. -/
theorem rehearses_seeking {m : Machine} {site : Site ν} (hmachine : site.machine = m)
    {c : SinkCursor} (h : Finds m c ss) :
    Rehearses o settings policy site (Seeks .dryRun policy c) ss
      (dryStory policy (rehearsalFault? o settings site.machine) ss) := by
  induction h generalizing site with
  | done hfind =>
    obtain ⟨refused, hstep⟩ := ends_seeking_done o settings .dryRun policy site (hmachine ▸ hfind)
    have hends : endingOf policy (rehearsalFault? o settings site.machine) [] = none := by
      simp [endingOf]
    have htold : dryStory policy (rehearsalFault? o settings site.machine) [] =
        [("capexec.run_complete", .null)] := by
      simp [dryStory, tried, hends]
    unfold Rehearses
    rw [hends, htold]
    exact ⟨1, refused, sumsUp_done hstep⟩
  | skip hfind _ ih =>
    obtain ⟨refused, hstep⟩ := gives_seeking_skip site (hmachine ▸ hfind)
    have hsame : ({ site with refused := refused } : Site ν).machine = m := hmachine
    obtain ⟨n, refused', hn⟩ := ih hsame
    have htakes := Source.takes_skip hstep hn
    exact ⟨n + 1, refused', htakes⟩
  | @item c c' s ss hfind _ ih =>
    obtain ⟨refused, hprepared⟩ := gives_seeking_item o settings .dryRun policy site
      (hmachine ▸ hfind)
    have hsame : ({ site with refused := refused } : Site ν).machine = m := hmachine
    -- What is reported of the sink begins with its preparation.
    obtain ⟨n, refused', hn⟩ := rehearses_holding (s := s) (ih hsame)
    have hsums := sumsUp_prepared hprepared hn
    exact ⟨n + 1, refused', hsums⟩

/-- What a dry run returns: a summary with the sinks that were executed and the
    fault that ended the run; or that fault by itself, if it is none of this
    library. -/
inductive Concludes (policy : Policy) (fault? : FileSink → Option Fault) (ss : List FileSink) :
    Except Fault RunSummary → Prop
  | summary {summary : RunSummary} :
      summary.executed.map untimed = rehearsed policy fault? ss →
      summary.error = endingOf policy fault? ss →
      (∀ f, endingOf policy fault? ss = some f → f.isEngine = true) →
      Concludes policy fault? ss (.ok summary)
  | fault {f : Fault} :
      endingOf policy fault? ss = some f → f.isEngine = false →
      Concludes policy fault? ss (.error f)

variable {m : Machine}

/-- A dry run rehearses the sinks that a discovery finds, whatever the fuel if it
    is enough. -/
theorem exists_run_of_finds (settings : Settings) (policy : Policy)
    (hmode : o.mode = Mode.dryRun.word) (hpolicy : o.onError = policy.word)
    (h : Finds m { specs := o.specs m.cwd } ss) (notes : ν) :
    ∃ n refused', ∀ fuel, n ≤ fuel → ∀ refused d, ∃ r d',
      (run fuel o settings).runOn d ⟨m, refused, notes⟩ = (r, d', ⟨m, refused', notes⟩) ∧
      d'.course = d.course ++ dryStory policy (rehearsalFault? o settings m) ss ∧
      Concludes policy (rehearsalFault? o settings m) ss r := by
  have hrehearses : Rehearses o settings policy (⟨m, [], notes⟩ : Site ν)
      (Seeks .dryRun policy { specs := o.specs m.cwd }) ss
      (dryStory policy (rehearsalFault? o settings m) ss) := rehearses_seeking rfl h
  obtain ⟨n, refused', hn⟩ := hrehearses
  -- The first step of a pass only begins it.
  have htakes := Source.takes_skip (fun x hx => gives_start settings hmode hpolicy _
    (⟨m, [], notes⟩ : Site ν) hx) hn
  by_cases hengine : ∀ f, endingOf policy (rehearsalFault? o settings m) ss = some f →
      f.isEngine = true
  · refine ⟨n + 1, refused', fun fuel hfuel refused d => ?_⟩
    obtain ⟨summary, d', hrun, ⟨⟨items, hitems, hexecuted⟩, herror⟩, hcourse⟩ :=
      gives_run_of_takes htakes hengine fuel hfuel refused d
    exact ⟨.ok summary, d', hrun, hcourse, .summary (by rw [hexecuted, hitems]) herror hengine⟩
  · obtain ⟨f, hending, hf⟩ : ∃ f, endingOf policy (rehearsalFault? o settings m) ss = some f ∧
        f.isEngine = false := by simpa using hengine
    have hfails := htakes
    dsimp only at hfails
    rw [hending] at hfails
    refine ⟨n + 1, refused', fun fuel hfuel refused d => ?_⟩
    obtain ⟨d', hrun, hcourse⟩ := ends_run_of_takes hfails hf fuel hfuel refused d
    exact ⟨.error f, d', hrun, hcourse, .fault hending hf⟩

end

/-! ### A failure that is lost -/

/-- A program that writes more than can be waiting on the way, and then ends with
    three. -/
def flood : Behaviour := fun _ _ => ⟨List.replicate 131073 0, 3, false⟩

/-- A program that closes its input at once. -/
def shut : Behaviour := fun _ _ => ⟨[104, 105], 0, true⟩

/-- A machine with one sink, which runs the one behind the other. -/
def floodMachine : Machine where
  tree := ⟨[(["a"], .file ⟨[35, 33, 97], 0o755, 0⟩),
    (["x.[a].txt.sh"], .file ⟨[35, 33, 120], 0o755, 0⟩)]⟩
  cwd := ⟨.root, []⟩
  programs := fun bytes =>
    if bytes = [35, 33, 97] then some flood else if bytes = [35, 33, 120] then some shut else none

/-- A dry run over that machine. -/
def floodOptions : RunOptions := { roots := [⟨.root, []⟩], mode := "dry-run" }

/-- The root of that run. -/
def floodRoot : Root := ⟨⟨.root, []⟩, [], []⟩

/-- The sink of that machine. -/
def floodSink : FileSink where
  key := "/x.[a].txt.sh"
  spec := floodRoot
  item := ⟨⟨.root, ["x.[a].txt.sh"]⟩, "x.[a].txt.sh", false⟩
  name := "x.[a].txt.sh"
  parsed := {
    basename := "x", preStages := ["a"], nature := "txt", isMulti := false, domain := "sh" }
  payload := some "x.[a].txt.sh"

theorem parse?_flood : SinkName.parse? "x.[a].txt.sh" = some floodSink.parsed := by decide

theorem legalName_flood {name : String} (h : name = "a" ∨ name = "x.[a].txt.sh") :
    Tree.LegalName name := by
  rcases h with rfl | rfl
  · exact ⟨⟨by decide, by decide, by decide⟩, by decide, rfl⟩
  · exact ⟨⟨by decide, by decide, by decide⟩, by decide, rfl⟩

theorem sane_floodMachine : floodMachine.Sane := by
  refine Machine.sane_of_files rfl rfl (by simp [floodMachine]) ?_
  intro e he name hname
  simp only [floodMachine, List.mem_cons, List.not_mem_nil, or_false] at he
  rcases he with rfl | rfl
  · exact legalName_flood (.inl (List.mem_singleton.mp hname))
  · exact legalName_flood (.inr (List.mem_singleton.mp hname))

theorem nameable_flood {name : String} (h : name = "a" ∨ name = "x.[a].txt.sh") :
    Tree.Nameable ((Path.mk .root []).child name) name := by
  rcases h with rfl | rfl
  · exact ⟨rfl, by decide, rfl, by decide, by decide⟩
  · exact ⟨rfl, by decide, rfl, by decide, by decide⟩

theorem stat_flood_first : floodMachine.tree.stat floodMachine.home "/a" =
    .ok (.file ⟨[35, 33, 97], 0o755, 0⟩) :=
  Tree.stat_in_root (nameable_flood (.inl rfl)) (legalName_flood (.inl rfl)).isPart (by decide) rfl

theorem stat_flood_sink : floodMachine.tree.stat floodMachine.home "/x.[a].txt.sh" =
    .ok (.file ⟨[35, 33, 120], 0o755, 0⟩) :=
  Tree.stat_in_root (nameable_flood (.inr rfl)) (legalName_flood (.inr rfl)).isPart (by decide) rfl

theorem scan_flood : floodMachine.tree.scan floodMachine.home ⟨.root, []⟩ =
    .ok [("a", false), ("x.[a].txt.sh", false)] := by
  have hroot := floodMachine.standing_root
  have hnames : floodMachine.tree.names [] = ["a", "x.[a].txt.sh"] := by decide
  have hsorted : (["a", "x.[a].txt.sh"] : List String).Pairwise fun a b =>
      Text.precedes a b = true := by
    decide
  rw [sane_floodMachine.linkless.scan_eq hroot.given hroot.there]
  unfold Tree.sortedNames
  rw [hnames, List.mergeSort_of_pairwise hsorted]
  rfl

open DirectoryWalk (Visit visit)

/-- The cursor in that root with something left to visit. -/
def floodCursor (vs : List Visit) (seen : List String) : SinkCursor :=
  ⟨[], some (floodRoot, ⟨floodRoot, vs⟩), seen⟩

theorem finds_flood :
    Finds floodMachine { specs := floodOptions.specs floodMachine.cwd } [floodSink] := by
  have hroot : find floodMachine { specs := floodOptions.specs floodMachine.cwd } =
      .skip (floodCursor [.directory ⟨.root, []⟩ true] []) :=
    find_of_walked_skip (walked_root (normalize_root floodMachine))
  have hdir : find floodMachine (floodCursor [.directory ⟨.root, []⟩ true] []) =
      .skip (floodCursor [.file ⟨.root, []⟩ "a", .file ⟨.root, []⟩ "x.[a].txt.sh"] []) :=
    find_of_walked_skip (walked_none (visit_listed sane_floodMachine true scan_flood))
  have hfirst : find floodMachine
      (floodCursor [.file ⟨.root, []⟩ "a", .file ⟨.root, []⟩ "x.[a].txt.sh"] []) =
        .skip (floodCursor [.file ⟨.root, []⟩ "x.[a].txt.sh"] ["/a"]) := by
    have hvisit : visit floodMachine false floodRoot (.file ⟨.root, []⟩ "a")
        [.file ⟨.root, []⟩ "x.[a].txt.sh"] =
          (some ⟨⟨.root, ["a"]⟩, "a", false⟩, [.file ⟨.root, []⟩ "x.[a].txt.sh"]) :=
      visit_in_root sane_floodMachine (by decide) stat_flood_first _
    unfold find floodCursor
    rw [walked_new hvisit rfl]
    rfl
  have hsink : find floodMachine (floodCursor [.file ⟨.root, []⟩ "x.[a].txt.sh"] ["/a"]) =
      .item floodSink (floodCursor [] ["/x.[a].txt.sh", "/a"]) := by
    have hvisit : visit floodMachine false floodRoot (.file ⟨.root, []⟩ "x.[a].txt.sh") [] =
        (some floodSink.item, []) :=
      visit_in_root sane_floodMachine (by decide) stat_flood_sink []
    unfold find floodCursor
    rw [walked_new hvisit rfl]
    rfl
  have hleft : find floodMachine (floodCursor [] ["/x.[a].txt.sh", "/a"]) =
      .skip ⟨[], none, ["/x.[a].txt.sh", "/a"]⟩ := rfl
  have hend : find floodMachine ⟨[], none, ["/x.[a].txt.sh", "/a"]⟩ = .done := rfl
  exact .skip hroot (.skip hdir (.skip hfirst (.item hsink (.skip hleft (.done hend)))))

/-- A launched stage of the sink. -/
def floodLaunched (name : String) (program : Behaviour) : Launched :=
  let stage : Stage := { command := "/" ++ name, cwd := some "/" }
  ⟨stage, program, floodMachine.callOf
    (floodMachine.envOf (projectEnv floodSink floodOptions.context .dryRun) true stage) stage []⟩

/-- The stages of the sink. -/
def floodStages : List Launched := [floodLaunched "a" flood, floodLaunched "x.[a].txt.sh" shut]

theorem stages_flood :
    (planOf floodOptions {} .dryRun floodMachine floodSink).stages = floodStages.map (·.stage) := by
  have hdir : floodMachine.absolute (sinkPath floodSink).parent = ⟨.root, []⟩ := by decide
  have hsink : floodMachine.absolute (sinkPath floodSink) = ⟨.root, ["x.[a].txt.sh"]⟩ := by decide
  have htext : (Path.mk .root ["x.[a].txt.sh"]).toString = "/x.[a].txt.sh" := by decide
  have htoken : Resolution.candidates floodMachine ⟨.root, []⟩ "a" [] = [⟨.root, ["a"]⟩] := by decide
  have hfirst : (Path.mk .root ["a"]).toString = "/a" := by decide
  have hpre : Resolution.stageOfToken floodMachine (sinkPath floodSink) [] "a" =
      (floodLaunched "a" flood).stage := by
    unfold Resolution.stageOfToken
    simp only [hdir, htoken, List.findSome?_cons, List.findSome?_nil]
    unfold Resolution.stageAt
    simp only [hfirst, stat_flood_first]
    rfl
  have hown : Resolution.stageOfSink floodMachine (sinkPath floodSink) =
      (floodLaunched "x.[a].txt.sh" shut).stage := by
    unfold Resolution.stageOfSink Resolution.stageAt
    simp only [hsink, htext, stat_flood_sink]
    rfl
  show [Resolution.stageOfToken floodMachine (sinkPath floodSink) [] "a",
    Resolution.stageOfSink floodMachine (sinkPath floodSink)] = _
  rw [hpre, hown]
  rfl

theorem starts_flood : ∀ l ∈ floodStages,
    floodMachine.Starts (projectEnv floodSink floodOptions.context .dryRun) true l := by
  have hfound : FoundAt floodMachine ⟨.root, []⟩ "x.[a].txt.sh" floodSink :=
    ⟨floodMachine.standing_root, legalName_flood (.inr rfl), by decide, rfl, by decide, parse?_flood⟩
  intro l hl
  have hmem : l.stage ∈ (planOf floodOptions {} .dryRun floodMachine floodSink).stages := by
    rw [stages_flood]
    exact List.mem_map_of_mem hl
  have hgiven := refusal?_of_mem_stages sane_floodMachine hfound hmem
  have hthere : floodMachine.tree.entryAt floodMachine.home true "/" = .ok ([], .dir) :=
    floodMachine.standing_root.there
  have hstart : floodMachine.startPlace l.stage = .ok [] := by
    have hcwd : l.stage.cwd = some "/" := by
      simp only [floodStages, List.mem_cons, List.not_mem_nil, or_false] at hl
      rcases hl with rfl | rfl <;> rfl
    unfold Machine.startPlace
    simp only [hcwd, hthere]
  simp only [floodStages, List.mem_cons, List.not_mem_nil, or_false] at hl
  rcases hl with rfl | rfl
  · refine Machine.starts_of_program hgiven hstart ?_ rfl
    exact Machine.firstProgram_in_root (nameable_flood (.inl rfl)) (legalName_flood (.inl rfl)).isPart
      (by decide) rfl (by decide) rfl rfl _ []
  · refine Machine.starts_of_program hgiven hstart ?_ rfl
    exact Machine.firstProgram_in_root (nameable_flood (.inr rfl)) (legalName_flood (.inr rfl)).isPart
      (by decide) rfl (by decide) rfl rfl _ []

/-- The first stage ends with three, and is cut off by the second one. -/
theorem excused_flood : Launched.Excused floodStages [] := by
  have hshut : Launched.BreaksOff (floodLaunched "x.[a].txt.sh" shut) (List.replicate 131073 0) :=
    ⟨rfl, by rw [List.length_replicate]; decide⟩
  rw [floodStages, Launched.excused_cons_iff, Launched.excused_cons_iff]
  refine ⟨fun _ => Launched.cutOff_cons_iff.mpr (.inl hshut), ?_, Launched.excused_nil⟩
  intro hstatus
  exact absurd rfl hstatus

/-- The summary of a dry run in which the sink went well. -/
theorem concludes_flood {r : Except Fault RunSummary}
    (h : Concludes .abort (rehearsalFault? floodOptions {} floodMachine) [floodSink] r)
    (hnone : rehearsalFault? floodOptions {} floodMachine floodSink = none) :
    ∃ summary, r = .ok summary ∧ summary.error = none ∧ summary.executed.map untimed =
      [{ name := "x.[a].txt.sh", sink := "/x.[a].txt.sh", dryRun := true }] := by
  have hends : endingOf .abort (rehearsalFault? floodOptions {} floodMachine) [floodSink] = none := by
    simp [endingOf, hnone]
  cases h with
  | summary hexecuted herror _ =>
    refine ⟨_, rfl, by rw [herror, hends], ?_⟩
    rw [hexecuted, rehearsed_cons_of_none hnone]
    rfl
  | fault hfails _ =>
    rw [hends] at hfails
    cases hfails

end Pass

end SinkPipeline
