import SinkPipeline.Proofs.Passing.Meaning

/-! # Whole passes

  The sinks that a pass handles are those that a discovery of its own gives on
  the machine from before the pass.

  - **Every pass over sinks with one output** ends, whatever the fuel if it is
    enough: its summary, the machine that it leaves and what it has reported are
    those of handling the sinks one after the other.
  - **No sink affects another** if the programs are indifferent to generated
    files and the plans spare them: each has the outcome that it would have if
    it were the only one.
-/

namespace SinkPipeline

namespace Pipeline

/-- The sinks of a list were found in directories that are there. -/
theorem foundAt_of_lists {m : Machine} (hm : m.Sane) {c : SinkCursor} (hc : SoundAt m c)
    {ss : List FileSink} (h : Lists m (tidy c) ss) : ∀ s ∈ ss, ∃ dir name, FoundAt m dir name s := by
  induction ss generalizing c with
  | nil =>
    intro s hs
    cases hs
  | cons s ss ih =>
    obtain ⟨-, -, ⟨hnil, -⟩ | ⟨_, _, next, dir, name, hcons, -, hsound, hrest, hfound⟩⟩ :=
      moves_of_lists hm hm (.refl m) hc h
    · cases hnil
    cases hcons
    intro t ht
    rcases List.mem_cons.mp ht with rfl | hmem
    · exact ⟨dir, name, hfound⟩
    · exact ih hsound hrest t hmem

end Pipeline

namespace Pass

open Pipeline
open DirectoryWalk (Visit visit)

section

variable {o : RunOptions} {settings : Settings} {mode : Mode} {policy : Policy} {m m' : Machine}
  {ss : List FileSink}

/-! ### How a pass ends -/

/-- The pass ends at a sink: those before it have outputs, it is the last one
    that is handled, and its outcome is the fault. -/
def EndsAt (o : RunOptions) (settings : Settings) (mode : Mode) (policy : Policy) (m : Machine)
    (ss : List FileSink) (s : FileSink) (f : Fault) : Prop :=
  ∃ before after, ss = before ++ s :: after ∧
    handle o settings mode policy m ss = handle o settings mode policy m before ++ [(s, none)] ∧
    (∀ p ∈ handle o settings mode policy m before, p.2.isSome = true) ∧
    outcome o settings mode (settled m (handle o settings mode policy m before)) s = .error f

/-- **A fault ends the pass** at one of the sinks. -/
theorem endsAt_of_ending {f : Fault} (h : ending o settings mode policy m ss = some f) :
    ∃ s, EndsAt o settings mode policy m ss s f := by
  -- The machine changes with each sink that is handled before the one that fails.
  induction ss generalizing m with
  | nil => simp [ending, firstFault] at h
  | cons s ss ih =>
    cases hout : outcome o settings mode m s with
    | ok bytes =>
      rw [ending_cons_of_ok hout] at h
      obtain ⟨t, before, after, rfl, hhandle, hall, hfault⟩ := ih h
      refine ⟨t, s :: before, after, rfl, ?_, ?_, ?_⟩
      · rw [handle_cons_of_ok hout, handle_cons_of_ok hout, hhandle, List.cons_append]
      · rw [handle_cons_of_ok hout]
        exact List.forall_mem_cons.mpr ⟨rfl, hall⟩
      · rw [handle_cons_of_ok hout]
        exact hfault
    | error g =>
      unfold ending firstFault at h
      rw [hout] at h
      split at h
      · next hpolicy =>
        cases h
        subst hpolicy
        refine ⟨s, [], ss, rfl, ?_, ?_, hout⟩
        · rw [handle_abort_cons_of_error hout]
          rfl
        · intro p hp
          cases hp
      · cases h

/-! ### What a pass leaves -/

/-- **The machine that sinks settle** is alike, however many of them have been
    handled. -/
theorem settled_alike (o : RunOptions) (settings : Settings) (mode : Mode) (policy : Policy)
    (hm : m.Sane) (hfound : ∀ s ∈ ss, ∃ dir name, FoundAt m dir name s) :
    m.Alike (settled m (handle o settings mode policy m ss)) ∧
      (settled m (handle o settings mode policy m ss)).Sane := by
  induction ss generalizing m with
  | nil => exact ⟨.refl m, hm⟩
  | cons s ss ih =>
    obtain ⟨dir, name, hs⟩ := hfound s (by simp)
    obtain ⟨halike, hsane⟩ := settle_alike o settings mode hm hs
    unfold handle
    dsimp only
    split
    · exact ⟨halike, hsane⟩
    · have hrest : ∀ t ∈ ss, ∃ dir name,
          FoundAt (settle m s (outcome o settings mode m s).toOption) dir name t := by
        intro t ht
        obtain ⟨dir', name', ht⟩ := hfound t (by simp [ht])
        exact ⟨dir', name', ht.alike hm halike⟩
      obtain ⟨halike', hsane'⟩ := ih hsane hrest
      exact ⟨halike.trans halike', hsane'⟩

/-- The fault that a pass ends with is one of this library. -/
theorem EndsAt.isEngine (hm : m.Sane) (hfound : ∀ s ∈ ss, ∃ dir name, FoundAt m dir name s)
    {s : FileSink} {f : Fault} (h : EndsAt o settings mode policy m ss s f) : f.isEngine = true := by
  obtain ⟨before, after, rfl, -, -, hout⟩ := h
  obtain ⟨dir, name, hs⟩ := hfound s (by simp)
  have hbefore : ∀ t ∈ before, ∃ dir name, FoundAt m dir name t :=
    fun t ht => hfound t (by simp [ht])
  obtain ⟨halike, hsane⟩ := settled_alike o settings mode policy hm hbefore
  exact isEngine_of_outcome hsane (hs.alike hm halike) hout

/-- **A plan that spares generated files** is the same when it is the sink's
    turn. -/
theorem planOf_settled (hm : m.Sane) (hfound : ∀ s ∈ ss, ∃ dir name, FoundAt m dir name s)
    (hspares : ∀ s ∈ ss, SparesGenerated o settings mode m s) {before after : List FileSink}
    {s : FileSink} (hss : ss = before ++ s :: after) :
    planOf o settings mode (settled m (handle o settings mode policy m before)) s =
      planOf o settings mode m s := by
  subst hss
  obtain ⟨dir, name, hs⟩ := hfound s (by simp)
  have hbefore : ∀ t ∈ before, ∃ dir name, FoundAt m dir name t :=
    fun t ht => hfound t (by simp [ht])
  obtain ⟨halike, -⟩ := settled_alike o settings mode policy hm hbefore
  exact (hspares s (by simp)).planOf_alike hm hs halike

/-- A file that is that of no output is left as it was. -/
theorem get?_settled_of_ne {handled : List (FileSink × Option Bytes)} {q : Place}
    (h : ∀ p ∈ handled, p.2.isSome = true → (outputPath p.1).parts ≠ q) :
    (settled m handled).tree.get? q = m.tree.get? q := by
  induction handled generalizing m with
  | nil => rfl
  | cons p handled ih =>
    obtain ⟨s, output⟩ := p
    have hrest : (settled (settle m s output) handled).tree.get? q = (settle m s output).tree.get? q :=
      ih fun p hp => h p (List.mem_cons_of_mem _ hp)
    show (settled (settle m s output) handled).tree.get? q = m.tree.get? q
    rw [hrest]
    cases output with
    | none => rfl
    | some bytes =>
      have hne : (outputPath s).parts ≠ q := h (s, some bytes) (by simp) rfl
      exact Tree.get?_put_of_ne _ _ hne.symm

/-- **Of two outputs for one file** the later one is what the file holds. -/
theorem get?_settled_of_last {before after : List (FileSink × Option Bytes)} {s : FileSink}
    {bytes : Bytes} (hplace : (outputPath s).parts ≠ [])
    (hlast : ∀ p ∈ after, p.2.isSome = true → (outputPath p.1).parts ≠ (outputPath s).parts) :
    (settled m (before ++ (s, some bytes) :: after)).tree.get? (outputPath s).parts =
      some (.file ⟨bytes, 0o644, (settled m before).now⟩) := by
  have hsplit : settled m (before ++ (s, some bytes) :: after) =
      settled (settle (settled m before) s (some bytes)) after := by
    unfold settled
    rw [List.foldl_append, List.foldl_cons]
  rw [hsplit, get?_settled_of_ne hlast]
  exact Tree.get?_put_self _ _ hplace

/-! ### Sinks by themselves -/

/-- The sinks, each with the output that it has on the machine as it is. -/
def ownOutputs (o : RunOptions) (settings : Settings) (mode : Mode) (m : Machine)
    (ss : List FileSink) : List (FileSink × Option Bytes) :=
  ss.map fun s => (s, (outcome o settings mode m s).toOption)

/-- What of them a policy has handled: all of them, or those before the first
    without an output, and this one. -/
def handledUnder (policy : Policy) (own : List (FileSink × Option Bytes)) :
    List (FileSink × Option Bytes) :=
  match policy with
  | .skip => own
  | .abort => own.takeWhile (·.2.isSome) ++ (own.dropWhile (·.2.isSome)).take 1

/-- **No sink affects another**: on every machine that is alike the outputs are
    those that the sinks have by themselves. -/
theorem handle_alike (hm : m.Sane) (hprograms : m.Indifferent)
    (hfound : ∀ s ∈ ss, ∃ dir name, FoundAt m dir name s)
    (hspares : ∀ s ∈ ss, SparesGenerated o settings mode m s) (hm' : m'.Sane) (halike : m.Alike m') :
    handle o settings mode policy m' ss = handledUnder policy (ownOutputs o settings mode m ss) := by
  induction ss generalizing m' with
  | nil => cases policy <;> rfl
  | cons s ss ih =>
    obtain ⟨dir, name, hs⟩ := hfound s (by simp)
    have hsame := outcome_alike hm hprograms hs (hspares s (by simp)) halike
    have hsettled := settle_alike o settings mode hm' (hs.alike hm halike)
    -- What the sink leaves is alike to what was there, so the rest is handled alike.
    have hrest : ∀ output, (outcome o settings mode m' s).toOption = output →
        handle o settings mode policy (settle m' s output) ss =
          handledUnder policy (ownOutputs o settings mode m ss) := by
      rintro _ rfl
      refine ih (fun t ht => hfound t (by simp [ht])) (fun t ht => hspares t (by simp [ht])) ?_ ?_
      · exact hsettled.2
      · exact halike.trans hsettled.1
    cases hout : outcome o settings mode m' s with
    | ok bytes =>
      rw [hout] at hsame
      rw [handle_cons_of_ok hout, hrest (some bytes) (by rw [hout]; rfl)]
      unfold ownOutputs
      rw [List.map_cons, ← hsame]
      cases policy <;> rfl
    | error f =>
      rw [hout] at hsame
      unfold ownOutputs
      rw [List.map_cons, ← hsame]
      cases policy with
      | skip =>
        have hnext : handle o settings mode .skip m' ss =
            handledUnder .skip (ownOutputs o settings mode m ss) := hrest none (by rw [hout]; rfl)
        rw [handle_skip_cons_of_error hout, hnext]
        rfl
      | abort =>
        rw [handle_abort_cons_of_error hout]
        rfl

end

/-! ### Passes -/

section

variable {ν : Type} {o : RunOptions} {settings : Settings} {mode : Mode} {policy : Policy}
  {m : Machine} {ss : List FileSink}

/-- The roots of a pass have legal parts as seen from its working directory. -/
theorem wellFormed_specs (hm : m.Sane) (hroots : ∀ root ∈ o.roots, root.WellFormed) :
    ∀ spec ∈ o.specs m.cwd, (spec.baseDir / spec.root).WellFormed := by
  intro spec hspec
  obtain ⟨root, hroot, rfl⟩ := List.mem_map.mp hspec
  exact hm.cwd.join (hroots root hroot)

/-- **A pass gives what its events lead to**, if a fault that ends them is one of
    this library. -/
theorem gives_run_of_takes {n : Nat} {notes : ν} {site' : Site ν} {R : List (Option ExecutedSink) → Prop}
    {fault : Option Fault} {told : List (String × Json)}
    (htakes : (events o settings).Takes (fun e => return executedOf? e) n ⟨m, [], notes⟩
      (· = beginAt (o.specs m.cwd)) R fault site' told)
    (hfault : ∀ f, fault = some f → f.isEngine = true) :
    ∀ fuel, n ≤ fuel → ∀ refused, (run fuel o settings).Gives ⟨m, refused, notes⟩
      (fun summary => (∃ items, R items ∧ summary.executed = items.filterMap id) ∧
        summary.error = fault)
      site' told := by
  intro fuel hfuel refused
  have htaken := htakes fuel hfuel _ rfl []
  unfold run
  refine (Act.ends_modifyState _ _).bind_gives ?_
  refine (Act.ends_machine _).bind_gives ?_
  rw [← List.append_nil told]
  refine htaken.bind_gives ?_
  rintro ⟨items, ended⟩ ⟨rfl, _, hitems, rfl⟩
  refine (Act.ends_state _).bind_gives_silent ?_
  dsimp only
  cases ended with
  | none => exact Act.gives_pure ⟨⟨items, hitems, rfl⟩, rfl⟩ _
  | some f =>
    dsimp only
    rw [if_pos (hfault f rfl)]
    exact Act.gives_pure ⟨⟨items, hitems, rfl⟩, rfl⟩ _

/-- **A pass ends in any other fault** that ends its events. -/
theorem ends_run_of_takes {n : Nat} {notes : ν} {site' : Site ν}
    {R : List (Option ExecutedSink) → Prop} {f : Fault} {told : List (String × Json)}
    (htakes : (events o settings).Takes (fun e => return executedOf? e) n ⟨m, [], notes⟩
      (· = beginAt (o.specs m.cwd)) R (some f) site' told)
    (hfault : f.isEngine = false) :
    ∀ fuel, n ≤ fuel → ∀ refused,
      (run fuel o settings).Ends ⟨m, refused, notes⟩ (.error f) site' told := by
  intro fuel hfuel refused
  have htaken := htakes fuel hfuel _ rfl []
  unfold run
  refine (Act.ends_modifyState _ _).bind ?_
  refine (Act.ends_machine _).bind ?_
  rw [← List.append_nil told]
  refine htaken.bind ?_
  rintro ⟨items, ended⟩ ⟨rfl, -⟩
  refine (Act.ends_state _).bind_silent ?_
  dsimp only
  rw [if_neg (by rw [hfault]; decide)]
  exact Act.ends_fail f _

/-- **A pass handles the sinks** of the list that the machine gives. -/
theorem gives_run (hmode : o.mode = mode.word) (hwrites : mode.writes = true)
    (hpolicy : o.onError = policy.word) (hm : m.Sane)
    (hspecs : ∀ spec ∈ o.specs m.cwd, (spec.baseDir / spec.root).WellFormed)
    (hlists : Lists m (tidy { specs := o.specs m.cwd }) ss)
    (hsingle : ∀ s ∈ ss, s.parsed.isMulti = false) (notes : ν) :
    ∃ n refused', ∀ fuel, n ≤ fuel → ∀ refused,
      (run fuel o settings).Gives ⟨m, refused, notes⟩
        (fun summary =>
          summary.executed.map untimed = executedOf (handle o settings mode policy m ss) ∧
          summary.error = ending o settings mode policy m ss)
        ⟨settled m (handle o settings mode policy m ss), refused', notes⟩
        (story policy (handle o settings mode policy m ss)) := by
  have hsound : SoundAt m { specs := o.specs m.cwd } := ⟨hspecs, fun root g hg => by cases hg⟩
  have hhandles : Handles o settings mode policy ⟨m, [], notes⟩
      (Seeks mode policy { specs := o.specs m.cwd }) ss
      (story policy (handle o settings mode policy m ss)) :=
    handles_seeking hm hwrites hsingle hm (.refl m) hsound hlists
  obtain ⟨n, refused', hn⟩ := hhandles
  generalize story policy (handle o settings mode policy m ss) = told at hn ⊢
  -- The first step of a pass only begins it.
  have htakes := Source.takes_skip
    (fun x hx => gives_start settings hmode hpolicy { specs := o.specs m.cwd }
      (⟨m, [], notes⟩ : Site ν) hx) hn
  have hengine : ∀ f, ending o settings mode policy m ss = some f → f.isEngine = true := by
    intro f hending
    obtain ⟨s, hends⟩ := endsAt_of_ending hending
    exact hends.isEngine hm (foundAt_of_lists hm hsound hlists)
  refine ⟨n + 1, refused', fun fuel hfuel refused d => ?_⟩
  obtain ⟨summary, d', hrun, ⟨⟨items, hitems, hexecuted⟩, herror⟩, hcourse⟩ :=
    gives_run_of_takes htakes hengine fuel hfuel refused d
  exact ⟨summary, d', hrun, ⟨by rw [hexecuted, hitems], herror⟩, hcourse⟩

/-- **What a pass means.**  A discovery of its own gives sinks on the machine
    from before the pass.  If each of them has one output, the pass handles them
    one after the other.

    - The summary lists those with outputs, in order, and the fault of the sink
      that the pass ends at, if it ends at one.
    - Of the machine only the files of outputs have changed, in that order.
    - Nothing is reported of a sink that was not handled.

    If the plans spare generated files, each plan is the one from before the pass.
    If besides the programs are indifferent to such files, the outputs are those
    of the sinks by themselves, on the machine from before the pass. -/
theorem run_handles (o : RunOptions) (settings : Settings) (mode : Mode) (policy : Policy)
    (hmode : o.mode = mode.word) (hwrites : mode.writes = true) (hpolicy : o.onError = policy.word)
    (hm : m.Sane) (hroots : ∀ root ∈ o.roots, root.WellFormed) :
    ∃ ss, Discovers ν m (o.specs m.cwd) ss ∧ ((∀ s ∈ ss, s.parsed.isMulti = false) →
      (∀ notes : ν, ∃ n refused', ∀ fuel, n ≤ fuel → ∀ refused,
        (run fuel o settings).Gives ⟨m, refused, notes⟩
          (fun summary =>
            summary.executed.map untimed = executedOf (handle o settings mode policy m ss) ∧
            summary.error = ending o settings mode policy m ss ∧
            ∀ f, summary.error = some f → policy = .abort ∧ f.isEngine = true ∧
              ∃ s, EndsAt o settings mode policy m ss s f)
          ⟨settled m (handle o settings mode policy m ss), refused', notes⟩
          (story policy (handle o settings mode policy m ss))) ∧
      ((∀ s ∈ ss, SparesGenerated o settings mode m s) →
        (∀ before s after, ss = before ++ s :: after →
          planOf o settings mode (settled m (handle o settings mode policy m before)) s =
            planOf o settings mode m s) ∧
        (m.Indifferent → handle o settings mode policy m ss =
          handledUnder policy (ownOutputs o settings mode m ss)))) := by
  have hspecs := wellFormed_specs hm hroots
  have hsound : SoundAt m { specs := o.specs m.cwd } := ⟨hspecs, fun root g hg => by cases hg⟩
  obtain ⟨ss, hlists⟩ := exists_lists hm hsound
  have hfound := foundAt_of_lists hm hsound hlists
  refine ⟨ss, discovers_of_lists hm hspecs hlists, fun hsingle => ⟨fun notes => ?_, ?_⟩⟩
  · obtain ⟨n, refused', hn⟩ := gives_run hmode hwrites hpolicy hm hspecs hlists hsingle notes
    refine ⟨n, refused', fun fuel hfuel refused d => ?_⟩
    obtain ⟨summary, d', hrun, ⟨hexecuted, herror⟩, hcourse⟩ := hn fuel hfuel refused d
    refine ⟨summary, d', hrun, ⟨hexecuted, herror, fun f hf => ?_⟩, hcourse⟩
    have hending : ending o settings mode policy m ss = some f := herror.symm.trans hf
    obtain ⟨s, hends⟩ := endsAt_of_ending hending
    refine ⟨?_, hends.isEngine hm hfound, s, hends⟩
    -- Under the other policy no fault of a sink ends the pass.
    by_contra hpolicy'
    unfold ending at hending
    rw [if_neg hpolicy'] at hending
    cases hending
  · intro hspares
    refine ⟨fun before s after hss => planOf_settled hm hfound hspares hss, fun hprograms => ?_⟩
    exact handle_alike hm hprograms hfound hspares hm (.refl m)

end

/-- A machine with one sink, whose program adds two bytes to its input. -/
def noteMachine : Machine where
  tree := ⟨[(["x.txt.sh"], .file ⟨[35, 33, 103], 0o755, 0⟩)]⟩
  cwd := ⟨.root, []⟩
  programs := fun bytes => if bytes = [35, 33, 103] then some greet else none

/-- A pass over that machine. -/
def noteOptions : RunOptions := { roots := [⟨.root, []⟩], onError := "skip" }

/-- The root of that pass. -/
def noteRoot : Root := ⟨⟨.root, []⟩, [], []⟩

/-- The sink of that machine. -/
def noteSink : FileSink where
  key := "/x.txt.sh"
  spec := noteRoot
  item := ⟨⟨.root, ["x.txt.sh"]⟩, "x.txt.sh", false⟩
  name := "x.txt.sh"
  parsed := { basename := "x", nature := "txt", isMulti := false, domain := "sh" }
  payload := some "x.txt.sh"

theorem sane_noteMachine : noteMachine.Sane := by
  refine Machine.sane_of_files rfl rfl (by simp [noteMachine]) ?_
  intro e he name hname
  obtain rfl := List.mem_singleton.mp he
  obtain rfl := List.mem_singleton.mp hname
  exact ⟨⟨by decide, by decide, by decide⟩, by decide, rfl⟩

theorem stat_note : noteMachine.tree.stat noteMachine.home "/x.txt.sh" =
    .ok (.file ⟨[35, 33, 103], 0o755, 0⟩) := by
  have hname : Tree.Nameable ((Path.mk .root []).child "x.txt.sh") "x.txt.sh" :=
    ⟨rfl, by decide, rfl, by decide, by decide⟩
  exact Tree.stat_in_root hname ⟨by decide, by decide, by decide⟩ (by decide) rfl

/-- The root directory is there, so without globs it is a root. -/
theorem normalize_root (m : Machine) :
    (⟨⟨.root, []⟩, ⟨.root, []⟩, [], []⟩ : RootSpec).normalize m = .ok ⟨⟨.root, []⟩, [], []⟩ := by
  have hpath : m.absolute (⟨.root, []⟩ / ⟨.root, []⟩) = ⟨.root, []⟩ := rfl
  unfold RootSpec.normalize Tree.exists? Tree.isDir? Tree.holds
  simp only [hpath, m.standing_root.stat]
  rfl

/-- Without globs every file in the root directory is given. -/
theorem visit_in_root {m : Machine} (hm : m.Sane) {name path : String} {f : File}
    (hpath : ((Path.mk .root []).child name).toString = path)
    (hstat : m.tree.stat m.home path = .ok (.file f)) (rest : List Visit) :
    visit m false ⟨⟨.root, []⟩, [], []⟩ (.file ⟨.root, []⟩ name) rest =
      (some ⟨⟨.root, [name]⟩, name, false⟩, rest) := by
  rw [visit_file hm, hpath]
  unfold Tree.looksDir
  rw [hstat]
  rfl

theorem scan_note :
    noteMachine.tree.scan noteMachine.home ⟨.root, []⟩ = .ok [("x.txt.sh", false)] := by
  have hroot := noteMachine.standing_root
  have hnames : noteMachine.tree.names [] = ["x.txt.sh"] := by decide
  rw [sane_noteMachine.linkless.scan_eq hroot.given hroot.there]
  unfold Tree.sortedNames
  rw [hnames, List.mergeSort_singleton]
  rfl

/-- The cursor in that root with something left to visit. -/
def noteCursor (vs : List Visit) (seen : List String) : SinkCursor :=
  ⟨[], some (noteRoot, ⟨noteRoot, vs⟩), seen⟩

theorem lists_note :
    Lists noteMachine (tidy { specs := noteOptions.specs noteMachine.cwd }) [noteSink] := by
  have hroot : find noteMachine { specs := noteOptions.specs noteMachine.cwd } =
      .skip (noteCursor [.directory ⟨.root, []⟩ true] []) :=
    find_of_walked_skip (walked_root (normalize_root noteMachine))
  have hdir : find noteMachine (noteCursor [.directory ⟨.root, []⟩ true] []) =
      .skip (noteCursor [.file ⟨.root, []⟩ "x.txt.sh"] []) :=
    find_of_walked_skip (walked_none (visit_listed sane_noteMachine true scan_note))
  have hfile : find noteMachine (noteCursor [.file ⟨.root, []⟩ "x.txt.sh"] []) =
      .item noteSink (noteCursor [] ["/x.txt.sh"]) := by
    have hvisit : visit noteMachine false noteRoot (.file ⟨.root, []⟩ "x.txt.sh") [] =
        (some noteSink.item, []) := visit_in_root sane_noteMachine (by decide) stat_note []
    unfold find noteCursor
    rw [walked_new hvisit rfl]
    rfl
  have hleft : find noteMachine (noteCursor [] ["/x.txt.sh"]) = .skip ⟨[], none, ["/x.txt.sh"]⟩ := rfl
  have hend : find noteMachine ⟨[], none, ["/x.txt.sh"]⟩ = .done := rfl
  exact .skip hroot (.skip hdir (.item hfile (.skip hleft (.done hend))))

/-- The stage that the sink is run by. -/
def noteStage : Stage := { command := "/x.txt.sh", cwd := some "/" }

theorem stages_note : (planOf noteOptions {} .build noteMachine noteSink).stages = [noteStage] := by
  have hsink : noteMachine.absolute (sinkPath noteSink) = ⟨.root, ["x.txt.sh"]⟩ := by decide
  have htext : (Path.mk .root ["x.txt.sh"]).toString = "/x.txt.sh" := by decide
  have hstage : Resolution.stageOfSink noteMachine (sinkPath noteSink) = noteStage := by
    unfold Resolution.stageOfSink Resolution.stageAt
    simp only [hsink, htext, stat_note]
    rfl
  show [Resolution.stageOfSink noteMachine (sinkPath noteSink)] = [noteStage]
  rw [hstage]

theorem roots_note : ∀ root ∈ noteOptions.roots, root.WellFormed := by
  intro root hroot part hpart
  rw [List.mem_singleton.mp hroot] at hpart
  cases hpart

theorem sound_note : SoundAt noteMachine { specs := noteOptions.specs noteMachine.cwd } :=
  ⟨wellFormed_specs sane_noteMachine roots_note, fun root g hg => by cases hg⟩

/-- The launched stage of the sink. -/
def noteLaunched : Launched :=
  ⟨noteStage, greet, noteMachine.callOf
    (noteMachine.envOf (projectEnv noteSink noteOptions.context .build) true noteStage) noteStage []⟩

theorem starts_noteLaunched :
    noteMachine.Starts (projectEnv noteSink noteOptions.context .build) true noteLaunched := by
  obtain ⟨dir, name, hfound⟩ :=
    foundAt_of_lists sane_noteMachine sound_note lists_note noteSink (by simp)
  have hmem : noteStage ∈ (planOf noteOptions {} .build noteMachine noteSink).stages := by
    simp [stages_note]
  have hgiven := refusal?_of_mem_stages sane_noteMachine hfound hmem
  have hname : Tree.Nameable ((Path.mk .root []).child "x.txt.sh") "x.txt.sh" :=
    ⟨rfl, by decide, rfl, by decide, by decide⟩
  have hpart : Path.IsPart "x.txt.sh" := ⟨by decide, by decide, by decide⟩
  have hpath : ((Path.mk .root []).child "x.txt.sh").toString = "/x.txt.sh" := by decide
  have hstart : noteMachine.startPlace noteStage = .ok [] := by
    have hthere : noteMachine.tree.entryAt noteMachine.home true "/" = .ok ([], .dir) :=
      noteMachine.standing_root.there
    unfold Machine.startPlace noteStage
    simp only [hthere]
  refine Machine.starts_of_program hgiven hstart ?_ rfl
  exact Machine.firstProgram_in_root hname hpart hpath rfl (by decide) rfl rfl _ []

theorem outcome_note : outcome noteOptions {} .build noteMachine noteSink = .ok [104, 105] := by
  have hpart : Path.IsPart "x.auto.txt" := ⟨by decide, by decide, by decide⟩
  have htarget : outputPath noteSink = (Path.mk .root []).child "x.auto.txt" := by decide
  have hname : Tree.Nameable ((Path.mk .root []).child "x.auto.txt") "x.auto.txt" :=
    ⟨rfl, by decide, rfl, by decide, by decide⟩
  obtain ⟨stream, hchain, hbytes, hfault⟩ := Machine.chain_of_starts [noteLaunched]
    (List.forall_mem_singleton.mpr starts_noteLaunched) .empty
  have hwrite := AtomicWrite.write_in_root sane_noteMachine.linkless hpart hname (by decide)
    (by decide) hfault
  have hrun : noteMachine.chain (projectEnv noteSink noteOptions.context .build) true [noteStage]
      .empty = .ok stream := hchain
  unfold outcome
  rw [stages_note]
  simp only [hrun]
  rw [htarget, hwrite, hbytes]
  rfl

theorem handle_note : handle noteOptions {} .build .skip noteMachine [noteSink] =
    [(noteSink, some [104, 105])] := by
  rw [handle_cons_of_ok outcome_note]
  rfl

theorem indifferent_noteMachine : noteMachine.Indifferent := by
  intro bytes b hb call file input _ _
  unfold noteMachine at hb
  dsimp only at hb
  split at hb
  · cases hb
    rfl
  · cases hb

theorem spares_note : SparesGenerated noteOptions {} .build noteMachine noteSink where
  tokens := by
    intro token htoken
    cases htoken
  commands := by
    intro stage hstage path hpath
    rw [stages_note] at hstage
    obtain rfl := List.mem_singleton.mp hstage
    have hpath : path ∈ ["/x.txt.sh"] := hpath
    obtain rfl := List.mem_singleton.mp hpath
    rintro ⟨hgen, -⟩
    have hnot : (Path.ofString "/x.txt.sh").isGenerated = false := by decide
    rw [hnot] at hgen
    cases hgen

theorem note_run_handles :
    ∃ n summary d' refused', (run n noteOptions {}).runOn {} (⟨noteMachine, [], ()⟩ : Site Unit) =
        (.ok summary, d', ⟨settled noteMachine [(noteSink, some [104, 105])], refused', ()⟩) ∧
      summary.error = none ∧
      summary.executed.map untimed =
        [{ name := "x.txt.sh", sink := "/x.txt.sh", written := [outputPath noteSink] }] ∧
      (settled noteMachine [(noteSink, some [104, 105])]).tree.get? ["x.auto.txt"] =
        some (.file ⟨[104, 105], 0o644, 0⟩) := by
  obtain ⟨ss, hss, hpass⟩ :=
    run_handles (ν := Unit) noteOptions {} .build .skip rfl rfl rfl sane_noteMachine roots_note
  have hlist : ss = [noteSink] :=
    (discovers_of_lists sane_noteMachine sound_note.specs lists_note).unique () hss
  subst hlist
  obtain ⟨hruns, hown⟩ := hpass (List.forall_mem_singleton.mpr rfl)
  have hhandle : handle noteOptions {} .build .skip noteMachine [noteSink] =
      [(noteSink, some [104, 105])] := by
    rw [(hown (List.forall_mem_singleton.mpr spares_note)).2 indifferent_noteMachine]
    show [(noteSink, (outcome noteOptions {} .build noteMachine noteSink).toOption)] = _
    rw [outcome_note]
    rfl
  obtain ⟨n, refused', hn⟩ := hruns ()
  obtain ⟨summary, d', hrun, ⟨hexecuted, herror, -⟩, -⟩ := hn n (Nat.le_refl n) [] {}
  rw [hhandle] at hrun hexecuted
  exact ⟨n, summary, d', refused', hrun, herror, hexecuted, rfl⟩

end Pass

end SinkPipeline
