import SinkPipeline.Pipeline
import SinkPipeline.Proofs.Ending
import SinkPipeline.Proofs.FileTree.Changing
import SinkPipeline.Proofs.Process.Independence

/-! # What preparing a sink gives

  With the library's own strategies and launchers preparing a sink never fails,
  and the plan is a function of the machine.  That function looks at regular
  files only: those that the tokens may mean, and the sink itself.

  So on two alike machines the plans are the same, if no token means a generated
  file.
-/

namespace SinkPipeline

/-- Every launcher gives a command line with a program. -/
def Launchers.GiveCommands (launchers : Launchers) : Prop :=
  ∀ p ∈ launchers, ∀ file, p.2 file ≠ []

theorem Launchers.GiveCommands.of_lookup {launchers : Launchers} (h : launchers.GiveCommands)
    {key : String} {launch : String → List String} (hlookup : launchers.lookup key = some launch)
    (file : String) : launch file ≠ [] := by
  obtain ⟨before, after, rfl, -⟩ := List.lookup_eq_some_iff.mp hlookup
  exact h (key, launch) (by simp) file

namespace Resolution

/-! ### Stages as a function of the machine -/

/-- The stage for a regular file: the file itself if it can be run, or else what
    the launcher for its suffix makes of it. -/
def stageOfFile (c : Context) (file : Path) (f : File) : Option Stage :=
  if f.mode &&& 0o111 != 0 || Machine.startsScript f.bytes then
    some { command := file.toString, cwd := some c.cwd.toString }
  else
    (c.launchers.lookup (launcherKey file)).bind fun launch =>
      (Stage.ofArgv (launch file.toString) (some c.cwd.toString)).toOption

/-- The stage for the file at a path, if one is there. -/
def stageAt (m : Machine) (c : Context) (file : Path) : Option Stage :=
  match m.tree.stat m.home file.toString with
  | .ok (.file f) => stageOfFile c file f
  | _ => none

/-- A launcher that is in use puts some words in front of the file. -/
theorem of_lookup_standard {key : String} {launch : String → List String}
    (h : Launchers.standard.lookup key = some launch) :
    ∃ word words, launch = launcherOf (word :: words) ∧
      ∀ w ∈ word :: words, w ∈ ["deno", "run", "-A", "python", "bash", "ruby", "node"] := by
  obtain ⟨before, after, hsplit, -⟩ := List.lookup_eq_some_iff.mp h
  have hmem : (key, launch) ∈ Launchers.standard := by simp [hsplit]
  simp only [Launchers.standard, List.mem_cons, Prod.mk.injEq, List.not_mem_nil, or_false] at hmem
  rcases hmem with ⟨-, rfl⟩ | ⟨-, rfl⟩ | ⟨-, rfl⟩ | ⟨-, rfl⟩ | ⟨-, rfl⟩
  · exact ⟨"deno", ["run", "-A"], rfl, by simp⟩
  · exact ⟨"python", [], rfl, by simp⟩
  · exact ⟨"bash", [], rfl, by simp⟩
  · exact ⟨"ruby", [], rfl, by simp⟩
  · exact ⟨"node", [], rfl, by simp⟩

theorem giveCommands_standard : Launchers.standard.GiveCommands := by
  simp [Launchers.GiveCommands, Launchers.standard, launcherOf]

/-- A regular file is found, or what is wrong is an error of the operating
    system, if anything is. -/
theorem isFile_cases (m : Machine) (file : Path) :
    (∃ f, m.tree.stat m.home file.toString = .ok (.file f) ∧ isFile m file = .ok true) ∨
      (∀ f, m.tree.stat m.home file.toString ≠ .ok (.file f)) ∧
        (isFile m file = .ok false ∨ ∃ f, f.isOs = true ∧ isFile m file = .error f) := by
  unfold isFile Tree.isFile? Tree.holds
  cases hstat : m.tree.stat m.home file.toString with
  | ok e =>
    cases e with
    | file f => exact .inl ⟨f, rfl, rfl⟩
    | dir => exact .inr ⟨by simp, .inl rfl⟩
    | link target => exact .inr ⟨by simp, .inl rfl⟩
  | error f =>
    refine .inr ⟨by simp, ?_⟩
    dsimp only
    rcases Tree.of_aboutPath_error hstat with ⟨e, -, rfl⟩ | hrefused
    · split
      · exact .inl rfl
      · exact .inr ⟨_, rfl, rfl⟩
    · obtain ⟨kind, message, rfl, hkind⟩ := Tree.of_refusal? hrefused
      rcases hkind with rfl | rfl <;> exact .inl rfl

section

variable {m : Machine} {c : Context} {file : Path} {f : File}

/-- A regular file is its own command if it can be run. -/
theorem direct_of_file (hstat : m.tree.stat m.home file.toString = .ok (.file f)) :
    direct m c file = .ok
      (if f.mode &&& 0o111 != 0 || Machine.startsScript f.bytes then
        some { command := file.toString, cwd := some c.cwd.toString } else none) := by
  have hfile : isFile m file = .ok true := by
    unfold isFile Tree.isFile? Tree.holds
    rw [hstat]
    rfl
  have hexec : hasExecBit m file = .ok (f.mode &&& 0o111 != 0) := by
    unfold hasExecBit
    rw [hstat]
    rfl
  have hshebang : hasShebang m file = .ok (Machine.startsScript f.bytes) := by
    unfold hasShebang Tree.readFile
    rw [hstat]
    rfl
  unfold direct
  simp only [hfile, hexec, hshebang, bind, Except.bind]
  cases f.mode &&& 0o111 != 0 <;> cases Machine.startsScript f.bytes <;> rfl

/-- A regular file is run by the launcher for its suffix, if there is one. -/
theorem byLauncher_of_file (hc : c.launchers.GiveCommands)
    (hstat : m.tree.stat m.home file.toString = .ok (.file f)) :
    byLauncher m c file = .ok ((c.launchers.lookup (launcherKey file)).bind fun launch =>
      (Stage.ofArgv (launch file.toString) (some c.cwd.toString)).toOption) := by
  have hfile : isFile m file = .ok true := by
    unfold isFile Tree.isFile? Tree.holds
    rw [hstat]
    rfl
  unfold byLauncher
  simp only [hfile, bind, Except.bind]
  cases hlookup : c.launchers.lookup (launcherKey file) with
  | none => rfl
  | some launch =>
    cases hargv : launch file.toString with
    | nil => exact absurd hargv (hc.of_lookup hlookup file.toString)
    | cons command args =>
      simp only [Option.bind_some, hargv, Stage.ofArgv]
      rfl

/-- Trying the strategies on a regular file: the launcher comes after the command. -/
theorem tryFile_of_file (hc : c.launchers.GiveCommands)
    (hstat : m.tree.stat m.home file.toString = .ok (.file f)) :
    tryFile m c file standard = .ok (stageOfFile c file f, none) := by
  unfold standard tryFile
  rw [direct_of_file hstat]
  unfold stageOfFile
  by_cases hrun : (f.mode &&& 0o111 != 0 || Machine.startsScript f.bytes) = true
  · rw [if_pos hrun, if_pos hrun]
  · rw [if_neg hrun, if_neg hrun]
    dsimp only
    unfold tryFile
    rw [byLauncher_of_file hc hstat]
    cases (c.launchers.lookup (launcherKey file)).bind fun launch =>
        (Stage.ofArgv (launch file.toString) (some c.cwd.toString)).toOption with
    | none => rfl
    | some stage => rfl

theorem stageAt_of_not_file (c : Context)
    (hstat : ∀ f, m.tree.stat m.home file.toString ≠ .ok (.file f)) : stageAt m c file = none := by
  unfold stageAt
  split
  · next f h => exact absurd h (hstat f)
  · rfl

end

/-- **Trying the library's own strategies** gives the stage for the file, and
    never fails. -/
theorem tryFile_standard (m : Machine) {c : Context} (hc : c.launchers.GiveCommands) (file : Path) :
    ∃ failure, tryFile m c file standard = .ok (stageAt m c file, failure) := by
  rcases isFile_cases m file with ⟨f, hstat, -⟩ | ⟨hstat, hfile⟩
  · have hstage : stageAt m c file = stageOfFile c file f := by
      unfold stageAt
      rw [hstat]
    rw [hstage]
    exact ⟨none, tryFile_of_file hc hstat⟩
  · rw [stageAt_of_not_file c hstat]
    -- An error of the operating system is passed over, and kept as the failure.
    rcases hfile with hfile | ⟨f, hos, hfile⟩
    · refine ⟨none, ?_⟩
      simp only [standard, tryFile, direct, byLauncher, hfile, bind, Except.bind]
      rfl
    · refine ⟨some f, ?_⟩
      simp only [standard, tryFile, direct, hfile, bind, Except.bind, hos, if_true]

/-- The stage of a token, as a function of the machine. -/
def stageOfToken (m : Machine) (sink : Path) (searchDirs : List String) (token : String) : Stage :=
  let sinkDir := m.absolute sink.parent
  ((candidates m sinkDir token searchDirs).findSome? (stageAt m ⟨sinkDir, .standard⟩)).getD
    (fallbackForToken token sinkDir)

/-- The stage of a sink, as a function of the machine. -/
def stageOfSink (m : Machine) (sink : Path) : Stage :=
  let sink := m.absolute sink
  (stageAt m ⟨sink.parent, .standard⟩ sink).getD (fallbackForSink sink)

variable {ν : Type}

theorem logger_ne : logger ≠ Orchestrator.logger := by decide

theorem ends_resolveFile {c : Context} (hc : c.launchers = Launchers.standard) (file : Path)
    (s : Site ν) : (resolveFile c standard file).Ends s (.ok (stageAt s.machine c file)) s := by
  unfold resolveFile
  refine (Act.ends_machine s).bind_silent ?_
  obtain ⟨failure, htry⟩ := tryFile_standard s.machine (hc ▸ giveCommands_standard) file
  rw [htry]
  refine (Act.ends_ofExcept _ s).bind_silent ?_
  cases failure with
  | none => exact Act.ends_pure _ s
  | some f => exact (Act.notes_log logger_ne _ _ _).bind fun _ => Act.ends_pure _ s

theorem ends_resolveFirst {c : Context} (hc : c.launchers = Launchers.standard) (files : List Path)
    (s : Site ν) :
    (resolveFirst c standard files).Ends s (.ok (files.findSome? (stageAt s.machine c))) s := by
  induction files with
  | nil => exact Act.ends_pure _ s
  | cons file files ih =>
    unfold resolveFirst
    refine (ends_resolveFile hc file s).bind_silent ?_
    rw [List.findSome?_cons]
    cases stageAt s.machine c file with
    | none => exact ih
    | some stage => exact Act.ends_pure _ s

theorem ends_resolveToken (token : String) (sink : Path) (searchDirs : List String) (s : Site ν) :
    (resolveToken token sink searchDirs .standard standard).Ends s
      (.ok (stageOfToken s.machine sink searchDirs token)) s := by
  unfold resolveToken stageOfToken
  refine (Act.ends_machine s).bind_silent ?_
  refine (ends_resolveFirst rfl _ s).bind_silent ?_
  dsimp only
  cases (candidates s.machine (s.machine.absolute sink.parent) token searchDirs).findSome?
      (stageAt s.machine ⟨s.machine.absolute sink.parent, .standard⟩) with
  | none => exact (Act.notes_log logger_ne _ _ _).bind fun _ => Act.ends_pure _ s
  | some stage => exact (Act.notes_log logger_ne _ _ _).bind fun _ => Act.ends_pure _ s

theorem ends_resolveSink (sink : Path) (s : Site ν) :
    (resolveSink sink .standard standard).Ends s (.ok (stageOfSink s.machine sink)) s := by
  unfold resolveSink stageOfSink
  refine (Act.ends_machine s).bind_silent ?_
  refine (ends_resolveFile rfl _ s).bind_silent ?_
  dsimp only
  cases stageAt s.machine ⟨(s.machine.absolute sink).parent, .standard⟩ (s.machine.absolute sink) with
  | none => exact Act.ends_pure _ s
  | some stage => exact Act.ends_pure _ s

/-! ### Stages on alike machines -/

/-- A stage comes from a regular file: the file itself, or what the launcher for
    its suffix makes of it. -/
theorem stageAt_cases {m : Machine} {c : Context} {file : Path} {stage : Stage}
    (h : stageAt m c file = some stage) :
    (∃ f, m.tree.stat m.home file.toString = .ok (.file f)) ∧
      (stage = { command := file.toString, cwd := some c.cwd.toString } ∨
        ∃ launch, c.launchers.lookup (launcherKey file) = some launch ∧
          Stage.ofArgv (launch file.toString) (some c.cwd.toString) = .ok stage) := by
  unfold stageAt at h
  split at h
  · next f hstat =>
    refine ⟨⟨f, hstat⟩, ?_⟩
    unfold stageOfFile at h
    split at h
    · exact .inl (Option.some.inj h).symm
    · obtain ⟨launch, hlookup, hstage⟩ := Option.bind_eq_some_iff.mp h
      refine .inr ⟨launch, hlookup, ?_⟩
      cases hargv : Stage.ofArgv (launch file.toString) (some c.cwd.toString) with
      | error f =>
        rw [hargv] at hstage
        cases hstage
      | ok made =>
        rw [hargv] at hstage
        cases hstage
        rfl
  · cases h

/-- With the standard launchers the stage runs from the directory of the context,
    and its arguments are known but for the file. -/
theorem of_stageAt {m : Machine} {dir : Path} {file : Path} {stage : Stage}
    (h : stageAt m ⟨dir, .standard⟩ file = some stage) :
    (∃ f, m.tree.stat m.home file.toString = .ok (.file f)) ∧ stage.cwd = some dir.toString ∧
      stage.env = none ∧ ∃ words, stage.argv = words ++ [file.toString] ∧
        ∀ w ∈ words, w ∈ ["deno", "run", "-A", "python", "bash", "ruby", "node"] := by
  obtain ⟨hthere, rfl | ⟨launch, hlookup, hstage⟩⟩ := stageAt_cases h
  · exact ⟨hthere, rfl, rfl, [], rfl, by simp⟩
  · obtain ⟨word, words, rfl, hwords⟩ := of_lookup_standard hlookup
    cases hstage
    exact ⟨hthere, rfl, rfl, word :: words, rfl, hwords⟩

theorem stageAt_alike {m m' : Machine} (h : m.Alike m') (ht : m.tree.Linkless) (c : Context)
    {file : Path} (hfile : ¬m.tree.NamesGenerated m.home file.toString) :
    stageAt m' c file = stageAt m c file := by
  unfold stageAt
  rw [h.home]
  rcases h.tree.stat ht hfile with hsame | ⟨e, e', -, -, hstat, hstat'⟩
  · rw [hsame]
  · rw [hstat, hstat']

theorem findSome?_congr {α β : Type} {f g : α → Option β} {xs : List α}
    (h : ∀ x ∈ xs, f x = g x) : xs.findSome? f = xs.findSome? g := by
  induction xs with
  | nil => rfl
  | cons x xs ih =>
    rw [List.findSome?_cons, List.findSome?_cons, h x (by simp),
      ih fun y hy => h y (by simp [hy])]

theorem stageOfToken_alike {m m' : Machine} (h : m.Alike m') (ht : m.tree.Linkless) {sink : Path}
    {searchDirs : List String} {token : String}
    (hspared : ∀ file ∈ candidates m (m.absolute sink.parent) token searchDirs,
      ¬m.tree.NamesGenerated m.home file.toString) :
    stageOfToken m' sink searchDirs token = stageOfToken m sink searchDirs token := by
  have hcandidates : candidates m' (m.absolute sink.parent) token searchDirs =
      candidates m (m.absolute sink.parent) token searchDirs := by
    unfold candidates
    simp only [h.absolute]
  have hfound : (candidates m (m.absolute sink.parent) token searchDirs).findSome?
      (stageAt m' ⟨m.absolute sink.parent, .standard⟩) =
      (candidates m (m.absolute sink.parent) token searchDirs).findSome?
        (stageAt m ⟨m.absolute sink.parent, .standard⟩) :=
    findSome?_congr fun file hfile => stageAt_alike h ht _ (hspared file hfile)
  unfold stageOfToken
  simp only [h.absolute, hcandidates, hfound]

theorem stageOfSink_alike {m m' : Machine} (h : m.Alike m') (ht : m.tree.Linkless) {sink : Path}
    (hspared : ¬m.tree.NamesGenerated m.home (m.absolute sink).toString) :
    stageOfSink m' sink = stageOfSink m sink := by
  unfold stageOfSink
  simp only [h.absolute, stageAt_alike h ht _ hspared]

end Resolution

namespace Act

variable {τ α β : Type}

/-- Actions that change nothing, one for each item of a list. -/
theorem ends_mapM {f : α → Act τ β} {g : α → β} {s : τ} (h : ∀ a, (f a).Ends s (.ok (g a)) s)
    (xs : List α) : (xs.mapM f).Ends s (.ok (xs.map g)) s := by
  induction xs with
  | nil => exact ends_pure [] s
  | cons x xs ih =>
    rw [List.mapM_cons]
    exact (h x).bind_silent (ih.bind_silent (ends_pure _ s))

end Act

namespace Pipeline

variable {ν : Type}

/-- The options leave preparing to the library. -/
structure Plain (o : PipelineOptions ν) : Prop where
  /-- The launchers are the standard ones. -/
  launchers : o.launchers = .standard
  /-- So are the strategies. -/
  strategies : o.strategies = Resolution.standard
  /-- No hook resolves a token. -/
  resolveStage : o.hooks.resolveStage = none
  /-- No hook resolves a sink. -/
  resolveSink : o.hooks.resolveSink = none
  /-- No hook attaches anything to the pre stages. -/
  prePayload : o.hooks.prePayload = none
  /-- No hook attaches anything to the post stages. -/
  postPayload : o.hooks.postPayload = none

/-- The plan of a sink, as a function of the machine. -/
def planOf (m : Machine) (searchDirs : List String) (context : Json) (s : FileSink) (mode : Mode) :
    Plan where
  source := s
  pre := s.parsed.preStages.map (Resolution.stageOfToken m (sinkPath s) searchDirs)
  sink := Resolution.stageOfSink m (sinkPath s)
  post := s.parsed.postStages.map (Resolution.stageOfToken m (sinkPath s) searchDirs)
  context := context
  mode := mode

/-- **Preparing a sink gives its plan** and changes nothing. -/
theorem ends_prepare {o : PipelineOptions ν} (ho : Plain o) (context : Json) (s : FileSink)
    (mode : Mode) (site : Site ν) :
    (prepare o context s mode).Ends site
      (.ok (planOf site.machine o.searchDirs context s mode)) site := by
  have htoken : ∀ token, (resolveStage o context s mode token).Ends site
      (.ok (Resolution.stageOfToken site.machine (sinkPath s) o.searchDirs token)) site := by
    intro token
    unfold resolveStage
    rw [ho.resolveStage, ho.launchers, ho.strategies]
    exact Resolution.ends_resolveToken token (sinkPath s) o.searchDirs site
  have hsink : (resolveSink o context s mode).Ends site
      (.ok (Resolution.stageOfSink site.machine (sinkPath s))) site := by
    unfold resolveSink
    rw [ho.resolveSink, ho.launchers, ho.strategies]
    exact Resolution.ends_resolveSink (sinkPath s) site
  have hpayload : (payload none context s : Act (Site ν) Json).Ends site (.ok .null) site :=
    Act.ends_pure _ site
  unfold prepare
  rw [ho.prePayload, ho.postPayload]
  refine (Act.ends_mapM htoken _).bind_silent (hsink.bind_silent ?_)
  refine (Act.ends_mapM htoken _).bind_silent ?_
  exact hpayload.bind_silent (hpayload.bind_silent (Act.ends_pure _ site))

/-- **The plan is the same** on alike machines, if neither a token nor the sink
    means a generated file. -/
theorem planOf_alike {m m' : Machine} (h : m.Alike m') (ht : m.tree.Linkless)
    {searchDirs : List String} {s : FileSink}
    (hspared : ∀ token ∈ s.parsed.preStages ++ s.parsed.postStages,
      ∀ file ∈ Resolution.candidates m (m.absolute (sinkDir s)) token searchDirs,
        ¬m.tree.NamesGenerated m.home file.toString)
    (hsink : ¬m.tree.NamesGenerated m.home (m.absolute (sinkPath s)).toString) (context : Json)
    (mode : Mode) : planOf m' searchDirs context s mode = planOf m searchDirs context s mode := by
  have htokens : ∀ token ∈ s.parsed.preStages ++ s.parsed.postStages,
      Resolution.stageOfToken m' (sinkPath s) searchDirs token =
        Resolution.stageOfToken m (sinkPath s) searchDirs token := fun token htoken =>
    Resolution.stageOfToken_alike h ht (hspared token htoken)
  unfold planOf
  rw [Resolution.stageOfSink_alike h ht hsink,
    List.map_congr_left fun token htoken => htokens token (List.mem_append_left _ htoken),
    List.map_congr_left fun token htoken => htokens token (List.mem_append_right _ htoken)]

end Pipeline

end SinkPipeline
