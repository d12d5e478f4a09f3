import SinkPipeline.Proofs.Path
import SinkPipeline.Proofs.Preparing

/-! # Which stage a token gets

  Resolution is a search inside a search.  For one file the strategies are asked
  in order: the first that gives a stage wins, if all before it give nothing.  An
  error of the operating system ends the attempt, and the file is **run as** no
  stage then.  The files are tried in order, and the first that is run as a stage
  gives the token's stage.

  Both searches are told by one predicate on lists: **some item is a hit, and
  all items before it are passed over**.  The two laws of the search follow from
  it: a token gets the stage of the first file, or else it stays a command; and
  more search directories do not change the stage of a token that has a file.
-/

namespace SinkPipeline

/-- Every launcher puts some words in front of the file. -/
def Launchers.Prefixing (launchers : Launchers) : Prop :=
  ∀ p ∈ launchers, ∃ words, p.2 = launcherOf words

theorem Launchers.Prefixing.of_lookup {launchers : Launchers} (h : launchers.Prefixing)
    {key : String} {launch : String → List String} (hlookup : launchers.lookup key = some launch) :
    ∃ words, launch = launcherOf words := by
  obtain ⟨before, after, rfl, -⟩ := List.lookup_eq_some_iff.mp hlookup
  exact h (key, launch) (by simp)

theorem Launchers.Prefixing.giveCommands {launchers : Launchers} (h : launchers.Prefixing) :
    launchers.GiveCommands := by
  intro p hp file
  obtain ⟨words, hwords⟩ := h p hp
  simp [hwords, launcherOf]

/-! ### Searching a list -/

/-- Some item of the list is a hit, and all items before it are passed over. -/
def FirstOf {α : Type} (skips hits : α → Prop) (xs : List α) : Prop :=
  ∃ before x after, xs = before ++ x :: after ∧ (∀ y ∈ before, skips y) ∧ hits x

section

variable {α : Type} {skips hits : α → Prop}

theorem not_firstOf_nil : ¬FirstOf skips hits [] := by
  rintro ⟨before, x, after, hsplit, -, -⟩
  simp at hsplit

/-- A search goes on behind an item only if that is passed over. -/
theorem firstOf_cons_iff {x : α} {xs : List α} :
    FirstOf skips hits (x :: xs) ↔ hits x ∨ skips x ∧ FirstOf skips hits xs := by
  constructor
  · rintro ⟨before, y, after, hsplit, hbefore, hy⟩
    cases before with
    | nil =>
      obtain ⟨rfl, -⟩ := List.cons.inj hsplit
      exact .inl hy
    | cons z before =>
      obtain ⟨rfl, htail⟩ := List.cons.inj hsplit
      exact .inr ⟨hbefore x (by simp),
        before, y, after, htail, fun w hw => hbefore w (List.mem_cons_of_mem _ hw), hy⟩
  · rintro (hx | ⟨hx, before, y, after, rfl, hbefore, hy⟩)
    · exact ⟨[], x, xs, rfl, by simp, hx⟩
    · exact ⟨x :: before, y, after, rfl, List.forall_mem_cons.mpr ⟨hx, hbefore⟩, hy⟩

/-- What comes after the list makes no difference to a hit in it. -/
theorem FirstOf.append {xs : List α} (h : FirstOf skips hits xs) (more : List α) :
    FirstOf skips hits (xs ++ more) := by
  obtain ⟨before, x, after, rfl, hbefore, hx⟩ := h
  exact ⟨before, x, after ++ more, by simp, hbefore, hx⟩

theorem FirstOf.exists_mem {xs : List α} (h : FirstOf skips hits xs) : ∃ x ∈ xs, hits x := by
  obtain ⟨before, x, after, rfl, -, hx⟩ := h
  exact ⟨x, by simp, hx⟩

end

namespace Resolution

variable {m : Machine} {c : Context} {strategies : List Strategy}

/-! ### One file -/

/-- The file is **run as** a stage: a strategy gives it, and all strategies
    before that one give nothing. -/
def RunsAs (m : Machine) (c : Context) (strategies : List Strategy) (file : Path) (stage : Stage) :
    Prop :=
  FirstOf (fun strategy => strategy m c file = .ok none)
    (fun strategy => strategy m c file = .ok (some stage)) strategies

theorem not_runsAs_nil {file : Path} {stage : Stage} : ¬RunsAs m c [] file stage := not_firstOf_nil

theorem runsAs_cons_iff {strategy : Strategy} {file : Path} {stage : Stage} :
    RunsAs m c (strategy :: strategies) file stage ↔
      strategy m c file = .ok (some stage) ∨
        strategy m c file = .ok none ∧ RunsAs m c strategies file stage := firstOf_cons_iff

/-- The strategies fail only as the operating system does. -/
def FailAsOs (m : Machine) (c : Context) (strategies : List Strategy) : Prop :=
  ∀ strategy ∈ strategies, ∀ file f, strategy m c file = .error f → f.isOs = true

/-- **Trying the strategies** gives the stage that the file is run as, if there
    is one, and never fails. -/
theorem exists_tryFile (hfail : FailAsOs m c strategies) (file : Path) :
    ∃ found failure, tryFile m c file strategies = .ok (found, failure) ∧
      ∀ stage, found = some stage ↔ RunsAs m c strategies file stage := by
  induction strategies with
  | nil => exact ⟨none, none, rfl, fun stage => by simp [not_runsAs_nil]⟩
  | cons strategy rest ih =>
    obtain ⟨hfirst, hrest⟩ := List.forall_mem_cons.mp hfail
    unfold tryFile
    simp only [runsAs_cons_iff]
    cases hgives : strategy m c file with
    | error f =>
      -- The strategies behind one that fails are not asked.
      refine ⟨none, some f, ?_, fun stage => by simp⟩
      simp only [hfirst file f hgives, if_true]
    | ok given =>
      cases given with
      | some stage => exact ⟨some stage, none, rfl, fun other => by simp⟩
      | none =>
        obtain ⟨found, failure, htry, hfound⟩ := ih hrest
        exact ⟨found, failure, htry, fun stage => by simpa using hfound stage⟩

/-! ### Files in order -/

/-- A stage for a token: the first file that is run as a stage gives it. -/
def FirstRun (m : Machine) (c : Context) (strategies : List Strategy) (files : List Path)
    (stage : Stage) : Prop :=
  FirstOf (fun file => ∀ other, ¬RunsAs m c strategies file other)
    (fun file => RunsAs m c strategies file stage) files

theorem firstRun_cons_iff {file : Path} {files : List Path} {stage : Stage} :
    FirstRun m c strategies (file :: files) stage ↔
      RunsAs m c strategies file stage ∨
        (∀ other, ¬RunsAs m c strategies file other) ∧ FirstRun m c strategies files stage :=
  firstOf_cons_iff

/-- No file gives a stage just if none is run as one. -/
theorem forall_not_firstRun_iff {files : List Path} :
    (∀ stage, ¬FirstRun m c strategies files stage) ↔
      ∀ file ∈ files, ∀ stage, ¬RunsAs m c strategies file stage := by
  induction files with
  | nil => simp [FirstRun, not_firstOf_nil]
  | cons file files ih =>
    simp only [firstRun_cons_iff, List.forall_mem_cons, ← ih]
    constructor
    · intro h
      have hfile : ∀ other, ¬RunsAs m c strategies file other := fun other hruns =>
        h other (.inl hruns)
      exact ⟨hfile, fun stage hrest => h stage (.inr ⟨hfile, hrest⟩)⟩
    · rintro ⟨hfile, hrest⟩ stage (hruns | ⟨-, hlater⟩)
      · exact hfile stage hruns
      · exact hrest stage hlater

section

variable {ν : Type} {site : Site ν}

theorem exists_ends_resolveFile (hfail : FailAsOs site.machine c strategies) (file : Path) :
    ∃ found, (resolveFile c strategies file).Ends site (.ok found) site ∧
      ∀ stage, found = some stage ↔ RunsAs site.machine c strategies file stage := by
  obtain ⟨found, failure, htry, hfound⟩ := exists_tryFile hfail file
  refine ⟨found, ?_, hfound⟩
  unfold resolveFile
  refine (Act.ends_machine site).bind_silent ?_
  rw [htry]
  refine (Act.ends_ofExcept _ site).bind_silent ?_
  cases failure with
  | none => exact Act.ends_pure _ site
  | some f => exact (Act.notes_log logger_ne _ _ _).bind fun _ => Act.ends_pure _ site

theorem exists_ends_resolveFirst (hfail : FailAsOs site.machine c strategies) (files : List Path) :
    ∃ found, (resolveFirst c strategies files).Ends site (.ok found) site ∧
      ∀ stage, found = some stage ↔ FirstRun site.machine c strategies files stage := by
  induction files with
  | nil => exact ⟨none, Act.ends_pure _ site, fun stage => by simp [FirstRun, not_firstOf_nil]⟩
  | cons file files ih =>
    obtain ⟨found, hends, hfound⟩ := exists_ends_resolveFile hfail file
    simp only [firstRun_cons_iff, ← hfound]
    unfold resolveFirst
    cases found with
    | some stage =>
      exact ⟨some stage, hends.bind_silent (Act.ends_pure _ site), fun other => by simp⟩
    | none =>
      obtain ⟨later, hlater, hfirst⟩ := ih
      exact ⟨later, hends.bind_silent hlater, fun stage => by simpa using hfirst stage⟩

/-- **The token resolves to** a stage: the first of its candidates that is run as
    a stage gives it. -/
def Resolves (m : Machine) (launchers : Launchers) (strategies : List Strategy) (token : String)
    (sink : Path) (searchDirs : List String) (stage : Stage) : Prop :=
  FirstRun m ⟨m.absolute sink.parent, launchers⟩ strategies
    (candidates m (m.absolute sink.parent) token searchDirs) stage

variable {token : String} {sink : Path} {searchDirs : List String} {launchers : Launchers}

theorem Resolves.ends {stage : Stage}
    (hfail : FailAsOs site.machine ⟨site.machine.absolute sink.parent, launchers⟩ strategies)
    (h : Resolves site.machine launchers strategies token sink searchDirs stage) :
    (resolveToken token sink searchDirs launchers strategies).Ends site (.ok stage) site := by
  obtain ⟨found, hends, hfound⟩ := exists_ends_resolveFirst hfail
    (candidates site.machine (site.machine.absolute sink.parent) token searchDirs)
  obtain rfl := (hfound stage).mpr h
  unfold resolveToken
  refine (Act.ends_machine site).bind_silent (hends.bind_silent ?_)
  exact (Act.notes_log logger_ne _ _ _).bind fun _ => Act.ends_pure _ site

/-- A token that resolves to no stage stays a command, run from the sink's
    directory. -/
theorem ends_resolveToken_of_not_resolves
    (hfail : FailAsOs site.machine ⟨site.machine.absolute sink.parent, launchers⟩ strategies)
    (h : ∀ stage, ¬Resolves site.machine launchers strategies token sink searchDirs stage) :
    (resolveToken token sink searchDirs launchers strategies).Ends site
      (.ok (fallbackForToken token (site.machine.absolute sink.parent))) site := by
  obtain ⟨found, hends, hfound⟩ := exists_ends_resolveFirst hfail
    (candidates site.machine (site.machine.absolute sink.parent) token searchDirs)
  cases found with
  | some stage => exact absurd ((hfound stage).mp rfl) (h stage)
  | none =>
    unfold resolveToken
    refine (Act.ends_machine site).bind_silent (hends.bind_silent ?_)
    exact (Act.notes_log logger_ne _ _ _).bind fun _ => Act.ends_pure _ site

/-- More search directories make no difference to a token that resolves. -/
theorem Resolves.append {m : Machine} {stage : Stage}
    (h : Resolves m launchers strategies token sink searchDirs stage) (more : List String) :
    Resolves m launchers strategies token sink (searchDirs ++ more) stage := by
  unfold Resolves at h ⊢
  have hmore := h.append
    ((more.map fun d => m.absolute (.ofString d)).map (· / Path.ofString token))
  simpa [candidates, FirstRun] using hmore

end

/-! ### The library's own strategies -/

theorem failAsOs_standard (hc : c.launchers.GiveCommands) : FailAsOs m c standard := by
  have hboth : ∀ file f, (direct m c file = .error f → f.isOs = true) ∧
      (byLauncher m c file = .error f → f.isOs = true) := by
    intro file f
    rcases isFile_cases m file with ⟨entry, hstat, -⟩ | ⟨-, hfile | ⟨g, hos, hfile⟩⟩
    · rw [direct_of_file hstat, byLauncher_of_file hc hstat]
      exact ⟨nofun, nofun⟩
    · unfold direct byLauncher
      rw [hfile]
      exact ⟨nofun, nofun⟩
    · unfold direct byLauncher
      rw [hfile]
      exact ⟨fun h => Except.error.inj h ▸ hos, fun h => Except.error.inj h ▸ hos⟩
  -- Both look at the same file first, and only that can fail.
  intro strategy hstrategy file f h
  simp only [standard, List.mem_cons, List.not_mem_nil, or_false] at hstrategy
  rcases hstrategy with rfl | rfl
  · exact (hboth file f).1 h
  · exact (hboth file f).2 h

/-- **With the library's own strategies** a file is run as its stage, if it has
    one. -/
theorem runsAs_standard_iff (hc : c.launchers.GiveCommands) {file : Path} {stage : Stage} :
    RunsAs m c standard file stage ↔ stageAt m c file = some stage := by
  obtain ⟨found, failure, htry, hfound⟩ := exists_tryFile (failAsOs_standard hc) file
  obtain ⟨failure', htry'⟩ := tryFile_standard m hc file
  obtain ⟨rfl, -⟩ := Prod.mk.inj (Except.ok.inj (htry.symm.trans htry'))
  exact (hfound stage).symm

/-- A stage that comes from a file runs from the directory of the context and, if
    the launchers only put words in front of the file, ends in the file. -/
theorem of_stageAt_of_prefixing (hc : c.launchers.Prefixing) {file : Path} {stage : Stage}
    (h : stageAt m c file = some stage) :
    stage.cwd = some c.cwd.toString ∧ ∃ words, stage.argv = words ++ [file.toString] := by
  obtain ⟨-, rfl | ⟨launch, hlookup, hstage⟩⟩ := stageAt_cases h
  · exact ⟨rfl, [], rfl⟩
  · obtain ⟨words, rfl⟩ := hc.of_lookup hlookup
    -- The file itself is the command if there are no words in front of it.
    have hargv : ∃ command args, words ++ [file.toString] = command :: args := by
      cases words with
      | nil => exact ⟨_, _, rfl⟩
      | cons word words => exact ⟨_, _, rfl⟩
    obtain ⟨command, args, hargv⟩ := hargv
    rw [launcherOf, hargv] at hstage
    cases hstage
    exact ⟨rfl, words, hargv.symm⟩

/-- Every candidate is an absolute path. -/
theorem isAbsolute_of_mem_candidates (hcwd : m.cwd.isAbsolute = true) {sinkDir file : Path}
    (hdir : sinkDir.isAbsolute = true) {token : String} {searchDirs : List String}
    (h : file ∈ candidates m sinkDir token searchDirs) : file.isAbsolute = true := by
  obtain ⟨dir, hmem, rfl⟩ := List.mem_map.mp h
  have habsolute : dir.isAbsolute = true := by
    rcases List.mem_cons.mp hmem with rfl | hmem
    · exact hdir
    · obtain ⟨d, -, rfl⟩ := List.mem_map.mp hmem
      exact Path.isAbsolute_absolute hcwd _
  exact Path.isAbsolute_join habsolute _

/-- **Resolution is first match.**  Whatever the strategies are, as long as they
    fail only as the operating system does: the token gets the stage of the first
    candidate that is run as one, or else stays a command.  With the library's
    own strategies, and launchers that put words in front of the file: the stage
    runs from the sink's directory; if it comes from a file, that is an absolute
    path in it; and then more search directories change nothing. -/
theorem resolveToken_first_match (token : String) (sink : Path) (searchDirs : List String)
    (launchers : Launchers) (strategies : List Strategy) (site : Site ν) :
    (FailAsOs site.machine ⟨site.machine.absolute sink.parent, launchers⟩ strategies →
      ∃ stage, (resolveToken token sink searchDirs launchers strategies).Ends site (.ok stage) site ∧
        (Resolves site.machine launchers strategies token sink searchDirs stage ∨
          (∀ file ∈ candidates site.machine (site.machine.absolute sink.parent) token searchDirs,
            ∀ other, ¬RunsAs site.machine ⟨site.machine.absolute sink.parent, launchers⟩ strategies
              file other) ∧
          stage = ⟨token, [], some (site.machine.absolute sink.parent).toString, none⟩)) ∧
    (launchers.Prefixing → site.machine.cwd.isAbsolute = true →
      ∃ stage, (resolveToken token sink searchDirs launchers standard).Ends site (.ok stage) site ∧
        stage.cwd = some (site.machine.absolute sink.parent).toString ∧
        ((∃ other, Resolves site.machine launchers standard token sink searchDirs other) →
          (∃ words, ∃ file ∈
              candidates site.machine (site.machine.absolute sink.parent) token searchDirs,
            stage.argv = words ++ [file.toString] ∧ file.toString.toList.head? = some '/') ∧
          ∀ more, (resolveToken token sink (searchDirs ++ more) launchers standard).Ends site
            (.ok stage) site)) := by
  refine ⟨fun hfail => ?_, fun hprefixing hcwd => ?_⟩
  · by_cases h : ∃ stage, Resolves site.machine launchers strategies token sink searchDirs stage
    · obtain ⟨stage, hstage⟩ := h
      exact ⟨stage, hstage.ends hfail, .inl hstage⟩
    · exact ⟨_, ends_resolveToken_of_not_resolves hfail (not_exists.mp h),
        .inr ⟨forall_not_firstRun_iff.mp (not_exists.mp h), rfl⟩⟩
  · have hgive := hprefixing.giveCommands
    have hfail : FailAsOs site.machine ⟨site.machine.absolute sink.parent, launchers⟩ standard :=
      failAsOs_standard hgive
    by_cases h : ∃ stage, Resolves site.machine launchers standard token sink searchDirs stage
    · obtain ⟨stage, hstage⟩ := h
      obtain ⟨file, hmem, hruns⟩ := hstage.exists_mem
      obtain ⟨hdir, words, hargv⟩ :=
        of_stageAt_of_prefixing hprefixing ((runsAs_standard_iff hgive).mp hruns)
      -- The file is one of the candidates, and these are absolute where the directory is.
      have habsolute := isAbsolute_of_mem_candidates hcwd (Path.isAbsolute_absolute hcwd _) hmem
      refine ⟨stage, hstage.ends hfail, hdir, fun _ => ⟨?_, ?_⟩⟩
      · exact ⟨words, file, hmem, hargv, Path.head?_toString habsolute⟩
      · exact fun more => (hstage.append more).ends hfail
    · exact ⟨_, ends_resolveToken_of_not_resolves hfail (not_exists.mp h), rfl, fun hsome =>
        absurd hsome h⟩

/-- A strategy that runs the files of the root directory; any other is refused by
    the operating system. -/
def inRoot : Strategy := fun _ c file =>
  if file.parts.length = 1 then .ok (some { command := file.toString, cwd := some c.cwd.toString })
  else .error (.os .denied [file.toString])

/-- Launchers for one suffix. -/
def pythonOnly : Launchers := [("py", launcherOf ["python", "-u"])]

/-- A site with one file, a script without the mode to run it. -/
def scriptSite : Site Unit where
  machine := { tree := ⟨[(["tool.py"], .file ⟨[112], 0o644, 0⟩)]⟩, cwd := ⟨.root, []⟩ }
  notes := ()

theorem stat_script : scriptSite.machine.tree.stat scriptSite.machine.home "/tool.py" =
    .ok (.file ⟨[112], 0o644, 0⟩) := by
  have hname : Tree.Nameable ((Path.mk .root []).child "tool.py") "tool.py" :=
    ⟨rfl, by decide, rfl, by decide, by decide⟩
  have hwellFormed : ((Path.mk .root []).child "tool.py").WellFormed := by
    intro part hpart
    rw [List.mem_singleton.mp hpart]
    exact ⟨by decide, by decide, by decide⟩
  have htext : ((Path.mk .root []).child "tool.py").toString = "/tool.py" := by decide
  have hroot : scriptSite.machine.tree.Leads Tree.maxLinks [] [] Tree.maxLinks [] := .here
  rw [← htext]
  exact Tree.stat_of_leads hwellFormed hname hroot rfl

theorem resolves_script : Resolves scriptSite.machine pythonOnly standard "tool.py" ⟨.root, ["x"]⟩ []
    ⟨"python", ["-u", "/tool.py"], some "/", none⟩ := by
  have hgive : pythonOnly.GiveCommands := by simp [Launchers.GiveCommands, pythonOnly, launcherOf]
  have hkey : launcherKey ⟨.root, ["tool.py"]⟩ = "py" := by decide +kernel
  have hcandidates : candidates scriptSite.machine ⟨.root, []⟩ "tool.py" [] =
      [⟨.root, ["tool.py"]⟩] := by decide
  have htext : (Path.mk .root ["tool.py"]).toString = "/tool.py" := by decide
  show FirstRun scriptSite.machine ⟨⟨.root, []⟩, pythonOnly⟩ standard
    (candidates scriptSite.machine ⟨.root, []⟩ "tool.py" []) _
  rw [hcandidates, firstRun_cons_iff, runsAs_standard_iff hgive]
  left
  unfold stageAt stageOfFile
  simp only [htext, stat_script, hkey]
  rfl

theorem runsAs_inRoot_iff {file : Path} {stage : Stage} :
    RunsAs m c [inRoot] file stage ↔ file.parts.length = 1 ∧
      stage = { command := file.toString, cwd := some c.cwd.toString } := by
  rw [runsAs_cons_iff]
  unfold inRoot
  by_cases h : file.parts.length = 1
  · simp [h, not_runsAs_nil, eq_comm]
  · simp [h]

theorem script_resolveToken_first_match :
    (∃ stage, (resolveToken "t" ⟨.root, ["d", "x"]⟩ ["/"] pythonOnly [inRoot]).Ends scriptSite
      (.ok stage) scriptSite ∧ stage.argv = ["/t"] ∧ stage.cwd = some "/d") ∧
    ∃ stage, (resolveToken "tool.py" ⟨.root, ["x"]⟩ ["/e"] pythonOnly standard).Ends
      scriptSite (.ok stage) scriptSite ∧ stage.cwd = some "/" := by
  have hfail : FailAsOs scriptSite.machine ⟨⟨.root, ["d"]⟩, pythonOnly⟩ [inRoot] := by
    intro strategy hstrategy file f h
    obtain rfl := List.mem_singleton.mp hstrategy
    unfold inRoot at h
    split at h
    · cases h
    · cases h
      rfl
  have hprefixing : pythonOnly.Prefixing := by
    intro p hp
    rw [List.mem_singleton.mp hp]
    exact ⟨_, rfl⟩
  constructor
  · have hcandidates : candidates scriptSite.machine ⟨.root, ["d"]⟩ "t" ["/"] =
        [⟨.root, ["d", "t"]⟩, ⟨.root, ["t"]⟩] := by decide
    have hruns : RunsAs scriptSite.machine ⟨⟨.root, ["d"]⟩, pythonOnly⟩ [inRoot] ⟨.root, ["t"]⟩
        { command := "/t", cwd := some "/d" } := runsAs_inRoot_iff.mpr ⟨rfl, by decide⟩
    obtain ⟨stage, hends, hresolves | ⟨hnone, -⟩⟩ := (resolveToken_first_match "t"
      ⟨.root, ["d", "x"]⟩ ["/"] pythonOnly [inRoot] scriptSite).1 hfail
    · obtain ⟨file, hmem, hfile⟩ := hresolves.exists_mem
      obtain ⟨hlength, rfl⟩ := runsAs_inRoot_iff.mp hfile
      refine ⟨_, hends, ?_⟩
      have hmem : file ∈ [⟨.root, ["d", "t"]⟩, ⟨.root, ["t"]⟩] := hcandidates ▸ hmem
      simp only [List.mem_cons, List.not_mem_nil, or_false] at hmem
      rcases hmem with rfl | rfl
      · cases hlength
      · decide
    · have hmem : (⟨.root, ["t"]⟩ : Path) ∈
          candidates scriptSite.machine ⟨.root, ["d"]⟩ "t" ["/"] := by simp [hcandidates]
      exact absurd hruns (hnone _ hmem _)
  · obtain ⟨stage, -, hdir, hmore⟩ := (resolveToken_first_match "tool.py" ⟨.root, ["x"]⟩ [] pythonOnly
      standard scriptSite).2 hprefixing rfl
    exact ⟨stage, (hmore ⟨_, resolves_script⟩).2 ["/e"], hdir⟩

end Resolution

end SinkPipeline
