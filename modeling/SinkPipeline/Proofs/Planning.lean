import SinkPipeline.Pass
import SinkPipeline.Proofs.Discovery.Listing
import SinkPipeline.Proofs.Preparing
import SinkPipeline.Proofs.SinkName

/-! # The plan of a sink that was found

  A sink that was found in a directory runs its stages there, and writes its
  file there.  Whatever the plan holds was read off the sink's name, or is a
  file that was looked at: so all of it can be handed over, and no stage of the
  plan is refused for what it is given.

  A plan **spares** generated files if none of its tokens or commands means one.
-/

namespace SinkPipeline

/-! ### Paths -/

/-- A direct path is absolute as it stands. -/
theorem Path.Direct.absolute_eq {p : Path} (h : p.Direct) (cwd : Path) : Path.absolute cwd p = p := by
  have hjoin : cwd / p = p := by
    show cwd.join p = p
    unfold Path.join
    rw [if_pos h.absolute]
  unfold Path.absolute
  simp only [hjoin, collapse_of_plain h.plain]
  rfl

/-- A name that can be a part of a path is a path of its own. -/
theorem Path.join_ofString (p : Path) {name : String} (hname : IsPart name) :
    p / Path.ofString name = p.child name := by
  have hwellFormed : (Path.mk .here [name]).WellFormed := by
    intro part hpart
    rw [List.mem_singleton.mp hpart]
    exact hname
  have htext : (Path.mk .here [name]).toString = name := by
    show anchorText .here ++ "/".intercalate [name] = name
    rw [String.intercalate_singleton]
    exact String.empty_append
  have hpath := ofString_toString hwellFormed
  rw [htext] at hpath
  rw [hpath]
  rfl

namespace Pipeline

/-! ### The file of a sink -/

namespace FoundAt

variable {m : Machine} {dir : Path} {name : String} {s : FileSink}

theorem direct (h : FoundAt m dir name s) : dir.Direct :=
  ⟨h.standing.wellFormed, h.standing.absolute, h.standing.plain⟩

theorem sinkPath_eq (h : FoundAt m dir name s) : sinkPath s = dir.child name := by
  unfold sinkPath Projection.sinkPath
  rw [h.item]
  exact Path.ofString_toString (h.standing.wellFormed.child h.legal.isPart)

theorem sinkDir_eq (h : FoundAt m dir name s) : sinkDir s = dir := by
  unfold sinkDir
  rw [h.sinkPath_eq, Path.parent_child]

theorem spelledBy (h : FoundAt m dir name s) : SinkName.SpelledBy name s.parsed :=
  SinkName.spelledBy_of_parse? h.parsed

/-- The name of the sink's file is legal. -/
theorem legal_outputName (h : FoundAt m dir name s) : Tree.LegalName s.parsed.outputName := by
  have hspelled := h.spelledBy
  obtain ⟨hisPart, hne⟩ := hspelled.isPart_outputName h.legal.isPart
  refine ⟨hisPart, hne, ?_⟩
  have hbasename : Tree.refusal? s.parsed.basename = none :=
    Tree.refusal?_of_subset (fun c hc => (hspelled.basename c hc).1) h.legal.given
  have hnature : Tree.refusal? s.parsed.nature = none :=
    Tree.refusal?_of_subset (fun c hc => (hspelled.nature c hc).1) h.legal.given
  exact Tree.refusal?_append (Tree.refusal?_append hbasename rfl) hnature

/-- **The sink's file** is a generated file in the sink's directory. -/
theorem outputPath_eq (h : FoundAt m dir name s) :
    outputPath s = dir.child s.parsed.outputName := by
  unfold outputPath
  rw [h.sinkDir_eq]
  exact Path.join_ofString dir h.legal_outputName.isPart

theorem absolute_sinkDir (h : FoundAt m dir name s) : m.absolute (sinkPath s).parent = dir := by
  rw [h.sinkPath_eq, Path.parent_child]
  exact h.direct.absolute_eq m.cwd

theorem absolute_sinkPath (h : FoundAt m dir name s) : m.absolute (sinkPath s) = dir.child name := by
  rw [h.sinkPath_eq]
  exact (h.direct.child h.legal).absolute_eq m.cwd

/-- The sink itself is no generated file. -/
theorem not_namesGenerated (h : FoundAt m dir name s) :
    ¬m.tree.NamesGenerated m.home (m.absolute (sinkPath s)).toString := by
  rintro ⟨hlast, -⟩
  rw [h.absolute_sinkPath, Path.ofString_toString (h.standing.wellFormed.child h.legal.isPart)] at hlast
  simp [h.not_generated] at hlast

/-- The text of the sink's path can be handed over. -/
theorem given (h : FoundAt m dir name s) : Tree.refusal? (dir.child name).toString = none :=
  Tree.refusal?_child h.standing.given h.legal.given

end FoundAt

/-! ### The stages of a sink -/

/-- The stage runs from the directory, and can be handed over. -/
structure StageFrom (dir : Path) (stage : Stage) : Prop where
  /-- It runs from the directory. -/
  cwd : stage.cwd = some dir.toString
  /-- It has no variables of its own. -/
  env : stage.env = none
  /-- Its command and its arguments can be handed over. -/
  argv : ∀ arg ∈ stage.argv, Tree.refusal? arg = none

theorem stageFrom_of_stageAt {m : Machine} {dir file : Path} {stage : Stage}
    (h : Resolution.stageAt m ⟨dir, .standard⟩ file = some stage) : StageFrom dir stage := by
  obtain ⟨⟨f, hstat⟩, hcwd, henv, words, hargv, hwords⟩ := Resolution.of_stageAt h
  refine ⟨hcwd, henv, fun arg harg => ?_⟩
  rw [hargv] at harg
  rcases List.mem_append.mp harg with hword | hfile
  · have hall : ∀ w ∈ ["deno", "run", "-A", "python", "bash", "ruby", "node"],
        Tree.refusal? w = none := by
      simp only [List.forall_mem_cons]
      exact ⟨rfl, rfl, rfl, rfl, rfl, rfl, rfl, by simp⟩
    exact hall arg (hwords arg hword)
  · rw [List.mem_singleton.mp hfile]
    exact (Tree.of_aboutPath_ok hstat).1

theorem stageFrom_stageOfToken {m : Machine} {sink dir : Path} (hdir : m.absolute sink.parent = dir)
    {token : String} (htoken : Tree.refusal? token = none) (searchDirs : List String) :
    StageFrom dir (Resolution.stageOfToken m sink searchDirs token) := by
  unfold Resolution.stageOfToken
  simp only [hdir]
  cases hfirst : (Resolution.candidates m dir token searchDirs).findSome?
      (Resolution.stageAt m ⟨dir, .standard⟩) with
  | none =>
    refine ⟨rfl, rfl, fun arg harg => ?_⟩
    rw [List.mem_singleton.mp harg]
    exact htoken
  | some stage =>
    obtain ⟨file, -, hstage⟩ := List.exists_of_findSome?_eq_some hfirst
    exact stageFrom_of_stageAt hstage

section

variable {m : Machine} {dir : Path} {name : String} {s : FileSink}

theorem stageFrom_stageOfSink (h : FoundAt m dir name s) :
    StageFrom dir (Resolution.stageOfSink m (sinkPath s)) := by
  unfold Resolution.stageOfSink
  simp only [h.absolute_sinkPath, Path.parent_child]
  cases hstage : Resolution.stageAt m ⟨dir, .standard⟩ (dir.child name) with
  | none =>
    refine ⟨?_, rfl, fun arg harg => ?_⟩
    · simp [Resolution.fallbackForSink]
    · rw [List.mem_singleton.mp harg]
      exact h.given
  | some stage => exact stageFrom_of_stageAt hstage

/-- A stage of the plan is the sink's own, or that of a token. -/
theorem of_mem_stages {searchDirs : List String} {context : Json} {mode : Mode} {stage : Stage}
    (h : stage ∈ (planOf m searchDirs context s mode).stages) :
    stage = Resolution.stageOfSink m (sinkPath s) ∨
      ∃ token ∈ s.parsed.preStages ++ s.parsed.postStages,
        stage = Resolution.stageOfToken m (sinkPath s) searchDirs token := by
  unfold Plan.stages planOf at h
  rcases List.mem_append.mp h with hpre | h
  · obtain ⟨token, htoken, rfl⟩ := List.mem_map.mp hpre
    exact .inr ⟨token, List.mem_append_left _ htoken, rfl⟩
  rcases List.mem_cons.mp h with rfl | hpost
  · exact .inl rfl
  · obtain ⟨token, htoken, rfl⟩ := List.mem_map.mp hpost
    exact .inr ⟨token, List.mem_append_right _ htoken, rfl⟩

/-- **Every stage of the plan** runs from the sink's directory, and can be handed
    over. -/
theorem stageFrom_of_mem_stages (h : FoundAt m dir name s) {searchDirs : List String}
    {context : Json} {mode : Mode} {stage : Stage}
    (hmem : stage ∈ (planOf m searchDirs context s mode).stages) : StageFrom dir stage := by
  rcases of_mem_stages hmem with rfl | ⟨token, htoken, rfl⟩
  · exact stageFrom_stageOfSink h
  · have hgiven : Tree.refusal? token = none :=
      Tree.refusal?_of_subset (h.spelledBy.tokens token htoken) h.legal.given
    exact stageFrom_stageOfToken h.absolute_sinkDir hgiven searchDirs

end

end Pipeline

/-! ### The plan of a sink in a pass -/

namespace Pass

open Pipeline

/-- Where stages are looked for in a pass. -/
def searchDirs (o : RunOptions) (settings : Settings) : List String :=
  (o.searchDirs ++ settings.searchDirs).map (·.toString)

/-- The plan of a sink in a pass, as a function of the machine. -/
def planOf (o : RunOptions) (settings : Settings) (mode : Mode) (m : Machine) (s : FileSink) : Plan :=
  Pipeline.planOf m (searchDirs o settings) o.context s mode

theorem textual_context (o : RunOptions) : Json.Textual 2 o.context := by
  refine .obj fun member hmember => ?_
  simp only [List.mem_cons, List.not_mem_nil, or_false] at hmember
  rcases hmember with rfl | rfl | rfl | rfl | rfl | rfl
  · exact .str _
  · exact Json.textual_strings _
  · exact Json.textual_strings _
  · exact Json.textual_strings _
  · exact Json.textual_strings _
  · exact .str _

section

variable {o : RunOptions} {settings : Settings} {mode : Mode} {m : Machine} {dir : Path}
  {name : String} {s : FileSink} {stage : Stage}

/-- What the processes of a sink are told can be handed over. -/
theorem legal_projectEnv (h : FoundAt m dir name s) (o : RunOptions) (mode : Mode) :
    (projectEnv s o.context mode).Legal := by
  -- What is cut out of a name has only characters of the name.
  have hbasename : Tree.refusal? s.parsed.basename = none :=
    Tree.refusal?_of_subset (fun c hc => (h.spelledBy.basename c hc).1) h.legal.given
  have hnature : Tree.refusal? s.parsed.natureToken = none := by
    have hword : Tree.refusal? s.parsed.nature = none :=
      Tree.refusal?_of_subset (fun c hc => (h.spelledBy.nature c hc).1) h.legal.given
    unfold SinkName.natureToken
    split
    · exact Tree.refusal?_append hword rfl
    · exact hword
  have hmode : Tree.refusal? (if mode.word = "" then "build" else mode.word) = none := by
    cases mode <;> rfl
  have hnames : ∀ n ∈ ["CAPEXEC_MODE", "CAPEXEC_SINK", "CAPEXEC_DIR", "CAPEXEC_BASENAME",
      "CAPEXEC_NATURE", "CAPEXEC_CONTEXT_JSON"], Tree.refusal? n = none ∧ '=' ∉ n.toList := by
    simp only [List.forall_mem_cons]
    exact ⟨⟨rfl, by decide⟩, ⟨rfl, by decide⟩, ⟨rfl, by decide⟩, ⟨rfl, by decide⟩, ⟨rfl, by decide⟩,
      ⟨rfl, by decide⟩, by simp⟩
  have hentries : (Projection.entries (sinkPath s) s.parsed mode.word).Legal := by
    unfold Projection.entries
    rw [h.sinkPath_eq, Path.parent_child]
    intro p hp
    have hlegal := hnames p.1
    simp only [List.mem_cons, List.not_mem_nil, or_false] at hp
    rcases hp with rfl | rfl | rfl | rfl | rfl
    · exact ⟨(hlegal (by simp)).1, (hlegal (by simp)).2, hmode⟩
    · exact ⟨(hlegal (by simp)).1, (hlegal (by simp)).2, h.given⟩
    · exact ⟨(hlegal (by simp)).1, (hlegal (by simp)).2, h.standing.given⟩
    · exact ⟨(hlegal (by simp)).1, (hlegal (by simp)).2, hbasename⟩
    · exact ⟨(hlegal (by simp)).1, (hlegal (by simp)).2, hnature⟩
  have hcontext : Tree.refusal? (Projection.contextText o.context) = none :=
    Json.refusal?_render (textual_context o)
  obtain ⟨hgiven, hequals⟩ := hnames "CAPEXEC_CONTEXT_JSON" (by simp)
  exact hentries.set hgiven hequals hcontext

/-- **No stage of the plan is refused** for what it is given. -/
theorem refusal?_of_mem_stages (hm : m.Sane) (h : FoundAt m dir name s)
    (hmem : stage ∈ (planOf o settings mode m s).stages) :
    Machine.refusal? (m.envOf (projectEnv s o.context mode) settings.inheritEnv stage) stage = none := by
  have hstage := stageFrom_of_mem_stages h hmem
  refine Machine.refusal?_eq_none ?_ hstage.argv fun d hd => ?_
  · unfold Machine.envOf
    refine Env.Legal.layered hm.env (legal_projectEnv h o mode) ?_ _
    rw [hstage.env]
    intro p hp
    cases hp
  · rw [hstage.cwd] at hd
    cases hd
    exact h.standing.given

/-! ### Plans that spare generated files -/

/-- No token of the sink, and no command of its plan, means a generated file. -/
structure SparesGenerated (o : RunOptions) (settings : Settings) (mode : Mode) (m : Machine)
    (s : FileSink) : Prop where
  /-- No token does. -/
  tokens : ∀ token ∈ s.parsed.preStages ++ s.parsed.postStages,
    ∀ file ∈ Resolution.candidates m (m.absolute (sinkDir s)) token (searchDirs o settings),
      ¬m.tree.NamesGenerated m.home file.toString
  /-- No command does. -/
  commands : ∀ stage ∈ (planOf o settings mode m s).stages, ∀ path ∈ Machine.candidates
      (m.envOf (projectEnv s o.context mode) settings.inheritEnv stage) stage.command,
    ¬m.tree.NamesGenerated (sinkDir s).parts path

/-- The arguments of a stage that was read off a file name none but the file. -/
theorem args_spared {file : Path} (hfile : ¬m.tree.NamesGenerated m.home file.toString)
    (h : Resolution.stageAt m ⟨dir, .standard⟩ file = some stage) :
    ∀ arg ∈ stage.args, (Path.ofString arg).isGenerated = false := by
  obtain ⟨⟨f, hstat⟩, -, -, words, hargv, hwords⟩ := Resolution.of_stageAt h
  have hspared : (Path.ofString file.toString).isGenerated = false := by
    by_contra hgen
    refine hfile ⟨by simpa using hgen, fun d hentry => ?_⟩
    obtain ⟨-, hstat⟩ := Tree.of_aboutPath_ok hstat
    rw [hentry] at hstat
    cases hstat
  intro arg harg
  have hmem : arg ∈ words ++ [file.toString] := by
    rw [← hargv]
    exact List.mem_cons_of_mem _ harg
  rcases List.mem_append.mp hmem with hword | hlast
  · have hall : ∀ w ∈ ["deno", "run", "-A", "python", "bash", "ruby", "node"],
        (Path.ofString w).isGenerated = false := by decide
    exact hall arg (hwords arg hword)
  · rw [List.mem_singleton.mp hlast]
    exact hspared

/-- **A plan that spares generated files** has stages that do. -/
theorem SparesGenerated.stages (hspares : SparesGenerated o settings mode m s)
    (h : FoundAt m dir name s) (hmem : stage ∈ (planOf o settings mode m s).stages) :
    m.Spares (m.envOf (projectEnv s o.context mode) settings.inheritEnv stage) stage := by
  have hstage := stageFrom_of_mem_stages h hmem
  refine ⟨⟨dir.parts, ?_, ?_⟩, ?_⟩
  · unfold Machine.startPlace
    simp only [hstage.cwd, h.standing.there]
  · have hcommands := hspares.commands stage hmem
    rwa [h.sinkDir_eq] at hcommands
  · rcases of_mem_stages hmem with rfl | ⟨token, htoken, rfl⟩
    · unfold Resolution.stageOfSink
      cases hfound : Resolution.stageAt m ⟨(m.absolute (sinkPath s)).parent, .standard⟩
          (m.absolute (sinkPath s)) with
      | none =>
        intro arg harg
        simp [hfound, Resolution.fallbackForSink] at harg
      | some found =>
        simp only [hfound, Option.getD_some]
        exact args_spared h.not_namesGenerated hfound
    · unfold Resolution.stageOfToken
      cases hfound : (Resolution.candidates m (m.absolute (sinkPath s).parent) token
          (searchDirs o settings)).findSome?
          (Resolution.stageAt m ⟨m.absolute (sinkPath s).parent, .standard⟩) with
      | none =>
        intro arg harg
        simp [hfound, Resolution.fallbackForToken] at harg
      | some found =>
        simp only [hfound, Option.getD_some]
        obtain ⟨file, hfile, hat⟩ := List.exists_of_findSome?_eq_some hfound
        exact args_spared (hspares.tokens token htoken file hfile) hat

/-- **The plan is the same** on alike machines. -/
theorem SparesGenerated.planOf_alike (hspares : SparesGenerated o settings mode m s) (hm : m.Sane)
    (h : FoundAt m dir name s) {m' : Machine} (halike : m.Alike m') :
    planOf o settings mode m' s = planOf o settings mode m s :=
  Pipeline.planOf_alike halike hm.linkless hspares.tokens h.not_namesGenerated o.context mode

end

end Pass

end SinkPipeline
