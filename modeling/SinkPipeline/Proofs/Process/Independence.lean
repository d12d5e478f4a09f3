import SinkPipeline.Proofs.FileTree.Alike
import SinkPipeline.Proofs.Process.Composition

/-! # Chains on alike machines

  Two machines are **alike** if they differ in generated files and in the time
  at most.  A chain runs the same on both, whichever of the two it is started
  on, provided that

  - its stages **spare** generated files: no command means one, no argument names
    one, and the directory to run from is there;
  - the programs are **indifferent** to them: what a program does depends on its
    arguments, environment, directory and input, and on other files only.
-/

namespace SinkPipeline.Machine

/-- The machines differ in generated files and in the time at most. -/
structure Alike (m m' : Machine) : Prop where
  /-- The trees differ in generated files at most. -/
  tree : m.tree.Alike m'.tree
  /-- The working directory is the same. -/
  cwd : m'.cwd = m.cwd
  /-- The environment is the same. -/
  env : m'.env = m.env
  /-- The programs are the same. -/
  programs : m'.programs = m.programs

theorem Alike.refl (m : Machine) : m.Alike m := ⟨.refl _, rfl, rfl, rfl⟩

theorem Alike.trans {m m' m'' : Machine} (h : m.Alike m') (h' : m'.Alike m'') : m.Alike m'' :=
  ⟨h.tree.trans h'.tree, h'.cwd.trans h.cwd, h'.env.trans h.env, h'.programs.trans h.programs⟩

theorem Alike.symm {m m' : Machine} (h : m.Alike m') : m'.Alike m :=
  ⟨h.tree.symm, h.cwd.symm, h.env.symm, h.programs.symm⟩

theorem Alike.home {m m' : Machine} (h : m.Alike m') : m'.home = m.home := by
  unfold Machine.home
  rw [h.cwd]

theorem Alike.absolute {m m' : Machine} (h : m.Alike m') (p : Path) :
    m'.absolute p = m.absolute p := by
  unfold Machine.absolute
  rw [h.cwd]

/-- What the programs of the machine do depends on no generated file that their
    arguments do not name. -/
def Indifferent (m : Machine) : Prop :=
  ∀ bytes b, m.programs bytes = some b → ∀ (call : Call) (file : String → Option Bytes) (input : Bytes),
    (∀ arg ∈ call.args, (Path.ofString arg).isGenerated = false) →
    (∀ path, (Path.ofString path).isGenerated = false → file path = call.file path) →
    b { call with file := file } input = b call input

/-- The stage runs from a directory that is there, and neither its command nor
    its arguments mean a generated file. -/
structure Spares (m : Machine) (env : Env) (stage : Stage) : Prop where
  /-- The directory is there, and no command means a generated file there. -/
  command : ∃ start, m.startPlace stage = .ok start ∧
    ∀ path ∈ candidates env stage.command, ¬m.tree.NamesGenerated start path
  /-- No argument names a generated file. -/
  args : ∀ arg ∈ stage.args, (Path.ofString arg).isGenerated = false

namespace Alike

variable {m m' : Machine}

/-- A directory to run from is the same place. -/
theorem startPlace (h : m.Alike m') (ht : m.tree.Linkless) {stage : Stage} {start : Place}
    (hstart : m.startPlace stage = .ok start) : m'.startPlace stage = .ok start := by
  unfold Machine.startPlace at hstart ⊢
  rw [h.home]
  cases hdir : stage.cwd with
  | none =>
    rw [hdir] at hstart
    exact hstart
  | some dir =>
    rw [hdir] at hstart
    cases hentry : m.tree.entryAt m.home true dir with
    | error e =>
      simp only [hentry] at hstart
      cases hstart
    | ok found =>
      obtain ⟨p, e⟩ := found
      simp only [hentry] at hstart
      cases e with
      | dir =>
        cases hstart
        simp only [h.tree.entryAt_dir ht hentry]
      | file f => cases hstart
      | link target => cases hstart

theorem programAt (h : m.Alike m') (ht : m.tree.Linkless) {start : Place} {path : String}
    (hpath : ¬m.tree.NamesGenerated start path) :
    Tree.Agree (m.programAt start path) (m'.programAt start path) := by
  unfold Machine.programAt
  rw [h.programs]
  exact (h.tree.entryAt ht hpath).bind _

theorem absence_iff (e : Errno) : isAbsence e = true ↔ Tree.Absence e := by
  simp [isAbsence, Tree.Absence]

/-- **The same program is found** under a command, or none. -/
theorem firstProgram (h : m.Alike m') (ht : m.tree.Linkless) {start : Place} {paths : List String}
    (hpaths : ∀ path ∈ paths, ¬m.tree.NamesGenerated start path) {reason reason' : Errno}
    (hreason : reason' = reason ∨ Tree.Absence reason ∧ Tree.Absence reason') :
    Tree.Agree (m.firstProgram start reason paths) (m'.firstProgram start reason' paths) := by
  -- The reasons so far may differ, as long as both say that nothing is there.
  induction paths generalizing reason reason' with
  | nil =>
    rcases hreason with rfl | ⟨habsent, habsent'⟩
    · exact .same _
    · exact .absent habsent habsent'
  | cons path paths ih =>
    have hagree := h.programAt ht (hpaths path (by simp))
    have hrest : ∀ path ∈ paths, ¬m.tree.NamesGenerated start path :=
      fun path hpath => hpaths path (by simp [hpath])
    unfold Machine.firstProgram
    generalize m.programAt start path = r, m'.programAt start path = r' at hagree
    cases hagree with
    | same r =>
      cases r with
      | ok b => exact .same _
      | error e =>
        refine ih hrest ?_
        rcases hreason with rfl | ⟨habsent, habsent'⟩
        · exact .inl rfl
        · rw [if_pos ((absence_iff _).mpr habsent), if_pos ((absence_iff _).mpr habsent')]
          exact .inl rfl
    | @absent e e' he he' =>
      refine ih hrest ?_
      rcases hreason with rfl | ⟨habsent, habsent'⟩
      · by_cases habsent : isAbsence reason' = true
        · rw [if_pos habsent, if_pos habsent]
          exact .inr ⟨he, he'⟩
        · rw [if_neg habsent, if_neg habsent]
          exact .inl rfl
      · rw [if_pos ((absence_iff _).mpr habsent), if_pos ((absence_iff _).mpr habsent')]
        exact .inr ⟨he, he'⟩

end Alike

/-- A program that is found is in a file. -/
theorem of_firstProgram_ok {m : Machine} {start : Place} {reason : Errno} {paths : List String}
    {b : Behaviour} (h : m.firstProgram start reason paths = .ok b) :
    ∃ bytes, m.programs bytes = some b := by
  induction paths generalizing reason with
  | nil => cases h
  | cons path paths ih =>
    unfold firstProgram at h
    cases hprogram : m.programAt start path with
    | error e =>
      rw [hprogram] at h
      exact ih h
    | ok found =>
      rw [hprogram] at h
      cases h
      unfold programAt at hprogram
      cases hentry : m.tree.entryAt start true path with
      | error e =>
        rw [hentry] at hprogram
        cases hprogram
      | ok found =>
        obtain ⟨p, e⟩ := found
        rw [hentry] at hprogram
        cases e with
        | dir => cases hprogram
        | link target => cases hprogram
        | file f =>
          refine ⟨f.bytes, ?_⟩
          simp only [bind, Except.bind] at hprogram
          split at hprogram
          · cases hprogram
          split at hprogram
          · cases hprogram
          split at hprogram
          · next b' hb =>
            cases hprogram
            exact hb
          · split at hprogram <;> cases hprogram

/-- A stage whose program is not found is not launched. -/
theorem launch_of_missing {m : Machine} {env : Env} {stage : Stage} {start : Place} {e : Errno}
    (hgiven : refusal? env stage = none) (hstart : m.startPlace stage = .ok start)
    (hmissing : m.firstProgram start .noEntry (candidates env stage.command) = .error e) :
    m.launch env stage = .error (.os e [stage.command]) := by
  unfold launch
  simp only [hgiven, hstart, hmissing, bind, Except.bind]
  rfl

/-- A stage that cannot be handed over is not launched. -/
theorem launch_of_refusal {m : Machine} {env : Env} {stage : Stage} {f : Fault}
    (hrefused : refusal? env stage = some f) : m.launch env stage = .error f := by
  unfold launch
  rw [hrefused]
  rfl

namespace Alike

variable {m m' : Machine}

/-- Files of other names are given to a program alike. -/
theorem callOf (h : m.Alike m') (ht : m.tree.Linkless) (env : Env) (stage : Stage) (start : Place)
    {path : String} (hpath : (Path.ofString path).isGenerated = false) :
    (m'.callOf env stage start).file path = (m.callOf env stage start).file path := by
  have hspared : ¬m.tree.NamesGenerated start path := by
    rintro ⟨hgen, -⟩
    rw [hpath] at hgen
    cases hgen
  unfold Machine.callOf
  dsimp only
  rcases h.tree.readFile ht hspared with hsame | ⟨e, e', -, -, hread, hread'⟩
  · rw [hsame]
  · rw [hread, hread']
    rfl

/-- **A stage is launched alike**: both times with the same program, or neither
    time. -/
theorem launch (h : m.Alike m') (ht : m.tree.Linkless) {env : Env} {stage : Stage}
    (hspares : m.Spares env stage) :
    (∃ b start, m.launch env stage = .ok (b, m.callOf env stage start) ∧
        m'.launch env stage = .ok (b, m'.callOf env stage start) ∧
        ∃ bytes, m.programs bytes = some b) ∨
      ∃ f f', m.launch env stage = .error f ∧ m'.launch env stage = .error f' := by
  obtain ⟨start, hstart, hcommand⟩ := hspares.command
  cases hgiven : refusal? env stage with
  | some f => exact .inr ⟨f, f, launch_of_refusal hgiven, launch_of_refusal hgiven⟩
  | none =>
    have hstart' := h.startPlace ht hstart
    have hagree := h.firstProgram ht hcommand (.inl (Eq.refl Errno.noEntry))
    cases hfound : m.firstProgram start .noEntry (candidates env stage.command) with
    | ok b =>
      left
      exact ⟨b, start, launch_of_found hgiven hstart hfound,
        launch_of_found hgiven hstart' (hagree.ok hfound), of_firstProgram_ok hfound⟩
    | error e =>
      right
      obtain ⟨e', hfound'⟩ := hagree.error hfound
      exact ⟨_, _, launch_of_missing hgiven hstart hfound, launch_of_missing hgiven hstart' hfound'⟩

/-- **A chain runs alike**: both times it gives the same stream, or neither time
    all of its stages are launched. -/
theorem chain (h : m.Alike m') (ht : m.tree.Linkless) (hprograms : m.Indifferent) {overlay : Env}
    {inherit : Bool} {stages : List Stage}
    (hspares : ∀ stage ∈ stages, m.Spares (m.envOf overlay inherit stage) stage) (input : Stream) :
    (∃ s, m.chain overlay inherit stages input = .ok s ∧
        m'.chain overlay inherit stages input = .ok s) ∨
      ∃ e e', m.chain overlay inherit stages input = .error e ∧
        m'.chain overlay inherit stages input = .error e' := by
  induction stages generalizing input with
  | nil => exact .inl ⟨input, rfl, rfl⟩
  | cons stage stages ih =>
    have henv : m'.envOf overlay inherit stage = m.envOf overlay inherit stage := by
      unfold Machine.envOf
      rw [h.env]
    have hspare := hspares stage (by simp)
    rcases h.launch ht hspare with ⟨b, start, hlaunch, hlaunch', bytes, hbytes⟩ |
      ⟨f, f', hlaunch, hlaunch'⟩
    · have hstarts : m.Starts overlay inherit
          ⟨stage, b, m.callOf (m.envOf overlay inherit stage) stage start⟩ := hlaunch
      have hstarts' : m'.Starts overlay inherit
          ⟨stage, b, m'.callOf (m.envOf overlay inherit stage) stage start⟩ := by
        unfold Machine.Starts
        rw [henv]
        exact hlaunch'
      -- The program does the same both times, so the next stage is given the same stream.
      have hreact : ∀ given, b (m'.callOf (m.envOf overlay inherit stage) stage start) given =
          b (m.callOf (m.envOf overlay inherit stage) stage start) given := fun given =>
        hprograms bytes b hbytes (m.callOf (m.envOf overlay inherit stage) stage start) _ given
          hspare.args fun path hpath => h.callOf ht _ stage start hpath
      have hstream : streamOf stage (m.envOf overlay inherit stage) b
          (m'.callOf (m.envOf overlay inherit stage) stage start) input =
          streamOf stage (m.envOf overlay inherit stage) b
            (m.callOf (m.envOf overlay inherit stage) stage start) input := by
        unfold streamOf
        simp only [hreact]
      rw [chain_cons_of_starts hstarts, chain_cons_of_starts hstarts', henv, hstream]
      exact ih (fun s hs => hspares s (by simp [hs])) _
    · right
      have hnone : ∀ m : Machine,
          m.chain overlay inherit (([] : List Launched).map (·.stage)) input = .ok input := fun _ => rfl
      exact ⟨_, _, chain_stops stages (hnone m) hlaunch,
        chain_stops stages (hnone m') (by rw [henv]; exact hlaunch')⟩

end Alike

end SinkPipeline.Machine
