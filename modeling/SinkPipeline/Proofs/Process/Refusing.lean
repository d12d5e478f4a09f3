import SinkPipeline.Proofs.Outcome
import SinkPipeline.Proofs.Output.Atomicity

/-! # Refused starts

  A start that fails has one of two reasons.

  - The operating system refuses the directory or the command.  The input is
    closed first.
  - A value cannot be handed over at all: a NUL character or a surrogate without
    a byte in a variable, an argument or the directory, or an equals sign in the
    name of a variable.  This is found before the operating system is asked, and
    it goes past the closing: the input comes back as it was.

  So a failed start closes its input just if all values can be handed over.
-/

namespace SinkPipeline

open Fault (ofSystemText?)

/-! ### Values that no process can be given -/

theorem Fault.isValue_of_ofSystemText? {s : String} {f : Fault} (h : ofSystemText? s = some f) :
    f.isValue = true := by
  obtain ⟨p, -, rfl⟩ := Option.map_eq_some_iff.mp h
  rfl

theorem Tree.isValue_of_refusal? {s : String} {f : Fault} (h : refusal? s = some f) :
    f.isValue = true := by
  rcases Option.or_eq_some_iff.mp h with htext | ⟨-, hnul⟩
  · exact Fault.isValue_of_ofSystemText? htext
  · split at hnul
    · cases hnul
      rfl
    · cases hnul

/-- A fault of a value is none of the operating system. -/
theorem Fault.isOs_of_isValue {f : Fault} (h : f.isValue = true) : f.isOs = false := by
  cases f with
  | plain kind message => cases kind <;> first | rfl | cases h
  | invalid => rfl
  | os => cases h
  | engine => cases h
  | cancelled => cases h
  | interrupted => cases h

namespace Machine

/-- **All that a process is given can be handed over**: the names and values of
    its variables, its arguments and its directory. -/
structure HandsOver (env : Env) (stage : Stage) : Prop where
  /-- The names of the variables, in which an equals sign cannot stand either. -/
  names : ∀ p ∈ env, ∀ c ∈ p.1.toList, Tree.Handable c ∧ c ≠ '='
  /-- Their values. -/
  values : ∀ p ∈ env, ∀ c ∈ p.2.toList, Tree.Handable c
  /-- The command and its arguments. -/
  argv : ∀ arg ∈ stage.argv, ∀ c ∈ arg.toList, Tree.Handable c
  /-- The directory. -/
  cwd : ∀ dir, stage.cwd = some dir → ∀ c ∈ dir.toList, Tree.Handable c

section

variable {env : Env} {stage : Stage}

theorem HandsOver.legal (h : HandsOver env stage) : env.Legal := by
  intro p hp
  refine ⟨Tree.refusal?_eq_none_iff.mpr fun c hc => (h.names p hp c hc).1, ?_,
    Tree.refusal?_eq_none_iff.mpr (h.values p hp)⟩
  intro hequals
  exact (h.names p hp '=' hequals).2 rfl

theorem variableRefusal?_eq_none {name value : String} (h : variableRefusal? name value = none) :
    '=' ∉ name.toList := by
  have hequals := (Option.or_eq_none_iff.mp h).2
  split at hequals
  · cases hequals
  · next hno => simpa using hno

/-- **What is not refused is what can be handed over.** -/
theorem refusal?_eq_none_iff_handsOver : refusal? env stage = none ↔ HandsOver env stage := by
  constructor
  · intro h
    unfold refusal? at h
    simp only [Option.or_eq_none_iff, List.findSome?_eq_none_iff] at h
    obtain ⟨hvariables, -, hargv, hnuls, hcwd⟩ := h
    -- A variable is looked at as one string, its name and then its value.
    have hchars : ∀ p ∈ env, ∀ c ∈ p.1.toList ++ p.2.toList, Tree.Handable c := by
      intro p hp
      rw [← String.toList_append]
      exact Tree.refusal?_eq_none_iff.mp (hnuls p hp)
    refine ⟨fun p hp c hc => ⟨hchars p hp c (List.mem_append_left _ hc), ?_⟩,
      fun p hp c hc => hchars p hp c (List.mem_append_right _ hc),
      fun arg harg => Tree.refusal?_eq_none_iff.mp (hargv arg harg), ?_⟩
    · rintro rfl
      exact variableRefusal?_eq_none (hvariables p hp) hc
    · intro dir hdir
      rw [hdir] at hcwd
      exact Tree.refusal?_eq_none_iff.mp hcwd
  · intro h
    exact refusal?_eq_none h.legal (fun arg harg => Tree.refusal?_eq_none_iff.mpr (h.argv arg harg))
      fun dir hdir => Tree.refusal?_eq_none_iff.mpr (h.cwd dir hdir)

theorem isValue_of_variableRefusal? {name value : String} {f : Fault}
    (h : variableRefusal? name value = some f) : f.isValue = true := by
  rcases Option.or_eq_some_iff.mp h with hname | ⟨-, hrest⟩
  · exact Fault.isValue_of_ofSystemText? hname
  · split at hrest
    · cases hrest
      rfl
    · exact Fault.isValue_of_ofSystemText? hrest

/-- What cannot be handed over is refused as a value. -/
theorem isValue_of_refusal? {f : Fault} (h : refusal? env stage = some f) : f.isValue = true := by
  unfold refusal? at h
  simp only [Option.or_eq_some_iff] at h
  rcases h with hvariable | ⟨-, hcommand | ⟨-, harg | ⟨-, hnul | ⟨-, hcwd⟩⟩⟩⟩
  · obtain ⟨p, -, hp⟩ := List.exists_of_findSome?_eq_some hvariable
    exact isValue_of_variableRefusal? hp
  · exact Fault.isValue_of_ofSystemText? hcommand
  · obtain ⟨arg, -, harg⟩ := List.exists_of_findSome?_eq_some harg
    exact Tree.isValue_of_refusal? harg
  · obtain ⟨p, -, hp⟩ := List.exists_of_findSome?_eq_some hnul
    exact Tree.isValue_of_refusal? hp
  · obtain ⟨dir, -, hdir⟩ := Option.bind_eq_some_iff.mp hcwd
    exact Tree.isValue_of_refusal? hdir

end

/-! ### Failed starts -/

section

variable {m : Machine} {overlay : Env} {inherit : Bool} {stage : Stage}

/-- A start whose values cannot be handed over gives the input back as it was. -/
theorem spawn_of_refusal? {f : Fault} (h : refusal? (m.envOf overlay inherit stage) stage = some f)
    (input : Stream) : m.spawn overlay inherit stage input = .error (f, input) := by
  have hlaunch : m.launch (m.envOf overlay inherit stage) stage = .error f := by
    unfold launch
    rw [h]
    rfl
  unfold spawn
  simp only [hlaunch]
  rw [if_neg]
  simp [Fault.isOs_of_isValue (isValue_of_refusal? h)]

/-- A start that fails although all values can be handed over has closed the
    input, and says why the operating system refused it. -/
theorem spawn_error_of_handsOver (hgiven : HandsOver (m.envOf overlay inherit stage) stage)
    {input left : Stream} {f : Fault} (h : m.spawn overlay inherit stage input = .error (f, left)) :
    ∃ cause, m.launch (m.envOf overlay inherit stage) stage = .error cause ∧ cause.isOs = true ∧
      f = spawnFault stage cause ∧ left = input.close := by
  cases hlaunch : m.launch (m.envOf overlay inherit stage) stage with
  | ok started =>
    unfold spawn at h
    simp only [hlaunch] at h
    cases h
  | error cause =>
    have hos := isOs_of_launch (refusal?_eq_none_iff_handsOver.mpr hgiven) hlaunch
    unfold spawn at h
    simp only [hlaunch, hos, if_true] at h
    cases h
    exact ⟨cause, rfl, hos, rfl, rfl⟩

/-- **When a failed start closes its input.**  It does so just if all that the
    process would be given can be handed over: then the fault tells why the
    operating system refused the stage.  Otherwise the start always fails, with
    a fault of a value, and the input is left open as it was. -/
theorem spawn_refused_closes_iff (m : Machine) (overlay : Env) (inherit : Bool) (stage : Stage)
    (input : Stream) (hopen : ¬input.lineage.Closed) :
    (∀ f left, m.spawn overlay inherit stage input = .error (f, left) →
      (left.lineage.Closed ↔ HandsOver (m.envOf overlay inherit stage) stage) ∧
      (left.lineage.Closed → left = input.close ∧ ∃ cause, cause.isOs = true ∧
        m.launch (m.envOf overlay inherit stage) stage = .error cause ∧
        f = spawnFault stage cause)) ∧
    (¬HandsOver (m.envOf overlay inherit stage) stage →
      ∃ f, f.isValue = true ∧ m.spawn overlay inherit stage input = .error (f, input)) := by
  have hrefused : ¬HandsOver (m.envOf overlay inherit stage) stage →
      ∃ f, f.isValue = true ∧ m.spawn overlay inherit stage input = .error (f, input) := by
    intro hnot
    rw [← refusal?_eq_none_iff_handsOver, ← ne_eq, Option.ne_none_iff_exists'] at hnot
    obtain ⟨f, hf⟩ := hnot
    exact ⟨f, isValue_of_refusal? hf, spawn_of_refusal? hf input⟩
  refine ⟨fun f left h => ?_, hrefused⟩
  by_cases hgiven : HandsOver (m.envOf overlay inherit stage) stage
  · obtain ⟨cause, hlaunch, hos, hfault, rfl⟩ := spawn_error_of_handsOver hgiven h
    exact ⟨⟨fun _ => hgiven, fun _ => input.lineage.closed_close⟩,
      fun _ => ⟨rfl, cause, hos, hlaunch, hfault⟩⟩
  · obtain ⟨g, -, hg⟩ := hrefused hgiven
    cases hg.symm.trans h
    exact ⟨⟨fun hclosed => absurd hclosed hopen, fun h => absurd h hgiven⟩,
      fun hclosed => absurd hclosed hopen⟩

/-- A directory whose path is empty, and an argument with a NUL character. -/
theorem twice_spawn_refused_closes_iff :
    ¬(Stream.ofEvents [.chunk [1]]).lineage.Closed ∧
    (∃ f left, twiceMachine.spawn [] false { command := "/twice", cwd := some "" }
        (.ofEvents [.chunk [1]]) = .error (f, left) ∧ left.lineage.Closed) ∧
    ∃ f, f.isValue = true ∧
      twiceMachine.spawn [] false (twiceStage ["a\x00"]).stage (.ofEvents [.chunk [1]]) =
        .error (f, .ofEvents [.chunk [1]]) := by
  have hopen : ¬(Stream.ofEvents [.chunk [1]]).lineage.Closed := by
    intro hclosed
    cases hclosed
  have hnowhere := spawn_refused_closes_iff twiceMachine [] false
    { command := "/twice", cwd := some "" } (.ofEvents [.chunk [1]]) hopen
  have hnul := spawn_refused_closes_iff twiceMachine [] false (twiceStage ["a\x00"]).stage
    (.ofEvents [.chunk [1]]) hopen
  refine ⟨hopen, ⟨_, _, rfl, ?_⟩, ?_⟩
  · exact (hnowhere.1 _ _ rfl).1.mpr (refusal?_eq_none_iff_handsOver.mp rfl)
  · refine hnul.2 fun hgiven => ?_
    have hchar := hgiven.argv "a\x00" (by simp [twiceStage, Stage.argv]) '\x00' (by decide)
    exact hchar.1 rfl

/-- With a NUL character in an argument the source of the input stays open. -/
theorem twice_spawn_leaves_open :
    ∃ f left, twiceMachine.spawn [] false (twiceStage ["a\x00"]).stage (.ofEvents [.chunk [1]]) =
      .error (f, left) ∧ left.sourceClosed = false :=
  ⟨Fault.embeddedNul, _, spawn_of_refusal? rfl _, rfl⟩

end

end Machine

end SinkPipeline
