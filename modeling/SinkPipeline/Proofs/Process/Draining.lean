import SinkPipeline.Proofs.Process.Closing

/-! # Draining a chain

  A chain that is **drained** is read to its end and closed.  After that nothing
  is left of it: no event, no process that runs, and its source is closed.

  Reading ends in a fault if a stage fails, but not every failure gets as far as
  the end.  A later stage that closes its input while more is waiting for it
  than fits on the way breaks off what feeds it, and the fault that was to
  arrive there is lost.  All stages before it are **cut off**.  So a chain ends
  without a fault just if every stage that does not end with zero is cut off; if
  every program reads its input to the end none is.
-/

namespace SinkPipeline

namespace Launched

variable {l : Launched} {ls : List Launched} {input : Bytes}

/-- The program closes its input while more is waiting for it than fits on the
    way. -/
def BreaksOff (l : Launched) (input : Bytes) : Prop :=
  (l.react input).closesInput = true ∧ Machine.waitingCapacity < input.length

/-- What is before these stages is cut off by one of them. -/
def CutOff (ls : List Launched) (input : Bytes) : Prop :=
  ∃ before l after, ls = before ++ l :: after ∧ BreaksOff l (feed before input)

/-- Every stage that does not end with zero is cut off by the stages after it. -/
def Excused (ls : List Launched) (input : Bytes) : Prop :=
  ∀ before l after, ls = before ++ l :: after → (l.react (feed before input)).status ≠ 0 →
    CutOff after (l.react (feed before input)).output

theorem not_cutOff_nil : ¬CutOff [] input := by
  rintro ⟨before, l, after, hsplit, -⟩
  simp at hsplit

theorem excused_nil : Excused [] input := by
  intro before l after hsplit
  simp at hsplit

/-- The first stage breaks off what comes to it, or a later one does. -/
theorem cutOff_cons_iff :
    CutOff (l :: ls) input ↔ BreaksOff l input ∨ CutOff ls (l.react input).output := by
  constructor
  · rintro ⟨before, k, after, hsplit, hbreaks⟩
    rcases List.cons_eq_append_iff.mp hsplit with ⟨rfl, hhere⟩ | ⟨before, rfl, hlater⟩
    · cases hhere
      exact .inl hbreaks
    · exact .inr ⟨before, k, after, hlater, hbreaks⟩
  · rintro (hbreaks | ⟨before, k, after, rfl, hbreaks⟩)
    · exact ⟨[], l, ls, rfl, hbreaks⟩
    · exact ⟨l :: before, k, after, rfl, hbreaks⟩

/-- The first stage ends with zero or is cut off, and so is every later one. -/
theorem excused_cons_iff :
    Excused (l :: ls) input ↔
      ((l.react input).status ≠ 0 → CutOff ls (l.react input).output) ∧
        Excused ls (l.react input).output := by
  constructor
  · intro h
    refine ⟨h [] l ls rfl, ?_⟩
    rintro before k after rfl hstatus
    exact h (l :: before) k after rfl hstatus
  · rintro ⟨hhere, hlater⟩ before k after hsplit hstatus
    rcases List.cons_eq_append_iff.mp hsplit with ⟨rfl, hsame⟩ | ⟨before, rfl, hrest⟩
    · cases hsame
      exact hhere hstatus
    · exact hlater before k after hrest hstatus

/-- **When no fault surfaces.** -/
theorem surfacing_eq_none_iff (ls : List Launched) (input : Bytes) (arriving : Option Fault) :
    surfacing ls input arriving = none ↔
      (arriving = none ∨ CutOff ls input) ∧ Excused ls input := by
  induction ls generalizing input arriving with
  | nil => simp [surfacing, not_cutOff_nil, excused_nil]
  | cons l ls ih =>
    -- What arrives is kept unless it is broken off here; the stage may add its own.
    have hkept : (if (l.react input).closesInput && Machine.waitingCapacity < input.length then none
        else arriving) = none ↔ BreaksOff l input ∨ arriving = none := by
      unfold BreaksOff
      by_cases h : (l.react input).closesInput = true ∧ Machine.waitingCapacity < input.length
      · simp [h]
      · simp [h]
    have hown : (if (l.react input).status = 0 then none
        else some (Fault.stageExit l.stage.argv (l.react input).status)) = none ↔
          (l.react input).status = 0 := by
      by_cases h : (l.react input).status = 0 <;> simp [h]
    rw [surfacing, ih, cutOff_cons_iff, excused_cons_iff, Option.or_eq_none_iff, hkept, hown]
    by_cases hstatus : (l.react input).status = 0 <;>
      by_cases hcut : CutOff ls (l.react input).output <;>
        simp [hstatus, hcut, or_comm]

/-- Where every program reads its input to the end no stage is excused. -/
theorem excused_iff_of_readToEnd (h : ReadToEnd ls input) :
    Excused ls input ↔ ∀ e ∈ statuses ls input, e.2 = 0 := by
  have hsurfaces := surfacing_eq_none_iff ls input none
  rw [surfacing_of_readToEnd ls input none h, Option.none_or, firstFailure_eq_none_iff] at hsurfaces
  simpa using hsurfaces.symm

end Launched

/-! ### What is left -/

namespace Stream

/-- The events behind the first fault, or none if there is no fault. -/
def behindFault : List StreamEvent → List StreamEvent
  | [] => []
  | .fault _ :: rest => rest
  | .chunk _ :: rest => behindFault rest

/-- Nothing is left of the stream: it was read, and all that it came from has
    been released. -/
structure Drained (s : Stream) : Prop where
  /-- Nothing is left to read. -/
  read : s.unread = []
  /-- The source is closed, and no process is running. -/
  released : s.lineage.Released

/-- A fold that only counts leaves what is behind the first fault. -/
theorem fold_go_count_stream (s : Stream) (events : List StreamEvent) (n : Nat) :
    (fold.go (fun n bytes => (n + bytes.length, none)) s events n).stream =
      ⟨behindFault events, s.lineage.finish⟩ := by
  induction events generalizing n with
  | nil => rfl
  | cons e rest ih =>
    cases e with
    | fault f => rfl
    | chunk bytes =>
      rw [fold.go]
      exact ih (n + bytes.length)

/-- What draining leaves. -/
theorem drain_stream (s : Stream) : s.drain.2 = ⟨behindFault s.unread, s.lineage.finish.close⟩ := by
  unfold drain fold
  dsimp only
  rw [fold_go_count_stream]
  rfl

/-- Closing what was read to the end releases everything. -/
theorem finish_close_released (l : Lineage) : l.finish.close.Released := by
  cases l with
  | source closed => exact ⟨rfl, by simp [Lineage.finish, Lineage.close, Lineage.processes]⟩
  | process p before => exact (Lineage.settle_settled (.process p before)).close_released

end Stream

namespace Machine

variable {m : Machine} {overlay : Env} {inherit : Bool}

/-- The fault of a process is the last that comes from it. -/
theorem behindFault_outputOf (stage : Stage) (r : Reaction) (input : Bytes)
    (arriving : Option Fault) : Stream.behindFault (outputOf stage r input arriving) = [] := by
  unfold outputOf
  dsimp only
  generalize Option.or _ _ = ending
  by_cases h : r.output = [] <;> cases ending <;> simp [h, Stream.behindFault]

/-- Nothing comes behind the fault of a chain, if nothing does in its input. -/
theorem behindFault_of_chain {stages : List Stage} {input s : Stream}
    (hinput : Stream.behindFault input.unread = [])
    (h : m.chain overlay inherit stages input = .ok s) : Stream.behindFault s.unread = [] := by
  induction stages generalizing input with
  | nil =>
    cases h
    exact hinput
  | cons stage stages ih =>
    obtain ⟨t, hspawn, hrest⟩ := of_chain_cons h
    refine ih ?_ hrest
    unfold spawn at hspawn
    dsimp only at hspawn
    split at hspawn
    · cases hspawn
      exact behindFault_outputOf _ _ _ _
    · cases hspawn

/-- **Draining a chain leaves nothing of it**, whether it ends in a fault or not. -/
theorem drained_of_chain {stages : List Stage} {s : Stream}
    (h : m.chain overlay inherit stages .empty = .ok s) : s.drain.2.Drained := by
  rw [Stream.drain_stream]
  exact ⟨behindFault_of_chain rfl h, Stream.finish_close_released s.lineage⟩

/-- Draining launched stages ends as they do. -/
theorem drain_of_starts (ls : List Launched) (h : ∀ l ∈ ls, m.Starts overlay inherit l) :
    ∃ s, m.chain overlay inherit (ls.map (·.stage)) .empty = .ok s ∧
      ((∃ n, s.drain.1 = .ok n) ↔ Launched.Excused ls []) := by
  obtain ⟨s, hchain, -, hfault⟩ := chain_of_starts ls h .empty
  rw [Stream.bytes_empty, Stream.fault?_empty] at hfault
  have hsurfaces := Launched.surfacing_eq_none_iff ls [] none
  rw [← hfault] at hsurfaces
  refine ⟨s, hchain, ?_⟩
  rw [Stream.drain_result]
  cases hended : s.fault? with
  | none => simpa [hended] using hsurfaces
  | some f => simpa [hended] using hsurfaces

/-- **When a drained chain has no fault**: every stage is launched, and every one
    that does not end with zero is cut off. -/
theorem drain_ok_iff (stages : List Stage) :
    (∃ s n, m.chain overlay inherit stages .empty = .ok s ∧ s.drain.1 = .ok n) ↔
      ∃ ls : List Launched, ls.map (·.stage) = stages ∧ (∀ l ∈ ls, m.Starts overlay inherit l) ∧
        Launched.Excused ls [] := by
  constructor
  · rintro ⟨s, n, hchain, hdrain⟩
    obtain ⟨ls, hstart, hall | ⟨stage, rest, cause, hsplit, hcause⟩⟩ :=
      m.exists_launched overlay inherit stages
    · obtain ⟨t, hsame, hexcused⟩ := drain_of_starts ls hstart
      rw [hall, hchain] at hsame
      cases hsame
      exact ⟨ls, hall, hstart, hexcused.mp ⟨n, hdrain⟩⟩
    · -- A stage that cannot be launched ends the chain.
      obtain ⟨t, hbefore, -⟩ := drain_of_starts ls hstart
      have hstops := chain_stops rest hbefore hcause
      rw [← hsplit, hchain] at hstops
      cases hstops
  · rintro ⟨ls, rfl, hstart, hexcused⟩
    obtain ⟨s, hchain, hdrain⟩ := drain_of_starts ls hstart
    obtain ⟨n, hn⟩ := hdrain.mpr hexcused
    exact ⟨s, n, hchain, hn⟩

end Machine

end SinkPipeline
