import SinkPipeline.Proofs.Process.Composition

/-! # Abandoning a chain

  A chain that is abandoned should leave nothing behind: its source closed and
  every process ended.  Closing goes from the last process to the source, each
  feeder closing what it feeds from, and a feeder that has not begun breaks it.

  A lineage is in one of three **phases**:

  - **fresh**: the last process was just started, so its feeder has not begun,
    and all feeders before it have;
  - **feeding**: every process is running and every feeder has begun;
  - **settled**: the stream was read to its end, and nothing is left to do.

  Starting a stage makes a lineage fresh, and the first read ends that for
  good.  Closing releases everything in the last two phases; in the first it
  ends the last process and leaves all the others.
-/

namespace SinkPipeline

/-- What a process was started with: its command line, the directory that it was
    given and its environment. -/
def Process.given (p : Process) : List String × Option String × Env := (p.argv, p.cwd, p.env)

/-- What a launched stage is started with; the environment is the one that its
    program sees. -/
def Launched.given (l : Launched) : List String × Option String × Env :=
  (l.stage.argv, l.stage.cwd, l.call.env)

namespace Lineage

/-! ### Phases -/

/-- Nothing is left: the source is closed and no process is running. -/
def Released (l : Lineage) : Prop :=
  l.sourceClosed = true ∧ ∀ p ∈ l.processes, p.status ≠ .running

/-- Only the last process has ended: those before it are running, and the
    source is open. -/
def Leaking (l : Lineage) : Prop :=
  l.sourceClosed = false ∧ ∀ p ∈ l.processes.tail, p.status = .running

/-- Every process is running and fed, and the source is open. -/
def Feeding : Lineage → Prop
  | .source closed => closed = false
  | .process p before => p.status = .running ∧ p.feeder = .feeding ∧ before.Feeding

/-- The last process was just started behind a lineage that is feeding. -/
def Fresh : Lineage → Prop
  | .source _ => False
  | .process p before => p.status = .running ∧ p.feeder = .unstarted ∧ before.Feeding

/-- Every process has ended and its feeder too, and the source is closed. -/
def Settled : Lineage → Prop
  | .source closed => closed = true
  | .process p before => p.status ≠ .running ∧ p.feeder = .done ∧ before.Settled

/-- The feeders are at work or have done it. -/
def Begun (l : Lineage) : Prop := l.Feeding ∨ l.Settled

theorem not_released_of_leaking {l : Lineage} (h : l.Leaking) : ¬l.Released := by
  intro hreleased
  have hopen := h.1
  rw [hreleased.1] at hopen
  cases hopen

/-! ### What feeds, and what has settled -/

theorem Feeding.sourceClosed {l : Lineage} (h : l.Feeding) : l.sourceClosed = false := by
  induction l with
  | source closed => exact h
  | process p before ih =>
    obtain ⟨-, -, hbefore⟩ := h
    exact ih hbefore

theorem Feeding.running {l : Lineage} (h : l.Feeding) : ∀ p ∈ l.processes, p.status = .running := by
  induction l with
  | source closed => simp [processes]
  | process p before ih =>
    obtain ⟨hrunning, -, hbefore⟩ := h
    intro q hq
    rcases List.mem_cons.mp hq with rfl | hq
    · exact hrunning
    · exact ih hbefore q hq

theorem Feeding.startFeeders {l : Lineage} (h : l.Feeding) : l.startFeeders = l := by
  induction l with
  | source closed => rfl
  | process p before ih =>
    obtain ⟨-, hfeeder, hbefore⟩ := h
    simp [Lineage.startFeeders, hfeeder, ih hbefore]

theorem Settled.startFeeders {l : Lineage} (h : l.Settled) : l.startFeeders = l := by
  induction l with
  | source closed => rfl
  | process p before ih =>
    obtain ⟨-, hfeeder, hbefore⟩ := h
    simp [Lineage.startFeeders, hfeeder, ih hbefore]

theorem Settled.released {l : Lineage} (h : l.Settled) : l.Released := by
  induction l with
  | source closed => exact ⟨h, by simp [processes]⟩
  | process p before ih =>
    obtain ⟨hended, -, hbefore⟩ := h
    obtain ⟨hclosed, hall⟩ := ih hbefore
    refine ⟨hclosed, fun q hq => ?_⟩
    rcases List.mem_cons.mp hq with rfl | hq
    · exact hended
    · exact hall q hq

/-- Whatever the phase was, a lineage settles. -/
theorem settle_settled (l : Lineage) : l.settle.Settled := by
  induction l with
  | source closed => rfl
  | process p before ih =>
    refine ⟨?_, rfl, ih⟩
    cases p.status <;> simp

/-- The first wait puts a fresh lineage to work. -/
theorem Fresh.startFeeders {l : Lineage} (h : l.Fresh) : l.startFeeders.Feeding := by
  cases l with
  | source closed => exact h.elim
  | process p before =>
    obtain ⟨hrunning, hfeeder, hbefore⟩ := h
    simp only [Lineage.startFeeders, hfeeder, if_true, hbefore.startFeeders]
    exact ⟨hrunning, rfl, hbefore⟩

/-! ### Closing -/

theorem kill_status (p : Process) : (kill p).status ≠ .running := by
  unfold kill
  cases p.status <;> simp

/-- **Closing what feeds releases everything**: each feeder closes what it feeds
    from, down to the source. -/
theorem Feeding.close_released {l : Lineage} (h : l.Feeding) : l.close.Released := by
  induction l with
  | source closed => exact ⟨rfl, by simp [Lineage.close, processes]⟩
  | process p before ih =>
    obtain ⟨-, hfeeder, hbefore⟩ := h
    obtain ⟨hclosed, hall⟩ := ih hbefore
    rw [Lineage.close, if_pos hfeeder]
    refine ⟨hclosed, fun q hq => ?_⟩
    rcases List.mem_cons.mp hq with rfl | hq
    · exact kill_status p
    · exact hall q hq

theorem Settled.close_released {l : Lineage} (h : l.Settled) : l.close.Released := by
  cases l with
  | source closed => exact ⟨rfl, by simp [Lineage.close, processes]⟩
  | process p before =>
    obtain ⟨-, hfeeder, hbefore⟩ := h
    rw [Lineage.close, if_neg (by rw [hfeeder]; decide)]
    refine ⟨hbefore.released.1, fun q hq => ?_⟩
    rcases List.mem_cons.mp hq with rfl | hq
    · exact kill_status p
    · exact hbefore.released.2 q hq

theorem Begun.close_released {l : Lineage} (h : l.Begun) : l.close.Released := by
  rcases h with h | h
  · exact h.close_released
  · exact h.close_released

/-- **Closing a fresh lineage leaks**: the feeder of the last process is called
    off before it has begun, so nothing closes what is before it. -/
theorem Fresh.close_leaking {l : Lineage} (h : l.Fresh) : l.close.Leaking := by
  cases l with
  | source closed => exact h.elim
  | process p before =>
    obtain ⟨-, hfeeder, hbefore⟩ := h
    rw [Lineage.close, if_neg (by rw [hfeeder]; decide)]
    exact ⟨hbefore.sourceClosed, hbefore.running⟩

/-! ### The processes of a lineage stay the same -/

/-- Does `g` look at what a process is, and not at how it stands? -/
def Blind {β : Type} (g : Process → β) : Prop :=
  ∀ p status feeder, g { p with status := status, feeder := feeder } = g p

section

variable {β : Type} {g : Process → β}

theorem map_startFeeders (hg : Blind g) (l : Lineage) :
    l.startFeeders.processes.map g = l.processes.map g := by
  induction l with
  | source closed => rfl
  | process p before ih =>
    rw [startFeeders, processes, List.map_cons, ih]
    split
    · exact congrArg (· :: _) (hg p p.status .feeding)
    · rfl

theorem map_settle (hg : Blind g) (l : Lineage) :
    l.settle.processes.map g = l.processes.map g := by
  induction l with
  | source closed => rfl
  | process p before ih =>
    rw [settle, processes, List.map_cons, ih]
    exact congrArg (· :: _) (hg p _ .done)

theorem map_finish (hg : Blind g) (l : Lineage) :
    l.finish.processes.map g = l.processes.map g := by
  cases l with
  | source closed => rfl
  | process p before => exact map_settle hg _

theorem map_close (hg : Blind g) (l : Lineage) :
    l.close.processes.map g = l.processes.map g := by
  induction l with
  | source closed => rfl
  | process p before ih =>
    have hbefore : (if p.feeder = .feeding then before.close else before).processes.map g =
        before.processes.map g := by
      split
      · exact ih
      · rfl
    rw [close, processes, List.map_cons, hbefore]
    exact congrArg (· :: _) (hg p _ .done)

end

theorem blind_given : Blind Process.given := fun _ _ _ => rfl

/-- The command lines of the processes, the last of the chain first. -/
def commands (l : Lineage) : List (List String) := l.processes.map (·.argv)

theorem blind_argv : Blind (·.argv) := fun _ _ _ => rfl

@[simp] theorem commands_source (closed : Bool) : (Lineage.source closed).commands = [] := rfl

@[simp] theorem commands_process (p : Process) (before : Lineage) :
    (Lineage.process p before).commands = p.argv :: before.commands := rfl

@[simp] theorem commands_startFeeders (l : Lineage) : l.startFeeders.commands = l.commands :=
  map_startFeeders blind_argv l

@[simp] theorem commands_finish (l : Lineage) : l.finish.commands = l.commands :=
  map_finish blind_argv l

@[simp] theorem commands_close (l : Lineage) : l.close.commands = l.commands :=
  map_close blind_argv l

end Lineage

namespace Stream

/-! ### Reads -/

theorem read_lineage (s : Stream) :
    s.read.2.lineage = s.lineage.finish ∨ s.read.2.lineage = s.lineage.startFeeders := by
  unfold read
  match s.unread with
  | [] => exact .inl rfl
  | .fault _ :: _ => exact .inl rfl
  | .chunk _ :: _ => exact .inr rfl

@[simp] theorem commands_read (s : Stream) : s.read.2.lineage.commands = s.lineage.commands := by
  rcases read_lineage s with h | h <;> simp [h]

@[simp] theorem commands_afterReads (n : Nat) (s : Stream) :
    (s.afterReads n).lineage.commands = s.lineage.commands := by
  induction n generalizing s with
  | zero => rfl
  | succ n ih => rw [afterReads, ih, commands_read]

/-- A read of a fresh stream makes its feeders begin. -/
theorem read_begun_of_fresh {s : Stream} (h : s.lineage.Fresh) : s.read.2.lineage.Begun := by
  rcases read_lineage s with hread | hread
  · rw [hread]
    match hl : s.lineage with
    | .source closed =>
      rw [hl] at h
      exact h.elim
    | .process p before => exact .inr (Lineage.settle_settled _)
  · rw [hread]
    exact .inl h.startFeeders

/-- No read undoes that. -/
theorem read_begun {s : Stream} (h : s.lineage.Begun) : s.read.2.lineage.Begun := by
  rcases read_lineage s with hread | hread
  · rw [hread]
    match hl : s.lineage with
    | .source closed =>
      rw [hl] at h
      exact h
    | .process p before => exact .inr (Lineage.settle_settled _)
  · rw [hread]
    rcases h with h | h
    · exact .inl (h.startFeeders.symm ▸ h)
    · exact .inr (h.startFeeders.symm ▸ h)

/-- After any number of reads feeders that have begun are at work or done. -/
theorem afterReads_begun {s : Stream} (h : s.lineage.Begun) (n : Nat) :
    (s.afterReads n).lineage.Begun := by
  induction n generalizing s with
  | zero => exact h
  | succ n ih => exact ih (read_begun h)

/-- **One read is enough** for closing to release everything. -/
theorem close_released_iff_of_fresh {s : Stream} (h : s.lineage.Fresh) (n : Nat) :
    (s.afterReads n).close.lineage.Released ↔ 0 < n := by
  cases n with
  | zero =>
    have hleaks : s.close.lineage.Leaking := h.close_leaking
    have := Lineage.not_released_of_leaking hleaks
    exact ⟨fun hreleased => absurd hreleased this, fun hpos => absurd hpos (by omega)⟩
  | succ n =>
    have hbegun : (s.afterReads (n + 1)).lineage.Begun := afterReads_begun (read_begun_of_fresh h) n
    exact ⟨fun _ => by omega, fun _ => hbegun.close_released⟩

end Stream

namespace Machine

variable {m : Machine} {overlay : Env} {inherit : Bool}

/-! ### Chains -/

/-- **The processes of a chain** are those of its stages, each with the
    environment that its program sees. -/
theorem chain_given {ls : List Launched} (h : ∀ l ∈ ls, m.Starts overlay inherit l)
    {input s : Stream} (hchain : m.chain overlay inherit (ls.map (·.stage)) input = .ok s) :
    s.lineage.processes.map Process.given =
      (ls.map Launched.given).reverse ++ input.lineage.processes.map Process.given := by
  induction ls generalizing input with
  | nil =>
    cases hchain
    rfl
  | cons l ls ih =>
    have hl := h l List.mem_cons_self
    rw [List.map_cons, chain_cons_of_starts hl] at hchain
    rw [ih (fun k hk => h k (List.mem_cons_of_mem _ hk)) hchain, streamOf, ← hl.env]
    simp [Lineage.processes, Lineage.map_startFeeders Lineage.blind_given, Process.given,
      Launched.given]

/-- **A chain is fresh**, whatever its length. -/
theorem chain_fresh {ls : List Launched} (h : ∀ l ∈ ls, m.Starts overlay inherit l)
    {input : Stream} (hinput : input.lineage.startFeeders.Feeding) :
    ∃ s, m.chain overlay inherit (ls.map (·.stage)) input = .ok s ∧
      (ls = [] ∧ s = input ∨ ls ≠ [] ∧ s.lineage.Fresh) := by
  induction ls generalizing input with
  | nil => exact ⟨input, rfl, .inl ⟨rfl, rfl⟩⟩
  | cons l ls ih =>
    let t := streamOf l.stage (m.envOf overlay inherit l.stage) l.program l.call input
    have hfresh : t.lineage.Fresh := ⟨rfl, rfl, hinput⟩
    obtain ⟨s, hchain, hphase⟩ := ih (fun k hk => h k (by simp [hk])) hfresh.startFeeders
    refine ⟨s, ?_, .inr ⟨by simp, ?_⟩⟩
    · rw [List.map_cons, chain_cons_of_starts (h l (by simp)), hchain]
    · rcases hphase with ⟨-, rfl⟩ | ⟨-, hlater⟩
      · exact hfresh
      · exact hlater

end Machine

end SinkPipeline
