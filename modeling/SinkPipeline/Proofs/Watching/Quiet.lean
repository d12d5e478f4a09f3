import SinkPipeline.Proofs.Passing.Leaving
import SinkPipeline.Proofs.Watching.Law
import SinkPipeline.Proofs.Watching.Snapshots

/-! # No pass brings about the next

  A pass writes files, and a watch makes another pass when it sees that sinks have
  changed.  What a pass writes are generated files, which are no sinks, so the
  snapshot after a pass is the one from before it.

  - `loop_idle`: as long as every look gives the same snapshot, the loop is where it
    was, by induction over the waits.
  - `run_stays_quiet`: this is so from the first pass on, as long as nobody changes
    the files.
-/

namespace SinkPipeline

namespace Watcher

variable {τ : Type} {w : Watcher τ}

/-- Nothing more happens once as many passes have been repeated as are wanted. -/
theorem runOn_loop_enough {done : Nat} (henough : Watch.isEnough w.limit done = true)
    (waits : List (Act τ Unit)) (shot : Watch.Snapshot) (d : Diary) (s : τ) :
    (w.loop waits shot done).runOn d s = (.ok done, d, s) := by
  cases waits with
  | nil => rfl
  | cons wait waits =>
    unfold loop
    rw [if_pos henough]
    rfl

/-- A watch whose opening fails nowhere is its loop, from the first snapshot on. -/
theorem runOn_run {first : Watch.Snapshot} {summary : RunSummary} {d d₁ d₂ d₃ : Diary}
    {s s₁ s₂ s₃ : τ} (hlook : w.look.runOn d s = (.ok first, d₁, s₁))
    (hbuild : w.build.runOn d₁ s₁ = (.ok summary, d₂, s₂))
    (htell : (w.tell summary).runOn d₂ s₂ = (.ok (), d₃, s₃)) (waits : List (Act τ Unit)) :
    (w.run waits).runOn d s = (w.loop waits first 0).runOn d₃ s₃ := by
  unfold run
  rw [Act.runOn_bind, hlook]
  dsimp only
  rw [Act.runOn_bind, hbuild]
  dsimp only
  rw [Act.runOn_bind, htell]

/-- **Waits that change nothing** leave the loop where it was: `S` holds of the states
    in which every look gives the snapshot that the last pass answered. -/
theorem loop_idle {S : τ → Prop} {shot : Watch.Snapshot}
    (hlook : ∀ d s, S s → ∃ d' s', w.look.runOn d s = (.ok shot, d', s') ∧ S s')
    {idle : List (Act τ Unit)}
    (hidle : ∀ x ∈ idle, ∀ d s, S s → ∃ d' s', x.runOn d s = (.ok (), d', s') ∧ S s')
    (more : List (Act τ Unit)) (done : Nat) (d : Diary) {s : τ} (hs : S s) :
    ∃ d' s', (w.loop (idle ++ more) shot done).runOn d s = (w.loop more shot done).runOn d' s' ∧
      S s' := by
  by_cases henough : Watch.isEnough w.limit done = true
  · refine ⟨d, s, ?_, hs⟩
    rw [runOn_loop_enough henough, runOn_loop_enough henough]
  have hsame : Watch.changes shot shot = [] := Watch.changes_eq_nil.2 fun _ => rfl
  -- Over the waits: the next look gives the same snapshot, so no pass is made.
  induction idle generalizing d s with
  | nil => exact ⟨d, s, rfl, hs⟩
  | cons wait idle ih =>
    obtain ⟨d₁, s₁, hwait, hs₁⟩ := hidle wait (by simp) d s hs
    obtain ⟨d₂, s₂, hshot, hs₂⟩ := hlook d₁ s₁ hs₁
    have hothers : ∀ x ∈ idle, ∀ d s, S s → ∃ d' s', x.runOn d s = (.ok (), d', s') ∧ S s' := by
      intro x hx
      exact hidle x (by simp [hx])
    obtain ⟨d', s', hrest, hs'⟩ := ih hothers d₂ hs₂
    refine ⟨d', s', ?_, hs'⟩
    rw [List.cons_append, loop, if_neg henough, Act.runOn_bind, hwait]
    dsimp only
    rw [Act.runOn_bind, hshot]
    dsimp only
    rw [hsame]
    exact hrest

end Watcher

namespace Watch

open Pipeline

variable {ν : Type}

/-- The action ends well, and changes no files. -/
def Idle (x : Act (Site ν) Unit) : Prop :=
  ∀ d s, ∃ d' s', x.runOn d s = (.ok (), d', s') ∧ s.machine.Still s'.machine

/-- The pass gives a summary, and leaves the machine `m'`. -/
def Leaves (fuel : Nat) (o : RunOptions) (settings : Settings) (m m' : Machine) (notes : ν) : Prop :=
  ∀ refused d, ∃ summary d' site', site'.machine = m' ∧
    (Pass.run fuel o settings).runOn d ⟨m, refused, notes⟩ = (.ok summary, d', site')

section

variable {fuel : Nat} {o : RunOptions} {settings : Settings} {m m' : Machine} {notes : ν}
  {tell : RunSummary → Act (Site ν) Unit} {idle : List (Act (Site ν) Unit)}

/-- **While nobody changes the files** a watch is where it was after its first pass,
    if the snapshot is the same before that pass and after it. -/
theorem run_until_then {first : Snapshot} (hbefore : Sees fuel o ν m (.ok first))
    (hpass : Leaves fuel o settings m m' notes) (hafter : Sees fuel o ν m' (.ok first))
    (htell : ∀ summary, Idle (tell summary)) (hidle : ∀ x ∈ idle, Idle x) (limit : Option Int)
    (more : List (Act (Site ν) Unit)) (refused : List InvalidSpec) (d : Diary) :
    ∃ d' s', m'.Still s'.machine ∧
      (run fuel o settings tell limit (idle ++ more)).runOn d ⟨m, refused, notes⟩ =
        ((watcher fuel o settings tell limit).loop more first 0).runOn d' s' := by
  obtain ⟨d₁, hlook, -⟩ := hbefore ⟨m, refused, notes⟩ (.refl m) d
  obtain ⟨summary, d₂, s₂, hmachine, hbuild⟩ := hpass refused d₁
  obtain ⟨d₃, s₃, htold, hstill⟩ := htell summary d₂ s₂
  rw [hmachine] at hstill
  have hlooks : ∀ d (s : Site ν), m'.Still s.machine → ∃ d' s',
      (watcher fuel o settings tell limit).look.runOn d s = (.ok first, d', s') ∧
        m'.Still s'.machine := by
    intro d s hs
    obtain ⟨d', hshot, -⟩ := hafter s hs d
    exact ⟨d', s, hshot, hs⟩
  have hwaits : ∀ x ∈ idle, ∀ d (s : Site ν), m'.Still s.machine → ∃ d' s',
      x.runOn d s = (.ok (), d', s') ∧ m'.Still s'.machine := by
    intro x hx d s hs
    obtain ⟨d', s', hrun, hnext⟩ := hidle x hx d s
    exact ⟨d', s', hrun, hs.trans hnext⟩
  obtain ⟨d', s', hloop, hs'⟩ := Watcher.loop_idle hlooks hwaits more 0 d₃ hstill
  refine ⟨d', s', hs', ?_⟩
  have hopened := Watcher.runOn_run (w := watcher fuel o settings tell limit) hlook hbuild htold
    (idle ++ more)
  exact hopened.trans hloop

/-- A snapshot that cannot be taken ends a watch before its first pass. -/
theorem run_of_fault {f : Fault} (hbefore : Sees fuel o ν m (.error f)) (limit : Option Int)
    (waits : List (Act (Site ν) Unit)) (refused : List InvalidSpec) (d : Diary) :
    ∃ d', (run fuel o settings tell limit waits).runOn d ⟨m, refused, notes⟩ =
      (.error f, d', ⟨m, refused, notes⟩) := by
  obtain ⟨d', hlook, -⟩ := hbefore ⟨m, refused, notes⟩ (.refl m) d
  have hlook : (watcher fuel o settings tell limit).look.runOn d ⟨m, refused, notes⟩ =
      (.error f, d', ⟨m, refused, notes⟩) := hlook
  refine ⟨d', ?_⟩
  unfold run Watcher.run
  rw [Act.runOn_bind, hlook]

end

/-- **A pass that brings about no other.**  The snapshot is `shot` before the pass, and
    after it on the machine `m'` that it leaves. -/
structure StaysQuiet (fuel : Nat) (o : RunOptions) (settings : Settings) (m m' : Machine) (notes : ν)
    (shot : Except Fault Snapshot) : Prop where
  /-- This is the snapshot before the pass. -/
  before : Sees fuel o ν m shot
  /-- The pass gives a summary. -/
  leaves : Leaves fuel o settings m m' notes
  /-- This is the snapshot after the pass, too. -/
  after : Sees fuel o ν m' shot
  /-- A watch in which nobody changes the files repeats no pass. -/
  quiet : ∀ tell limit idle refused d, (∀ summary, Idle (tell summary)) → (∀ x ∈ idle, Idle x) →
    ∃ d' s', (run fuel o settings tell limit idle).runOn d ⟨m, refused, notes⟩ =
      (shot.map fun _ => 0, d', s')
  /-- Whatever comes after that, the watch has repeated none until then, and compares
      with the same snapshot. -/
  until_then : ∀ tell limit idle more refused d, (∀ summary, Idle (tell summary)) →
    (∀ x ∈ idle, Idle x) → ∀ first, shot = .ok first → ∃ d' s', m'.Still s'.machine ∧
      (run fuel o settings tell limit (idle ++ more)).runOn d ⟨m, refused, notes⟩ =
        ((watcher fuel o settings tell limit).loop more first 0).runOn d' s'

theorem staysQuiet_of_sees {fuel : Nat} {o : RunOptions} {settings : Settings} {m m' : Machine}
    {notes : ν} {shot : Except Fault Snapshot} (hbefore : Sees fuel o ν m shot)
    (hpass : Leaves fuel o settings m m' notes) (hafter : Sees fuel o ν m' shot) :
    StaysQuiet fuel o settings m m' notes shot := by
  refine ⟨hbefore, hpass, hafter, ?_, ?_⟩
  · intro tell limit idle refused d htell hidle
    cases shot with
    | error f =>
      obtain ⟨d', hrun⟩ := run_of_fault hbefore limit idle refused d
      exact ⟨d', _, hrun⟩
    | ok first =>
      obtain ⟨d', s', -, hrun⟩ := run_until_then hbefore hpass hafter htell hidle limit [] refused d
      rw [List.append_nil] at hrun
      exact ⟨d', s', hrun⟩
  · intro tell limit idle more refused d htell hidle first hfirst
    subst hfirst
    exact run_until_then hbefore hpass hafter htell hidle limit more refused d

/-- **Passes never bring about passes.**  A discovery of its own gives sinks on the
    machine from before a pass.  If each of them has one output, the pass gives a
    summary, in every mode, under both policies and however the sinks end, and of the
    files it changes only generated ones.  The snapshot after it is the one from before
    it, so a watch repeats no pass as long as nobody changes the files.

    What this rests on: the file that a sink writes has the name of a generated file,
    and no name of a temporary file is that of a sink. -/
theorem run_stays_quiet (o : RunOptions) (settings : Settings) {m : Machine} (hm : m.Sane)
    (hroots : ∀ root ∈ o.roots, root.WellFormed) :
    (∃ ss, Discovers ν m (o.specs m.cwd) ss ∧ ((∀ s ∈ ss, s.parsed.isMulti = false) →
      ∀ notes : ν, ∃ n m', m.Alike m' ∧ ∀ fuel, n ≤ fuel →
        StaysQuiet fuel o settings m m' notes (stampsOf m ss))) ∧
      (∀ name parsed, SinkName.parse? name = some parsed →
        SinkName.isGenerated parsed.outputName = true) ∧
      ∀ rest, SinkName.parse? (AtomicWrite.namePrefix ++ rest) = none := by
  refine ⟨?_, ?_, ?_⟩
  · have hspecs := Pass.wellFormed_specs hm hroots
    have hsound : SoundAt m { specs := o.specs m.cwd } := ⟨hspecs, fun root g hg => by cases hg⟩
    obtain ⟨ss, hlists⟩ := exists_lists hm hsound
    have hfound := foundAt_of_lists hm hsound hlists
    refine ⟨ss, discovers_of_lists hm hspecs hlists, ?_⟩
    intro hsingle notes
    obtain ⟨n, site', told, halike, hsane, hrun⟩ :=
      Pass.gives_run_leaving o settings hm hspecs hlists hsingle notes
    -- Both snapshots are of the sinks that were listed before the pass.
    obtain ⟨n₁, hbefore⟩ := exists_sees ν o hm hm (.refl m) hspecs hfound hlists
    obtain ⟨n₂, hafter⟩ := exists_sees ν o hm hsane halike hspecs hfound hlists
    refine ⟨n + n₁ + n₂, site'.machine, halike, ?_⟩
    intro fuel hfuel
    have hleaves : Leaves fuel o settings m site'.machine notes := by
      intro refused d
      obtain ⟨summary, d', hends, -⟩ := hrun fuel (by omega) refused d
      exact ⟨summary, d', site', rfl, hends⟩
    exact staysQuiet_of_sees (hbefore fuel (by omega)) hleaves (hafter fuel (by omega))
  · intro name parsed hparsed
    exact (SinkName.spelledBy_of_parse? hparsed).isGenerated_outputName
  · intro rest
    have hbegins : (AtomicWrite.namePrefix ++ rest).toList =
        '.' :: ("capexec-tmp-".toList ++ rest.toList) := by
      rw [String.toList_append]
      rfl
    exact SinkName.parse?_eq_none_of_point hbegins

theorem stampsOf_note : stampsOf Pass.noteMachine [Pass.noteSink] = .ok [("/x.txt.sh", 0)] := by
  have hstamp : stampOf Pass.noteMachine Pass.noteSink = .ok (some ("/x.txt.sh", 0)) := by
    have hstat : Pass.noteMachine.tree.stat Pass.noteMachine.home Pass.noteSink.key = _ :=
      Pass.stat_note
    unfold stampOf
    rw [hstat]
    rfl
  unfold stampsOf
  rw [hstamp]
  rfl

/-- The pass over that machine writes a file, and a watch does not repeat it. -/
theorem note_run_stays_quiet :
    ∃ n m', StaysQuiet n Pass.noteOptions {} Pass.noteMachine m' () (.ok [("/x.txt.sh", 0)]) ∧
      m'.tree.get? ["x.auto.txt"] = some (.file ⟨[104, 105], 0o644, 0⟩) := by
  obtain ⟨⟨ss, hss, hquiet⟩, -⟩ := run_stays_quiet (ν := Unit) Pass.noteOptions {}
    Pass.sane_noteMachine Pass.roots_note
  have hlist : ss = [Pass.noteSink] :=
    (discovers_of_lists Pass.sane_noteMachine Pass.sound_note.specs Pass.lists_note).unique () hss
  subst hlist
  have hsingle : ∀ s ∈ [Pass.noteSink], s.parsed.isMulti = false :=
    List.forall_mem_singleton.mpr rfl
  obtain ⟨n, m', -, hn⟩ := hquiet hsingle ()
  obtain ⟨n₁, refused, hrun⟩ := @Pass.gives_run Unit Pass.noteOptions {} .build .skip
    Pass.noteMachine [Pass.noteSink] rfl rfl rfl Pass.sane_noteMachine Pass.sound_note.specs
    Pass.lists_note hsingle ()
  have hstays := hn (n + n₁) (by omega)
  rw [stampsOf_note] at hstays
  refine ⟨n + n₁, m', hstays, ?_⟩
  -- Both runs are the same run, so the machine is the one that the sinks settle.
  obtain ⟨summary, d', site', hmachine, hleaves⟩ := hstays.leaves [] {}
  obtain ⟨summary', d'', hgives, -⟩ := hrun (n + n₁) (by omega) [] {}
  have hsame := congrArg (fun r => r.2.2.machine) (hleaves.symm.trans hgives)
  dsimp only at hsame
  rw [← hmachine, hsame, Pass.handle_note]
  rfl

end Watch

end SinkPipeline
