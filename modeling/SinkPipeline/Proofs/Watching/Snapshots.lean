import SinkPipeline.Proofs.Discovery.Listing
import SinkPipeline.Watch

/-! # Snapshots as functions of the machine

  A snapshot looks at the machine and changes nothing.  It is a function of the
  sinks that a discovery of its own gives and of what is seen of each: so it is the
  same on all alike machines, whatever generated files there are.

  - `ends_stamp`: what is noted of one sink.
  - `stamps_done`, `stamps_skip`, `stamps_item`: one step of the discovery.
  - `stamps_of_lists`: the sinks of a list, by induction over the list.
-/

namespace SinkPipeline

/-! ### Machines on which nobody changes the files -/

/-- The files of the machine and its working directory are the same. -/
structure Machine.Still (m m' : Machine) : Prop where
  /-- The files are the same. -/
  tree : m'.tree = m.tree
  /-- The working directory is the same. -/
  cwd : m'.cwd = m.cwd

theorem Machine.Still.refl (m : Machine) : m.Still m := ⟨rfl, rfl⟩

theorem Machine.Still.trans {m m' m'' : Machine} (h : m.Still m') (h' : m'.Still m'') :
    m.Still m'' := ⟨h'.tree.trans h.tree, h'.cwd.trans h.cwd⟩

namespace Pipeline

/-- A step of the discovery looks at the files only. -/
theorem find_still {m m' : Machine} (h : m.Still m') (c : SinkCursor) : find m' c = find m c := by
  obtain ⟨tree, cwd, env, programs, now⟩ := m
  obtain ⟨tree', cwd', env', programs', now'⟩ := m'
  obtain ⟨rfl, rfl⟩ := h
  rfl

/-- **What is seen of a sink** is the same on alike machines. -/
theorem FoundAt.stat_alike {m m' : Machine} {dir : Path} {name : String} {s : FileSink}
    (hm : m.Sane) (halike : m.Alike m') (h : FoundAt m dir name s) :
    m'.tree.stat m'.home s.key = m.tree.stat m.home s.key := by
  have hplace : Place.isGenerated (dir.parts ++ [name]) = false := by
    rw [Place.isGenerated_append]
    exact h.not_generated
  rw [h.key]
  exact h.standing.stat_child (h.standing.alike hm.linkless halike) hm.linkless
    (halike.tree.linkless hm.linkless) h.legal.isPart h.legal.ne_up
    (halike.tree.get?_of_not_generated hplace)

end Pipeline

namespace Watch

open Pipeline

variable {ν : Type}

/-! ### One sink -/

/-- What a snapshot says of a sink, as a function of the machine: nothing, if it is
    not there. -/
def stampOf (m : Machine) (s : FileSink) : Except Fault (Option (String × Nat)) :=
  match m.tree.stat m.home s.key with
  | .ok e => .ok (some (s.key, mtimeOf e))
  | .error (.os .noEntry _) => .ok none
  | .error f => .error f

/-- **What is noted of a sink** is that function of the machine. -/
theorem ends_stamp (s : FileSink) (site : Site ν) :
    (stamp s).Ends site (stampOf site.machine s) site := by
  unfold stamp stampOf
  refine (Act.ends_machine site).bind_silent ?_
  cases site.machine.tree.stat site.machine.home s.key with
  | ok e => exact Act.ends_pure _ site
  | error f =>
    -- Of all faults one is no more than that the sink is not there.
    cases f with
    | os e paths =>
      cases e with
      | noEntry => exact Act.ends_pure _ site
      | _ => exact Act.ends_fail _ site
    | _ => exact Act.ends_fail _ site

theorem stampOf_congr {m m' : Machine} {s : FileSink}
    (h : m'.tree.stat m'.home s.key = m.tree.stat m.home s.key) : stampOf m' s = stampOf m s := by
  unfold stampOf
  rw [h]

theorem stampOf_still {m m' : Machine} (h : m.Still m') (s : FileSink) :
    stampOf m' s = stampOf m s := by
  apply stampOf_congr
  unfold Machine.home
  rw [h.tree, h.cwd]

/-! ### Many sinks -/

/-- What a snapshot says of sinks, one after the other. -/
def stampsOf (m : Machine) : List FileSink → Except Fault Snapshot
  | [] => .ok []
  | s :: ss => do
    let entry ← stampOf m s
    return entry.toList ++ (← stampsOf m ss)

/-- **On alike machines** a snapshot says the same of the sinks of a list. -/
theorem stampsOf_alike {m m' : Machine} (hm : m.Sane) (halike : m.Alike m') {ss : List FileSink}
    (hfound : ∀ s ∈ ss, ∃ dir name, FoundAt m dir name s) : stampsOf m' ss = stampsOf m ss := by
  induction ss with
  | nil => rfl
  | cons s ss ih =>
    obtain ⟨dir, name, hs⟩ := hfound s (by simp)
    have hsame : stampOf m' s = stampOf m s := stampOf_congr (hs.stat_alike hm halike)
    have hothers : ∀ t ∈ ss, ∃ dir name, FoundAt m dir name t := by
      intro t ht
      exact hfound t (by simp [ht])
    have hrest := ih hothers
    unfold stampsOf
    rw [hsame, hrest]

/-! ### Snapshots from a cursor -/

/-- From the cursor the snapshot is the given one, whatever the fuel if it is enough,
    as long as the files are those of the machine.  Taking it changes nothing. -/
def Stamps (ν : Type) (m : Machine) (c : SinkCursor) (shot : Except Fault Snapshot) : Prop :=
  ∃ n, ∀ fuel, n ≤ fuel → ∀ site : Site ν, m.Still site.machine → ∀ acc,
    (stampAll fuel c acc).Ends site (shot.map (acc.reverse ++ ·)) site

section

variable {m : Machine} {c c' : SinkCursor} {shot : Except Fault Snapshot}

/-- What one step of the discovery is, on a machine with the same files. -/
theorem ends_sinks {site : Site ν} (hstill : m.Still site.machine) (c : SinkCursor) :
    (sinks.step c).Ends site (.ok (find m c)) site := by
  rw [← find_still hstill c]
  exact ends_find_silent c site

/-- The discovery has ended. -/
theorem stamps_done (hfind : find m c = .done) : Stamps ν m c (.ok []) := by
  refine ⟨1, ?_⟩
  intro fuel hfuel site hstill acc
  obtain ⟨fuel, rfl⟩ := Nat.exists_eq_succ_of_ne_zero (by omega : fuel ≠ 0)
  have hstep := ends_sinks hstill c
  rw [hfind] at hstep
  have hshot : (Except.ok [] : Except Fault Snapshot).map (acc.reverse ++ ·) = .ok acc.reverse := by
    show Except.ok (acc.reverse ++ []) = Except.ok acc.reverse
    rw [List.append_nil]
  rw [hshot]
  unfold stampAll
  exact hstep.bind_silent (Act.ends_pure _ site)

/-- The discovery moves on. -/
theorem stamps_skip (hfind : find m c = .skip c') (hrest : Stamps ν m c' shot) :
    Stamps ν m c shot := by
  obtain ⟨n, hn⟩ := hrest
  refine ⟨n + 1, ?_⟩
  intro fuel hfuel site hstill acc
  obtain ⟨fuel, rfl⟩ := Nat.exists_eq_succ_of_ne_zero (by omega : fuel ≠ 0)
  have hstep := ends_sinks hstill c
  rw [hfind] at hstep
  unfold stampAll
  exact hstep.bind_silent (hn fuel (by omega) site hstill acc)

/-- The discovery gives a sink. -/
theorem stamps_item {s : FileSink} (hfind : find m c = .item s c') (hrest : Stamps ν m c' shot) :
    Stamps ν m c (do
      let entry ← stampOf m s
      return entry.toList ++ (← shot)) := by
  obtain ⟨n, hn⟩ := hrest
  refine ⟨n + 1, ?_⟩
  intro fuel hfuel site hstill acc
  obtain ⟨fuel, rfl⟩ := Nat.exists_eq_succ_of_ne_zero (by omega : fuel ≠ 0)
  have hstep := ends_sinks hstill c
  rw [hfind] at hstep
  have hstamp := ends_stamp s site
  rw [stampOf_still hstill] at hstamp
  unfold stampAll
  refine hstep.bind_silent ?_
  dsimp only
  cases hentry : stampOf m s with
  | error f =>
    rw [hentry] at hstamp
    exact hstamp.bind_error
  | ok entry =>
    rw [hentry] at hstamp
    refine hstamp.bind_silent ?_
    -- A sink that is not there any more is left out, and any other comes in front.
    cases entry with
    | none =>
      have hnext := hn fuel (by omega) site hstill acc
      cases shot <;> exact hnext
    | some entry =>
      have hnext := hn fuel (by omega) site hstill (entry :: acc)
      rw [List.reverse_cons] at hnext
      simp only [List.append_assoc] at hnext
      cases shot <;> exact hnext

theorem stamps_of_moves (hmoves : Moves m c c') (hrest : Stamps ν m c' shot) : Stamps ν m c shot := by
  induction hmoves with
  | here => exact hrest
  | on hfind _ ih => exact stamps_skip hfind (ih hrest)

/-- **The snapshot from a cursor** is that of the sinks which an alike machine lists.
    The induction is on the list. -/
theorem stamps_of_lists {m₀ : Machine} (hm₀ : m₀.Sane) (hm : m.Sane) (halike : m₀.Alike m)
    (hc : SoundAt m c) {ss : List FileSink} (hlists : Lists m₀ (tidy c) ss) :
    Stamps ν m c (stampsOf m ss) := by
  induction ss generalizing c with
  | nil =>
    obtain ⟨c', hmoves, ⟨-, hdone⟩ | ⟨_, _, _, _, _, hcons, -⟩⟩ :=
      moves_of_lists hm₀ hm halike hc hlists
    · exact stamps_of_moves hmoves (stamps_done hdone)
    · cases hcons
  | cons s ss ih =>
    obtain ⟨c', hmoves, ⟨hnil, -⟩ | ⟨_, _, next, dir, name, hcons, hfind, hsound, hrest, -⟩⟩ :=
      moves_of_lists hm₀ hm halike hc hlists
    · cases hnil
    cases hcons
    exact stamps_of_moves hmoves (stamps_item hfind (ih hsound hrest))

end

/-! ### Whole snapshots -/

/-- On the files of the machine the snapshot is the given one, and taking it changes
    nothing. -/
def Sees (fuel : Nat) (o : RunOptions) (ν : Type) (m : Machine) (shot : Except Fault Snapshot) :
    Prop :=
  ∀ site : Site ν, m.Still site.machine → (snapshot fuel o).Ends site shot site

/-- What a snapshot is from its first cursor on. -/
theorem sees_of_stamps {fuel : Nat} {o : RunOptions} {m : Machine} {shot : Except Fault Snapshot}
    (h : ∀ site : Site ν, m.Still site.machine → ∀ acc,
      (stampAll fuel { specs := o.specs m.cwd } acc).Ends site (shot.map (acc.reverse ++ ·)) site) :
    Sees fuel o ν m shot := by
  intro site hstill
  have hshot := h site hstill []
  have hall : shot.map (([] : Snapshot).reverse ++ ·) = shot := by
    cases shot <;> rfl
  rw [hall] at hshot
  unfold snapshot
  refine (Act.ends_machine site).bind_silent ?_
  -- The roots are taken from the working directory, which is the same one.
  rw [hstill.cwd]
  exact hshot

/-- **The snapshot is the same on alike machines**: that of the sinks which one of
    them lists, as they are there. -/
theorem exists_sees (ν : Type) (o : RunOptions) {m₀ m : Machine} (hm₀ : m₀.Sane) (hm : m.Sane)
    (halike : m₀.Alike m) {ss : List FileSink}
    (hspecs : ∀ spec ∈ o.specs m₀.cwd, (spec.baseDir / spec.root).WellFormed)
    (hfound : ∀ s ∈ ss, ∃ dir name, FoundAt m₀ dir name s)
    (hlists : Lists m₀ (tidy { specs := o.specs m₀.cwd }) ss) :
    ∃ n, ∀ fuel, n ≤ fuel → Sees fuel o ν m (stampsOf m₀ ss) := by
  have hsound : SoundAt m { specs := o.specs m₀.cwd } := ⟨hspecs, fun root g hg => by cases hg⟩
  obtain ⟨n, hn⟩ := stamps_of_lists (ν := ν) hm₀ hm halike hsound hlists
  refine ⟨n, ?_⟩
  intro fuel hfuel
  apply sees_of_stamps
  intro site hstill
  have hshot := hn fuel hfuel site hstill
  rw [stampsOf_alike hm₀ halike hfound] at hshot
  rw [halike.cwd]
  exact hshot

end Watch

end SinkPipeline
