import SinkPipeline.Proofs.Running
import SinkPipeline.Watch

/-! # The law of a watch

  What happens in a watch, in which order, and what it comes to, whatever happens
  to the files in the meantime.  A watcher is made of any actions: those that wait,
  look, build and tell may change the state as they like.  So an edit may come at
  any time: between two looks, while a snapshot is taken, or while a pass is made.

  A watch is told as a list of **happenings**.  They come in **polls**, one for each
  wait, after an **opening** with the first snapshot and the first pass.

  - `mem_changes`, `pairwise_changes`: what is reported as changed are the paths on
    which two snapshots differ, each of them once and in order.
  - `exists_poll`: one poll, and how the loop goes on after it.
  - `exists_polls`: all polls, by induction over the waits.  The loop compares with
    the snapshot that the last pass answered; what carries the law is that this one
    agrees with the snapshot before on every path.
-/

namespace SinkPipeline

namespace Watch

/-! ### What has changed -/

/-- Two snapshots say the same of every path. -/
def Agree (a b : Snapshot) : Prop := ∀ path, a.lookup path = b.lookup path

/-- A path of which a snapshot says something is in it. -/
theorem mem_of_lookup_ne_none {shot : Snapshot} {path : String} (h : shot.lookup path ≠ none) :
    path ∈ shot.map (·.1) := by
  obtain ⟨time, hfound⟩ := Option.ne_none_iff_exists'.1 h
  obtain ⟨before, after, hshot, _⟩ := List.lookup_eq_some_iff.1 hfound
  rw [hshot]
  simp

/-- **What has changed** is what two snapshots do not say the same of. -/
theorem mem_changes {old new : Snapshot} {path : String} :
    path ∈ changes old new ↔ old.lookup path ≠ new.lookup path := by
  unfold changes
  rw [List.mem_mergeSort, List.mem_eraseDups, List.mem_filter, List.map_append, List.mem_append]
  constructor
  · rintro ⟨_, hne⟩
    simpa using hne
  · intro hne
    refine ⟨?_, by simpa using hne⟩
    -- At least one of the two says something.
    by_cases hnew : new.lookup path = none
    · rw [hnew] at hne
      exact .inr (mem_of_lookup_ne_none hne)
    · exact .inl (mem_of_lookup_ne_none hnew)

/-- Without its repetitions, a list holds each path once. -/
theorem nodup_eraseDups (paths : List String) : paths.eraseDups.Nodup := by
  generalize hn : paths.length = n
  induction n using Nat.strongRecOn generalizing paths with
  | _ n ih =>
    cases paths with
    | nil => simp
    | cons path paths =>
      have hshort : (paths.filter fun other => !other == path).length < n := by
        have hle := List.length_filter_le (fun other => !other == path) paths
        rw [List.length_cons] at hn
        omega
      rw [List.eraseDups_cons, List.nodup_cons]
      exact ⟨by simp, ih _ hshort _ rfl⟩

/-- It is in order, each path once. -/
theorem pairwise_changes (old new : Snapshot) : (changes old new).Pairwise (· < ·) := by
  have hsorted : (changes old new).Pairwise (· ≤ ·) := by
    have hmerged : (changes old new).Pairwise fun a b => decide (a ≤ b) = true :=
      List.pairwise_mergeSort (by grind) (by grind) _
    simpa using hmerged
  have honce : (changes old new).Nodup := (List.mergeSort_perm _ _).nodup_iff.2 (nodup_eraseDups _)
  -- In order and never twice, so each is less than the next.
  refine (hsorted.and honce).imp ?_
  intro a b hab
  apply Decidable.byContradiction
  intro hnot
  exact hab.2 (String.le_antisymm hab.1 (String.not_lt.1 hnot))

theorem changes_eq_nil {old new : Snapshot} : changes old new = [] ↔ Agree old new := by
  rw [List.eq_nil_iff_forall_not_mem]
  simp only [mem_changes, Agree, ne_eq, Decidable.not_not]

end Watch

open Watch (Snapshot Agree)

namespace Watcher

variable {τ : Type}

/-! ### Happenings -/

/-- One thing that happens in a watch. -/
inductive Happening (τ : Type) where
  /-- It waits, and that is how the wait ends. -/
  | waits (wait : Act τ Unit) (r : Except Fault Unit)
  /-- It takes a snapshot. -/
  | looks (r : Except Fault Snapshot)
  /-- It logs which paths have changed. -/
  | reports (changed : List String)
  /-- It makes a pass. -/
  | builds (r : Except Fault RunSummary)
  /-- It tells what a pass came to. -/
  | tells (summary : RunSummary) (r : Except Fault Unit)

namespace Happening

/-- The summary of a pass that was made. -/
def built? : Happening τ → Option RunSummary
  | .builds (.ok summary) => some summary
  | _ => none

/-- The summary that is told. -/
def told? : Happening τ → Option RunSummary
  | .tells summary _ => some summary
  | _ => none

/-- **What a happening does to the world**, that is, to the diary and the state. -/
inductive Leads (u : Watcher τ) : Happening τ → Diary × τ → Diary × τ → Prop where
  | waits {wait : Act τ Unit} {D D' : Diary} {t t' : τ} {r : Except Fault Unit}
      (hrun : wait.runOn D t = (r, D', t')) : Leads u (.waits wait r) (D, t) (D', t')
  | looks {D D' : Diary} {t t' : τ} {r : Except Fault Snapshot}
      (hrun : u.look.runOn D t = (r, D', t')) : Leads u (.looks r) (D, t) (D', t')
  | reports (changed : List String) (D : Diary) (t : τ) :
      Leads u (.reports changed) (D, t)
        (D.logged Watch.logger "info" "watch.changed" [("paths", Json.strings changed)], t)
  | builds {D D' : Diary} {t t' : τ} {r : Except Fault RunSummary}
      (hrun : u.build.runOn D t = (r, D', t')) : Leads u (.builds r) (D, t) (D', t')
  | tells {summary : RunSummary} {D D' : Diary} {t t' : τ} {r : Except Fault Unit}
      (hrun : (u.tell summary).runOn D t = (r, D', t')) : Leads u (.tells summary r) (D, t) (D', t')

end Happening

/-- **A timeline**: these things happen one after the other, and nothing else
    happens between two states of the world. -/
inductive Timeline (u : Watcher τ) : List (Happening τ) → Diary × τ → Diary × τ → Prop where
  | nil (w : Diary × τ) : Timeline u [] w w
  | cons {h : Happening τ} {hs : List (Happening τ)} {w w' w'' : Diary × τ}
      (first : h.Leads u w w') (rest : Timeline u hs w' w'') : Timeline u (h :: hs) w w''

theorem Timeline.append {u : Watcher τ} {hs hs' : List (Happening τ)} {w w' w'' : Diary × τ}
    (h : Timeline u hs w w') (h' : Timeline u hs' w' w'') : Timeline u (hs ++ hs') w w'' := by
  induction h with
  | nil _ => exact h'
  | cons first _ ih => exact .cons first (ih h')

/-- One happening by itself. -/
theorem Timeline.single {u : Watcher τ} {h : Happening τ} {w w' : Diary × τ}
    (first : h.Leads u w w') : Timeline u [h] w w' := .cons first (.nil w')

/-! ### Openings and polls -/

/-- How a watch begins. -/
inductive Opening where
  /-- No snapshot could be taken. -/
  | unseen (f : Fault)
  /-- The first pass could not be made. -/
  | unbuilt (shot : Snapshot) (f : Fault)
  /-- The first pass was made and could not be told. -/
  | untold (shot : Snapshot) (summary : RunSummary) (f : Fault)
  /-- The first pass was made and told. -/
  | built (shot : Snapshot) (summary : RunSummary)

namespace Opening

/-- The first snapshot. -/
def shot : Opening → Snapshot
  | .unseen _ => []
  | .unbuilt shot _ | .untold shot _ _ | .built shot _ => shot

/-- The fault of what failed, if anything did. -/
def fault? : Opening → Option Fault
  | .unseen f | .unbuilt _ f | .untold _ _ f => some f
  | .built _ _ => none

/-- Everything that happens in an opening, in order: the snapshot comes before the
    pass. -/
def happenings : Opening → List (Happening τ)
  | .unseen f => [.looks (.error f)]
  | .unbuilt shot f => [.looks (.ok shot), .builds (.error f)]
  | .untold shot summary f =>
    [.looks (.ok shot), .builds (.ok summary), .tells summary (.error f)]
  | .built shot summary => [.looks (.ok shot), .builds (.ok summary), .tells summary (.ok ())]

end Opening

/-- How a poll goes. -/
inductive Poll (τ : Type) where
  /-- The wait ended in a fault. -/
  | unwaited (wait : Act τ Unit) (f : Fault)
  /-- No snapshot could be taken. -/
  | unseen (wait : Act τ Unit) (f : Fault)
  /-- Nothing had changed. -/
  | unchanged (wait : Act τ Unit) (shot : Snapshot)
  /-- Something had changed, and no pass could be made. -/
  | unbuilt (wait : Act τ Unit) (shot : Snapshot) (changed : List String) (f : Fault)
  /-- Something had changed, and the pass that was made could not be told. -/
  | untold (wait : Act τ Unit) (shot : Snapshot) (changed : List String) (summary : RunSummary)
      (f : Fault)
  /-- Something had changed, and a pass was made and told. -/
  | rebuilt (wait : Act τ Unit) (shot : Snapshot) (changed : List String) (summary : RunSummary)

namespace Poll

/-- The wait before the look. -/
def wait : Poll τ → Act τ Unit
  | .unwaited wait _ | .unseen wait _ | .unchanged wait _ | .unbuilt wait _ _ _
  | .untold wait _ _ _ _ | .rebuilt wait _ _ _ => wait

/-- The snapshot, if one could be taken. -/
def shot? : Poll τ → Option Snapshot
  | .unwaited _ _ | .unseen _ _ => none
  | .unchanged _ shot | .unbuilt _ shot _ _ | .untold _ shot _ _ _ | .rebuilt _ shot _ _ => some shot

/-- The paths for which another pass was begun, if one was. -/
def changed? : Poll τ → Option (List String)
  | .unwaited _ _ | .unseen _ _ | .unchanged _ _ => none
  | .unbuilt _ _ changed _ | .untold _ _ changed _ _ | .rebuilt _ _ changed _ => some changed

/-- The fault of what failed, if anything did. -/
def fault? : Poll τ → Option Fault
  | .unwaited _ f | .unseen _ f | .unbuilt _ _ _ f | .untold _ _ _ _ f => some f
  | .unchanged _ _ | .rebuilt _ _ _ _ => none

/-- Was another pass made and told? -/
def isRebuilt : Poll τ → Bool
  | .rebuilt _ _ _ _ => true
  | _ => false

/-- Everything that happens in a poll, in order: a pass is begun after the snapshot
    that calls for it was taken. -/
def happenings : Poll τ → List (Happening τ)
  | .unwaited wait f => [.waits wait (.error f)]
  | .unseen wait f => [.waits wait (.ok ()), .looks (.error f)]
  | .unchanged wait shot => [.waits wait (.ok ()), .looks (.ok shot)]
  | .unbuilt wait shot changed f =>
    [.waits wait (.ok ()), .looks (.ok shot), .reports changed, .builds (.error f)]
  | .untold wait shot changed summary f =>
    [.waits wait (.ok ()), .looks (.ok shot), .reports changed, .builds (.ok summary),
      .tells summary (.error f)]
  | .rebuilt wait shot changed summary =>
    [.waits wait (.ok ()), .looks (.ok shot), .reports changed, .builds (.ok summary),
      .tells summary (.ok ())]

/-- **A poll answers a snapshot**: another pass is begun exactly if the new one
    differs from it, and for the paths on which the two differ, in order. -/
def Answers (before : Snapshot) (x : Poll τ) : Prop :=
  ∀ shot, x.shot? = some shot →
    (x.changed? = none ↔ Agree before shot) ∧
    ∀ changed, x.changed? = some changed → changed.Pairwise (· < ·) ∧
      ∀ path, path ∈ changed ↔ before.lookup path ≠ shot.lookup path

/-- To answer a snapshot is to answer one that agrees with it. -/
theorem Answers.congr {x : Poll τ} {a b : Snapshot} (h : x.Answers a) (hab : Agree a b) :
    x.Answers b := by
  intro shot hshot
  obtain ⟨hnone, hchanged⟩ := h shot hshot
  refine ⟨?_, ?_⟩
  · rw [hnone]
    constructor
    · intro hagree path
      rw [← hab path, hagree path]
    · intro hagree path
      rw [hab path, hagree path]
  · intro changed hsome
    obtain ⟨hsorted, hmem⟩ := hchanged changed hsome
    refine ⟨hsorted, ?_⟩
    intro path
    rw [hmem path, hab path]

end Poll

/-- The last snapshot, with `shot` the one before the polls. -/
def lastShot (shot : Snapshot) (polls : List (Poll τ)) : Snapshot :=
  polls.foldl (fun before x => x.shot?.getD before) shot

/-- The snapshot that the last pass answered, with `shot` the one that the pass
    before the polls answered. -/
def lastBuilt (shot : Snapshot) (polls : List (Poll τ)) : Snapshot :=
  polls.foldl (fun before x => if x.changed?.isSome then x.shot?.getD before else before) shot

/-- How many passes were repeated. -/
def rebuilds (polls : List (Poll τ)) : Nat := polls.countP Poll.isRebuilt

/-! ### The law -/

/-- **The polls of a watch**, and what it ends in.  `shot` is the snapshot before
    them, `built` the one that the pass before them answered, and `done` counts the
    passes repeated before them. -/
structure Lawful (limit : Option Int) (waits : List (Act τ Unit)) (shot built : Snapshot)
    (done : Nat) (polls : List (Poll τ)) (result : Except Fault Nat) : Prop where
  /-- There is one poll for each wait, in order. -/
  waited : polls.map Poll.wait <+: waits
  /-- Each poll answers the snapshot before it. -/
  answers : ∀ before x after, polls = before ++ x :: after → x.Answers (lastShot shot before)
  /-- Each poll answers the snapshot of the last pass, so no difference is lost. -/
  catches : ∀ before x after, polls = before ++ x :: after → x.Answers (lastBuilt built before)
  /-- There is a poll only as long as not enough passes have been repeated. -/
  wanted : ∀ before x after, polls = before ++ x :: after →
    Watch.isEnough limit (done + rebuilds before) = false
  /-- What fails in a poll ends the watch. -/
  breaks : ∀ before x after f, polls = before ++ x :: after → x.fault? = some f →
    after = [] ∧ result = .error f
  /-- Otherwise it ends when enough passes have been repeated, or there is no other
      wait, and gives their number. -/
  ends : (∀ x ∈ polls, x.fault? = none) → result = .ok (done + rebuilds polls) ∧
    (Watch.isEnough limit (done + rebuilds polls) = true ∨ polls.length = waits.length)

namespace Lawful

variable {limit : Option Int} {waits : List (Act τ Unit)} {shot built : Snapshot} {done : Nat}
  {polls : List (Poll τ)} {result : Except Fault Nat} {x : Poll τ}

/-- No more polls. -/
theorem nil (h : Watch.isEnough limit done = true ∨ waits = []) :
    Lawful limit waits shot built done [] (.ok done) where
  waited := by simp
  answers := by simp
  catches := by simp
  wanted := by simp
  breaks := by simp
  ends := by
    intro _
    refine ⟨rfl, ?_⟩
    rcases h with h | rfl
    · exact .inl h
    · exact .inr rfl

/-- What is said of each poll, with those before it and those after it: it is said of
    the first one, and of the others with the first one in front. -/
theorem forall_split_cons {P : List (Poll τ) → Poll τ → List (Poll τ) → Prop} (hfirst : P [] x polls)
    (hrest : ∀ before y after, polls = before ++ y :: after → P (x :: before) y after) :
    ∀ before y after, x :: polls = before ++ y :: after → P before y after := by
  intro before y after heq
  cases before with
  | nil =>
    cases heq
    exact hfirst
  | cons z before =>
    cases heq
    exact hrest before y after rfl

theorem forall_split_singleton {P : List (Poll τ) → Poll τ → List (Poll τ) → Prop}
    (hfirst : P [] x []) : ∀ before y after, [x] = before ++ y :: after → P before y after :=
  forall_split_cons hfirst (by simp)

/-- A poll that ends the watch. -/
theorem last {f : Fault} (hx : x.fault? = some f) (hshot : x.Answers shot) (hbuilt : x.Answers built)
    (hwanted : Watch.isEnough limit done = false) :
    Lawful limit (x.wait :: waits) shot built done [x] (.error f) where
  waited := by simp
  answers := forall_split_singleton hshot
  catches := forall_split_singleton hbuilt
  wanted := forall_split_singleton hwanted
  breaks := by
    intro before y after g heq hg
    have hends : y.fault? = some f ∧ after = [] :=
      forall_split_singleton (P := fun _ y after => y.fault? = some f ∧ after = []) ⟨hx, rfl⟩
        before y after heq
    rw [hends.1] at hg
    cases hg
    exact ⟨hends.2, rfl⟩
  ends := by
    intro hall
    rw [hall x (by simp)] at hx
    cases hx

theorem rebuilds_cons (x : Poll τ) (polls : List (Poll τ)) :
    rebuilds (x :: polls) = rebuilds [x] + rebuilds polls := by
  simp only [rebuilds, List.countP_cons, List.countP_nil]
  omega

/-- A poll after which the watch goes on. -/
theorem cons (h : Lawful limit waits (lastShot shot [x]) (lastBuilt built [x])
      (done + rebuilds [x]) polls result)
    (hx : x.fault? = none) (hshot : x.Answers shot) (hbuilt : x.Answers built)
    (hwanted : Watch.isEnough limit done = false) :
    Lawful limit (x.wait :: waits) shot built done (x :: polls) result where
  -- What is said of a poll holds of the first one, and of those after it by `h`.
  waited := List.cons_prefix_cons.2 ⟨rfl, h.waited⟩
  answers := forall_split_cons hshot h.answers
  catches := forall_split_cons hbuilt h.catches
  wanted := by
    refine forall_split_cons hwanted ?_
    intro before y after heq
    rw [rebuilds_cons, ← Nat.add_assoc]
    exact h.wanted before y after heq
  breaks := by
    intro before y after f heq
    refine forall_split_cons (P := fun _ y after => y.fault? = some f →
      after = [] ∧ result = .error f) ?_ ?_ before y after heq
    · intro hf
      rw [hx] at hf
      cases hf
    · intro before y after heq hf
      exact h.breaks before y after f heq hf
  ends := by
    intro hall
    obtain ⟨hresult, hend⟩ := h.ends fun y hy => hall y (List.mem_cons_of_mem x hy)
    rw [Nat.add_assoc, ← rebuilds_cons] at hresult hend
    refine ⟨hresult, ?_⟩
    simpa using hend

end Lawful

/-! ### One poll -/

section Polls

/-- How the loop goes on after a poll: it ends in the fault of the poll, or goes on
    with the snapshot that the last pass answered. -/
def Goes (u : Watcher τ) (waits : List (Act τ Unit)) (built : Snapshot) (done : Nat) (x : Poll τ)
    (w : Diary × τ) (out : Except Fault Nat × Diary × τ) : Prop :=
  (∃ f, x.fault? = some f ∧ out = (.error f, w)) ∨
  (x.fault? = none ∧
    out = (u.loop waits (lastBuilt built [x]) (done + rebuilds [x])).runOn w.1 w.2)

/-- Where nothing has changed. -/
theorem answers_of_agree {x : Poll τ} {before shot : Snapshot} (hshot : x.shot? = some shot)
    (hchanged : x.changed? = none) (hagree : Agree before shot) : x.Answers before := by
  intro seen hseen
  rw [hshot] at hseen
  cases hseen
  refine ⟨⟨fun _ => hagree, fun _ => hchanged⟩, ?_⟩
  intro changed hsome
  rw [hchanged] at hsome
  cases hsome

/-- Where something has changed. -/
theorem answers_of_changes {x : Poll τ} {before shot : Snapshot} (hshot : x.shot? = some shot)
    (hchanged : x.changed? = some (Watch.changes before shot))
    (hne : Watch.changes before shot ≠ []) : x.Answers before := by
  intro seen hseen
  rw [hshot] at hseen
  cases hseen
  constructor
  · rw [hchanged]
    constructor
    · intro hnone
      cases hnone
    · intro hagree
      exact absurd (Watch.changes_eq_nil.2 hagree) hne
  · intro changed hsome
    rw [hchanged] at hsome
    cases hsome
    exact ⟨Watch.pairwise_changes before shot, fun path => Watch.mem_changes⟩

/-- What the loop does when something has changed. -/
def repass (u : Watcher τ) (waits : List (Act τ Unit)) (shot : Snapshot) (done : Nat)
    (changed : List String) : Act τ Nat := do
  Act.log Watch.logger "info" "watch.changed" [("paths", Json.strings changed)]
  u.tell (← u.build)
  u.loop waits shot (done + 1)

/-- **A poll in which something has changed**: it is reported, and another pass is
    made. -/
theorem exists_poll_changed (u : Watcher τ) (waits : List (Act τ Unit)) {wait : Act τ Unit}
    {built shot : Snapshot} {changed : List String} (hchanged : Watch.changes built shot = changed)
    (hne : changed ≠ []) (done : Nat) {w : Diary × τ} {D : Diary} {t : τ}
    (hseen : Timeline u [.waits wait (.ok ()), .looks (.ok shot)] w (D, t)) :
    ∃ (x : Poll τ) (w' : Diary × τ), x.wait = wait ∧ x.Answers built ∧
      Timeline u x.happenings w w' ∧
      Goes u waits built done x w' ((repass u waits shot done changed).runOn D t) := by
  have hanswers : ∀ x : Poll τ, x.shot? = some shot → x.changed? = some changed →
      x.Answers built := by
    intro x hshot hsome
    rw [← hchanged] at hsome hne
    exact answers_of_changes hshot hsome hne
  -- From here on there is one pass and what it tells, and either may fail.
  have hreported := hseen.append (.single (.reports (u := u) changed D t))
  rw [repass, Act.runOn_bind, Act.runOn_log]
  dsimp only
  rw [Act.runOn_bind]
  rcases hbuild : u.build.runOn (D.logged Watch.logger "info" "watch.changed"
    [("paths", Json.strings changed)]) t with ⟨r, D₁, t₁⟩
  have hbuilds := Happening.Leads.builds hbuild
  cases r with
  | error f =>
    exact ⟨.unbuilt wait shot changed f, _, rfl, hanswers _ rfl rfl,
      hreported.append (.single hbuilds), .inl ⟨f, rfl, rfl⟩⟩
  | ok summary =>
    dsimp only
    rw [Act.runOn_bind]
    rcases htell : (u.tell summary).runOn D₁ t₁ with ⟨r, D₂, t₂⟩
    have htells := Happening.Leads.tells htell
    have htold := hreported.append (.cons hbuilds (.single htells))
    cases r with
    | error f =>
      exact ⟨.untold wait shot changed summary f, _, rfl, hanswers _ rfl rfl, htold,
        .inl ⟨f, rfl, rfl⟩⟩
    | ok _ =>
      exact ⟨.rebuilt wait shot changed summary, _, rfl, hanswers _ rfl rfl, htold,
        .inr ⟨rfl, rfl⟩⟩

/-- **One poll**: what happens from one wait to the next. -/
theorem exists_poll (u : Watcher τ) (wait : Act τ Unit) (waits : List (Act τ Unit))
    (built : Snapshot) {done : Nat} (hwanted : Watch.isEnough u.limit done = false)
    (D : Diary) (t : τ) :
    ∃ (x : Poll τ) (w : Diary × τ), x.wait = wait ∧ x.Answers built ∧
      Timeline u x.happenings (D, t) w ∧
      Goes u waits built done x w ((u.loop (wait :: waits) built done).runOn D t) := by
  have hunseen : ∀ x : Poll τ, x.shot? = none → x.Answers built := by
    intro x hnone shot hshot
    rw [hnone] at hshot
    cases hshot
  rw [loop, if_neg (by simp [hwanted]), Act.runOn_bind]
  rcases hwait : wait.runOn D t with ⟨r, D₁, t₁⟩
  have hwaits := Happening.Leads.waits (u := u) hwait
  cases r with
  | error f =>
    exact ⟨.unwaited wait f, _, rfl, hunseen _ rfl, .single hwaits, .inl ⟨f, rfl, rfl⟩⟩
  | ok _ =>
    dsimp only
    rw [Act.runOn_bind]
    rcases hlook : u.look.runOn D₁ t₁ with ⟨r, D₂, t₂⟩
    have hlooks := Happening.Leads.looks hlook
    cases r with
    | error f =>
      exact ⟨.unseen wait f, _, rfl, hunseen _ rfl, .cons hwaits (.single hlooks),
        .inl ⟨f, rfl, rfl⟩⟩
    | ok shot =>
      have hseen := Timeline.cons hwaits (.single hlooks)
      dsimp only
      -- The two snapshots settle whether another pass is made.
      cases hchanged : Watch.changes built shot with
      | nil =>
        have hanswers : (Poll.unchanged wait shot).Answers built :=
          answers_of_agree rfl rfl (Watch.changes_eq_nil.1 hchanged)
        exact ⟨.unchanged wait shot, _, rfl, hanswers, hseen, .inr ⟨rfl, rfl⟩⟩
      | cons path paths =>
        exact exists_poll_changed u waits hchanged (List.cons_ne_nil path paths) done hseen

/-- After a poll in which nothing failed, the snapshot that the last pass answered
    agrees with the last one that was taken. -/
theorem Poll.Answers.agree_last {x : Poll τ} {shot built : Snapshot} (h : x.Answers built)
    (hx : x.fault? = none) : Agree (lastBuilt built [x]) (lastShot shot [x]) := by
  cases x with
  | unchanged wait seen => exact (h seen rfl).1.1 rfl
  | rebuilt wait seen changed summary => exact fun _ => rfl
  | unwaited _ _ => cases hx
  | unseen _ _ => cases hx
  | unbuilt _ _ _ _ => cases hx
  | untold _ _ _ _ _ => cases hx

/-- **All polls**, from any point where the next wait is to begin. -/
theorem exists_polls (u : Watcher τ) (waits : List (Act τ Unit)) :
    ∀ (shot built : Snapshot) (done : Nat) (D : Diary) (t : τ), Agree built shot →
      ∃ polls result w, (u.loop waits built done).runOn D t = (result, w) ∧
        Lawful u.limit waits shot built done polls result ∧
        Timeline u (polls.flatMap Poll.happenings) (D, t) w := by
  -- Over the waits that are left.
  induction waits with
  | nil =>
    intro shot built done D t _
    exact ⟨[], .ok done, (D, t), rfl, .nil (.inr rfl), .nil _⟩
  | cons wait waits ih =>
    intro shot built done D t hagree
    by_cases henough : Watch.isEnough u.limit done = true
    · refine ⟨[], .ok done, (D, t), ?_, .nil (.inl henough), .nil _⟩
      rw [loop, if_pos henough]
      rfl
    have hwanted : Watch.isEnough u.limit done = false := by simpa using henough
    obtain ⟨x, w, rfl, hanswers, htime, hgoes⟩ := exists_poll u wait waits built hwanted D t
    have hshot := hanswers.congr hagree
    rcases hgoes with ⟨f, hfault, hout⟩ | ⟨hnone, hout⟩
    · refine ⟨[x], .error f, w, hout, .last hfault hshot hanswers hwanted, ?_⟩
      rwa [List.flatMap_singleton]
    · obtain ⟨polls, result, w', hrun, hlawful, hrest⟩ :=
        ih (lastShot shot [x]) (lastBuilt built [x]) (done + rebuilds [x]) w.1 w.2
          (hanswers.agree_last hnone)
      refine ⟨x :: polls, result, w', hout.trans hrun, hlawful.cons hnone hshot hanswers hwanted, ?_⟩
      rw [List.flatMap_cons]
      exact htime.append hrest

end Polls

/-! ### The whole watch -/

/-- Everything that happens in a watch, in order. -/
def happenings (opening : Opening) (polls : List (Poll τ)) : List (Happening τ) :=
  opening.happenings ++ polls.flatMap Poll.happenings

/-- **The course of a watch** by its opening and its polls, and what it ends in. -/
structure Course (limit : Option Int) (waits : List (Act τ Unit)) (opening : Opening)
    (polls : List (Poll τ)) (result : Except Fault Nat) : Prop where
  /-- What fails in the opening ends the watch. -/
  opened : ∀ f, opening.fault? = some f → polls = [] ∧ result = .error f
  /-- Otherwise the polls are lawful, from the first snapshot on. -/
  lawful : opening.fault? = none →
    Lawful limit waits opening.shot opening.shot 0 polls result
  /-- The summaries of the passes are told, in their order. -/
  told : (happenings opening polls).filterMap Happening.told? =
    (happenings opening polls).filterMap Happening.built?
  /-- If nothing fails, there is one for the first pass and one for each other. -/
  counted : opening.fault? = none → (∀ x ∈ polls, x.fault? = none) →
    ((happenings opening polls).filterMap Happening.told?).length = 1 + rebuilds polls
  /-- No more passes are repeated than are wanted. -/
  bounded : ∀ n, limit = some n → (rebuilds polls : Int) ≤ max n 0
  /-- If nothing fails, the watch stops exactly when as many have been repeated as
      are wanted, or else there is no other wait. -/
  stops : opening.fault? = none → (∀ x ∈ polls, x.fault? = none) →
    (∃ n, limit = some n ∧ (rebuilds polls : Int) = max n 0) ∨
      (∀ n, limit = some n → (rebuilds polls : Int) < max n 0) ∧ polls.length = waits.length

section Courses

variable {limit : Option Int} {waits : List (Act τ Unit)} {opening : Opening}
  {polls : List (Poll τ)} {result : Except Fault Nat}

/-- In a poll, what is told is what was built. -/
theorem filterMap_told_poll (x : Poll τ) :
    x.happenings.filterMap Happening.told? = x.happenings.filterMap Happening.built? := by
  cases x <;> rfl

theorem filterMap_told (opening : Opening) (polls : List (Poll τ)) :
    (happenings opening polls).filterMap Happening.told? =
      (happenings opening polls).filterMap Happening.built? := by
  have hopening : (opening.happenings : List (Happening τ)).filterMap Happening.told? =
      (opening.happenings : List (Happening τ)).filterMap Happening.built? := by
    cases opening <;> rfl
  have hpolls : (polls.flatMap Poll.happenings).filterMap Happening.told? =
      (polls.flatMap Poll.happenings).filterMap Happening.built? := by
    induction polls with
    | nil => rfl
    | cons x polls ih =>
      rw [List.flatMap_cons, List.filterMap_append, List.filterMap_append, filterMap_told_poll, ih]
  unfold happenings
  rw [List.filterMap_append, List.filterMap_append, hopening, hpolls]

/-- Where nothing fails, a summary is told in each poll in which a pass is
    repeated. -/
theorem length_told_polls (h : ∀ x ∈ polls, x.fault? = none) :
    ((polls.flatMap Poll.happenings).filterMap Happening.told?).length = rebuilds polls := by
  induction polls with
  | nil => rfl
  | cons x polls ih =>
    have hrest := ih fun y hy => h y (List.mem_cons_of_mem x hy)
    have hx := h x (by simp)
    have hone : (x.happenings.filterMap Happening.told?).length = if x.isRebuilt then 1 else 0 := by
      cases x with
      | unchanged _ _ => rfl
      | rebuilt _ _ _ _ => rfl
      | _ => cases hx
    rw [List.flatMap_cons, List.filterMap_append, List.length_append, hrest, hone, rebuilds,
      rebuilds, List.countP_cons]
    omega

theorem length_told (hopening : opening.fault? = none) (hpolls : ∀ x ∈ polls, x.fault? = none) :
    ((happenings opening polls).filterMap Happening.told?).length = 1 + rebuilds polls := by
  have hfirst : ((opening.happenings : List (Happening τ)).filterMap Happening.told?).length = 1 := by
    cases opening with
    | built _ _ => rfl
    | _ => cases hopening
  unfold happenings
  rw [List.filterMap_append, List.length_append, hfirst, length_told_polls hpolls]

/-- Before each pass that is repeated fewer have been repeated than are wanted. -/
theorem Lawful.rebuilds_le {shot built : Snapshot} {n : Int}
    (h : Lawful (some n) waits shot built 0 polls result) : (rebuilds polls : Int) ≤ max n 0 := by
  rcases List.eq_nil_or_concat polls with rfl | ⟨before, x, hpolls⟩
  · rw [rebuilds, List.countP_nil]
    omega
  · rw [List.concat_eq_append] at hpolls
    subst hpolls
    -- The last poll adds at most one to the number before it.
    have hwanted := h.wanted before x [] rfl
    have hone : rebuilds (before ++ [x]) ≤ rebuilds before + 1 := by
      unfold rebuilds
      rw [List.countP_append, List.countP_singleton]
      split <;> omega
    simp only [Watch.isEnough, Nat.zero_add, decide_eq_false_iff_not] at hwanted
    omega

theorem course_of_lawful (hopening : opening.fault? = none)
    (h : Lawful limit waits opening.shot opening.shot 0 polls result) :
    Course limit waits opening polls result where
  opened f hf := by
    rw [hopening] at hf
    cases hf
  lawful _ := h
  told := filterMap_told opening polls
  counted := length_told
  bounded n hn := by
    subst hn
    exact h.rebuilds_le
  stops _ hnone := by
    obtain ⟨_, hend⟩ := h.ends hnone
    rw [Nat.zero_add] at hend
    cases limit with
    | none =>
      refine .inr ⟨by simp, ?_⟩
      simpa [Watch.isEnough] using hend
    | some n =>
      -- Never more than `n`, so enough is exactly `n`.
      have hle := h.rebuilds_le
      simp only [Watch.isEnough, decide_eq_true_eq] at hend
      by_cases henough : n ≤ (rebuilds polls : Int)
      · exact .inl ⟨n, rfl, by omega⟩
      · refine .inr ⟨?_, ?_⟩
        · intro m hm
          cases hm
          omega
        · rcases hend with hend | hend
          · exact absurd hend henough
          · exact hend

/-- A watch that does not get beyond its opening. -/
theorem course_of_fault {f : Fault} (hopening : opening.fault? = some f) :
    Course limit waits opening [] (.error f) where
  opened g hg := by
    rw [hopening] at hg
    cases hg
    exact ⟨rfl, rfl⟩
  lawful hnone := by
    rw [hopening] at hnone
    cases hnone
  told := filterMap_told opening []
  counted hnone := by
    rw [hopening] at hnone
    cases hnone
  bounded n _ := by
    rw [rebuilds, List.countP_nil]
    omega
  stops hnone := by
    rw [hopening] at hnone
    cases hnone

end Courses

/-- **A watch loses no change.**  Whatever the actions of a watcher and its waits do,
    the watch consists of an opening and of polls: these are all that happens, one
    after the other.  Another pass is made in a poll exactly if its snapshot differs
    from the one before it, which is exactly if it differs from the one that the last
    pass answered.  The paths on which they differ are reported, in order, and the
    pass begins after the snapshot was taken.  Each pass is told once, in their
    order; and the watch stops when as many passes have been repeated as are wanted,
    and gives their number. -/
theorem run_loses_nothing (u : Watcher τ) (waits : List (Act τ Unit)) (D : Diary) (t : τ) :
    ∃ opening polls result w, (u.run waits).runOn D t = (result, w) ∧
      Timeline u (happenings opening polls) (D, t) w ∧
      Course u.limit waits opening polls result := by
  unfold run
  rw [Act.runOn_bind]
  rcases hlook : u.look.runOn D t with ⟨r, D₁, t₁⟩
  have hlooks := Happening.Leads.looks hlook
  cases r with
  | error f =>
    exact ⟨.unseen f, [], .error f, _, rfl, .single hlooks, course_of_fault rfl⟩
  | ok shot =>
    dsimp only
    rw [Act.runOn_bind]
    rcases hbuild : u.build.runOn D₁ t₁ with ⟨r, D₂, t₂⟩
    have hbuilds := Happening.Leads.builds hbuild
    cases r with
    | error f =>
      exact ⟨.unbuilt shot f, [], .error f, _, rfl, .cons hlooks (.single hbuilds),
        course_of_fault rfl⟩
    | ok summary =>
      dsimp only
      rw [Act.runOn_bind]
      rcases htell : (u.tell summary).runOn D₂ t₂ with ⟨r, D₃, t₃⟩
      have htells := Happening.Leads.tells htell
      cases r with
      | error f =>
        exact ⟨.untold shot summary f, [], .error f, _, rfl,
          .cons hlooks (.cons hbuilds (.single htells)), course_of_fault rfl⟩
      | ok _ =>
        obtain ⟨polls, result, w, hrun, hlawful, hrest⟩ :=
          exists_polls u waits shot shot 0 D₃ t₃ fun _ => rfl
        exact ⟨.built shot summary, polls, result, w, hrun,
          .cons hlooks (.cons hbuilds (.cons htells hrest)), course_of_lawful rfl hlawful⟩

end Watcher

end SinkPipeline
