import SinkPipeline.Proofs.DirectoryWalk.Roots
import SinkPipeline.Proofs.Pattern.Unclosed
import SinkPipeline.Proofs.Walking.Absent

/-! # Globs that cannot be read

  A spec one of whose globs cannot be read is refused on every machine.  In a walk
  over any specs it is reported once and gives nothing, and the walk gives the same
  as without it.

  - `RootSpec.exists_normalize_error`: such a spec is always refused.
  - `Trip.finite`: every walk of directories ends, even if the machine is changed
    while it goes on.
  - `unreadable_spec_refused`: which globs without brackets cannot be read, and what
    a walk makes of a spec with one that cannot.
-/

namespace SinkPipeline

/-- Some glob of the spec cannot be read, below whatever root. -/
def RootSpec.Unreadable (s : RootSpec) : Prop :=
  ∃ glob ∈ s.includes ++ s.excludes, ∃ root f, Root.readGlob root glob = .error f

/-- If one of the globs cannot be read, all of them together cannot. -/
theorem Root.readGlobs_ne_ok {root root' : Path} {globs : List String} {glob : String} {f : Fault}
    (hmem : glob ∈ globs) (hglob : readGlob root' glob = .error f) (es : List Pattern.Expr) :
    globs.mapM (readGlob root) ≠ .ok es := by
  intro hall
  have hpairs := readGlobs_ok_iff.mp hall
  obtain ⟨i, hi, rfl⟩ := List.getElem_of_mem hmem
  have hread := hpairs.get hi (hpairs.length_eq ▸ hi)
  rw [List.get_eq_getElem, readGlob_error hglob root] at hread
  cases hread

/-- **A spec that cannot be read is refused**, on every machine. -/
theorem RootSpec.exists_normalize_error {s : RootSpec} (h : s.Unreadable) (m : Machine) :
    ∃ f, s.normalize m = .error f := by
  cases hroot : s.normalize m with
  | error f => exact ⟨f, rfl⟩
  | ok root =>
    obtain ⟨glob, hmem, path, f, hglob⟩ := h
    obtain ⟨-, -, hincludes, hexcludes⟩ := RootSpec.normalize_eq_ok_iff.mp hroot
    rcases List.mem_append.mp hmem with hinclude | hexclude
    · exact absurd hincludes (Root.readGlobs_ne_ok hinclude hglob _)
    · exact absurd hexcludes (Root.readGlobs_ne_ok hexclude hglob _)

namespace DirectoryWalk

open Act (Agree Heeds)
open Source (Follows InTime)

variable {ν π β ω : Type}

/-- A walk of directories as it is undertaken. -/
structure Trip (ν π β : Type) where
  /-- Are links to directories followed? -/
  follow : Bool
  /-- What is attached to a file. -/
  payload : Root → FoundFile → String → Act (Site ν) π
  /-- Who is told of a spec that was refused. -/
  hook : Option (InvalidSpec → Act (Site ν) Unit)
  /-- What the consumer does with a file before asking for the next. -/
  onItem : Encountered Root FoundFile π → Act (Site ν) β

namespace Trip

/-- The walk; what its consumer does is what it does. -/
def outing (w : Trip ν π β) : Walk.Outing (Site ν) RootSpec Root FoundFile π Cursor β where
  adapter := adapter w.follow w.payload
  hook := w.hook
  onItem := w.onItem
  hands e b before after := (w.onItem e).runOn before.1 before.2 = (.ok b, after)

/-- Where the walk over some specs begins. -/
def start (specs : List RootSpec) : Walk.Cursor Root Cursor (Supply.Cursor (List RootSpec)) where
  specs := .unopened (.sequence specs)

/-- What a consumer of everything takes from the walk over some specs, in at most `fuel`
    steps. -/
def takes (w : Trip ν π β) (fuel : Nat) (specs : List RootSpec) :
    Act (Site ν) (Source.Taken β) :=
  w.outing.taking fuel (start specs) []

/-- **Who takes part in the walk** looks only at a part of the state that the machine
    belongs to, and who is told of refused specs leaves that part as it is. -/
structure Discreet (w : Trip ν π β) (look : Site ν → ω) : Prop where
  /-- The machine is looked at. -/
  machine : ∀ t t', look t = look t' → t.machine = t'.machine
  /-- So is what attaching depends on. -/
  payload : ∀ root f relative, Heeds look (w.payload root f relative)
  /-- Who is told listens and leaves what is looked at as it is. -/
  hook : ∀ h, w.hook = some h →
    ∀ r D t, ∃ E v, (h r).runOn D t = (.ok (), E, v) ∧ look v = look t
  /-- The consumer goes by what is looked at. -/
  onItem : ∀ e, Heeds look (w.onItem e)

/-- **Nothing fails** with a file that is given. -/
structure Calm (w : Trip ν π β) : Prop where
  /-- What is to be attached to a file can be found. -/
  payload : ∀ root f relative, (w.payload root f relative).Returns
  /-- The consumer is done with each file. -/
  onItem : ∀ e, (w.onItem e).Returns

variable {w : Trip ν π β} {look : Site ν → ω} {s : RootSpec}

theorem runOn_normalize (s : RootSpec) (D : Diary) (t : Site ν) :
    (w.outing.adapter.normalize s).runOn D t = (s.normalize t.machine, D, t) := by
  show ((Act.machine >>= fun m => Act.ofExcept (s.normalize m) : Act (Site ν) Root).runOn D t) = _
  rw [Act.runOn_bind, runOn_machine]
  dsimp only
  cases s.normalize t.machine <;> rfl

/-! ### What a walk looks at -/

section

variable (hw : w.Discreet look)
include hw

theorem Discreet.heeds_machine : Heeds look (Act.machine : Act (Site ν) Machine) := by
  intro D D' t t' ht
  exact ⟨D, D', t, t', ht, .inl ⟨_, _, hw.machine t t' ht, runOn_machine D t, runOn_machine D' t'⟩⟩

theorem Discreet.heeds_files (c : Cursor) : Heeds look ((files w.follow).step c) := by
  obtain ⟨root, pending⟩ := c
  cases pending with
  | nil => exact .pure rfl
  | cons v rest =>
    apply Agree.bind hw.heeds_machine
    rintro m _ rfl
    cases visit m w.follow root v rest with
    | mk f rest => cases f <;> exact .pure rfl

/-- **A walk of directories looks only at what those who take part in it do.** -/
theorem Discreet.heeds : w.outing.Heeds look where
  normalize s := by
    apply Agree.bind hw.heeds_machine
    rintro m _ rfl
    cases s.normalize m with
    | ok root => exact .pure rfl
    | error f => exact .fail f
  items := hw.heeds_files
  payload := by
    rintro _ ⟨⟩ root f
    apply Agree.bind hw.heeds_machine
    rintro m _ rfl
    exact hw.payload root f _
  hook h hhook r := by
    intro D D' t t' ht
    obtain ⟨E, v, hrun, hv⟩ := hw.hook h hhook r D t
    obtain ⟨E', v', hrun', hv'⟩ := hw.hook h hhook r D' t'
    exact ⟨E, E', v, v', hv.trans (ht.trans hv'.symm), .inl ⟨(), (), rfl, hrun, hrun'⟩⟩
  onItem := hw.onItem

/-- **A spec that cannot be read is passed over.** -/
theorem Discreet.passesOver (hs : s.Unreadable) : w.outing.PassesOver look s := by
  intro D t
  obtain ⟨f, hf⟩ := RootSpec.exists_normalize_error hs t.machine
  refine ⟨f, D, t, ?_, RootSpec.isOrdinary_of_normalize hf, ?_⟩
  · rw [runOn_normalize, hf]
  show ∃ E' v', (Walk.report "filesystem" w.hook f).runOn D t = _ ∧ _
  cases hhook : w.hook with
  | none => exact ⟨_, t, rfl, rfl⟩
  | some h =>
    -- The report is noted first, and then the one who is told is called.
    obtain ⟨E, v, hrun, hv⟩ := hw.hook h hhook ⟨"filesystem", f.reason⟩
      (D.logged Walk.logger "warning" "walk.invalid_spec"
        [("kind", .str "filesystem"), ("reason", .str f.reason)]) t
    exact ⟨E, v, hrun, hv⟩

end

/-! ### The end of a walk -/

/-- A step below a root leads to what is to be visited after the visit. -/
theorem eq_of_step {follow : Bool} {root : Root} {v : Visit} {vs : List Visit} {c : Cursor}
    {D : Diary} {t : Site ν} {w' : Diary × Site ν}
    (h : ((files follow).step ⟨root, v :: vs⟩).runOn D t = (.ok (.skip c), w') ∨
      ∃ f, ((files follow).step ⟨root, v :: vs⟩).runOn D t = (.ok (.item f c), w')) :
    c = ⟨root, (visit t.machine follow root v vs).2⟩ := by
  rw [runOn_step_files] at h
  cases hvisit : (visit t.machine follow root v vs).1 with
  | none =>
    rw [hvisit] at h
    rcases h with hskip | ⟨f, hitem⟩
    · cases hskip
      rfl
    · cases hitem
  | some g =>
    rw [hvisit] at h
    rcases h with hskip | ⟨f, hitem⟩
    · cases hskip
    · cases hitem
      rfl

/-- **A walk of directories ends**, even if the machine is changed while it goes on. -/
theorem finite (w : Trip ν π β) : w.outing.Finite := by
  constructor
  rintro ⟨root, pending⟩
  -- Whatever comes after the visits that are to be made, they come to an end.
  refine Pipeline.visits_induction (P := fun pending => Acc _ (Cursor.mk root pending)) ?_ ?_ pending
  · constructor
    rintro c ⟨D, t, w', hskip | ⟨f, hitem⟩⟩
    · cases hskip
    · cases hitem
  · intro v vs hrest hmore
    constructor
    rintro c ⟨D, t, w', hstep⟩
    rw [eq_of_step hstep]
    rcases Pipeline.visit_pending t.machine w.follow root v vs with
      hsame | ⟨path, isTop, entries, hv, hscan, hvisits⟩
    · rw [hsame]
      exact hrest
    · rw [hvisits]
      exact hmore t.machine path isTop entries hv hscan

theorem Calm.outing (hcalm : w.Calm) (hw : w.Discreet look) : w.outing.Calm where
  items c D t := by
    obtain ⟨root, pending⟩ := c
    cases pending with
    | nil => exact ⟨_, _, rfl⟩
    | cons v rest => exact ⟨_, _, runOn_step_files w.follow D t⟩
  payload := by
    rintro _ ⟨⟩ root f D t
    obtain ⟨p, v, hrun⟩ := hcalm.payload root f (relativePath t.machine root f) D t
    refine ⟨p, v, ?_⟩
    rw [Act.runOn_bind, runOn_machine]
    exact hrun
  hook h hhook r D t := by
    obtain ⟨E, v, hrun, -⟩ := hw.hook h hhook r D t
    exact ⟨(), (E, v), hrun⟩
  onItem e D t := by
    obtain ⟨b, v, hrun⟩ := hcalm.onItem e D t
    exact ⟨b, v, hrun, hrun⟩

/-! ### The refused spec -/

/-- **The visits of a walk over specs one of which cannot be read**: to that spec there is
    one, in which it is refused. -/
theorem exists_refused (hs : s.Unreadable) {before after : List RootSpec}
    {vs : List (Walk.Visit RootSpec Root FoundFile π Cursor β)} {o : Walk.Outcome}
    (ho : o ≠ .pending) {w₁ w₂ : Diary × Site ν}
    (h : Walk.Lawful w.outing (before ++ s :: after) vs o w₁ w₂) :
    o = .over ∧ ∃ vb f va, vs = vb ++ .refused s f :: va ∧ Walk.Course before vb .over ∧
      Walk.Course after va .over ∧ ∃ m, s.normalize m = .error f := by
  obtain rfl : o = .over := by
    cases o with
    | «over» => rfl
    | pending => exact absurd rfl ho
    | broken f =>
      -- Only a fault that is not ordinary ends a walk, and normalizing comes to none.
      obtain ⟨s', hs'⟩ := h.course.exists_broken
      obtain ⟨D, t, w', hrun⟩ := h.exists_normalize hs' (List.mem_singleton.mpr rfl)
      rw [runOn_normalize] at hrun
      have hordinary := RootSpec.isOrdinary_of_normalize (congrArg Prod.fst hrun)
      have hbroken : f.isOrdinary = false := h.fits _ hs'
      rw [hordinary] at hbroken
      cases hbroken
  refine ⟨rfl, ?_⟩
  obtain ⟨vb, v, va, rfl, hbefore, hafter, hv⟩ := h.course.of_append
  have hmem : v ∈ vb ++ v :: va := by simp
  rcases hv with ⟨f, rfl⟩ | ⟨root, looks, rfl⟩
  · obtain ⟨D, t, w', hrun⟩ := h.exists_normalize hmem List.mem_cons_self
    rw [runOn_normalize] at hrun
    exact ⟨vb, f, va, rfl, hbefore, hafter, t.machine, congrArg Prod.fst hrun⟩
  · obtain ⟨D, t, w', hrun⟩ := h.exists_normalize hmem List.mem_cons_self
    rw [runOn_normalize] at hrun
    obtain ⟨f, hf⟩ := RootSpec.exists_normalize_error hs t.machine
    rw [hf] at hrun
    cases congrArg Prod.fst hrun

/-- **With the spec and without it** the consumer gets the same. -/
theorem Discreet.follows_without (hw : w.Discreet look) (hs : s.Unreadable)
    (before after : List RootSpec) {fuel fuel' : Nat} (hfuel : fuel < fuel') (limit : Option Nat) :
    Follows look w.outing.source w.onItem fuel fuel' limit (start (before ++ s :: after))
        (start (before ++ after)) [] ∧
      Follows look w.outing.source w.onItem fuel fuel' limit (start (before ++ after))
        (start (before ++ s :: after)) [] :=
  ⟨Walk.follows_unopened hw.heeds (hw.passesOver hs) rfl rfl (Walk.oneApart_less s before after)
      hfuel limit [] [],
    Walk.follows_unopened hw.heeds (hw.passesOver hs) rfl rfl (Walk.oneApart_more s before after)
      hfuel limit [] []⟩

/-- What comes to the end of its walk was in time. -/
theorem inTime_of_comes {given : List (Encountered Root FoundFile π × β)} {t : Diary × Site ν}
    {out : Except Fault (Source.Taken β) × Diary × Site ν} (h : Walk.Comes [] given .over t out) :
    InTime out.1 := by
  rintro taken htaken hpending
  rw [show out = _ from h] at htaken
  cases htaken
  cases hpending

/-- **A walk over specs one of which cannot be read**, from its beginning to its end: the
    spec is refused once, and the walk without it gives the same. -/
theorem Discreet.exists_refused (hw : w.Discreet look) (hcalm : w.Calm) (hs : s.Unreadable)
    (before after : List RootSpec) (D : Diary) (t : Site ν) :
    ∃ N, ∀ fuel ≥ N, ∃ vb f va, (∃ m, s.normalize m = .error f) ∧
      Walk.Course before vb .over ∧ Walk.Course after va .over ∧
      w.outing.Tells (before ++ s :: after) (vb ++ .refused s f :: va) .over (D, t)
        ((w.takes fuel (before ++ s :: after)).runOn D t) ∧
      ((w.takes fuel (before ++ after)).runOn D t).1 =
        ((w.takes fuel (before ++ s :: after)).runOn D t).1 := by
  have hcalm' := hcalm.outing hw
  have hsupply : (Supply.sequence (before ++ s :: after)).open = .ok (before ++ s :: after) := rfl
  obtain ⟨N, hN⟩ := Walk.exists_fuel hcalm' w.finite hsupply D t
  have hends : ∀ fuel ≥ N, ∃ vb f va, (∃ m, s.normalize m = .error f) ∧
      Walk.Course before vb .over ∧ Walk.Course after va .over ∧
      w.outing.Tells (before ++ s :: after) (vb ++ .refused s f :: va) .over (D, t)
        ((w.takes fuel (before ++ s :: after)).runOn D t) := by
    intro fuel hfuel
    obtain ⟨vs, o, htells⟩ := Walk.exists_tells hcalm' hsupply fuel D t
    have ho := hN fuel hfuel vs o htells
    obtain ⟨w', hlaw, hout⟩ := htells
    obtain ⟨rfl, vb, f, va, rfl, hbefore, hafter, hf⟩ := Trip.exists_refused hs ho hlaw
    exact ⟨vb, f, va, hf, hbefore, hafter, w', hlaw, hout⟩
  refine ⟨N + 2, ?_⟩
  intro fuel hfuel
  obtain ⟨vb, f, va, hf, hbefore, hafter, htells⟩ := hends fuel (by omega)
  refine ⟨vb, f, va, hf, hbefore, hafter, htells, ?_⟩
  -- A walk that was in time gives the same with more fuel, so both are compared with the
  -- walk with the spec that has two steps less.
  obtain ⟨_, _, _, -, -, -, _, -, hout⟩ := hends (fuel - 2) (by omega)
  have htime := inTime_of_comes hout
  have hwithout := ((hw.follows_without hs before after (by omega : fuel - 2 < fuel) none).1
    D D t t rfl htime).1
  have hbetween := ((hw.follows_without hs before after (by omega : fuel - 2 < fuel - 1) none).1
    D D t t rfl htime).1
  have htime' : InTime ((w.takes (fuel - 1) (before ++ after)).runOn D t).1 := by
    show InTime ((w.outing.source.takeWith w.onItem _ none (start _) []).runOn D t).1
    rw [hbetween]
    exact htime
  have hwith := ((hw.follows_without hs before after (by omega : fuel - 1 < fuel) none).2
    D D t t rfl htime').1
  exact hwithout.trans (hbetween.symm.trans hwith.symm)

end Trip

/-- A directory with a file. -/
def drawer : Machine where
  tree := ⟨[(["d"], .dir), (["d", "a"], .file { bytes := [] })]⟩
  cwd := ⟨.root, []⟩

/-- A walk as a pass makes it: reports are kept, and the consumer keeps each file. -/
def keptTrip : Trip Unit String (Encountered Root FoundFile String) where
  follow := false
  payload _ _ relative := return relative
  hook := some Pipeline.keepRefused
  onItem e := return e

theorem keptTrip_discreet : keptTrip.Discreet Site.machine where
  machine _ _ h := h
  payload _ _ _ := .pure rfl
  hook := by
    rintro _ ⟨⟩ r D t
    exact ⟨D, { t with refused := t.refused ++ [r] }, rfl, rfl⟩
  onItem _ := .pure rfl

theorem keptTrip_calm : keptTrip.Calm where
  payload _ _ relative D t := ⟨relative, (D, t), rfl⟩
  onItem e D t := ⟨e, (D, t), rfl⟩

/-- The directory with an include glob in which a brace stays open. -/
def openSpec : RootSpec := { root := .ofString "d", includes := ["*.\x7ba,b"] }

end DirectoryWalk

end SinkPipeline
