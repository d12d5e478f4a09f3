import SinkPipeline.Proofs.Walking.Whole

/-! # A refused spec makes no difference

  A walk does not look at its diary.  Suppose that its actions **heed** only a
  part of the state: in two states with the same part they do the same, and the
  part is the same again afterwards.  Then a spec that is always refused, with
  that part left as it is, makes no difference to the walk: with it and without
  it the consumer gets the same, up to the end of both walks.

  The two walks are followed side by side.  They make the same steps, except
  that the one with the spec makes one step more, to refuse it.
-/

namespace SinkPipeline

/-! ### Actions side by side -/

namespace Act

variable {τ ω α β α' β' : Type} {look : τ → ω}

/-- **Two actions agree** in what is looked at: where that is the same before, they
    fail alike or give results that are related, and it is the same afterwards. -/
def Agree (look : τ → ω) (Q : α → β → Prop) (x : Act τ α) (y : Act τ β) : Prop :=
  ∀ D D' t t', look t = look t' → ∃ E E' v v', look v = look v' ∧
    ((∃ a b, Q a b ∧ x.runOn D t = (.ok a, E, v) ∧ y.runOn D' t' = (.ok b, E', v')) ∨
      ∃ f, x.runOn D t = (.error f, E, v) ∧ y.runOn D' t' = (.error f, E', v'))

/-- **An action heeds** only what is looked at. -/
def Heeds (look : τ → ω) (x : Act τ α) : Prop := Agree look Eq x x

theorem Agree.pure {Q : α → β → Prop} {a : α} {b : β} (h : Q a b) :
    Agree look Q (pure a : Act τ α) (pure b : Act τ β) :=
  fun D D' t t' ht => ⟨D, D', t, t', ht, .inl ⟨a, b, h, rfl, rfl⟩⟩

theorem Agree.fail {Q : α → β → Prop} (f : Fault) :
    Agree look Q (fail f : Act τ α) (fail f : Act τ β) :=
  fun D D' t t' ht => ⟨D, D', t, t', ht, .inr ⟨f, rfl, rfl⟩⟩

theorem Agree.bind {Q : α → β → Prop} {Q' : α' → β' → Prop} {x : Act τ α} {y : Act τ β}
    {f : α → Act τ α'} {g : β → Act τ β'} (h : Agree look Q x y)
    (hnext : ∀ a b, Q a b → Agree look Q' (f a) (g b)) : Agree look Q' (x >>= f) (y >>= g) := by
  intro D D' t t' ht
  simp only [runOn_bind]
  obtain ⟨E, E', v, v', hv, ⟨a, b, hab, hx, hy⟩ | ⟨e, hx, hy⟩⟩ := h D D' t t' ht
  · rw [hx, hy]
    exact hnext a b hab E E' v v' hv
  · rw [hx, hy]
    exact ⟨E, E', v, v', hv, .inr ⟨e, rfl, rfl⟩⟩

theorem Heeds.attempt {x : Act τ α} (h : Heeds look x) : Heeds look (attempt x) := by
  intro D D' t t' ht
  simp only [runOn_attempt]
  obtain ⟨E, E', v, v', hv, ⟨a, b, rfl, hx, hy⟩ | ⟨e, hx, hy⟩⟩ := h D D' t t' ht
  · exact ⟨E, E', v, v', hv, .inl ⟨.ok a, .ok a, rfl, by rw [hx], by rw [hy]⟩⟩
  · exact ⟨E, E', v, v', hv, .inl ⟨.error e, .error e, rfl, by rw [hx], by rw [hy]⟩⟩

theorem heeds_log (logger level event : String) (fields : Fields) :
    Heeds look (log logger level event fields : Act τ Unit) :=
  fun _ _ t t' ht => ⟨_, _, t, t', ht, .inl ⟨(), (), rfl, rfl, rfl⟩⟩

end Act

open Act (Agree Heeds)

/-! ### Sources side by side -/

namespace Source

variable {τ ω γ ι β : Type} {look : τ → ω} {source : Source τ γ ι} {onItem : ι → Act τ β}
  {C : γ → γ → Prop}

/-- Two steps give the same, and lead to cursors that are related. -/
inductive SamePoll (C : γ → γ → Prop) : Poll γ ι → Poll γ ι → Prop where
  | done : SamePoll C .done .done
  | skip {c c' : γ} (h : C c c') : SamePoll C (.skip c) (.skip c')
  | item (i : ι) {c c' : γ} (h : C c c') : SamePoll C (.item i c) (.item i c')

/-- The source was not cut short by too little fuel. -/
def InTime (r : Except Fault (Taken β)) : Prop :=
  ∀ taken, r = .ok taken → taken.fault ≠ Walk.Outcome.pending.fault?

/-- **From the second cursor the same is taken as from the first**, if that comes to
    its end in time. -/
def Follows (look : τ → ω) (source : Source τ γ ι) (onItem : ι → Act τ β) (fuel fuel' : Nat)
    (limit : Option Nat) (c c' : γ) (acc : List β) : Prop :=
  ∀ D D' t t', look t = look t' →
    InTime ((source.takeWith onItem fuel limit c acc).runOn D t).1 →
      ((source.takeWith onItem fuel' limit c' acc).runOn D' t').1 =
          ((source.takeWith onItem fuel limit c acc).runOn D t).1 ∧
        look ((source.takeWith onItem fuel limit c acc).runOn D t).2.2 =
          look ((source.takeWith onItem fuel' limit c' acc).runOn D' t').2.2

/-- Without fuel nothing is in time. -/
theorem follows_zero (fuel' : Nat) (limit : Option Nat) (c c' : γ) (acc : List β) :
    Follows look source onItem 0 fuel' limit c c' acc := by
  intro D D' t t' _ htime
  exact absurd rfl (htime _ rfl)

/-- **One step on both sides.** -/
theorem follows_succ {fuel fuel' : Nat} {limit : Option Nat} {c c' : γ} {acc : List β}
    (hstep : Agree look (SamePoll C) (source.step c) (source.step c'))
    (hitem : ∀ i, Heeds look (onItem i))
    (hnext : ∀ limit c c' acc, C c c' → Follows look source onItem fuel fuel' limit c c' acc) :
    Follows look source onItem (fuel + 1) (fuel' + 1) limit c c' acc := by
  intro D D' t t' ht
  by_cases hlimit : limit = some 0
  · rw [hlimit, runOn_takeWith_enough, runOn_takeWith_enough]
    exact fun _ => ⟨rfl, ht⟩
  rw [runOn_takeWith_limit _ _ _ hlimit, runOn_takeWith_limit _ _ _ hlimit]
  obtain ⟨E, E', v, v', hv, ⟨p, p', hp, hrun, hrun'⟩ | ⟨f, hrun, hrun'⟩⟩ := hstep D D' t t' ht
  · rw [hrun, hrun']
    cases hp with
    | done => exact fun _ => ⟨rfl, hv⟩
    | skip hc => exact hnext limit _ _ acc hc E E' v v' hv
    | item i hc =>
      dsimp only
      obtain ⟨F, F', w, w', hw, ⟨b, _, rfl, hb, hb'⟩ | ⟨f, hb, hb'⟩⟩ := hitem i E E' v v' hv
      · rw [hb, hb']
        exact hnext _ _ _ (b :: acc) hc F F' w w' hw
      · rw [hb, hb']
        exact fun _ => ⟨rfl, hw⟩
  · rw [hrun, hrun']
    exact fun _ => ⟨rfl, hv⟩

end Source

/-! ### Walks side by side -/

namespace Walk

open Source (SamePoll InTime Follows)

variable {τ ω spec norm item payload γ β : Type} {look : τ → ω}
  {u : Outing τ spec norm item payload γ β}

/-- **All actions of a walk heed** only what is looked at. -/
structure Outing.Heeds (u : Outing τ spec norm item payload γ β) (look : τ → ω) : Prop where
  normalize : ∀ s, Act.Heeds look (u.adapter.normalize s)
  items : ∀ g, Act.Heeds look (u.adapter.items.step g)
  payload : ∀ f, u.adapter.payload? = some f → ∀ n i, Act.Heeds look (f n i)
  hook : ∀ h, u.hook = some h → ∀ r, Act.Heeds look (h r)
  onItem : ∀ e, Act.Heeds look (u.onItem e)

/-- **A spec is passed over**: it is always refused, and what is looked at stays as
    it is. -/
def Outing.PassesOver (u : Outing τ spec norm item payload γ β) (look : τ → ω) (s : spec) : Prop :=
  ∀ D t, ∃ f E v, (u.adapter.normalize s).runOn D t = (.error f, E, v) ∧ f.isOrdinary = true ∧
    ∃ E' v', (report u.adapter.kind u.hook f).runOn E v = (.ok (), E', v') ∧ look v' = look t

/-- Two walks are at the same point, with these specs to come. -/
def Beside (specs specs' : List spec) (c c' : Cursor norm γ (Supply.Cursor (List spec))) : Prop :=
  ∃ current seen, c = ⟨.opened specs, current, seen⟩ ∧ c' = ⟨.opened specs', current, seen⟩

theorem heeds_report (hu : u.Heeds look) (f : Fault) :
    Act.Heeds look (report u.adapter.kind u.hook f) := by
  refine Agree.bind (Act.heeds_log _ _ _ _) ?_
  rintro _ _ rfl
  cases hhook : u.hook with
  | none => exact .pure rfl
  | some h => exact hu.hook h hhook _

/-- **Inside an enumeration** the specs to come are not looked at. -/
theorem agree_step_within (hu : u.Heeds look) (specs specs' : List spec) (n : norm) (g : γ)
    (seen : List String) :
    Agree look (SamePoll (Beside specs specs'))
      (u.source.step ⟨.opened specs, some (n, g), seen⟩)
      (u.source.step ⟨.opened specs', some (n, g), seen⟩) := by
  apply Agree.bind (hu.items g)
  rintro p _ rfl
  cases p with
  | done => exact .pure (.skip ⟨none, seen, rfl, rfl⟩)
  | skip rest => exact .pure (.skip ⟨some (n, rest), seen, rfl, rfl⟩)
  | item i rest =>
    dsimp only
    split
    · exact .pure (.skip ⟨some (n, rest), seen, rfl, rfl⟩)
    · cases hpayload : u.adapter.payload? with
      | none => exact .pure (.item _ ⟨some (n, rest), _, rfl, rfl⟩)
      | some f =>
        dsimp only
        rw [map_eq_pure_bind]
        apply Agree.bind ((hu.payload f hpayload n i).bind fun p _ hp => .pure (congrArg some hp))
        rintro p _ rfl
        exact .pure (.item _ ⟨some (n, rest), _, rfl, rfl⟩)

/-- **A spec that is next for both** is visited by both. -/
theorem agree_step_next (hu : u.Heeds look) (s : spec) (specs specs' : List spec)
    (seen : List String) :
    Agree look (SamePoll (Beside specs specs'))
      (u.source.step ⟨.opened (s :: specs), none, seen⟩)
      (u.source.step ⟨.opened (s :: specs'), none, seen⟩) := by
  have hnext : Agree look (fun p p' => p = .item s (.opened specs) ∧ p' = .item s (.opened specs'))
      ((Source.ofList τ spec).ofSupply.step (.opened (s :: specs)))
      ((Source.ofList τ spec).ofSupply.step (.opened (s :: specs'))) :=
    fun D D' t t' ht => ⟨D, D', t, t', ht, .inl ⟨_, _, ⟨rfl, rfl⟩, rfl, rfl⟩⟩
  apply Agree.bind hnext
  rintro _ _ ⟨rfl, rfl⟩
  apply Agree.bind (hu.normalize s).attempt
  rintro r _ rfl
  cases r with
  | ok n => exact .pure (.skip ⟨some (n, u.adapter.beginAt n), seen, rfl, rfl⟩)
  | error f =>
    dsimp only
    split
    · apply Agree.bind (heeds_report hu f)
      rintro _ _ rfl
      exact .pure (.skip ⟨none, seen, rfl, rfl⟩)
    · exact .fail f

/-- Without specs to come both walks are over. -/
theorem agree_step_over (seen : List String) :
    Agree look (SamePoll (Beside [] [])) (u.source.step ⟨.opened [], none, seen⟩)
      (u.source.step ⟨.opened [], none, seen⟩) :=
  fun D D' t t' ht => ⟨D, D', t, t', ht, .inl ⟨_, _, .done, rfl, rfl⟩⟩

/-- Two lists of specs that are the same, but for one spec that one of them may
    have more. -/
inductive OneApart (s : spec) : List spec → List spec → Prop where
  | more (specs : List spec) : OneApart s specs (s :: specs)
  | less (specs : List spec) : OneApart s (s :: specs) specs
  | cons (s' : spec) {specs specs' : List spec} (rest : OneApart s specs specs') :
      OneApart s (s' :: specs) (s' :: specs')

theorem oneApart_more (s : spec) (before after : List spec) :
    OneApart s (before ++ after) (before ++ s :: after) := by
  induction before with
  | nil => exact .more after
  | cons b before ih => exact .cons b ih

theorem oneApart_less (s : spec) (before after : List spec) :
    OneApart s (before ++ s :: after) (before ++ after) := by
  induction before with
  | nil => exact .less after
  | cons b before ih => exact .cons b ih

section

variable {s : spec} {specs specs' : List spec}

/-- **From the same point the walk gives the same**, whatever else the state holds,
    and more fuel makes no difference. -/
theorem follows_same (hu : u.Heeds look) (fuel : Nat) :
    ∀ fuel', fuel ≤ fuel' → ∀ limit specs current seen acc,
      Follows look u.source u.onItem fuel fuel' limit ⟨.opened specs, current, seen⟩
        ⟨.opened specs, current, seen⟩ acc := by
  induction fuel with
  | zero =>
    intro fuel' _ limit specs current seen acc
    apply Source.follows_zero
  | succ fuel ih =>
    intro fuel' hfuel limit specs current seen acc
    obtain ⟨k, rfl⟩ : ∃ k, fuel' = k + 1 := ⟨fuel' - 1, by omega⟩
    have hnext : ∀ specs limit c c' acc, Beside specs specs c c' →
        Follows look u.source u.onItem fuel k limit c c' acc := by
      rintro specs limit _ _ acc ⟨current, seen, rfl, rfl⟩
      exact ih k (by omega) limit specs current seen acc
    -- The step is the same for both: inside a listing, at the end, or at the next spec.
    cases current with
    | some p =>
      exact Source.follows_succ (agree_step_within hu specs specs p.1 p.2 seen) hu.onItem
        (hnext specs)
    | none =>
      cases specs with
      | nil => exact Source.follows_succ (agree_step_over seen) hu.onItem (hnext [])
      | cons s specs =>
        exact Source.follows_succ (agree_step_next hu s specs specs seen) hu.onItem (hnext specs)

/-- The step that refuses a spec. -/
theorem runOn_step_passed (hs : u.PassesOver look s) (specs : List spec) (seen : List String)
    (D : Diary) (t : τ) :
    ∃ E v, (u.source.step ⟨.opened (s :: specs), none, seen⟩).runOn D t =
      (.ok (.skip ⟨.opened specs, none, seen⟩), E, v) ∧ look v = look t := by
  obtain ⟨f, E, v, hnormalize, hf, E', v', hreport, hlook⟩ := hs D t
  refine ⟨E', v', ?_, hlook⟩
  unfold Outing.source items step
  simp only [Act.runOn_bind, runOn_nextSpec, Act.runOn_attempt, hnormalize, hf, if_true, hreport]
  rfl

/-- One step more, to refuse a spec. -/
theorem follows_more (hu : u.Heeds look) (hs : u.PassesOver look s) {fuel fuel' : Nat}
    (hfuel : fuel ≤ fuel') (limit : Option Nat) (specs : List spec) (seen : List String)
    (acc : List β) :
    Follows look u.source u.onItem fuel (fuel' + 1) limit ⟨.opened specs, none, seen⟩
      ⟨.opened (s :: specs), none, seen⟩ acc := by
  intro D D' t t' ht
  by_cases hlimit : limit = some 0
  · -- The consumer has enough, and the spec is not looked at.
    cases fuel with
    | zero => exact Source.follows_zero _ _ _ _ _ D D' t t' ht
    | succ fuel =>
      rw [hlimit, Source.runOn_takeWith_enough, Source.runOn_takeWith_enough]
      exact fun _ => ⟨rfl, ht⟩
  obtain ⟨E, v, hstep, hlook⟩ := runOn_step_passed hs specs seen D' t'
  rw [Source.runOn_takeWith_limit _ _ fuel' hlimit, hstep]
  exact follows_same hu fuel fuel' hfuel limit specs none seen acc D E t v (ht.trans hlook.symm)

/-- One step less, without a spec that is refused. -/
theorem follows_less (hu : u.Heeds look) (hs : u.PassesOver look s) {fuel fuel' : Nat}
    (hfuel : fuel ≤ fuel') (limit : Option Nat) (specs : List spec) (seen : List String)
    (acc : List β) :
    Follows look u.source u.onItem (fuel + 1) (fuel' + 1) limit ⟨.opened (s :: specs), none, seen⟩
      ⟨.opened specs, none, seen⟩ acc := by
  intro D D' t t' ht
  by_cases hlimit : limit = some 0
  · rw [hlimit, Source.runOn_takeWith_enough, Source.runOn_takeWith_enough]
    exact fun _ => ⟨rfl, ht⟩
  obtain ⟨E, v, hstep, hlook⟩ := runOn_step_passed hs specs seen D t
  rw [Source.runOn_takeWith_limit _ _ fuel hlimit, hstep]
  exact follows_same hu fuel (fuel' + 1) (by omega) limit specs none seen acc E D' v t'
    (hlook.trans ht)

/-- **One refused spec more or less makes no difference.** -/
theorem follows_oneApart (hu : u.Heeds look) (hs : u.PassesOver look s) (fuel : Nat) :
    ∀ fuel', fuel < fuel' → ∀ limit specs specs' current seen acc, OneApart s specs specs' →
      Follows look u.source u.onItem fuel fuel' limit ⟨.opened specs, current, seen⟩
        ⟨.opened specs', current, seen⟩ acc := by
  induction fuel with
  | zero =>
    intro fuel' _ limit specs specs' current seen acc _
    apply Source.follows_zero
  | succ fuel ih =>
    intro fuel' hfuel limit specs specs' current seen acc hspecs
    obtain ⟨k, rfl⟩ : ∃ k, fuel' = k + 1 := ⟨fuel' - 1, by omega⟩
    cases current with
    | some p =>
      apply Source.follows_succ (agree_step_within hu specs specs' p.1 p.2 seen) hu.onItem
      rintro limit _ _ acc ⟨current, seen, rfl, rfl⟩
      exact ih k (by omega) limit specs specs' current seen acc hspecs
    | none =>
      -- Only where the specs part does one of the two make a step more.
      cases hspecs with
      | more specs => exact follows_more hu hs (by omega) limit specs seen acc
      | less specs => exact follows_less hu hs (by omega) limit specs' seen acc
      | cons s' hrest =>
        apply Source.follows_succ (agree_step_next hu s' _ _ seen) hu.onItem
        rintro limit _ _ acc ⟨current, seen, rfl, rfl⟩
        exact ih k (by omega) limit _ _ current seen acc hrest

/-- The same from the beginning, when the specs are still to be asked for. -/
theorem follows_unopened (hu : u.Heeds look) (hs : u.PassesOver look s)
    {supply supply' : Supply (List spec)} (hopen : supply.open = .ok specs)
    (hopen' : supply'.open = .ok specs') (hspecs : OneApart s specs specs') {fuel fuel' : Nat}
    (hfuel : fuel < fuel') (limit : Option Nat) (seen : List String) (acc : List β) :
    Follows look u.source u.onItem fuel fuel' limit ⟨.unopened supply, none, seen⟩
      ⟨.unopened supply', none, seen⟩ acc := by
  have hstep : Agree look (SamePoll (Beside specs specs'))
      (u.source.step ⟨.unopened supply, none, seen⟩)
      (u.source.step ⟨.unopened supply', none, seen⟩) := by
    intro D D' t t' ht
    exact ⟨D, D', t, t', ht, .inl ⟨_, _, .skip ⟨none, seen, rfl, rfl⟩,
      runOn_step_unopened hopen seen D t, runOn_step_unopened hopen' seen D' t'⟩⟩
  cases fuel with
  | zero => exact Source.follows_zero _ _ _ _ _
  | succ fuel =>
    obtain ⟨k, rfl⟩ : ∃ k, fuel' = k + 1 := ⟨fuel' - 1, by omega⟩
    apply Source.follows_succ hstep hu.onItem
    rintro limit _ _ acc ⟨current, seen, rfl, rfl⟩
    exact follows_oneApart hu hs fuel k (by omega) limit specs specs' current seen acc hspecs

/-! ### The visit to a spec -/

/-- The visits of a walk that came to its end: those to the specs before a spec, the one
    to it, and those to the specs after it. -/
theorem Course.of_append {before after : List spec} {vs : List (Visit spec norm item payload γ β)}
    (h : Course (before ++ s :: after) vs .over) :
    ∃ vb v va, vs = vb ++ v :: va ∧ Course before vb .over ∧ Course after va .over ∧
      ((∃ f, v = .refused s f) ∨ ∃ n looks, v = .listed s n looks true) := by
  induction before generalizing vs with
  | nil =>
    cases h with
    | refused hrest => exact ⟨[], _, _, rfl, .over, hrest, .inl ⟨_, rfl⟩⟩
    | listed hrest => exact ⟨[], _, _, rfl, .over, hrest, .inr ⟨_, _, rfl⟩⟩
  | cons b before ih =>
    cases h with
    | refused hrest =>
      obtain ⟨vb, v, va, rfl, hbefore, hafter, hv⟩ := ih hrest
      exact ⟨_ :: vb, v, va, rfl, .refused hbefore, hafter, hv⟩
    | listed hrest =>
      obtain ⟨vb, v, va, rfl, hbefore, hafter, hv⟩ := ih hrest
      exact ⟨_ :: vb, v, va, rfl, .listed hbefore, hafter, hv⟩

/-- A walk that a fault ended visited the spec that broke it. -/
theorem Course.exists_broken {vs : List (Visit spec norm item payload γ β)} {f : Fault}
    (h : Course specs vs (.broken f)) : ∃ s, .broken s f ∈ vs := by
  generalize ho : Outcome.broken f = o at h
  induction h with
  | «over» => cases ho
  | pending => cases ho
  | refused _ ih =>
    obtain ⟨s, hs⟩ := ih ho
    exact ⟨s, List.mem_cons_of_mem _ hs⟩
  | broken s f specs =>
    cases ho
    exact ⟨s, List.mem_singleton.mpr rfl⟩
  | listed _ ih =>
    obtain ⟨s, hs⟩ := ih ho
    exact ⟨s, List.mem_cons_of_mem _ hs⟩
  | listing => cases ho

/-- Normalizing a spec came to what the visit to it says. -/
theorem Lawful.exists_normalize {vs : List (Visit spec norm item payload γ β)} {o : Outcome}
    {w w' : Diary × τ} (h : Lawful u specs vs o w w')
    {v : Visit spec norm item payload γ β} (hv : v ∈ vs) {r : Except Fault norm}
    (hr : .normalizes s r ∈ v.happenings u) :
    ∃ D t w, (u.adapter.normalize s).runOn D t = (r, w) := by
  obtain ⟨w₁, w₂, hleads⟩ := h.happens.exists_leads (List.mem_flatMap.mpr ⟨v, hv, hr⟩)
  cases hleads with
  | normalizes hrun => exact ⟨_, _, _, hrun⟩

end

end Walk

end SinkPipeline
