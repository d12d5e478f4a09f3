import SinkPipeline.Proofs.Walking.Law

/-! # Walks obey their law

  From any point of a walk, each step either begins or ends a visit or is one
  look, and the law of what is left is the law of what comes after that step.
  So by induction on the number of steps every walk is lawful, whether or not
  there are enough steps to come to its end; and if the enumerations end, then
  so does the walk.
-/

namespace SinkPipeline

namespace Walk

variable {τ spec norm item payload γ β : Type}

/-! ### Single steps -/

section Steps

variable {u : Outing τ spec norm item payload γ β} {s : spec} {specs : List spec} {n : norm}
  {g rest : γ} {i : item} {c : Supply.Cursor (List spec)} {seen : List String} {D D' : Diary}
  {t t' : τ} {w : Diary × τ}

theorem runOn_nextSpec :
    ((Source.ofList τ spec).ofSupply.step (.opened (s :: specs))).runOn D t =
      (.ok (.item s (.opened specs)), D, t) := rfl

theorem runOn_step_over : (u.source.step ⟨.opened [], none, seen⟩).runOn D t = (.ok .done, D, t) :=
  rfl

/-- A spec is normalized, and its enumeration begins. -/
theorem runOn_step_normalized (h : (u.adapter.normalize s).runOn D t = (.ok n, w)) :
    (u.source.step ⟨.opened (s :: specs), none, seen⟩).runOn D t =
      (.ok (.skip ⟨.opened specs, some (n, u.adapter.beginAt n), seen⟩), w) := by
  unfold Outing.source items step
  simp only [Act.runOn_bind, runOn_nextSpec, Act.runOn_attempt, h]
  rfl

/-- A fault that is not ordinary goes past. -/
theorem runOn_step_broken {f : Fault} (h : (u.adapter.normalize s).runOn D t = (.error f, w))
    (hf : f.isOrdinary = false) :
    (u.source.step ⟨.opened (s :: specs), none, seen⟩).runOn D t = (.error f, w) := by
  unfold Outing.source items step
  simp only [Act.runOn_bind, runOn_nextSpec, Act.runOn_attempt, h, hf, Bool.false_eq_true, if_false]
  rfl

/-- **A spec is refused**: it is noted, and reported if anyone is to be told. -/
theorem exists_step_refused (hu : u.Calm) (specs : List spec) (seen : List String) {f : Fault}
    (h : (u.adapter.normalize s).runOn D t = (.error f, D', t')) (hf : f.isOrdinary = true) :
    ∃ w, Timeline u (.notes f :: if u.hook.isSome then [.reports f] else []) (D', t') w ∧
      (u.source.step ⟨.opened (s :: specs), none, seen⟩).runOn D t =
        (.ok (.skip ⟨.opened specs, none, seen⟩), w) := by
  have hstep : ∀ w, (report u.adapter.kind u.hook f).runOn D' t' = (.ok (), w) →
      (u.source.step ⟨.opened (s :: specs), none, seen⟩).runOn D t =
        (.ok (.skip ⟨.opened specs, none, seen⟩), w) := by
    intro w hreport
    unfold Outing.source items step
    simp only [Act.runOn_bind, runOn_nextSpec, Act.runOn_attempt, h, hf, if_true, hreport]
    rfl
  cases hhook : u.hook with
  | none =>
    refine ⟨_, .cons (.notes f D' t') (.nil _), hstep _ ?_⟩
    rw [hhook]
    rfl
  | some hear =>
    obtain ⟨_, w, hrun⟩ := hu.hook hear hhook ⟨u.adapter.kind, f.reason⟩
      (D'.logged logger "warning" "walk.invalid_spec"
        [("kind", .str u.adapter.kind), ("reason", .str f.reason)]) t'
    refine ⟨w, .cons (.notes f D' t') (.cons (.reports hhook hrun) (.nil w)), hstep w ?_⟩
    rw [hhook]
    exact hrun

theorem runOn_step_listed (h : (u.adapter.items.step g).runOn D t = (.ok .done, w)) :
    (u.source.step ⟨c, some (n, g), seen⟩).runOn D t = (.ok (.skip ⟨c, none, seen⟩), w) := by
  unfold Outing.source items step
  simp only [Act.runOn_bind, h]
  rfl

theorem runOn_step_nothing (h : (u.adapter.items.step g).runOn D t = (.ok (.skip rest), w)) :
    (u.source.step ⟨c, some (n, g), seen⟩).runOn D t =
      (.ok (.skip ⟨c, some (n, rest), seen⟩), w) := by
  unfold Outing.source items step
  simp only [Act.runOn_bind, h]
  rfl

/-- An item is passed over whose key has been given. -/
theorem runOn_step_known (h : (u.adapter.items.step g).runOn D t = (.ok (.item i rest), w))
    (hseen : u.adapter.keyOf n i ∈ seen) :
    (u.source.step ⟨c, some (n, g), seen⟩).runOn D t =
      (.ok (.skip ⟨c, some (n, rest), seen⟩), w) := by
  unfold Outing.source items step
  simp only [Act.runOn_bind, h, List.contains_eq_mem, hseen, decide_true, if_true]
  rfl

/-- **An item with a new key is given**, with what is attached to it. -/
theorem exists_step_fresh (hu : u.Calm)
    (h : (u.adapter.items.step g).runOn D t = (.ok (.item i rest), D', t'))
    (hseen : u.adapter.keyOf n i ∉ seen) :
    ∃ p w, p.isSome = u.adapter.payload?.isSome ∧
      Timeline u (p.toList.map (.attaches n i)) (D', t') w ∧
      (u.source.step ⟨c, some (n, g), seen⟩).runOn D t =
        (.ok (.item ⟨u.adapter.keyOf n i, n, i, p⟩
          ⟨c, some (n, rest), u.adapter.keyOf n i :: seen⟩), w) := by
  cases hpayload : u.adapter.payload? with
  | none =>
    refine ⟨none, (D', t'), rfl, .nil _, ?_⟩
    unfold Outing.source items step
    simp only [Act.runOn_bind, h, List.contains_eq_mem, hseen, decide_false, hpayload,
      Bool.false_eq_true, if_false, Act.runOn_pure]
  | some f =>
    obtain ⟨p, w, hrun⟩ := hu.payload f hpayload n i D' t'
    refine ⟨some p, w, rfl, .cons (.attaches hpayload hrun) (.nil w), ?_⟩
    unfold Outing.source items step
    simp only [Act.runOn_bind, h, List.contains_eq_mem, hseen, decide_false, hpayload,
      Bool.false_eq_true, if_false, map_eq_pure_bind, hrun]
    rfl

end Steps

/-! ### First occurrences -/

/-- What is given of what is enumerated, when the keys in `seen` have been given
    before. -/
def FirstsAfter (a : WalkAdapter τ spec norm item payload γ) (seen : List String)
    (given : List (Encountered norm item payload × β)) (enumerated : List (norm × item)) : Prop :=
  given.map (fun x => (x.1.spec, x.1.item)) =
    (enumerated.filter fun x => a.keyOf x.1 x.2 ∉ seen).eraseDupsBy (sameKey a)

namespace FirstsAfter

variable {a : WalkAdapter τ spec norm item payload γ} {seen : List String} {n : norm} {i : item}
  {given : List (Encountered norm item payload × β)} {enumerated : List (norm × item)}

theorem nil : FirstsAfter a seen ([] : List (Encountered norm item payload × β)) [] := rfl

theorem known (hseen : a.keyOf n i ∈ seen) (h : FirstsAfter a seen given enumerated) :
    FirstsAfter a seen given ((n, i) :: enumerated) := by
  unfold FirstsAfter
  rw [List.filter_cons_of_neg (by simpa using hseen)]
  exact h

theorem fresh (hseen : a.keyOf n i ∉ seen) (p : Option payload) (b : β)
    (h : FirstsAfter a (a.keyOf n i :: seen) given enumerated) :
    FirstsAfter a seen ((⟨a.keyOf n i, n, i, p⟩, b) :: given) ((n, i) :: enumerated) := by
  -- Leaving out its key again is as if it had been given before.
  have hrest : ((enumerated.filter fun x => a.keyOf x.1 x.2 ∉ seen).filter
      fun x => sameKey a x (n, i) = false) =
      enumerated.filter fun x => a.keyOf x.1 x.2 ∉ a.keyOf n i :: seen := by
    rw [List.filter_filter]
    refine List.filter_congr ?_
    intro x _
    simp [sameKey]
  unfold FirstsAfter at h ⊢
  rw [List.filter_cons_of_pos (by simpa using hseen), List.eraseDupsBy_cons, List.map_cons, h,
    hrest]

end FirstsAfter

/-! ### The whole walk -/

/-- The law of what is left of a walk, between two specs. -/
structure LawfulAfter (u : Outing τ spec norm item payload γ β) (seen : List String)
    (specs : List spec) (vs : List (Visit spec norm item payload γ β)) (o : Outcome)
    (w w' : Diary × τ) : Prop where
  course : Course specs vs o
  fits : ∀ v ∈ vs, v.Fits u.adapter
  happens : Timeline u (vs.flatMap (Visit.happenings u)) w w'
  firsts : FirstsAfter u.adapter seen (vs.flatMap (Visit.given u.adapter))
    (vs.flatMap Visit.enumerated)

/-- The law of what is left of a walk, inside the enumeration of a spec. -/
structure LawfulWithin (u : Outing τ spec norm item payload γ β) (seen : List String) (n : norm)
    (g : γ) (looks : List (Look item payload γ β)) (whole : Bool) (specs : List spec)
    (vs : List (Visit spec norm item payload γ β)) (o : Outcome) (w w' : Diary × τ) : Prop where
  course : ∀ s : spec, Course (s :: specs) (.listed s n looks whole :: vs) o
  fits : ∀ l ∈ looks, l.Fits u.adapter
  later : ∀ v ∈ vs, v.Fits u.adapter
  happens : Timeline u (listing u.adapter n whole g looks ++ vs.flatMap (Visit.happenings u)) w w'
  firsts : FirstsAfter u.adapter seen
    (looks.filterMap (Look.given? u.adapter n) ++ vs.flatMap (Visit.given u.adapter))
    ((looks.filterMap Look.item?).map (n, ·) ++ vs.flatMap Visit.enumerated)

section Runs

variable {u : Outing τ spec norm item payload γ β}

/-! Each thing that can happen first, in front of what is lawful. -/

section

variable {seen : List String} {specs : List spec} {s : spec} {n : norm} {g rest : γ} {i : item}
  {looks : List (Look item payload γ β)} {whole : Bool}
  {vs : List (Visit spec norm item payload γ β)} {o : Outcome} {w w₁ w₂ w₃ w' : Diary × τ}

theorem LawfulAfter.refused {f : Fault} (h : LawfulAfter u seen specs vs o w₂ w')
    (hfirst : (Happening.normalizes s (.error f)).Leads u w w₁) (hf : f.isOrdinary = true)
    (htime : Timeline u (.notes f :: if u.hook.isSome then [.reports f] else []) w₁ w₂) :
    LawfulAfter u seen (s :: specs) (.refused s f :: vs) o w w' where
  course := .refused h.course
  fits := List.forall_mem_cons.mpr ⟨hf, h.fits⟩
  happens := .cons hfirst (htime.append h.happens)
  firsts := h.firsts

theorem LawfulWithin.listed
    (h : LawfulWithin u seen n (u.adapter.beginAt n) looks whole specs vs o w₁ w')
    (hfirst : (Happening.normalizes s (.ok n)).Leads u w w₁) :
    LawfulAfter u seen (s :: specs) (.listed s n looks whole :: vs) o w w' where
  course := h.course s
  fits := List.forall_mem_cons.mpr ⟨h.fits, h.later⟩
  happens := .cons hfirst h.happens
  firsts := h.firsts

theorem LawfulAfter.ended (h : LawfulAfter u seen specs vs o w₁ w')
    (hfirst : (Happening.lists n g .done).Leads u w w₁) :
    LawfulWithin u seen n g [] true specs vs o w w' where
  course _ := .listed h.course
  fits := by simp
  later := h.fits
  happens := .cons hfirst h.happens
  firsts := h.firsts

theorem LawfulWithin.nothing (h : LawfulWithin u seen n rest looks whole specs vs o w₁ w')
    (hfirst : (Happening.lists n g (.skip rest)).Leads u w w₁) :
    LawfulWithin u seen n g (.nothing rest :: looks) whole specs vs o w w' where
  course s := (h.course s).looks _
  fits := List.forall_mem_cons.mpr ⟨trivial, h.fits⟩
  later := h.later
  happens := .cons hfirst h.happens
  firsts := h.firsts

theorem LawfulWithin.known (h : LawfulWithin u seen n rest looks whole specs vs o w₁ w')
    (hfirst : (Happening.lists n g (.item i rest)).Leads u w w₁)
    (hseen : u.adapter.keyOf n i ∈ seen) :
    LawfulWithin u seen n g (.known i rest :: looks) whole specs vs o w w' where
  course s := (h.course s).looks _
  fits := List.forall_mem_cons.mpr ⟨trivial, h.fits⟩
  later := h.later
  happens := .cons hfirst h.happens
  firsts := .known hseen h.firsts

theorem LawfulWithin.fresh {p : Option payload} {b : β}
    (h : LawfulWithin u (u.adapter.keyOf n i :: seen) n rest looks whole specs vs o w₃ w')
    (hfirst : (Happening.lists n g (.item i rest)).Leads u w w₁)
    (hseen : u.adapter.keyOf n i ∉ seen) (hp : p.isSome = u.adapter.payload?.isSome)
    (htime : Timeline u (p.toList.map (.attaches n i)) w₁ w₂)
    (hhands : u.hands ⟨u.adapter.keyOf n i, n, i, p⟩ b w₂ w₃) :
    LawfulWithin u seen n g (.fresh i rest p b :: looks) whole specs vs o w w' where
  course s := (h.course s).looks _
  fits := List.forall_mem_cons.mpr ⟨hp, h.fits⟩
  later := h.later
  happens := by
    have hlook : Timeline u ((Look.fresh i rest p b).happenings u.adapter n g) w w₃ :=
      .cons hfirst (htime.append (.cons (.gives hhands) (.nil _)))
    rw [listing, List.append_assoc]
    exact hlook.append h.happens
  firsts := .fresh hseen p b h.firsts

end

/-- What a taking comes to: what the consumer made of what was given. -/
def Comes (acc : List β) (given : List (Encountered norm item payload × β)) (o : Outcome)
    (w : Diary × τ) (out : Except Fault (Source.Taken β) × Diary × τ) : Prop :=
  out = (.ok ⟨acc.reverse ++ given.map (·.2), o.fault?⟩, w)

/-- In so many steps, what is taken **between two specs** is lawful. -/
def Outing.TakesAfter (u : Outing τ spec norm item payload γ β) (fuel : Nat) : Prop :=
  ∀ specs seen acc D t, ∃ vs o w, LawfulAfter u seen specs vs o (D, t) w ∧
    Comes acc (vs.flatMap (Visit.given u.adapter)) o w
      ((u.taking fuel ⟨.opened specs, none, seen⟩ acc).runOn D t)

/-- In so many steps, what is taken **inside the enumeration of a spec** is lawful. -/
def Outing.TakesWithin (u : Outing τ spec norm item payload γ β) (fuel : Nat) : Prop :=
  ∀ n g specs seen acc D t, ∃ looks whole vs o w,
    LawfulWithin u seen n g looks whole specs vs o (D, t) w ∧
    Comes acc (looks.filterMap (Look.given? u.adapter n) ++ vs.flatMap (Visit.given u.adapter)) o w
      ((u.taking fuel ⟨.opened specs, some (n, g), seen⟩ acc).runOn D t)

theorem Outing.takesAfter_zero : u.TakesAfter 0 := by
  intro specs seen acc D t
  refine ⟨[], .pending, (D, t), ⟨.pending specs, by simp, .nil _, .nil⟩, ?_⟩
  simp [Comes, Outing.taking, Source.takeWith, Act.runOn_pure, Outcome.fault?]

theorem Outing.takesWithin_zero : u.TakesWithin 0 := by
  intro n g specs seen acc D t
  refine ⟨[], false, [], .pending, (D, t),
    ⟨fun s => .listing s n [] specs, by simp, by simp, .nil _, .nil⟩, ?_⟩
  simp [Comes, Outing.taking, Source.takeWith, Act.runOn_pure, Outcome.fault?]

/-- One more step between two specs: it ends the walk, or begins the next visit. -/
theorem Outing.TakesAfter.succ (hu : u.Calm) {fuel : Nat} (hafter : u.TakesAfter fuel)
    (hwithin : u.TakesWithin fuel) : u.TakesAfter (fuel + 1) := by
  intro specs seen acc D t
  cases specs with
  | nil =>
    refine ⟨[], .over, (D, t), ⟨.over, by simp, .nil _, .nil⟩, ?_⟩
    rw [Comes, Outing.taking, Source.runOn_takeWith_succ, runOn_step_over]
    simp [Outcome.fault?]
  | cons s specs =>
    rcases hnormalize : (u.adapter.normalize s).runOn D t with ⟨r, D', t'⟩
    have hfirst := Happening.Leads.normalizes hnormalize
    cases r with
    | ok n =>
      obtain ⟨looks, whole, vs, o, w, hlaw, hout⟩ :=
        hwithin n (u.adapter.beginAt n) specs seen acc D' t'
      refine ⟨.listed s n looks whole :: vs, o, w, hlaw.listed hfirst, ?_⟩
      rw [Outing.taking, Source.runOn_takeWith_succ, runOn_step_normalized hnormalize]
      exact hout
    | error f =>
      by_cases hf : f.isOrdinary = true
      · obtain ⟨⟨D'', t''⟩, htime, hstep⟩ := exists_step_refused hu specs seen hnormalize hf
        obtain ⟨vs, o, w, hlaw, hout⟩ := hafter specs seen acc D'' t''
        refine ⟨.refused s f :: vs, o, w, hlaw.refused hfirst hf htime, ?_⟩
        rw [Outing.taking, Source.runOn_takeWith_succ, hstep]
        exact hout
      · -- Any other fault is the last thing that happens.
        have hf' : f.isOrdinary = false := by simpa using hf
        refine ⟨[.broken s f], .broken f, (D', t'), ⟨.broken s f specs, ?_, ?_, .nil⟩, ?_⟩
        · simpa [Visit.Fits] using hf'
        · exact .cons hfirst (.nil _)
        · rw [Comes, Outing.taking, Source.runOn_takeWith_succ, runOn_step_broken hnormalize hf']
          simp [Visit.given, Outcome.fault?]

/-- One more step inside an enumeration: it ends the visit, or is one look. -/
theorem Outing.TakesWithin.succ (hu : u.Calm) {fuel : Nat} (hafter : u.TakesAfter fuel)
    (hwithin : u.TakesWithin fuel) : u.TakesWithin (fuel + 1) := by
  intro n g specs seen acc D t
  obtain ⟨p, ⟨D', t'⟩, hlist⟩ := hu.items g D t
  have hfirst := Happening.Leads.lists (u := u) (n := n) hlist
  cases p with
  | done =>
    obtain ⟨vs, o, w, hlaw, hout⟩ := hafter specs seen acc D' t'
    refine ⟨[], true, vs, o, w, hlaw.ended hfirst, ?_⟩
    rw [Outing.taking, Source.runOn_takeWith_succ, runOn_step_listed hlist]
    exact hout
  | skip rest =>
    obtain ⟨looks, whole, vs, o, w, hlaw, hout⟩ := hwithin n rest specs seen acc D' t'
    refine ⟨.nothing rest :: looks, whole, vs, o, w, hlaw.nothing hfirst, ?_⟩
    rw [Outing.taking, Source.runOn_takeWith_succ, runOn_step_nothing hlist]
    exact hout
  | item i rest =>
    by_cases hseen : u.adapter.keyOf n i ∈ seen
    · obtain ⟨looks, whole, vs, o, w, hlaw, hout⟩ := hwithin n rest specs seen acc D' t'
      refine ⟨.known i rest :: looks, whole, vs, o, w, hlaw.known hfirst hseen, ?_⟩
      rw [Outing.taking, Source.runOn_takeWith_succ, runOn_step_known hlist hseen]
      exact hout
    · -- From here on the key counts as given.
      obtain ⟨p, ⟨D₁, t₁⟩, hp, htime, hstep⟩ :=
        exists_step_fresh (c := .opened specs) hu hlist hseen
      obtain ⟨b, ⟨D₂, t₂⟩, hitem, hhands⟩ := hu.onItem ⟨u.adapter.keyOf n i, n, i, p⟩ D₁ t₁
      obtain ⟨looks, whole, vs, o, w, hlaw, hout⟩ :=
        hwithin n rest specs (u.adapter.keyOf n i :: seen) (b :: acc) D₂ t₂
      refine ⟨.fresh i rest p b :: looks, whole, vs, o, w,
        hlaw.fresh hfirst hseen hp htime hhands, ?_⟩
      rw [Outing.taking, Source.runOn_takeWith_succ, hstep]
      dsimp only
      rw [hitem]
      refine hout.trans ?_
      simp [Look.given?]

/-- **A walk that has begun** is lawful, from any point, between two specs or inside
    the enumeration of one. -/
theorem exists_visits (hu : u.Calm) (fuel : Nat) : u.TakesAfter fuel ∧ u.TakesWithin fuel := by
  -- Both at once: either kind of point may lead to the other in one step.
  induction fuel with
  | zero => exact ⟨Outing.takesAfter_zero, Outing.takesWithin_zero⟩
  | succ fuel ih =>
    obtain ⟨hafter, hwithin⟩ := ih
    exact ⟨hafter.succ hu hwithin, Outing.TakesWithin.succ hu hafter hwithin⟩

/-! ### The end of a walk -/

/-- From here the walk comes to an end, if only enough steps are made. -/
def Outing.Halts (u : Outing τ spec norm item payload γ β)
    (c : Cursor norm γ (Supply.Cursor (List spec))) (acc : List β) (D : Diary) (t : τ) : Prop :=
  ∃ N, ∀ fuel ≥ N, ∀ taken w, (u.taking fuel c acc).runOn D t = (.ok taken, w) →
    taken.fault ≠ Outcome.pending.fault?

/-- One more step in front. -/
theorem Outing.Halts.step {c c' : Cursor norm γ (Supply.Cursor (List spec))} {acc acc' : List β}
    {D D' : Diary} {t t' : τ} (h : u.Halts c' acc' D' t')
    (hstep : ∀ fuel, (u.taking (fuel + 1) c acc).runOn D t = (u.taking fuel c' acc').runOn D' t') :
    u.Halts c acc D t := by
  obtain ⟨N, hN⟩ := h
  refine ⟨N + 1, ?_⟩
  intro fuel hfuel taken w hrun
  obtain ⟨fuel, rfl⟩ : ∃ k, fuel = k + 1 := ⟨fuel - 1, by omega⟩
  rw [hstep] at hrun
  exact hN fuel (by omega) taken w hrun

/-- The last step. -/
theorem Outing.Halts.last {c : Cursor norm γ (Supply.Cursor (List spec))} {acc : List β}
    {D : Diary} {t : τ} {taken : Source.Taken β} {w : Diary × τ}
    (hlast : ∀ fuel, (u.taking (fuel + 1) c acc).runOn D t = (.ok taken, w))
    (hfault : taken.fault ≠ Outcome.pending.fault?) : u.Halts c acc D t := by
  refine ⟨1, ?_⟩
  intro fuel hfuel taken' w' hrun
  obtain ⟨fuel, rfl⟩ : ∃ k, fuel = k + 1 := ⟨fuel - 1, by omega⟩
  rw [hlast] at hrun
  obtain ⟨rfl, -⟩ : taken = taken' ∧ w = w' := by simpa using hrun
  exact hfault

/-- The enumeration of a spec comes to an end, if the walk does after it. -/
theorem Outing.Finite.halts_within (hu : u.Calm) (hfinite : u.Finite) {specs : List spec}
    (hafter : ∀ seen acc D t, u.Halts ⟨.opened specs, none, seen⟩ acc D t) (n : norm) (g : γ) :
    ∀ seen acc D t, u.Halts ⟨.opened specs, some (n, g), seen⟩ acc D t := by
  -- An item may be given or not: the enumeration goes down either way.
  induction g using hfinite.induction with
  | _ g ih =>
    intro seen acc D t
    obtain ⟨p, ⟨D', t'⟩, hlist⟩ := hu.items g D t
    cases p with
    | done =>
      apply (hafter seen acc D' t').step
      intro fuel
      rw [Outing.taking, Source.runOn_takeWith_succ, runOn_step_listed hlist]
      rfl
    | skip rest =>
      apply (ih rest ⟨D, t, _, .inl hlist⟩ seen acc D' t').step
      intro fuel
      rw [Outing.taking, Source.runOn_takeWith_succ, runOn_step_nothing hlist]
      rfl
    | item i rest =>
      have hless := ih rest ⟨D, t, _, .inr ⟨i, hlist⟩⟩
      by_cases hseen : u.adapter.keyOf n i ∈ seen
      · apply (hless seen acc D' t').step
        intro fuel
        rw [Outing.taking, Source.runOn_takeWith_succ, runOn_step_known hlist hseen]
        rfl
      · obtain ⟨p, ⟨D₁, t₁⟩, -, -, hstep⟩ :=
          exists_step_fresh (c := .opened specs) hu hlist hseen
        obtain ⟨b, ⟨D₂, t₂⟩, hitem, -⟩ := hu.onItem ⟨u.adapter.keyOf n i, n, i, p⟩ D₁ t₁
        apply (hless (u.adapter.keyOf n i :: seen) (b :: acc) D₂ t₂).step
        intro fuel
        rw [Outing.taking, Source.runOn_takeWith_succ, hstep]
        dsimp only
        rw [hitem]
        rfl

/-- **A walk comes to an end** if the enumerations do. -/
theorem Outing.Finite.halts (hu : u.Calm) (hfinite : u.Finite) (specs : List spec) :
    ∀ seen acc D t, u.Halts ⟨.opened specs, none, seen⟩ acc D t := by
  induction specs with
  | nil =>
    intro seen acc D t
    have hover : ∀ fuel, (u.taking (fuel + 1) ⟨.opened [], none, seen⟩ acc).runOn D t =
        (.ok ⟨acc.reverse, none⟩, D, t) := by
      intro fuel
      rw [Outing.taking, Source.runOn_takeWith_succ, runOn_step_over]
    exact Outing.Halts.last hover (by simp [Outcome.fault?])
  | cons s specs ih =>
    intro seen acc D t
    rcases hnormalize : (u.adapter.normalize s).runOn D t with ⟨r, D', t'⟩
    cases r with
    | ok n =>
      apply (hfinite.halts_within hu ih n (u.adapter.beginAt n) seen acc D' t').step
      intro fuel
      rw [Outing.taking, Source.runOn_takeWith_succ, runOn_step_normalized hnormalize]
      rfl
    | error f =>
      by_cases hf : f.isOrdinary = true
      · obtain ⟨⟨D'', t''⟩, -, hstep⟩ := exists_step_refused hu specs seen hnormalize hf
        apply (ih seen acc D'' t'').step
        intro fuel
        rw [Outing.taking, Source.runOn_takeWith_succ, hstep]
        rfl
      · have hf' : f.isOrdinary = false := by simpa using hf
        have hbroken : ∀ fuel, (u.taking (fuel + 1) ⟨.opened (s :: specs), none, seen⟩ acc).runOn
            D t = (.ok ⟨acc.reverse, some f⟩, D', t') := by
          intro fuel
          rw [Outing.taking, Source.runOn_takeWith_succ, runOn_step_broken hnormalize hf']
        refine Outing.Halts.last hbroken fun hsame => ?_
        -- The fault for too little fuel is an ordinary one.
        obtain rfl : f = .plain .runtime "the source did not end in time" := Option.some.inj hsame
        cases hf'

/-! ### From the beginning -/

/-- A walk over these specs is lawful and comes to what its consumer made of
    what was given. -/
def Outing.Tells (u : Outing τ spec norm item payload γ β) (specs : List spec)
    (vs : List (Visit spec norm item payload γ β)) (o : Outcome) (w : Diary × τ)
    (out : Except Fault (Source.Taken β) × Diary × τ) : Prop :=
  ∃ w', Lawful u specs vs o w w' ∧ Comes [] (vs.flatMap (Visit.given u.adapter)) o w' out

variable {supply : Supply (List spec)} {specs : List spec}

/-- **The specs are asked for first.** -/
theorem runOn_step_unopened (hopen : supply.open = .ok specs) (seen : List String) (D : Diary)
    (t : τ) :
    (u.source.step ⟨.unopened supply, none, seen⟩).runOn D t =
      (.ok (.skip ⟨.opened specs, none, seen⟩), D, t) := by
  have hspecs : ((Source.ofList τ spec).ofSupply.step (.unopened supply)).runOn D t =
      (.ok (.skip (.opened specs)), D, t) := by
    show (Act.ofExcept supply.open >>= fun c => pure (Poll.skip (Supply.Cursor.opened c))).runOn D t
      = _
    rw [hopen]
    rfl
  unfold Outing.source items step
  simp only [Act.runOn_bind, hspecs]
  rfl

theorem runOn_taking_succ (hopen : supply.open = .ok specs) (fuel : Nat) (D : Diary) (t : τ) :
    (u.taking (fuel + 1) ⟨.unopened supply, none, []⟩ []).runOn D t =
      (u.taking fuel ⟨.opened specs, none, []⟩ []).runOn D t := by
  rw [Outing.taking, Source.runOn_takeWith_succ, runOn_step_unopened hopen]
  rfl

/-- **A walk is lawful**, however many steps are made. -/
theorem exists_tells (hu : u.Calm) (hopen : supply.open = .ok specs) (fuel : Nat) (D : Diary)
    (t : τ) : ∃ vs o, u.Tells specs vs o (D, t)
      ((u.taking fuel ⟨.unopened supply, none, []⟩ []).runOn D t) := by
  cases fuel with
  | zero =>
    refine ⟨[], .pending, (D, t), ⟨.pending specs, by simp, .nil _, rfl⟩, ?_⟩
    simp [Comes, Outing.taking, Source.takeWith, Act.runOn_pure, Outcome.fault?]
  | succ fuel =>
    obtain ⟨vs, o, w, hlaw, hout⟩ := (exists_visits hu fuel).1 specs [] [] D t
    refine ⟨vs, o, w, ⟨hlaw.course, hlaw.fits, hlaw.happens, ?_⟩, ?_⟩
    · have hall : ((vs.flatMap Visit.enumerated).filter
          fun x => u.adapter.keyOf x.1 x.2 ∉ ([] : List String)) = vs.flatMap Visit.enumerated :=
        List.filter_eq_self.mpr (by simp)
      have hfirsts := hlaw.firsts
      rwa [FirstsAfter, hall] at hfirsts
    · rwa [runOn_taking_succ hopen]

/-- With enough steps the walk does not stop in between. -/
theorem exists_fuel (hu : u.Calm) (hfinite : u.Finite) (hopen : supply.open = .ok specs) (D : Diary)
    (t : τ) : ∃ N, ∀ fuel ≥ N, ∀ vs o, u.Tells specs vs o (D, t)
      ((u.taking fuel ⟨.unopened supply, none, []⟩ []).runOn D t) → o ≠ .pending := by
  have hhalts : u.Halts ⟨.unopened supply, none, []⟩ [] D t :=
    (hfinite.halts hu specs [] [] D t).step (runOn_taking_succ hopen · D t)
  obtain ⟨N, hN⟩ := hhalts
  refine ⟨N, ?_⟩
  rintro fuel hfuel vs _ ⟨w', -, hout⟩ rfl
  exact hN fuel hfuel _ _ hout rfl

end Runs

end Walk

end SinkPipeline
