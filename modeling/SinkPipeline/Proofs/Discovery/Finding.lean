import SinkPipeline.Discovery
import SinkPipeline.Proofs.Walking.Whole

/-! # The law of a discovery

  A discovery is a walk whose consumer **judges** each item: the filter is asked
  about it, then the selector for its name, then the grammar about the name.
  Each question is put only if the answers before it let the item through.

  What a discovery gives are the items of the walk that were judged to be
  sinks, so the law of a discovery is the law of that walk.
-/

namespace SinkPipeline

namespace Discovery

variable {τ spec norm item payload γ : Type}

/-! ### Judging an item -/

/-- What is decided about an item. -/
inductive Verdict (norm item payload : Type) where
  /-- The filter does not let it through. -/
  | declined
  /-- It has no name, or an empty one. -/
  | unnamed
  /-- Its name is not that of a sink. -/
  | noSink (name : String)
  /-- It is a sink. -/
  | sink (found : Found norm item payload)

/-- The sink that was found. -/
def Verdict.found? : Verdict norm item payload → Option (Found norm item payload)
  | .sink found => some found
  | .declined | .unnamed | .noSink _ => none

/-- Do something with each item that is taken, and keep it. -/
def seen {α : Type} (see : α → Diary → τ → Diary × τ) (x : α) : Act τ α :=
  Act.ofRun fun D t => (.ok x, see x D t)

/-- Ask the filter about an item; where there is none, every item is let through
    and nothing happens. -/
def keeps (rules : Rules τ norm item payload) (e : Encountered norm item payload) : Act τ Bool :=
  match rules.filter with
  | none => pure true
  | some keep => keep e

/-- Judge an item; a sink is given to the consumer of the discovery. -/
def judge (rules : Rules τ norm item payload)
    (see : Found norm item payload → Diary → τ → Diary × τ)
    (e : Encountered norm item payload) : Act τ (Verdict norm item payload) := do
  let kept ← keeps rules e
  if !kept then return .declined
  match ← rules.selectName e with
  | none => return .unnamed
  | some name =>
    if name = "" then return .unnamed
    match SinkName.parse? name with
    | none => return .noSink name
    | some parsed =>
      Act.log logger "debug" "discovery.found" [("key", .str e.key), ("name", .str name)]
      Verdict.sink <$> seen see ⟨e.key, e.spec, e.item, name, parsed, e.payload⟩

/-- **The filter is asked about an item, once**, and gives an answer. -/
def Filters (rules : Rules τ norm item payload) (e : Encountered norm item payload) (kept : Bool)
    (w w' : Diary × τ) : Prop :=
  (keeps rules e).runOn w.1 w.2 = (.ok kept, w')

/-- **The selector is asked for the name of an item, once**, and gives an
    answer. -/
def Selects (rules : Rules τ norm item payload) (e : Encountered norm item payload)
    (name : Option String) (w w' : Diary × τ) : Prop :=
  (rules.selectName e).runOn w.1 w.2 = (.ok name, w')

/-- **How an item is judged**, and everything that happens to the world then.
    The selector is asked only about items that the filter lets through, and
    what is found is noted in the log and given to the consumer. -/
inductive Judges (rules : Rules τ norm item payload)
    (see : Found norm item payload → Diary → τ → Diary × τ) (e : Encountered norm item payload) :
    Verdict norm item payload → Diary × τ → Diary × τ → Prop where
  | declined {w w' : Diary × τ} (hfilter : Filters rules e false w w') :
      Judges rules see e .declined w w'
  | unnamed {name : Option String} {w w₁ w' : Diary × τ} (hfilter : Filters rules e true w w₁)
      (hselect : Selects rules e name w₁ w') (hname : name = none ∨ name = some "") :
      Judges rules see e .unnamed w w'
  | noSink {name : String} {w w₁ w' : Diary × τ} (hfilter : Filters rules e true w w₁)
      (hselect : Selects rules e (some name) w₁ w') (hname : name ≠ "")
      (hparse : SinkName.parse? name = none) : Judges rules see e (.noSink name) w w'
  | sink {name : String} {parsed : SinkName} {w w₁ : Diary × τ} {D : Diary} {t : τ}
      (hfilter : Filters rules e true w w₁) (hselect : Selects rules e (some name) w₁ (D, t))
      (hname : name ≠ "") (hparse : SinkName.parse? name = some parsed) :
      Judges rules see e (.sink ⟨e.key, e.spec, e.item, name, parsed, e.payload⟩) w
        (see ⟨e.key, e.spec, e.item, name, parsed, e.payload⟩
          (D.logged logger "debug" "discovery.found" [("key", .str e.key), ("name", .str name)]) t)

theorem parse?_empty : SinkName.parse? "" = none := by decide

section

variable {rules : Rules τ norm item payload}
  {see : Found norm item payload → Diary → τ → Diary × τ} {e : Encountered norm item payload}
  {D D' D'' : Diary} {t t' t'' : τ}

/-- The filter comes first, and what comes after it depends on its answer
    alone. -/
theorem sinkOf?_eq (rules : Rules τ norm item payload) (e : Encountered norm item payload) :
    sinkOf? rules e = do
      let kept ← keeps rules e
      if !kept then return none
      match ← rules.selectName e with
      | none => return none
      | some name =>
        match SinkName.parse? name with
        | none => return none
        | some parsed =>
          Act.log logger "debug" "discovery.found" [("key", .str e.key), ("name", .str name)]
          return some ⟨e.key, e.spec, e.item, name, parsed, e.payload⟩ := by
  unfold sinkOf? keeps
  cases rules.filter <;> rfl

/-- The sink that an item is, once the filter and the selector have answered. -/
theorem runOn_sinkOf? {name : Option String} (hfilter : Filters rules e true (D, t) (D', t'))
    (hselect : Selects rules e name (D', t') (D'', t'')) :
    (sinkOf? rules e).runOn D t =
      match name with
      | none => (.ok none, D'', t'')
      | some name =>
        match SinkName.parse? name with
        | none => (.ok none, D'', t'')
        | some parsed =>
          (.ok (some ⟨e.key, e.spec, e.item, name, parsed, e.payload⟩),
            D''.logged logger "debug" "discovery.found" [("key", .str e.key), ("name", .str name)],
            t'') := by
  have hkept : (keeps rules e).runOn D t = (.ok true, D', t') := hfilter
  have hname : (rules.selectName e).runOn D' t' = (.ok name, D'', t'') := hselect
  rw [sinkOf?_eq]
  simp only [Act.runOn_bind, hkept, Bool.not_true, Bool.false_eq_true, if_false, hname]
  cases name with
  | none => rfl
  | some name =>
    cases hparse : SinkName.parse? name with
    | none => simp only [hparse]; rfl
    | some parsed => simp only [hparse]; rfl

theorem runOn_sinkOf?_declined (hfilter : Filters rules e false (D, t) (D', t')) :
    (sinkOf? rules e).runOn D t = (.ok none, D', t') := by
  have hkept : (keeps rules e).runOn D t = (.ok false, D', t') := hfilter
  rw [sinkOf?_eq]
  simp only [Act.runOn_bind, hkept, Bool.not_false, if_true]
  rfl

/-- **Every item is judged**, one way or another. -/
theorem exists_judges (hfilter : (keeps rules e).Returns) (hselect : (rules.selectName e).Returns)
    (D : Diary) (t : τ) :
    ∃ v w, (judge rules see e).runOn D t = (.ok v, w) ∧ Judges rules see e v (D, t) w := by
  obtain ⟨kept, ⟨D', t'⟩, hkept⟩ := hfilter D t
  unfold judge
  rw [Act.runOn_bind, hkept]
  cases kept with
  | false => exact ⟨.declined, (D', t'), rfl, .declined hkept⟩
  | true =>
    obtain ⟨name, ⟨D'', t''⟩, hname⟩ := hselect D' t'
    simp only [Bool.not_true, Bool.false_eq_true, if_false, Act.runOn_bind, hname]
    cases name with
    | none => exact ⟨.unnamed, (D'', t''), rfl, .unnamed hkept hname (.inl rfl)⟩
    | some name =>
      by_cases hempty : name = ""
      · subst hempty
        exact ⟨.unnamed, (D'', t''), rfl, .unnamed hkept hname (.inr rfl)⟩
      · simp only [if_neg hempty]
        cases hparse : SinkName.parse? name with
        | none => exact ⟨.noSink name, (D'', t''), rfl, .noSink hkept hname hempty hparse⟩
        | some parsed => exact ⟨.sink _, _, rfl, .sink hkept hname hempty hparse⟩

/-- What a discovery makes of an item is how it is judged: a sink is left to the
    consumer, and nothing comes of any other item. -/
theorem Judges.runOn_sinkOf? {v : Verdict norm item payload} {w : Diary × τ}
    (h : Judges rules see e v (D, t) w) :
    (v.found? = none ∧ (sinkOf? rules e).runOn D t = (.ok none, w)) ∨
      ∃ found D' t', v.found? = some found ∧ w = see found D' t' ∧
        (sinkOf? rules e).runOn D t = (.ok (some found), D', t') := by
  generalize hw : (D, t) = w₀ at h
  cases h with
  | declined hfilter =>
    subst hw
    exact .inl ⟨rfl, runOn_sinkOf?_declined hfilter⟩
  | unnamed hfilter hselect hname =>
    subst hw
    refine .inl ⟨rfl, ?_⟩
    rw [Discovery.runOn_sinkOf? hfilter hselect]
    rcases hname with rfl | rfl
    · rfl
    · simp only [parse?_empty]
  | noSink hfilter hselect _ hparse =>
    subst hw
    refine .inl ⟨rfl, ?_⟩
    rw [Discovery.runOn_sinkOf? hfilter hselect]
    simp only [hparse]
  | sink hfilter hselect _ hparse =>
    subst hw
    refine .inr ⟨_, _, _, rfl, rfl, ?_⟩
    rw [Discovery.runOn_sinkOf? hfilter hselect]
    simp only [hparse]

/-! ### Discovering and walking -/

section

variable {δ : Type} {walk : Source τ δ (Encountered norm item payload)} {c rest : δ}

theorem runOn_sinks_error {f : Fault} {w : Diary × τ}
    (h : (walk.step c).runOn D t = (.error f, w)) :
    ((sinks rules walk).step c).runOn D t = (.error f, w) := by
  unfold sinks
  simp only [Act.runOn_bind, h]

theorem runOn_sinks_done {w : Diary × τ} (h : (walk.step c).runOn D t = (.ok .done, w)) :
    ((sinks rules walk).step c).runOn D t = (.ok .done, w) := by
  unfold sinks
  simp only [Act.runOn_bind, h]
  rfl

theorem runOn_sinks_skip {w : Diary × τ} (h : (walk.step c).runOn D t = (.ok (.skip rest), w)) :
    ((sinks rules walk).step c).runOn D t = (.ok (.skip rest), w) := by
  unfold sinks
  simp only [Act.runOn_bind, h]
  rfl

/-- A step that gives an item is followed by what is made of the item. -/
theorem runOn_sinks_item {found : Option (Found norm item payload)} {w : Diary × τ}
    (h : (walk.step c).runOn D t = (.ok (.item e rest), D', t'))
    (hsink : (sinkOf? rules e).runOn D' t' = (.ok found, w)) :
    ((sinks rules walk).step c).runOn D t =
      (.ok (match found with | none => .skip rest | some found => .item found rest), w) := by
  unfold sinks
  simp only [Act.runOn_bind, h, hsink]
  cases found <;> rfl

/-- **A discovery is a walk whose consumer judges**: it makes the same steps, and
    gives what was judged to be a sink. -/
theorem runOn_takeWith_sinks
    (hjudge : ∀ e D t, ∃ v w, (judge rules see e).runOn D t = (.ok v, w) ∧
      Judges rules see e v (D, t) w)
    (fuel : Nat) :
    ∀ (c : δ) (acc : List (Verdict norm item payload)) (D : Diary) (t : τ)
      {taken : Source.Taken (Verdict norm item payload)} {w : Diary × τ},
      (walk.takeWith (judge rules see) fuel none c acc).runOn D t = (.ok taken, w) →
      ((sinks rules walk).takeWith (seen see) fuel none c (acc.filterMap Verdict.found?)).runOn D t =
        (.ok ⟨taken.items.filterMap Verdict.found?, taken.fault⟩, w) := by
  -- Both make the same step; one that gives no sink is one in which nothing is given.
  induction fuel with
  | zero =>
    intro c acc D t taken w h
    obtain ⟨rfl, rfl⟩ : ⟨acc.reverse, _⟩ = taken ∧ (D, t) = w := by
      simpa [Source.takeWith, Act.runOn_pure] using h
    simp [Source.takeWith, Act.runOn_pure, List.filterMap_reverse]
  | succ fuel ih =>
    intro c acc D t taken w h
    rw [Source.runOn_takeWith_succ] at h ⊢
    rcases hstep : (walk.step c).runOn D t with ⟨r, D', t'⟩
    rw [hstep] at h
    cases r with
    | error f =>
      obtain ⟨rfl, rfl⟩ : ⟨acc.reverse, _⟩ = taken ∧ (D', t') = w := by simpa using h
      simp [runOn_sinks_error hstep, List.filterMap_reverse]
    | ok p =>
      cases p with
      | done =>
        obtain ⟨rfl, rfl⟩ : ⟨acc.reverse, _⟩ = taken ∧ (D', t') = w := by simpa using h
        simp [runOn_sinks_done hstep, List.filterMap_reverse]
      | skip rest =>
        rw [runOn_sinks_skip hstep]
        exact ih rest acc D' t' h
      | item e rest =>
        obtain ⟨v, ⟨D₁, t₁⟩, hrun, hjudges⟩ := hjudge e D' t'
        simp only [hrun] at h
        have hrest := ih rest (v :: acc) D₁ t₁ h
        rcases hjudges.runOn_sinkOf? with ⟨hnone, hsink⟩ | ⟨found, D₂, t₂, hsome, hseen, hsink⟩
        · rw [runOn_sinks_item hstep hsink]
          rwa [List.filterMap_cons_none hnone] at hrest
        · rw [runOn_sinks_item hstep hsink]
          rw [List.filterMap_cons_some hsome] at hrest
          have hgiven : (seen see found).runOn D₂ t₂ = (.ok found, D₁, t₁) := by
            rw [hseen]
            rfl
          simp only [hgiven]
          exact hrest

end

end

/-! ### The law -/

/-- A search as it is undertaken: by which adapter, who is told of specs that
    are refused, what decides about items, and what the consumers of a walk and
    of a discovery do with what they are given. -/
structure Search (τ spec norm item payload γ : Type) where
  /-- How the place is walked. -/
  adapter : WalkAdapter τ spec norm item payload γ
  /-- Who is told of a spec that was refused. -/
  hook : Option (InvalidSpec → Act τ Unit)
  /-- What decides about an item. -/
  rules : Rules τ norm item payload
  /-- What is done with an item of the walk before the next one is asked for. -/
  seeItem : Encountered norm item payload → Diary → τ → Diary × τ
  /-- What is done with a sink before the next one is asked for. -/
  seeFound : Found norm item payload → Diary → τ → Diary × τ

namespace Search

/-- The walk by itself: each item is seen as it is given. -/
def walk (u : Search τ spec norm item payload γ) :
    Walk.Outing τ spec norm item payload γ (Encountered norm item payload) where
  adapter := u.adapter
  hook := u.hook
  onItem := seen u.seeItem
  hands e x w w' := x = e ∧ w' = u.seeItem e w.1 w.2

/-- The walk of the discovery: each item is judged. -/
def discovery (u : Search τ spec norm item payload γ) :
    Walk.Outing τ spec norm item payload γ (Verdict norm item payload) where
  adapter := u.adapter
  hook := u.hook
  onItem := judge u.rules u.seeFound
  hands := Judges u.rules u.seeFound

/-- **Nothing but normalizing fails.** -/
structure Calm (u : Search τ spec norm item payload γ) : Prop where
  /-- The enumeration goes on. -/
  items : ∀ g, (u.adapter.items.step g).Returns
  /-- What is to be attached to an item can be found. -/
  payload : ∀ f, u.adapter.payload? = some f → ∀ n i, (f n i).Returns
  /-- Who is told of refused specs listens. -/
  hook : ∀ h, u.hook = some h → ∀ r, (h r).Returns
  /-- The filter answers. -/
  filter : ∀ keep, u.rules.filter = some keep → ∀ e, (keep e).Returns
  /-- The selector answers. -/
  select : ∀ e, (u.rules.selectName e).Returns

variable {u : Search τ spec norm item payload γ}

theorem Calm.walk (hu : u.Calm) : u.walk.Calm where
  items := hu.items
  payload := hu.payload
  hook := hu.hook
  onItem e D t := ⟨e, u.seeItem e D t, rfl, rfl, rfl⟩

theorem Calm.judges (hu : u.Calm) (e : Encountered norm item payload) (D : Diary) (t : τ) :
    ∃ v w, (judge u.rules u.seeFound e).runOn D t = (.ok v, w) ∧
      Judges u.rules u.seeFound e v (D, t) w := by
  refine exists_judges ?_ (hu.select e) D t
  unfold keeps
  cases hfilter : u.rules.filter with
  | none => exact fun D t => ⟨true, (D, t), rfl⟩
  | some keep => exact hu.filter keep hfilter e

theorem Calm.discovery (hu : u.Calm) : u.discovery.Calm where
  items := hu.items
  payload := hu.payload
  hook := hu.hook
  onItem := hu.judges

/-- What the walk gives, taken in at most `fuel` steps. -/
def takesItems (u : Search τ spec norm item payload γ) (supply : Supply (List spec)) (fuel : Nat) :
    Act τ (Source.Taken (Encountered norm item payload)) :=
  (Walk.items u.adapter (Source.ofList τ spec).ofSupply u.hook).takeWith (seen u.seeItem) fuel none
    { specs := .unopened supply } []

/-- What the discovery gives, taken in at most `fuel` steps. -/
def takesSinks (u : Search τ spec norm item payload γ) (supply : Supply (List spec)) (fuel : Nat) :
    Act τ (Source.Taken (Found norm item payload)) :=
  (sinks u.rules (Walk.items u.adapter (Source.ofList τ spec).ofSupply u.hook)).takeWith
    (seen u.seeFound) fuel none { specs := .unopened supply } []

/-- The walk is lawful and gives the items of its visits. -/
def WalkTells (u : Search τ spec norm item payload γ) (specs : List spec)
    (vs : List (Walk.Visit spec norm item payload γ (Encountered norm item payload)))
    (o : Walk.Outcome) (w : Diary × τ)
    (out : Except Fault (Source.Taken (Encountered norm item payload)) × Diary × τ) : Prop :=
  ∃ w', Walk.Lawful u.walk specs vs o w w' ∧
    out = (.ok ⟨(vs.flatMap (Walk.Visit.given u.adapter)).map (·.1), o.fault?⟩, w')

/-- The walk of the discovery is lawful, and the discovery gives those items of
    its visits that were judged to be sinks. -/
def DiscoveryTells (u : Search τ spec norm item payload γ) (specs : List spec)
    (vs : List (Walk.Visit spec norm item payload γ (Verdict norm item payload)))
    (o : Walk.Outcome) (w : Diary × τ)
    (out : Except Fault (Source.Taken (Found norm item payload)) × Diary × τ) : Prop :=
  ∃ w', Walk.Lawful u.discovery specs vs o w w' ∧
    out = (.ok ⟨(vs.flatMap (Walk.Visit.given u.adapter)).filterMap (·.2.found?), o.fault?⟩, w')

variable {supply : Supply (List spec)} {specs : List spec} {fuel : Nat} {D : Diary} {t : τ}
  {o : Walk.Outcome}

/-- The consumer of the walk keeps each item as it is. -/
theorem walkTells_of_tells
    {vs : List (Walk.Visit spec norm item payload γ (Encountered norm item payload))}
    (h : u.walk.Tells specs vs o (D, t) ((u.walk.taking fuel { specs := .unopened supply } []).runOn
      D t)) : u.WalkTells specs vs o (D, t) ((u.takesItems supply fuel).runOn D t) := by
  obtain ⟨w', hlaw, hout⟩ := h
  have hsame : (vs.flatMap (Walk.Visit.given u.adapter)).map (·.2) =
      (vs.flatMap (Walk.Visit.given u.adapter)).map (·.1) := by
    refine List.map_congr_left ?_
    intro x hx
    obtain ⟨w₁, w₂, hkept, -⟩ := hlaw.exists_hands hx
    exact hkept
  refine ⟨w', hlaw, hout.trans ?_⟩
  rw [← hsame]
  rfl

/-- The discovery gives what its walk gave and what was judged to be a sink. -/
theorem discoveryTells_of_tells (hu : u.Calm)
    {vs : List (Walk.Visit spec norm item payload γ (Verdict norm item payload))}
    (h : u.discovery.Tells specs vs o (D, t)
      ((u.discovery.taking fuel { specs := .unopened supply } []).runOn D t)) :
    u.DiscoveryTells specs vs o (D, t) ((u.takesSinks supply fuel).runOn D t) := by
  obtain ⟨w', hlaw, hout⟩ := h
  have hsinks := runOn_takeWith_sinks hu.judges fuel _ [] D t hout
  refine ⟨w', hlaw, hsinks.trans ?_⟩
  simp only [List.reverse_nil, List.nil_append, List.filterMap_map]
  rfl

/-- **The law of a search.**  Nothing but normalizing fails, and a consumer takes
    what is given for a supply of specs.

    However many steps are made, the walk is lawful: the specs are visited in
    order; one that is refused is noted and reported once, and nothing else
    comes of it; what is given is the first item with each key of all that was
    enumerated, in order, with its spec and what was attached to it.  A spec
    whose normalizing is called off is not reported and ends the walk.

    The discovery makes a walk that is just as lawful, in which each item given
    is judged, and gives those that were judged to be sinks, in order.  If the
    enumerations end, then so do the walk and the discovery. -/
theorem search_lawful (u : Search τ spec norm item payload γ) (hu : u.Calm)
    (supply : Supply (List spec)) (specs : List spec) (hopen : supply.open = .ok specs) (D : Diary)
    (t : τ) :
    (∀ fuel,
      (∃ vs o, u.WalkTells specs vs o (D, t) ((u.takesItems supply fuel).runOn D t)) ∧
      (∃ vs o, u.DiscoveryTells specs vs o (D, t) ((u.takesSinks supply fuel).runOn D t))) ∧
    (u.walk.Finite → ∃ N, ∀ fuel ≥ N,
      (∃ vs o, o ≠ .pending ∧
        u.WalkTells specs vs o (D, t) ((u.takesItems supply fuel).runOn D t)) ∧
      (∃ vs o, o ≠ .pending ∧
        u.DiscoveryTells specs vs o (D, t) ((u.takesSinks supply fuel).runOn D t))) := by
  have hwalk := fun fuel => Walk.exists_tells hu.walk hopen fuel D t
  have hdiscovery := fun fuel => Walk.exists_tells hu.discovery hopen fuel D t
  constructor
  · intro fuel
    obtain ⟨vs, o, htells⟩ := hwalk fuel
    obtain ⟨vs', o', htells'⟩ := hdiscovery fuel
    exact ⟨⟨vs, o, walkTells_of_tells htells⟩, ⟨vs', o', discoveryTells_of_tells hu htells'⟩⟩
  · intro hfinite
    obtain ⟨N, hN⟩ := Walk.exists_fuel hu.walk hfinite hopen D t
    obtain ⟨N', hN'⟩ := Walk.exists_fuel hu.discovery hfinite hopen D t
    -- The larger of the two is enough for both.
    refine ⟨max N N', ?_⟩
    intro fuel hfuel
    obtain ⟨vs, o, htells⟩ := hwalk fuel
    obtain ⟨vs', o', htells'⟩ := hdiscovery fuel
    refine ⟨⟨vs, o, hN fuel (by omega) vs o htells, walkTells_of_tells htells⟩, ?_⟩
    exact ⟨vs', o', hN' fuel (by omega) vs' o' htells', discoveryTells_of_tells hu htells'⟩

/-- A search for letters: a spec is a word, and its letters are the items.  The
    empty word is refused, and normalizing `!` is called off.  The state is what
    the hook was told. -/
def letters : Search (List InvalidSpec) String String Char Nat (List Char) where
  adapter := {
    kind := "letters"
    normalize := fun s => Act.ofExcept
      (if s = "" then .error (.plain .value "no letters")
        else if s = "!" then .error (.cancelled "")
        else .ok s)
    beginAt := String.toList
    items := Source.ofList _ _
    keyOf := fun _ c => c.toString
    payload? := some fun _ c => pure c.toNat }
  hook := some fun r => Act.modifyState (· ++ [r])
  rules := {
    filter := some fun e => pure (e.item != 'x')
    selectName := fun e => pure (some (e.key ++ ".sql.py")) }
  seeItem := fun _ D t => (D, t)
  seeFound := fun _ D t => (D, t)

theorem letters_calm : letters.Calm where
  items g D t := by
    cases g with
    | nil => exact ⟨.done, (D, t), rfl⟩
    | cons c cs => exact ⟨.item c cs, (D, t), rfl⟩
  payload := by
    rintro f hf n c D t
    cases hf
    exact ⟨c.toNat, (D, t), rfl⟩
  hook := by
    rintro h hh r D t
    cases hh
    exact ⟨(), (D, t ++ [r]), rfl⟩
  filter := by
    rintro keep hkeep e D t
    cases hkeep
    exact ⟨e.item != 'x', (D, t), rfl⟩
  select e D t := ⟨some (e.key ++ ".sql.py"), (D, t), rfl⟩

theorem letters_finite : letters.walk.Finite := by
  refine Subrelation.wf ?_ (measure List.length).wf
  rintro rest g ⟨D, t, w, hskip | ⟨c, hitem⟩⟩
  · cases g <;> cases hskip
  · cases g with
    | nil => cases hitem
    | cons d ds =>
      obtain ⟨rfl, rfl⟩ : d = c ∧ ds = rest := by
        cases hitem
        exact ⟨rfl, rfl⟩
      exact Nat.lt_succ_self _

/-- Two words with a letter in common, and the empty word between them. -/
theorem letters_search_lawful : letters.Calm ∧ letters.walk.Finite ∧ ∃ N, ∀ fuel ≥ N,
    (∃ vs o, o ≠ .pending ∧ letters.WalkTells ["ab", "", "bx"] vs o ({}, [])
      ((letters.takesItems (.call (.sequence ["ab", "", "bx"])) fuel).runOn {} [])) ∧
    (∃ vs o, o ≠ .pending ∧ letters.DiscoveryTells ["ab", "", "bx"] vs o ({}, [])
      ((letters.takesSinks (.call (.sequence ["ab", "", "bx"])) fuel).runOn {} [])) :=
  ⟨letters_calm, letters_finite, (search_lawful letters letters_calm
    (.call (.sequence ["ab", "", "bx"])) ["ab", "", "bx"] rfl {} []).2 letters_finite⟩

/-- **Normalizing that is called off is not reported**, and no other spec is
    enumerated after it. -/
theorem letters_cancelled_not_reported :
    ((letters.adapter.normalize "!").runOn {} []).1 = .error (.cancelled "") ∧
      (letters.takesItems (.sequence ["!", "ab"]) 20).runOn {} [] =
        (.ok ⟨[], some (.cancelled "")⟩, {}, []) :=
  ⟨rfl, rfl⟩

end Search

end Discovery

end SinkPipeline
