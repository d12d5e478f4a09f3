import SinkPipeline.Proofs.Running
import SinkPipeline.Walk

/-! # The law of a walk

  What happens in a walk, in which order, and what it gives, whatever the
  adapter does: its actions may look at and change the state and write to the
  diary at any call, and it may refuse any spec.

  A walk is told as **visits**, one for each spec that it comes to.  A visit to
  a spec that was not refused consists of **looks**, one for each thing that the
  enumeration gave.  From visits and looks can be read off

  - all that was enumerated, and what the walk gave of it,
  - the **happenings** of the walk: the calls that were made, with what they
    came to, the records and the reports.

  A **timeline** says that happenings lead from one state of the world to
  another, with nothing in between.
-/

namespace SinkPipeline

/-- The action gives a value, whatever the world is like. -/
def Act.Returns {τ α : Type} (x : Act τ α) : Prop := ∀ D t, ∃ a w, x.runOn D t = (.ok a, w)

namespace Walk

variable {τ spec norm item payload γ β : Type}

/-- A walk as it is undertaken: by which adapter, who is told of specs that are
    refused, and what the consumer does with an item before asking for the
    next. -/
structure Outing (τ spec norm item payload γ β : Type) where
  /-- How the place is walked. -/
  adapter : WalkAdapter τ spec norm item payload γ
  /-- Who is told of a spec that was refused. -/
  hook : Option (InvalidSpec → Act τ Unit)
  /-- What the consumer does with an item, and what it makes of it. -/
  onItem : Encountered norm item payload → Act τ β
  /-- What that means for the world. -/
  hands : Encountered norm item payload → β → Diary × τ → Diary × τ → Prop

namespace Outing

/-- The source of the walk's items. -/
def source (u : Outing τ spec norm item payload γ β) :
    Source τ (Cursor norm γ (Supply.Cursor (List spec))) (Encountered norm item payload) :=
  items u.adapter (Source.ofList τ spec).ofSupply u.hook

/-- The consumer takes what the walk gives, in at most `fuel` steps. -/
def taking (u : Outing τ spec norm item payload γ β) (fuel : Nat)
    (c : Cursor norm γ (Supply.Cursor (List spec))) (acc : List β) : Act τ (Source.Taken β) :=
  u.source.takeWith u.onItem fuel none c acc

/-- **Nothing but normalizing fails.** -/
structure Calm (u : Outing τ spec norm item payload γ β) : Prop where
  /-- The enumeration goes on. -/
  items : ∀ g, (u.adapter.items.step g).Returns
  /-- What is to be attached to an item can be found. -/
  payload : ∀ f, u.adapter.payload? = some f → ∀ n i, (f n i).Returns
  /-- Who is told of refused specs listens. -/
  hook : ∀ h, u.hook = some h → ∀ r, (h r).Returns
  /-- The consumer does with each item what it says. -/
  onItem : ∀ e D t, ∃ b w, (u.onItem e).runOn D t = (.ok b, w) ∧ u.hands e b (D, t) w

/-- **Enumerations end**: none goes on for ever. -/
def Finite (u : Outing τ spec norm item payload γ β) : Prop :=
  WellFounded fun g' g => ∃ D t w, (u.adapter.items.step g).runOn D t = (.ok (.skip g'), w) ∨
    ∃ i, (u.adapter.items.step g).runOn D t = (.ok (.item i g'), w)

end Outing

/-! ### Happenings -/

/-- One thing that happens in a walk. -/
inductive Happening (spec norm item payload γ β : Type) where
  /-- The adapter is called to normalize a spec, and that is how it ends. -/
  | normalizes (s : spec) (r : Except Fault norm)
  /-- A refused spec is noted in the log. -/
  | notes (f : Fault)
  /-- A refused spec is reported to the hook. -/
  | reports (f : Fault)
  /-- One step of the enumeration of a normalized spec, and what it gives. -/
  | lists (n : norm) (g : γ) (p : Poll γ item)
  /-- The adapter is called for what is to be attached to an item. -/
  | attaches (n : norm) (i : item) (p : payload)
  /-- An item is given to the consumer, who makes something of it. -/
  | gives (e : Encountered norm item payload) (b : β)

/-- **What a happening does to the world**, that is, to the diary and the
    state. -/
inductive Happening.Leads (u : Outing τ spec norm item payload γ β) :
    Happening spec norm item payload γ β → Diary × τ → Diary × τ → Prop where
  | normalizes {s : spec} {r : Except Fault norm} {D : Diary} {t : τ} {w : Diary × τ}
      (hrun : (u.adapter.normalize s).runOn D t = (r, w)) : Leads u (.normalizes s r) (D, t) w
  | notes (f : Fault) (D : Diary) (t : τ) :
      Leads u (.notes f) (D, t) (D.logged Walk.logger "warning" "walk.invalid_spec"
        [("kind", .str u.adapter.kind), ("reason", .str f.reason)], t)
  | reports {f : Fault} {h : InvalidSpec → Act τ Unit} {D : Diary} {t : τ} {w : Diary × τ}
      (hhook : u.hook = some h) (hrun : (h ⟨u.adapter.kind, f.reason⟩).runOn D t = (.ok (), w)) :
      Leads u (.reports f) (D, t) w
  | lists {n : norm} {g : γ} {p : Poll γ item} {D : Diary} {t : τ} {w : Diary × τ}
      (hrun : (u.adapter.items.step g).runOn D t = (.ok p, w)) : Leads u (.lists n g p) (D, t) w
  | attaches {n : norm} {i : item} {p : payload} {f : norm → item → Act τ payload} {D : Diary}
      {t : τ} {w : Diary × τ} (hpayload : u.adapter.payload? = some f)
      (hrun : (f n i).runOn D t = (.ok p, w)) : Leads u (.attaches n i p) (D, t) w
  | gives {e : Encountered norm item payload} {b : β} {w w' : Diary × τ}
      (hhands : u.hands e b w w') : Leads u (.gives e b) w w'

/-- **A timeline**: these things happen one after the other, and nothing else
    happens between two states of the world. -/
inductive Timeline (u : Outing τ spec norm item payload γ β) :
    List (Happening spec norm item payload γ β) → Diary × τ → Diary × τ → Prop where
  | nil (w : Diary × τ) : Timeline u [] w w
  | cons {h : Happening spec norm item payload γ β}
      {hs : List (Happening spec norm item payload γ β)} {w w' w'' : Diary × τ}
      (first : h.Leads u w w') (rest : Timeline u hs w' w'') : Timeline u (h :: hs) w w''

theorem Timeline.append {u : Outing τ spec norm item payload γ β}
    {hs hs' : List (Happening spec norm item payload γ β)} {w w' w'' : Diary × τ}
    (h : Timeline u hs w w') (h' : Timeline u hs' w' w'') : Timeline u (hs ++ hs') w w'' := by
  induction h with
  | nil _ => exact h'
  | cons first _ ih => exact .cons first (ih h')

/-- What is told of happened. -/
theorem Timeline.exists_leads {u : Outing τ spec norm item payload γ β}
    {hs : List (Happening spec norm item payload γ β)} {w w' : Diary × τ} (h : Timeline u hs w w')
    {x : Happening spec norm item payload γ β} (hx : x ∈ hs) : ∃ w₁ w₂, x.Leads u w₁ w₂ := by
  induction h with
  | nil _ => cases hx
  | cons first _ ih =>
    rcases List.mem_cons.mp hx with rfl | hx
    · exact ⟨_, _, first⟩
    · exact ih hx

/-! ### Visits -/

/-- One look at what the enumeration of a spec gives. -/
inductive Look (item payload γ β : Type) where
  /-- It gave nothing yet. -/
  | nothing (rest : γ)
  /-- It gave an item whose key the walk had given before. -/
  | known (i : item) (rest : γ)
  /-- It gave an item whose key was new; that was attached to it, and that the
      consumer made of it. -/
  | fresh (i : item) (rest : γ) (p : Option payload) (b : β)

/-- A visit to a spec. -/
inductive Visit (spec norm item payload γ β : Type) where
  /-- It was refused. -/
  | refused (s : spec) (f : Fault)
  /-- Normalizing it ended the walk. -/
  | broken (s : spec) (f : Fault)
  /-- It was normalized and enumerated, up to the end or not. -/
  | listed (s : spec) (n : norm) (looks : List (Look item payload γ β)) (whole : Bool)

namespace Look

/-- Where the enumeration stands after the look. -/
def rest : Look item payload γ β → γ
  | .nothing rest | .known _ rest | .fresh _ rest _ _ => rest

/-- The item that the enumeration gave. -/
def item? : Look item payload γ β → Option item
  | .nothing _ => none
  | .known i _ | .fresh i _ _ _ => some i

/-- What the walk gave, and what the consumer made of it. -/
def given? (a : WalkAdapter τ spec norm item payload γ) (n : norm) :
    Look item payload γ β → Option (Encountered norm item payload × β)
  | .nothing _ | .known _ _ => none
  | .fresh i _ p b => some (⟨a.keyOf n i, n, i, p⟩, b)

/-- Everything that happens in a look, from where the enumeration stands. -/
def happenings (a : WalkAdapter τ spec norm item payload γ) (n : norm) (g : γ) :
    Look item payload γ β → List (Happening spec norm item payload γ β)
  | .nothing rest => [.lists n g (.skip rest)]
  | .known i rest => [.lists n g (.item i rest)]
  | .fresh i rest p b =>
    .lists n g (.item i rest) :: ((p.toList.map (.attaches n i)) ++
      [.gives ⟨a.keyOf n i, n, i, p⟩ b])

/-- Something is attached to what is given exactly if the adapter attaches
    anything. -/
def Fits (a : WalkAdapter τ spec norm item payload γ) : Look item payload γ β → Prop
  | .nothing _ | .known _ _ => True
  | .fresh _ _ p _ => p.isSome = a.payload?.isSome

end Look

/-- Everything that happens in the enumeration of a normalized spec, from where
    it stands; an enumeration that is whole is asked once more, and has ended. -/
def listing (a : WalkAdapter τ spec norm item payload γ) (n : norm) (whole : Bool) :
    γ → List (Look item payload γ β) → List (Happening spec norm item payload γ β)
  | g, [] => if whole then [.lists n g .done] else []
  | g, l :: looks => l.happenings a n g ++ listing a n whole l.rest looks

namespace Visit

/-- What was enumerated: each item with the spec under which it was. -/
def enumerated : Visit spec norm item payload γ β → List (norm × item)
  | .refused _ _ | .broken _ _ => []
  | .listed _ n looks _ => (looks.filterMap Look.item?).map (n, ·)

/-- What the walk gave, and what the consumer made of it. -/
def given (a : WalkAdapter τ spec norm item payload γ) :
    Visit spec norm item payload γ β → List (Encountered norm item payload × β)
  | .refused _ _ | .broken _ _ => []
  | .listed _ n looks _ => looks.filterMap (Look.given? a n)

/-- **Everything that happens in a visit**, in order.  A spec that is refused is
    noted and reported, once each. -/
def happenings (u : Outing τ spec norm item payload γ β) :
    Visit spec norm item payload γ β → List (Happening spec norm item payload γ β)
  | .refused s f =>
    .normalizes s (.error f) :: .notes f :: if u.hook.isSome then [.reports f] else []
  | .broken s f => [.normalizes s (.error f)]
  | .listed s n looks whole =>
    .normalizes s (.ok n) :: listing u.adapter n whole (u.adapter.beginAt n) looks

/-- A spec is refused for an ordinary fault; any other ends the walk. -/
def Fits (a : WalkAdapter τ spec norm item payload γ) : Visit spec norm item payload γ β → Prop
  | .refused _ f => f.isOrdinary = true
  | .broken _ f => f.isOrdinary = false
  | .listed _ _ looks _ => ∀ l ∈ looks, l.Fits a

end Visit

/-! ### The law -/

/-- How far a walk has come. -/
inductive Outcome where
  /-- To the end. -/
  | over
  /-- To a spec whose normalizing ended the walk. -/
  | broken (f : Fault)
  /-- Somewhere in between. -/
  | pending

/-- The fault that a walk ends in; one of its own stands for too little fuel. -/
def Outcome.fault? : Outcome → Option Fault
  | .over => none
  | .broken f => some f
  | .pending => some (.plain .runtime "the source did not end in time")

/-- **The order of visits**: one spec after the other, each enumerated to its
    end before the next one. -/
inductive Course : List spec → List (Visit spec norm item payload γ β) → Outcome → Prop where
  | over : Course [] [] .over
  | pending (specs : List spec) : Course specs [] .pending
  | refused {s : spec} {f : Fault} {specs : List spec} {vs : List (Visit spec norm item payload γ β)}
      {o : Outcome} (rest : Course specs vs o) : Course (s :: specs) (.refused s f :: vs) o
  | broken (s : spec) (f : Fault) (specs : List spec) :
      Course (s :: specs) [.broken s f] (.broken f)
  | listed {s : spec} {n : norm} {looks : List (Look item payload γ β)} {specs : List spec}
      {vs : List (Visit spec norm item payload γ β)} {o : Outcome} (rest : Course specs vs o) :
      Course (s :: specs) (.listed s n looks true :: vs) o
  | listing (s : spec) (n : norm) (looks : List (Look item payload γ β)) (specs : List spec) :
      Course (s :: specs) [.listed s n looks false] .pending

/-- The order of visits does not depend on what is found in them. -/
theorem Course.looks {s : spec} {n : norm} {looks : List (Look item payload γ β)} {whole : Bool}
    {specs : List spec} {vs : List (Visit spec norm item payload γ β)} {o : Outcome}
    (h : Course (s :: specs) (.listed s n looks whole :: vs) o)
    (looks' : List (Look item payload γ β)) :
    Course (s :: specs) (.listed s n looks' whole :: vs) o := by
  cases h with
  | listed rest => exact .listed rest
  | listing => exact .listing s n looks' specs

/-- Do two items have the same key? -/
def sameKey (a : WalkAdapter τ spec norm item payload γ) (x y : norm × item) : Bool :=
  a.keyOf x.1 x.2 == a.keyOf y.1 y.2

/-- **The law of a walk.**  The visits are those of a walk over these specs
    that leads from one state of the world to another. -/
structure Lawful (u : Outing τ spec norm item payload γ β) (specs : List spec)
    (vs : List (Visit spec norm item payload γ β)) (o : Outcome) (w w' : Diary × τ) : Prop where
  /-- The specs are visited in order. -/
  course : Course specs vs o
  /-- Each visit is what it says. -/
  fits : ∀ v ∈ vs, v.Fits u.adapter
  /-- What happens is what happens in the visits. -/
  happens : Timeline u (vs.flatMap (Visit.happenings u)) w w'
  /-- Of what is enumerated, the first item with each key is given, in order. -/
  firsts : (vs.flatMap (Visit.given u.adapter)).map (fun x => (x.1.spec, x.1.item)) =
    (vs.flatMap Visit.enumerated).eraseDupsBy (sameKey u.adapter)

theorem mem_listing_of_fresh {a : WalkAdapter τ spec norm item payload γ} {n : norm} {whole : Bool}
    {looks : List (Look item payload γ β)} {x : Encountered norm item payload × β}
    (hx : x ∈ looks.filterMap (Look.given? a n)) (g : γ) :
    .gives x.1 x.2 ∈ listing a n whole g looks := by
  induction looks generalizing g with
  | nil => cases hx
  | cons l looks ih =>
    rw [listing, List.mem_append]
    cases l with
    | nothing rest => exact .inr (ih hx _)
    | known i rest => exact .inr (ih hx _)
    | fresh i rest p b =>
      rcases List.mem_cons.mp hx with rfl | hx
      · exact .inl (by simp [Look.happenings])
      · exact .inr (ih hx _)

/-- **What the walk gave was given to the consumer**, who did with it what it
    says. -/
theorem Lawful.exists_hands {u : Outing τ spec norm item payload γ β} {specs : List spec}
    {vs : List (Visit spec norm item payload γ β)} {o : Outcome} {w w' : Diary × τ}
    (h : Lawful u specs vs o w w') {x : Encountered norm item payload × β}
    (hx : x ∈ vs.flatMap (Visit.given u.adapter)) : ∃ w₁ w₂, u.hands x.1 x.2 w₁ w₂ := by
  obtain ⟨v, hv, hx⟩ := List.mem_flatMap.mp hx
  have hmem : .gives x.1 x.2 ∈ v.happenings u := by
    cases v with
    | refused s f => cases hx
    | broken s f => cases hx
    | listed s n looks whole => exact List.mem_cons_of_mem _ (mem_listing_of_fresh hx _)
  obtain ⟨w₁, w₂, hleads⟩ := h.happens.exists_leads (List.mem_flatMap.mpr ⟨v, hv, hmem⟩)
  cases hleads with
  | gives hhands => exact ⟨w₁, w₂, hhands⟩

end Walk

end SinkPipeline
