import SinkPipeline.Fault.Context
import SinkPipeline.Proofs.Ending
import SinkPipeline.Proofs.Json.Fields

/-! # What a fault keeps of its context

  An engine fault is given named values in one call after the other.  The
  context is **told in full** if it shows the last value of each name, but for
  typed values that are null; the typed names have set their typed value, and
  all others are metadata.

  Two things are in the way.  A name that the context uses for itself is taken
  for a typed one: its value is kept apart, breaks the showing, or is refused.
  And metadata that the context began with hides a typed value of the same
  name.  Where neither occurs, every context is told in full, and where one of
  them does it is not.
-/

namespace SinkPipeline

/-- The last value that a name is given, if it is given one. -/
def lastGiven? (given : Fields) (name : String) : Option Json :=
  (given.reverse.find? (·.1 == name)).map (·.2)

theorem lastGiven?_singleton (name : String) (v : Json) (n : String) :
    lastGiven? [(name, v)] n = if name = n then some v else none := by
  by_cases h : name = n
  · simp [lastGiven?, h]
  · simp [lastGiven?, h]

theorem lastGiven?_append (given more : Fields) (n : String) :
    lastGiven? (given ++ more) n = (lastGiven? more n).or (lastGiven? given n) := by
  unfold lastGiven?
  rw [List.reverse_append, List.find?_append]
  cases more.reverse.find? (·.1 == n) <;> rfl

/-- What is given has a last value. -/
theorem exists_lastGiven? {given : Fields} {p : String × Json} (h : p ∈ given) :
    ∃ v, lastGiven? given p.1 = some v := by
  have hsome : (given.reverse.find? (·.1 == p.1)).isSome := by
    rw [List.find?_isSome]
    exact ⟨p, List.mem_reverse.mpr h, beq_self_eq_true _⟩
  obtain ⟨q, hq⟩ := Option.isSome_iff_exists.mp hsome
  exact ⟨q.2, by rw [lastGiven?, hq]; rfl⟩

/-- The last value of a name is one of those that it is given. -/
theorem mem_of_lastGiven? {given : Fields} {n : String} {v : Json} (h : lastGiven? given n = some v) :
    (n, v) ∈ given := by
  obtain ⟨p, hp, rfl⟩ := Option.map_eq_some_iff.mp h
  have hname : p.1 = n := by simpa using List.find?_some hp
  rw [← hname]
  exact List.mem_reverse.mp (List.mem_of_find?_eq_some hp)

namespace FaultContext

/-- The typed values with their names. -/
def typedFields (c : FaultContext) : Fields :=
  [("capexec", c.sink), ("stage", c.stage), ("mode", c.mode), ("path", c.path), ("argv", c.argv)]

/-- The names of the typed values. -/
def typedNames : List String := ["capexec", "stage", "mode", "path", "argv"]

/-! ### One value -/

section

variable {c c' : FaultContext} {name : String} {v : Json}

/-- A typed name sets its typed value. -/
theorem bind_typed (h : name ∈ typedNames) (c : FaultContext) (v : Json) :
    ∃ c', c.bind name v = .ok c' ∧ c'.typedFields = c.typedFields.set name v ∧
      c'.metadata = c.metadata ∧ c'.reserved = c.reserved := by
  simp only [typedNames, List.mem_cons, List.not_mem_nil, or_false] at h
  rcases h with rfl | rfl | rfl | rfl | rfl <;> exact ⟨_, rfl, rfl, rfl, rfl⟩

/-- Any other name is metadata, if the context does not use it for itself. -/
theorem bind_other (htyped : name ∉ typedNames) (hown : name ∉ ownNames) (c : FaultContext)
    (v : Json) : c.bind name v = .ok { c with metadata := c.metadata.set name v } := by
  have hdict : name ≠ "__dict__" := by
    rintro rfl
    exact hown (by decide)
  unfold bind
  split
  case h_8 => rw [if_neg (fun h => hdict h.1), if_neg hown]
  case h_6 => exact absurd (by decide) hown
  case h_7 => exact absurd (by decide) hown
  all_goals exact absurd (by decide) htyped

/-- A name that the context uses for itself is kept apart, or refused. -/
theorem bind_own (hown : name ∈ ownNames) (h : c.bind name v = .ok c') :
    c'.typedFields = c.typedFields ∧ c'.metadata = c.metadata := by
  have htyped : ∀ n ∈ typedNames, n ∉ ownNames := by decide
  unfold bind at h
  split at h
  case h_6 => cases h
  case h_7 => cases h
  case h_8 =>
    split at h
    · cases h
    · cases h
      exact ⟨rfl, rfl⟩
  all_goals exact absurd hown (htyped _ (by decide))

end

/-! ### All values -/

/-- **What a context has become** by being given some values. -/
structure Becomes (c : FaultContext) (given : Fields) (c' : FaultContext) : Prop where
  /-- Each typed value is the last one that its name was given. -/
  typed : ∀ n ∈ typedNames,
    c'.typedFields.get? n = (lastGiven? given n).or (c.typedFields.get? n)
  /-- Metadata is given by all other names, but for the context's own. -/
  metadata : ∀ n, c'.metadata.get? n =
    if n ∈ typedNames ∨ n ∈ ownNames then c.metadata.get? n
    else (lastGiven? given n).or (c.metadata.get? n)
  /-- The names of the metadata stay distinct. -/
  nodup : (c.metadata.map (·.1)).Nodup → (c'.metadata.map (·.1)).Nodup
  /-- Without a name of the context's own, nothing is kept apart. -/
  reserved : (∀ p ∈ given, p.1 ∉ ownNames) → c'.reserved = c.reserved

section

variable {c c' c'' : FaultContext} {name : String} {v : Json} {given more : Fields}

theorem Becomes.refl (c : FaultContext) : Becomes c [] c where
  typed _ _ := rfl
  metadata n := by
    show _ = if n ∈ typedNames ∨ n ∈ ownNames then _ else c.metadata.get? n
    split <;> rfl
  nodup h := h
  reserved _ := rfl

theorem Becomes.trans (h : Becomes c given c') (hmore : Becomes c' more c'') :
    Becomes c (given ++ more) c'' where
  typed n hn := by rw [hmore.typed n hn, h.typed n hn, lastGiven?_append, Option.or_assoc]
  metadata n := by
    rw [hmore.metadata n, h.metadata n, lastGiven?_append]
    split
    · rfl
    · rw [Option.or_assoc]
  nodup hnodup := hmore.nodup (h.nodup hnodup)
  reserved hfree := by
    rw [hmore.reserved fun p hp => hfree p (by simp [hp]), h.reserved fun p hp => hfree p (by simp [hp])]

/-- A typed value is set, and nothing else. -/
theorem becomes_of_bind_typed (htyped : name ∈ typedNames) (hbind : c.bind name v = .ok c') :
    Becomes c [(name, v)] c' := by
  obtain ⟨d, hd, hfields, hmetadata, hreserved⟩ := bind_typed htyped c v
  obtain rfl : d = c' := Except.ok.inj (hd.symm.trans hbind)
  constructor
  · intro n _
    rw [hfields, lastGiven?_singleton, Fields.get?_set]
    by_cases hname : name = n
    · rw [if_pos hname.symm, if_pos hname, Option.some_or]
    · rw [if_neg (Ne.symm hname), if_neg hname, Option.none_or]
  · intro n
    rw [hmetadata, lastGiven?_singleton]
    split
    · rfl
    · next hother =>
      have hname : name ≠ n := fun h => hother (.inl (h ▸ htyped))
      rw [if_neg hname, Option.none_or]
  · intro hnodup
    rwa [hmetadata]
  · intro _
    exact hreserved

/-- A name of the context's own leaves its values alone. -/
theorem becomes_of_bind_own (htyped : name ∉ typedNames) (hown : name ∈ ownNames)
    (hbind : c.bind name v = .ok c') : Becomes c [(name, v)] c' := by
  obtain ⟨hfields, hmetadata⟩ := bind_own hown hbind
  constructor
  · intro n hn
    have hname : name ≠ n := fun h => htyped (h ▸ hn)
    rw [hfields, lastGiven?_singleton, if_neg hname, Option.none_or]
  · intro n
    rw [hmetadata, lastGiven?_singleton]
    split
    · rfl
    · next hother =>
      have hname : name ≠ n := fun h => hother (.inr (h ▸ hown))
      rw [if_neg hname, Option.none_or]
  · intro hnodup
    rwa [hmetadata]
  · intro hfree
    exact absurd hown (hfree (name, v) (by simp))

/-- Any other value is metadata. -/
theorem becomes_of_bind_other (htyped : name ∉ typedNames) (hown : name ∉ ownNames)
    (hbind : c.bind name v = .ok c') : Becomes c [(name, v)] c' := by
  rw [bind_other htyped hown] at hbind
  cases hbind
  constructor
  · intro n hn
    have hname : name ≠ n := fun h => htyped (h ▸ hn)
    rw [lastGiven?_singleton, if_neg hname, Option.none_or]
    rfl
  · intro n
    show (c.metadata.set name v).get? n = _
    rw [lastGiven?_singleton, Fields.get?_set]
    by_cases hname : name = n
    · subst hname
      rw [if_pos rfl, if_pos rfl, if_neg (by simp [htyped, hown]), Option.some_or]
    · rw [if_neg (Ne.symm hname), if_neg hname, Option.none_or, ite_self]
  · intro hnodup
    exact Fields.nodup_set hnodup name v
  · intro _
    rfl

/-- **One value.** -/
theorem becomes_of_bind (hbind : c.bind name v = .ok c') : Becomes c [(name, v)] c' := by
  by_cases htyped : name ∈ typedNames
  · exact becomes_of_bind_typed htyped hbind
  by_cases hown : name ∈ ownNames
  · exact becomes_of_bind_own htyped hown hbind
  · exact becomes_of_bind_other htyped hown hbind

/-- **All values**, one after the other. -/
theorem becomes_of_bindAll (given : Fields) :
    ∀ {c c' : FaultContext}, c.bindAll given = .ok c' → Becomes c given c' := by
  induction given with
  | nil =>
    intro c c' h
    cases h
    exact .refl c
  | cons p given ih =>
    intro c c' h
    obtain ⟨name, v⟩ := p
    rw [bindAll] at h
    cases hbind : c.bind name v with
    | error f =>
      rw [hbind] at h
      cases h
    | ok d =>
      rw [hbind] at h
      exact (becomes_of_bind hbind).trans (ih h)

/-- No value is refused, unless its name is one of the context's own. -/
theorem exists_bindAll (given : Fields) :
    ∀ c : FaultContext, (∀ p ∈ given, p.1 ∉ ownNames) → ∃ c', c.bindAll given = .ok c' := by
  induction given with
  | nil =>
    intro c _
    exact ⟨c, rfl⟩
  | cons p given ih =>
    intro c hfree
    obtain ⟨name, v⟩ := p
    obtain ⟨hname, hrest⟩ := List.forall_mem_cons.mp hfree
    have hbind : ∃ d, c.bind name v = .ok d := by
      by_cases htyped : name ∈ typedNames
      · obtain ⟨d, hd, -⟩ := bind_typed htyped c v
        exact ⟨d, hd⟩
      · exact ⟨_, bind_other htyped hname c v⟩
    obtain ⟨d, hd⟩ := hbind
    obtain ⟨c', hc'⟩ := ih d hrest
    refine ⟨c', ?_⟩
    rw [bindAll, hd]
    exact hc'

theorem bindAll_append (given more : Fields) :
    ∀ c : FaultContext, c.bindAll (given ++ more) = c.bindAll given >>= (·.bindAll more) := by
  induction given with
  | nil =>
    intro c
    rfl
  | cons p given ih =>
    intro c
    obtain ⟨name, v⟩ := p
    rw [List.cons_append, bindAll, bindAll]
    cases c.bind name v with
    | error f => rfl
    | ok d => exact ih d

end

/-! ### What is shown -/

section

variable {c : FaultContext}

theorem shown_of_reserved (h : c.reserved = []) : c.shown = .ok (c.typed.update c.metadata) := by
  rw [shown, h]
  rfl

/-- Metadata goes before the typed values. -/
theorem get?_told (hnodup : (c.metadata.map (·.1)).Nodup) (name : String) :
    (c.typed.update c.metadata).get? name =
      (c.metadata.get? name).or ((c.typedFields.get? name).bind Json.nonNull?) := by
  have hdistinct : (c.typedFields.map (·.1)).Nodup := by
    show typedNames.Nodup
    decide
  rw [Fields.get?_update_of_nodup hnodup]
  show _ = (c.metadata.get? name).or _
  rw [← Fields.get?_filter_nonNull hdistinct]
  rfl

theorem get?_typedFields_of_not_mem {name : String} (h : name ∉ typedNames) :
    c.typedFields.get? name = none :=
  Fields.get?_eq_none_of_not_mem h

end

end FaultContext

/-! ### Calls -/

namespace Fault

/-- Calls that each add some named values to the context of a fault. -/
def withContexts (f : Fault) (calls : List Fields) : Except Fault Fault :=
  calls.foldlM withContext f

section

variable {kind : EngineKind} {message : String} {category : Category} {cause : Option Fault}
  {f : Fault}

/-- One call succeeds just if none of its names stands for the fault itself and no
    value is refused. -/
theorem withContext_eq_ok_iff (c : FaultContext) (call : Fields) :
    withContext (.engine kind message category c cause) call = .ok f ↔
      (∀ p ∈ call, p.1 ≠ selfName) ∧
        ∃ c', c.bindAll call = .ok c' ∧ f = .engine kind message category c' cause := by
  rw [withContext]
  by_cases hself : call.any (fun p => p.1 == selfName) = true
  · rw [if_pos hself]
    constructor
    · intro h
      cases h
    · rintro ⟨hnone, -⟩
      obtain ⟨p, hp, hname⟩ := List.any_eq_true.mp hself
      exact absurd (eq_of_beq hname) (hnone p hp)
  · have hfree : ∀ p ∈ call, p.1 ≠ selfName := by
      intro p hp hname
      exact hself (List.any_eq_true.mpr ⟨p, hp, beq_iff_eq.mpr hname⟩)
    rw [if_neg hself]
    cases hbind : c.bindAll call with
    | error g =>
      constructor
      · intro h
        cases h
      · rintro ⟨-, c', hc', -⟩
        cases hc'
    | ok d =>
      constructor
      · intro h
        cases h
        exact ⟨hfree, d, rfl, rfl⟩
      · rintro ⟨-, c', hc', rfl⟩
        cases hc'
        rfl

/-- All calls do just if each does, one after the other. -/
theorem withContexts_eq_ok_iff (calls : List Fields) : ∀ c : FaultContext,
    withContexts (.engine kind message category c cause) calls = .ok f ↔
      (∀ p ∈ calls.flatten, p.1 ≠ selfName) ∧
        ∃ c', c.bindAll calls.flatten = .ok c' ∧ f = .engine kind message category c' cause := by
  -- Many calls are one call with all that they give.
  induction calls with
  | nil =>
    intro c
    constructor
    · intro h
      cases h
      exact ⟨by simp, c, rfl, rfl⟩
    · rintro ⟨-, c', hc', rfl⟩
      cases hc'
      rfl
  | cons call calls ih =>
    intro c
    rw [withContexts, List.foldlM_cons, List.flatten_cons, FaultContext.bindAll_append]
    constructor
    · intro h
      obtain ⟨g, hcall, hrest⟩ := Fault.of_bind_ok h
      obtain ⟨hfree, d, hd, rfl⟩ := (withContext_eq_ok_iff c call).mp hcall
      obtain ⟨hnone, c', hc', rfl⟩ := (ih d).mp hrest
      refine ⟨List.forall_mem_append.mpr ⟨hfree, hnone⟩, c', ?_, rfl⟩
      rw [hd]
      exact hc'
    · rintro ⟨hnone, c', hc', rfl⟩
      obtain ⟨hfree, hnone⟩ := List.forall_mem_append.mp hnone
      obtain ⟨d, hd, hrest⟩ := Fault.of_bind_ok hc'
      rw [(withContext_eq_ok_iff c call).mpr ⟨hfree, d, hd, rfl⟩]
      exact (ih d).mpr ⟨hnone, c', hrest, rfl⟩

end

/-- A fault is described with what its context shows, if that is anything. -/
theorem exists_describe {kind : EngineKind} {message : String} {category : Category}
    {c : FaultContext} {cause : Option Fault} {shown : Fields} (h : c.shown = .ok shown) :
    ∃ fields, (Fault.engine kind message category c cause).describe = .ok fields ∧
      fields.get? "context" = if shown.isEmpty then none else some (.obj shown) := by
  unfold describe
  dsimp only
  rw [h]
  cases shown <;> cases cause <;> cases kind <;> exact ⟨_, rfl, rfl⟩

/-! ### The law -/

/-- **A context is told in full**: `f` has been given some values, its context
    having been `initial`, and shows `shown`. -/
structure TellsAll (initial : FaultContext) (given : Fields) (f : Fault) (shown : Fields) : Prop where
  shown_eq : f.context.shown = .ok shown
  /-- The description of the fault has it as its context, if it is not empty. -/
  described : ∃ fields, f.describe = .ok fields ∧
    fields.get? "context" = if shown.isEmpty then none else some (.obj shown)
  /-- Each name that is given shows its last value, but for typed ones that are
      null. -/
  told : ∀ n v, lastGiven? given n = some v →
    shown.get? n = if n ∈ FaultContext.typedNames then v.nonNull? else some v
  /-- The typed names have set their typed value. -/
  typed : ∀ n ∈ FaultContext.typedNames, ∀ v, lastGiven? given n = some v →
    f.context.typedFields.get? n = some v
  /-- The others are metadata. -/
  metadata : ∀ n, n ∉ FaultContext.typedNames → ∀ v, lastGiven? given n = some v →
    f.context.metadata.get? n = some v
  /-- Names that are not given show what they showed. -/
  others : ∀ n, lastGiven? given n = none →
    shown.get? n = (initial.typed.update initial.metadata).get? n

/-- **Nothing is in the way** of values that are given to a context with some
    metadata. -/
structure Unhindered (metadata given : Fields) : Prop where
  /-- No name stands for the fault, and the context uses none for itself. -/
  free : ∀ p ∈ given, p.1 ≠ selfName ∧ p.1 ∉ FaultContext.ownNames
  /-- No metadata hides a typed value. -/
  apart : ∀ n ∈ FaultContext.typedNames, ∀ v w, lastGiven? given n = some v →
    metadata.get? n = some w → v.nonNull? = some w

section

variable {kind : EngineKind} {message : String} {category : Category} {cause : Option Fault}
  {c : FaultContext} {calls : List Fields}

/-- If nothing is in the way the context is told in full. -/
theorem exists_tellsAll (hdict : (c.metadata.map (·.1)).Nodup) (hreserved : c.reserved = [])
    (h : Unhindered c.metadata calls.flatten) :
    ∃ f shown, withContexts (.engine kind message category c cause) calls = .ok f ∧
      TellsAll c calls.flatten f shown := by
  have hfree : ∀ p ∈ calls.flatten, p.1 ∉ FaultContext.ownNames := fun p hp => (h.free p hp).2
  have hown : ∀ n v, lastGiven? calls.flatten n = some v → n ∉ FaultContext.ownNames :=
    fun n v hv => hfree _ (mem_of_lastGiven? hv)
  obtain ⟨c', hbind⟩ := FaultContext.exists_bindAll calls.flatten c hfree
  have hbecomes := FaultContext.becomes_of_bindAll _ hbind
  have hnodup := hbecomes.nodup hdict
  have hshown := FaultContext.shown_of_reserved ((hbecomes.reserved hfree).trans hreserved)
  refine ⟨.engine kind message category c' cause, c'.typed.update c'.metadata,
    (withContexts_eq_ok_iff calls c).mpr ⟨fun p hp => (h.free p hp).1, c', hbind, rfl⟩, ?_⟩
  constructor
  · exact hshown
  · exact exists_describe hshown
  · intro n v hv
    rw [FaultContext.get?_told hnodup, hbecomes.metadata n, hv]
    by_cases htyped : n ∈ FaultContext.typedNames
    · rw [if_pos (.inl htyped), if_pos htyped, hbecomes.typed n htyped, hv]
      cases hw : c.metadata.get? n with
      | none => rfl
      | some w =>
        -- Where both have the name, the metadata is told in place of the field.
        exact (h.apart n htyped v w hv hw).symm
    · rw [if_neg (by simp [htyped, hown n v hv]), if_neg htyped]
      rfl
  · intro n hn v hv
    show c'.typedFields.get? n = _
    rw [hbecomes.typed n hn, hv]
    rfl
  · intro n hn v hv
    show c'.metadata.get? n = _
    rw [hbecomes.metadata n, if_neg (by simp [hn, hown n v hv]), hv]
    rfl
  · intro n hnone
    rw [FaultContext.get?_told hnodup, FaultContext.get?_told hdict, hbecomes.metadata n, hnone]
    by_cases htyped : n ∈ FaultContext.typedNames
    · rw [if_pos (.inl htyped), hbecomes.typed n htyped, hnone, Option.none_or]
    · rw [FaultContext.get?_typedFields_of_not_mem htyped,
        FaultContext.get?_typedFields_of_not_mem htyped, Option.none_or, ite_self]

/-- If the context is told in full, nothing was in the way. -/
theorem unhindered_of_tellsAll {f : Fault} {shown : Fields}
    (hdict : (c.metadata.map (·.1)).Nodup) (hreserved : c.reserved = [])
    (hfresh : ∀ n ∈ FaultContext.ownNames, c.metadata.get? n = none)
    (hcalls : withContexts (.engine kind message category c cause) calls = .ok f)
    (h : TellsAll c calls.flatten f shown) : Unhindered c.metadata calls.flatten := by
  have htypedOwn : ∀ n ∈ FaultContext.typedNames, n ∉ FaultContext.ownNames := by decide
  obtain ⟨hself, c', hbind, rfl⟩ := (withContexts_eq_ok_iff calls c).mp hcalls
  have hbecomes := FaultContext.becomes_of_bindAll _ hbind
  have hown : ∀ p ∈ calls.flatten, p.1 ∉ FaultContext.ownNames := by
    intro p hp hmem
    -- A value that is kept apart is not metadata.
    obtain ⟨v, hv⟩ := exists_lastGiven? hp
    have hkept := h.metadata p.1 (fun htyped => htypedOwn _ htyped hmem) v hv
    have hlost := hbecomes.metadata p.1
    rw [if_pos (.inr hmem), hfresh _ hmem] at hlost
    cases hkept.symm.trans hlost
  refine ⟨fun p hp => ⟨hself p hp, hown p hp⟩, ?_⟩
  intro n htyped v w hv hw
  -- Metadata goes first, so it is what the name is told with.
  have hshown := FaultContext.shown_of_reserved ((hbecomes.reserved hown).trans hreserved)
  obtain rfl : _ = shown := Except.ok.inj (hshown.symm.trans h.shown_eq)
  have htold := h.told n v hv
  rw [FaultContext.get?_told (hbecomes.nodup hdict), hbecomes.metadata n, if_pos (.inl htyped), hw,
    if_pos htyped] at htold
  exact htold.symm

end

/-- **Context is kept if nothing is in the way.**  After any calls that give values
    to an engine fault, its context is told in full if no name stands for the
    fault or is one of the context's own and no metadata hides a typed value.  The
    converse holds too, unless the metadata already held one of the context's
    own names. -/
theorem context_kept_iff (kind : EngineKind) (message : String) (category : Category)
    (sink stage mode path argv : Json) {metadata : Fields} (hdict : (metadata.map (·.1)).Nodup)
    (cause : Option Fault) (calls : List Fields) :
    (Unhindered metadata calls.flatten → ∃ f shown,
      withContexts (.engine kind message category
        { sink, stage, mode, path, argv, metadata } cause) calls = .ok f ∧
      TellsAll { sink, stage, mode, path, argv, metadata } calls.flatten f shown) ∧
    ((∀ n ∈ FaultContext.ownNames, metadata.get? n = none) →
      (∃ f shown, withContexts (.engine kind message category
          { sink, stage, mode, path, argv, metadata } cause) calls = .ok f ∧
        TellsAll { sink, stage, mode, path, argv, metadata } calls.flatten f shown) →
      Unhindered metadata calls.flatten) := by
  constructor
  · intro h
    exact exists_tellsAll hdict rfl h
  · rintro hfresh ⟨f, shown, hcalls, htells⟩
    exact unhindered_of_tellsAll hdict rfl hfresh hcalls htells

/-! ### Names that the context uses for itself -/

/-- Two calls, in which a name is given twice and a typed one is given null. -/
def plainCalls : List Fields :=
  [[("path", .str "a"), ("note", .str "b")], [("note", .str "c"), ("stage", .null)]]

theorem unhindered_plainCalls : Unhindered [("line", .int 1)] plainCalls.flatten where
  free := by decide
  apart n htyped v w _ hw := by
    have hnone : Fields.get? [("line", .int 1)] n = none := by
      apply Fields.get?_eq_none_of_not_mem
      intro hmem
      rw [List.mem_singleton.mp hmem] at htyped
      exact absurd htyped (by decide)
    cases hnone.symm.trans hw

theorem plainCalls_context_kept_iff :
    (([("line", .int 1)] : Fields).map (·.1)).Nodup ∧
    Unhindered [("line", .int 1)] plainCalls.flatten ∧
    (Unhindered [("line", .int 1)] plainCalls.flatten → ∃ f shown,
      withContexts (.engine .materialize "m" .storage
        ⟨.null, .str "s", .null, .null, .null, [("line", .int 1)], []⟩ none) plainCalls = .ok f ∧
      TellsAll ⟨.null, .str "s", .null, .null, .null, [("line", .int 1)], []⟩ plainCalls.flatten f
        shown) ∧
    ((∀ n ∈ FaultContext.ownNames, Fields.get? [("line", .int 1)] n = none) →
      (∃ f shown, withContexts (.engine .materialize "m" .storage
          ⟨.null, .str "s", .null, .null, .null, [("line", .int 1)], []⟩ none) plainCalls = .ok f ∧
        TellsAll ⟨.null, .str "s", .null, .null, .null, [("line", .int 1)], []⟩ plainCalls.flatten f
          shown) →
      Unhindered [("line", .int 1)] plainCalls.flatten) :=
  ⟨by decide, unhindered_plainCalls,
    context_kept_iff .materialize "m" .storage .null (.str "s") .null .null .null (by decide) none
      plainCalls⟩

/-- **A value given as `to_dict`** is accepted, and then nothing of the context can
    be shown and the fault cannot be described. -/
theorem to_dict_breaks_context :
    ∃ f g, withContexts (ofKind .materialize "m") [[("to_dict", .str "x")]] = .ok f ∧
      lastGiven? [("to_dict", .str "x")] "to_dict" = some (.str "x") ∧
      f.context.shown = .error g ∧ f.describe = .error g :=
  ⟨_, .plain .type "'str' object is not callable", rfl, rfl, rfl, rfl⟩

end Fault

end SinkPipeline
