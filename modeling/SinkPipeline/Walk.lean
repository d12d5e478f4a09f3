import SinkPipeline.Site
import SinkPipeline.Source

/-! # Walking

  A **walk** goes through specs one after the other and gives the items found
  under each.  How a kind of place is walked is up to an adapter: it
  normalizes a spec, or refuses it; it enumerates what a normalized spec holds;
  and it gives every item a key.

  A key is given **once** in a walk, across all specs.  A spec that is refused
  is reported and changes nothing else.
-/

namespace SinkPipeline

/-- How a kind of place is walked. -/
structure WalkAdapter (τ spec norm item payload γ : Type) where
  /-- The kind of place. -/
  kind : String
  /-- The normalized form of a spec; a fault refuses it. -/
  normalize : spec → Act τ norm
  /-- Where the enumeration of a normalized spec begins. -/
  beginAt : norm → γ
  /-- The enumeration. -/
  items : Source τ γ item
  /-- The key of an item. -/
  keyOf : norm → item → String
  /-- What is attached to an item, if the adapter attaches anything. -/
  payload? : Option (norm → item → Act τ payload)

/-- An item that a walk gives. -/
structure Encountered (norm item payload : Type) where
  /-- Its key. -/
  key : String
  /-- The spec under which it was found. -/
  spec : norm
  /-- The item. -/
  item : item
  /-- What the adapter attached to it. -/
  payload : Option payload

namespace Walk

variable {τ spec norm item payload γ δ : Type}

/-- The logger of walks. -/
def logger : String := "capexec.walk"

/-- Where a walk stands. -/
structure Cursor (norm γ δ : Type) where
  /-- The specs to come. -/
  specs : δ
  /-- The spec being enumerated, and where. -/
  current : Option (norm × γ) := none
  /-- The keys that have been given. -/
  seen : List String := []

/-- Report a spec that was refused. -/
def report (kind : String) (hook : Option (InvalidSpec → Act τ Unit)) (f : Fault) : Act τ Unit := do
  let r : InvalidSpec := ⟨kind, f.reason⟩
  Act.log logger "warning" "walk.invalid_spec" [("kind", .str r.kind), ("reason", .str r.reason)]
  match hook with
  | none => pure ()
  | some hook => hook r

/-- One step of a walk. -/
def step (a : WalkAdapter τ spec norm item payload γ) (specs : Source τ δ spec)
    (hook : Option (InvalidSpec → Act τ Unit)) (c : Cursor norm γ δ) :
    Act τ (Poll (Cursor norm γ δ) (Encountered norm item payload)) := do
  match c.current with
  | none =>
    match ← specs.step c.specs with
    | .done => return .done
    | .skip rest => return .skip { c with specs := rest }
    | .item s rest =>
      match ← Act.attempt (a.normalize s) with
      | .ok n => return .skip { c with specs := rest, current := some (n, a.beginAt n) }
      | .error f =>
        -- A cancellation goes through and ends the walk.
        if f.isOrdinary then
          report a.kind hook f
          return .skip { c with specs := rest }
        else Act.fail f
  | some (n, g) =>
    match ← a.items.step g with
    | .done => return .skip { c with current := none }
    | .skip rest => return .skip { c with current := some (n, rest) }
    | .item i rest =>
      let key := a.keyOf n i
      let c := { c with current := some (n, rest) }
      -- The keys are those of all specs, so the spec that came first has the item.
      if c.seen.contains key then return .skip c
      else
        let payload ← match a.payload? with
          | none => pure none
          | some p => some <$> p n i
        return .item ⟨key, n, i, payload⟩ { c with seen := key :: c.seen }

/-- The items of a walk. -/
def items (a : WalkAdapter τ spec norm item payload γ) (specs : Source τ δ spec)
    (hook : Option (InvalidSpec → Act τ Unit)) :
    Source τ (Cursor norm γ δ) (Encountered norm item payload) := ⟨step a specs hook⟩

end Walk

end SinkPipeline
