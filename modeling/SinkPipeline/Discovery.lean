import SinkPipeline.SinkName
import SinkPipeline.Walk

/-! # Discovery

  Discovery goes through the items of a walk and keeps the sinks: those that
  the filter lets through, that have a name, and whose name is a sink's.  What
  is no sink is passed over without a word.
-/

namespace SinkPipeline

/-- A sink that was found. -/
structure Found (norm item payload : Type) where
  /-- The key of the item. -/
  key : String
  /-- The spec under which it was found. -/
  spec : norm
  /-- The item. -/
  item : item
  /-- Its name. -/
  name : String
  /-- The parts of its name. -/
  parsed : SinkName
  /-- What the walk attached to it. -/
  payload : Option payload

namespace Discovery

variable {τ norm item payload γ : Type}

/-- The logger of discoveries. -/
def logger : String := "capexec.discovery"

/-- What decides about an item. -/
structure Rules (τ norm item payload : Type) where
  /-- Is the item looked at? -/
  filter : Option (Encountered norm item payload → Act τ Bool)
  /-- The name of an item. -/
  selectName : Encountered norm item payload → Act τ (Option String)

/-- The sink that an item is, if it is one. -/
def sinkOf? (rules : Rules τ norm item payload) (e : Encountered norm item payload) :
    Act τ (Option (Found norm item payload)) := do
  let kept ← match rules.filter with
    | none => pure true
    | some keep => keep e
  if !kept then return none
  match ← rules.selectName e with
  | none => return none
  | some name =>
    -- An empty name is no sink's, so it needs no case of its own.
    match SinkName.parse? name with
    | none => return none
    | some parsed =>
      Act.log logger "debug" "discovery.found" [("key", .str e.key), ("name", .str name)]
      return some ⟨e.key, e.spec, e.item, name, parsed, e.payload⟩

/-- The sinks among the items of a walk. -/
def sinks (rules : Rules τ norm item payload) (walk : Source τ γ (Encountered norm item payload)) :
    Source τ γ (Found norm item payload) where
  step c := do
    match ← walk.step c with
    | .done => return .done
    | .skip rest => return .skip rest
    | .item e rest =>
      match ← sinkOf? rules e with
      | none => return .skip rest
      | some found => return .item found rest

end Discovery

end SinkPipeline
