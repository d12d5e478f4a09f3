import SinkPipeline.Log.Diary

/-! # Lazy sources

  A **source** gives items one at a time, and does no more work than the next
  item needs.  Where it stands is a cursor; one step from a cursor gives an
  item, or moves on without one, or finds the end.  Steps are actions: they may
  look at and change the state of the run, which other work changes between
  them.

  What sources are made from is a **supply**: a sequence, something that
  becomes one later, or a function that returns either.
-/

namespace SinkPipeline

/-- What one step of a source gives. -/
inductive Poll (γ ι : Type) where
  /-- An item, and where the source stands after it. -/
  | item (i : ι) (rest : γ)
  /-- Nothing yet, and where the source stands now. -/
  | skip (rest : γ)
  /-- The end. -/
  | done

/-- A source of items `ι` whose cursors are of type `γ`. -/
structure Source (τ γ ι : Type) where
  /-- One step from a cursor. -/
  step : γ → Act τ (Poll γ ι)

namespace Source

variable {τ γ ι β : Type}

/-- The items of a list, one after the other. -/
def ofList (τ ι : Type) : Source τ (List ι) ι where
  step
    | [] => return .done
    | i :: rest => return .item i rest

/-- Step until the next item or the end, at most `fuel` times; the fault that
    stands for too little fuel is none that a step gives. -/
def pull (s : Source τ γ ι) : Nat → γ → Act τ (Option (ι × γ))
  | 0, _ => Act.fail (.plain .runtime "the source gave no item in time")
  | fuel + 1, c => do
    match ← s.step c with
    | .item i rest => return some (i, rest)
    | .skip rest => s.pull fuel rest
    | .done => return none

/-- What a consumer got from a source. -/
structure Taken (β : Type) where
  /-- What it made of the items, in order. -/
  items : List β
  /-- The fault that ended the source. -/
  fault : Option Fault

/-- Take items until the source ends, or `limit` of them, doing an action with
    each.  At most `fuel` steps are made. -/
def takeWith (s : Source τ γ ι) (onItem : ι → Act τ β) :
    Nat → Option Nat → γ → List β → Act τ (Taken β)
  | 0, _, _, acc => return ⟨acc.reverse, some (.plain .runtime "the source did not end in time")⟩
  | fuel + 1, limit, c, acc => do
    -- A consumer that has enough makes no further step.
    if limit = some 0 then return ⟨acc.reverse, none⟩
    match ← Act.attempt (s.step c) with
    | .error f => return ⟨acc.reverse, some f⟩
    | .ok .done => return ⟨acc.reverse, none⟩
    | .ok (.skip rest) => s.takeWith onItem fuel limit rest acc
    | .ok (.item i rest) => do
      -- A fault of the consumer is not one of the source, and goes through.
      let b ← onItem i
      s.takeWith onItem fuel (limit.map (· - 1)) rest (b :: acc)

/-- As many steps as any run takes. -/
def ample : Nat := 10000000

/-- Take items until the source ends, or `limit` of them. -/
def take (s : Source τ γ ι) (limit : Option Nat) (c : γ) : Act τ (Taken ι) :=
  s.takeWith pure ample limit c []

end Source

/-! ### Supplies -/

/-- Something that a source can be made from. -/
inductive Supply (γ : Type) where
  /-- A sequence that is read from a cursor. -/
  | sequence (c : γ)
  /-- Something that becomes a supply later. -/
  | later (s : Supply γ)
  /-- A function without arguments that returns a supply. -/
  | call (s : Supply γ)
  /-- Anything else, with the word for its type. -/
  | other (typeWord : String)

namespace Supply

variable {γ : Type}

/-- The word for the type of a supply that is no sequence. -/
def typeWord : Supply γ → String
  | .sequence _ => "sequence"
  | .later _ => "coroutine"
  | .call _ => "function"
  | .other w => w

/-- A function is called, once. -/
def called : Supply γ → Supply γ
  | .call s => s
  | s => s

/-- What comes later is waited for, once. -/
def awaited : Supply γ → Supply γ
  | .later s => s
  | s => s

/-- The sequence that a supply comes to, after at most one call and one wait. -/
def «open» (s : Supply γ) : Except Fault γ :=
  match s.called.awaited with
  | .sequence c => .ok c
  | s => .error (.plain .type ("Unsupported supplier type: " ++ s.typeWord))

end Supply

/-- Where the reading of a supply stands. -/
inductive Supply.Cursor (γ : Type) where
  /-- The supply has not been opened. -/
  | unopened (s : Supply γ)
  /-- The supply has been opened. -/
  | opened (c : γ)

/-- The items of a supply of a source's cursors. -/
def Source.ofSupply {τ γ ι : Type} (s : Source τ γ ι) : Source τ (Supply.Cursor γ) ι where
  step
    | .unopened supply => do return .skip (.opened (← Act.ofExcept supply.open))
    | .opened c => do
      match ← s.step c with
      | .item i rest => return .item i (.opened rest)
      | .skip rest => return .skip (.opened rest)
      | .done => return .done

end SinkPipeline
