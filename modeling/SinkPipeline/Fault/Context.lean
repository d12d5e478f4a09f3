import SinkPipeline.Fault.Basic

/-! # What a fault shows

  The context of an engine fault as named values, and the fault as a whole as
  the values that describe it.  Names are given values one after the other, and
  the last value of a name counts.
-/

namespace SinkPipeline

namespace FaultContext

/-- The names that a context uses for itself. -/
def ownNames : List String :=
  ["to_dict", "__annotations__", "__class__", "__dataclass_fields__", "__dataclass_params__",
    "__delattr__", "__dict__", "__dir__", "__doc__", "__eq__", "__format__", "__ge__",
    "__getattribute__", "__getstate__", "__gt__", "__hash__", "__init__", "__init_subclass__",
    "__le__", "__lt__", "__match_args__", "__module__", "__ne__", "__new__", "__reduce__",
    "__reduce_ex__", "__repr__", "__setattr__", "__sizeof__", "__str__", "__subclasshook__",
    "__weakref__"]

/-- Give one name a value.  The typed names set their value, the context's own
    names are kept apart or refused, and every other one is metadata. -/
def bind (c : FaultContext) (name : String) (v : Json) : Except Fault FaultContext :=
  match name with
  | "capexec" => .ok { c with sink := v }
  | "stage" => .ok { c with stage := v }
  | "mode" => .ok { c with mode := v }
  | "path" => .ok { c with path := v }
  | "argv" => .ok { c with argv := v }
  | "__class__" =>
    .error (.plain .type ("__class__ must be set to a class, not '" ++ v.typeWord ++ "' object"))
  | "__weakref__" =>
    .error (.plain .attribute "attribute '__weakref__' of 'ErrorContext' objects is not writable")
  | name =>
    if name = "__dict__" ∧ v.members?.isNone then
      .error (.plain .type
        ("__dict__ must be set to a dictionary, not a '" ++ v.typeWord ++ "'"))
    else if name ∈ ownNames then .ok { c with reserved := c.reserved.set name v }
    else .ok { c with metadata := c.metadata.set name v }

/-- Give several names values, in order. -/
def bindAll (c : FaultContext) : Fields → Except Fault FaultContext
  | [] => .ok c
  | (name, v) :: rest => c.bind name v >>= fun c => c.bindAll rest

/-- The names that a context is made with. -/
def givenNames : List String := ["capexec", "stage", "mode", "path", "argv", "metadata"]

/-- The context made of named values. -/
def ofFields (fields : Fields) : Except Fault FaultContext :=
  match fields.find? fun p => !givenNames.contains p.1 with
  | some p =>
    .error (.plain .type
      ("ErrorContext.__init__() got an unexpected keyword argument '" ++ p.1 ++ "'"))
  | none => do
    let c ← bindAll {} (fields.filter (·.1 != "metadata"))
    return { c with metadata := ((fields.get? "metadata").bind Json.members?).getD [] }

/-- The typed values that are given. -/
def typed (c : FaultContext) : Fields :=
  [("capexec", c.sink), ("stage", c.stage), ("mode", c.mode), ("path", c.path),
    ("argv", c.argv)].filter fun p => p.2.nonNull?.isSome

/-- All values that are given.  A context whose own way of showing itself has
    been overwritten cannot be shown. -/
def shown (c : FaultContext) : Except Fault Fields :=
  match c.reserved.get? "to_dict" with
  | some v => .error (.plain .type ("'" ++ v.typeWord ++ "' object is not callable"))
  | none => .ok (c.typed.update c.metadata)

end FaultContext

namespace Fault

/-- The fields that describe an engine fault. -/
def describe (f : Fault) : Except Fault Fields :=
  match f with
  | .engine kind message category context cause => do
    let shown ← context.shown
    let base : Fields :=
      [("error_type", .str kind.word), ("message", .str message), ("category", .str category.word)]
    -- An empty context is left out.
    let withContext := if shown.isEmpty then base else base.set "context" (.obj shown)
    let withCause :=
      match cause with
      | none => withContext
      | some c => withContext.set "cause" (.str c.message)
    match kind with
    | .stageExit status => return withCause.set "returncode" status
    | _ => return withCause
  | f => return [("error_type", .str f.word), ("message", .str f.message)]

/-- The short literal of an engine fault. -/
def literal : Fault → String
  | .engine kind message category .. =>
    kind.word ++ "(" ++ Text.quote message ++ ", category=" ++ category.word ++ ")"
  | f => f.word ++ "(" ++ Text.quote f.message ++ ")"

/-- The name that stands for the fault itself, which no value can be given. -/
def selfName : String := "self"

/-- Add named values to the context of an engine fault. -/
def withContext (f : Fault) (more : Fields) : Except Fault Fault :=
  match f with
  | .engine kind message category context cause =>
    if more.any fun p => p.1 == selfName then
      .error (.plain .type "CapExecError.with_context() got multiple values for argument 'self'")
    else do
      return .engine kind message category (← context.bindAll more) cause
  | f => return f

end Fault

end SinkPipeline
