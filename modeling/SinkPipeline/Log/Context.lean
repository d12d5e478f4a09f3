import SinkPipeline.Fault.Context

/-! # Log context

  The **log context** says what is being worked on: which run, which sink, in
  which phase, inside which span.  It is part of the state of a run and is
  added to every log record.  Work that changes it for a while takes a token
  and gives the old context back at its end.
-/

namespace SinkPipeline

/-- What is being worked on.  A value that is null is not given. -/
structure LogContext where
  /-- The run. -/
  runId : Json := .null
  /-- The mode of the run. -/
  mode : Json := .null
  /-- The innermost span. -/
  spanId : Json := .null
  /-- The span around it. -/
  parentSpanId : Json := .null
  /-- The name of the sink. -/
  sink : Json := .null
  /-- Is the sink being prepared or executed? -/
  phase : Json := .null
  /-- The stage. -/
  stage : Json := .null
  deriving Inhabited

namespace LogContext

/-- The empty context. -/
def empty : LogContext := {}

/-- The names of the values. -/
def names : List String :=
  ["run_id", "mode", "span_id", "parent_span_id", "capexec", "phase", "stage"]

/-- The values with their names. -/
def entries (c : LogContext) : Fields :=
  [("run_id", c.runId), ("mode", c.mode), ("span_id", c.spanId),
    ("parent_span_id", c.parentSpanId), ("capexec", c.sink), ("phase", c.phase),
    ("stage", c.stage)]

/-- The values that are given. -/
def shown (c : LogContext) : Fields := c.entries.filter fun p => p.2.nonNull?.isSome

/-- Overwrite one value; a name that is none of the context's changes nothing. -/
def put (c : LogContext) (name : String) (v : Json) : LogContext :=
  match name with
  | "run_id" => { c with runId := v }
  | "mode" => { c with mode := v }
  | "span_id" => { c with spanId := v }
  | "parent_span_id" => { c with parentSpanId := v }
  | "capexec" => { c with sink := v }
  | "phase" => { c with phase := v }
  | "stage" => { c with stage := v }
  | _ => c

/-- Overwrite the values that are given; null overwrites nothing. -/
def merge (c : LogContext) (fields : Fields) : LogContext :=
  fields.foldl (fun c p => if p.2.nonNull?.isSome then c.put p.1 p.2 else c) c

/-- The name that stands for the context itself, which no value can be given. -/
def selfName : String := "self"

/-- Overwrite the values that are given, whatever names they are given under. -/
def mergeNamed (c : LogContext) (fields : Fields) : Except Fault LogContext :=
  if fields.any fun p => p.1 == selfName then
    .error (.plain .type "LogContext.merge() got multiple values for argument 'self'")
  else .ok (c.merge fields)

/-- The context that holds just the given values. -/
def ofFields (fields : Fields) : LogContext := merge empty fields

/-- The context that holds just the given values, if all of their names are the
    context's. -/
def ofNamed (fields : Fields) : Except Fault LogContext :=
  match fields.find? fun p => !names.contains p.1 with
  | some p =>
    .error (.plain .type ("set_context() got an unexpected keyword argument '" ++ p.1 ++ "'"))
  | none => .ok (ofFields fields)

/-- Add the context to the fields of an event; the event's own fields stay. -/
def addTo (c : LogContext) (event : Fields) : Fields :=
  c.shown.foldl (fun acc p => if acc.has p.1 then acc else acc.set p.1 p.2) event

end LogContext

/-! ### Tokens -/

/-- A context that is changed and given back by tokens.  A token remembers the
    context that was current before the push that made it, and can be used
    once. -/
structure ContextStack where
  /-- The context in force. -/
  current : LogContext := {}
  /-- The tokens by name: the context to give back, until it has been. -/
  tokens : List (String × Option LogContext) := []

namespace ContextStack

/-- Replace the context. -/
def set (s : ContextStack) (c : LogContext) : ContextStack := { s with current := c }

/-- Overwrite values of the context. -/
def bind (s : ContextStack) (fields : Fields) : Except Fault ContextStack :=
  (s.current.mergeNamed fields).map s.set

/-- Overwrite values of the context, with a token to undo it by. -/
def push (s : ContextStack) (token : String) (fields : Fields) : Except Fault ContextStack :=
  (s.current.mergeNamed fields).map fun c =>
    -- A token that is made anew forgets what it remembered.
    ⟨c, (token, some s.current) :: s.tokens.filter (·.1 != token)⟩

/-- Use a token: the context that it remembers is in force again.  A token that
    has been used gives a fault and changes nothing. -/
def restore (s : ContextStack) (token : String) : Except Fault ContextStack :=
  match s.tokens.lookup token with
  | some (some old) =>
    .ok { current := old, tokens := (token, none) :: s.tokens.filter (·.1 != token) }
  | some none => .error (.plain .runtime "the token has already been used once")
  | none => .error (.plain .key (Text.quote token))

/-- Make the context empty. -/
def clear (s : ContextStack) : ContextStack := s.set .empty

end ContextStack

end SinkPipeline
