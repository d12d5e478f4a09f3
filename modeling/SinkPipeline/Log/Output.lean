import SinkPipeline.Log.Context
import SinkPipeline.Log.Level
import SinkPipeline.Process.Env
import SinkPipeline.Text.Cut

/-! # Log output

  What becomes of an event that is handed to a logger: it goes through a list of
  **steps**, each of which adds something to its fields or drops it, and what is
  left is written.

  There are two such lists.  Without debug names an event is first of all
  dropped if its level is too low.  With **debug names** it keeps its way until
  the log context has been added, because the context may name the sink; it is
  then written if a debug name is part of the sink's name, or if its level is
  high enough.

  Two fields of an event are not written but asked for something: the text of
  the fault that is being handled, and that of the calls under way.  Both lists
  end with steps that put these texts in their place.
-/

namespace SinkPipeline

/-- An event that is handed to a logger. -/
structure LogCall where
  /-- The logger. -/
  logger : String
  /-- The word for the level that it is handed over with. -/
  method : String
  /-- The event. -/
  event : String
  /-- The values that belong to it. -/
  fields : Fields

namespace LogCall

/-- The word for the level of the written record. -/
def levelWord (c : LogCall) : String :=
  match c.method with
  | "warn" => "warning"
  | "fatal" => "critical"
  | "exception" => "error"
  | m => m

/-- The number of the level. -/
def number (c : LogCall) : Nat := LogLevel.eventNumber c.levelWord

/-- The fields that are given; one method asks for the fault that is being
    handled if nothing is said about it. -/
def given (c : LogCall) : Fields :=
  if c.method = "exception" ∧ c.fields.has "exc_info" = false then c.fields.set "exc_info" (.bool true)
  else c.fields

/-- The fields before the first step. -/
def start (c : LogCall) : Fields := c.given.set "event" (.str c.event)

/-- The name of the method; two words are other names of one. -/
def methodName (c : LogCall) : String :=
  match c.method with
  | "warn" => "warning"
  | "fatal" => "critical"
  | m => m

/-- The fault of giving a field under the name of a parameter. -/
def twice (callee name : String) : Fault :=
  .plain .type ("BoundLogger." ++ callee ++ "() got multiple values for argument '" ++ name ++ "'")

/-- Why an event cannot be handed over, if it cannot: it has a field under the
    name of a parameter of the method, or of what the method calls. -/
def refusal? (c : LogCall) : Option Fault :=
  match c.fields.find? fun p => p.1 == "self" || p.1 == "event" with
  | some p => some (twice c.methodName p.1)
  | none =>
    if c.fields.has "method_name" then some (twice "_proxy_to_logger" "method_name") else none

end LogCall

/-! ### Steps -/

/-- Is a text part of another one? -/
def isPartOf (part whole : List Char) : Bool :=
  match whole with
  | [] => part.isEmpty
  | _ :: rest => part.isPrefixOf whole || isPartOf part rest

/-- The value of a name, unless it counts as false. -/
def Fields.truthy? (fs : Fields) (name : String) : Option Json :=
  (fs.get? name).filter Json.isTruthy

/-- A field that asks for a text is taken out; if its value does not count as
    false and there is a text, that is put under another name. -/
def Fields.answer (fs : Fields) (request name : String) (text : Option String) : Fields :=
  match (fs.truthy? request).bind fun _ => text with
  | some t => (fs.without request).set name (.str t)
  | none => fs.without request

/-- What names the sink of an event: its field for the sink, or else `name`. -/
def subjectOf (fs : Fields) : Option Json := (fs.truthy? "capexec").or (fs.truthy? "name")

/-- Is one of the debug names part of the name of the event's sink? -/
def isDebugged (names : List String) (fs : Fields) : Bool :=
  match subjectOf fs with
  | none => false
  | some v => names.any fun n => isPartOf n.toList v.display.toList

/-- The fault of comparing a level with something that is none. -/
def incomparable (kind : String) : Fault :=
  .plain .type ("'<' not supported between instances of 'int' and '" ++ kind ++ "'")

/-- Does a filter with debug names let an event through whose level must be at
    least `least`?  The level only counts if no name is part of the sink's. -/
def passesNames (names : List String) (least : LogLevel.Threshold) (method : String) (fs : Fields) :
    Except Fault Bool :=
  if isDebugged names fs then .ok true
  else
    match least with
    | .number n => .ok (n ≤ LogLevel.eventNumber ((fs.get? "level").getD (.str method)).display)
    | .other kind => .error (incomparable kind)

/-- What is done to an event on its way. -/
inductive LogStep where
  /-- An event with too low a level is dropped. -/
  | levelGate
  /-- The level is added. -/
  | addLevel
  /-- The logger is added. -/
  | addLogger
  /-- The time is added. -/
  | addTime
  /-- The log context is added. -/
  | addContext
  /-- An event is dropped that no debug name lets through and whose level is
      below a number. -/
  | nameGate (names : List String) (least : LogLevel.Threshold)
  /-- The fault that is being handled is told where it is asked for. -/
  | addFault
  /-- The calls under way are told where they are asked for. -/
  | addCalls

/-- What steps know besides the event. -/
structure LogScene where
  /-- The least number of a level that is written. -/
  least : Nat
  /-- The log context. -/
  context : LogContext
  /-- The time. -/
  time : Json
  /-- The text of the fault that is being handled, if one is. -/
  fault : Option String
  /-- The text of the calls under way. -/
  calls : String

/-- The fields after a step, or nothing if the event is dropped. -/
def LogStep.apply (scene : LogScene) (c : LogCall) (fs : Fields) :
    LogStep → Except Fault (Option Fields)
  | .levelGate => .ok (if scene.least ≤ c.number then some fs else none)
  | .addLevel => .ok (some (fs.set "level" (.str c.levelWord)))
  | .addLogger => .ok (some (fs.set "logger" (.str c.logger)))
  | .addTime => .ok (some (fs.set "timestamp" scene.time))
  | .addContext => .ok (some (scene.context.addTo fs))
  | .nameGate names least => do
    return if ← passesNames names least c.method fs then some fs else none
  | .addFault => .ok (some (fs.answer "exc_info" "exception" scene.fault))
  | .addCalls => .ok (some (fs.answer "stack_info" "stack" (some scene.calls)))

/-- The steps that an event goes through. -/
def LogStep.chain (names : List String) (least : LogLevel.Threshold) : List LogStep :=
  if names.isEmpty then
    [.levelGate, .addLevel, .addLogger, .addTime, .addContext, .addFault, .addCalls]
  -- The gate stands behind the context, which may name the sink.
  else [.addLevel, .addLogger, .addTime, .addContext, .nameGate names least, .addFault, .addCalls]

/-- What steps leave of an event, if anything. -/
def LogStep.applyAll (scene : LogScene) (c : LogCall) (fs : Fields) :
    List LogStep → Except Fault (Option Fields)
  | [] => .ok (some fs)
  | step :: steps => do
    match ← step.apply scene c fs with
    | some fs => applyAll scene c fs steps
    | none => return none

/-- What is written for an event, if anything is: what all the steps leave of
    it, if its level is written at all. -/
def writtenOf (steps : List LogStep) (scene : LogScene) (c : LogCall) :
    Except Fault (Option Fields) := do
  return (← LogStep.applyAll scene c c.start steps).filter fun _ => scene.least ≤ c.number

/-! ### Choosing the output -/

/-- How logs are asked for. -/
structure LogOptions where
  /-- The level. -/
  level : Option String := none
  /-- The format. -/
  format : Option String := none
  /-- The debug names. -/
  debugNames : Option (List String) := none
  /-- Is an earlier choice overruled? -/
  force : Bool := false

/-- The output of logs. -/
structure LogOutput where
  /-- Has it been chosen? -/
  configured : Bool := false
  /-- The steps, once there are any. -/
  steps : Option (List LogStep) := none
  /-- Are records written as JSON? -/
  asJson : Bool := false
  /-- The least number of a level that is written. -/
  least : Nat := LogLevel.defaultNumber

namespace LogOutput

/-- A text that is given and not empty. -/
def nonEmpty? (s : Option String) : Option String := s.filter (· ≠ "")

/-- The names in a list with commas: blanks around them do not count, and
    neither do empty ones. -/
def namesIn (s : String) : List String :=
  ((Text.cutAt ',' s.toList).map Text.stripBlanks).filterMap fun cs =>
    if cs.isEmpty then none else some (String.ofList cs)

/-- The word of the level that is asked for, in capitals. -/
def levelWord (env : Env) (o : LogOptions) : String :=
  Text.upper ((nonEmpty? o.level).getD ((env.get? "CAPEXEC_LOG_LEVEL").getD "INFO"))

/-- The debug names that are asked for. -/
def debugNames (env : Env) (o : LogOptions) : List String :=
  o.debugNames.getD (namesIn ((env.get? "CAPEXEC_LOG_DEBUG_NAMES").getD ""))

/-- Is JSON asked for? -/
def wantsJson (env : Env) (o : LogOptions) : Bool :=
  Text.lower ((nonEmpty? o.format).getD ((env.get? "CAPEXEC_LOG_FORMAT").getD "console")) == "json"

/-- A level that there is none of. -/
def unknownLevel (word : String) : Fault :=
  .plain .attribute ("module 'logging' has no attribute '" ++ word ++ "'")

/-- What the word for the least level means. -/
def thresholdOf (word : String) : Except Fault LogLevel.Threshold :=
  match LogLevel.threshold? word with
  | some least => .ok least
  | none => .error (unknownLevel word)

/-- The fault of a word that means something else than a level, where the level
    itself is to be set. -/
def notALevel : Fault :=
  .plain .value "Unknown level: '%(levelname)s:%(name)s:%(message)s'"

/-- The number that the least level has while there are no debug names. -/
def leastNumber (word : String) : Except Fault Nat := do
  match ← thresholdOf word with
  | .number n => return n
  | .other _ => throw notALevel

/-- Choose the output.  Once it is chosen it stays, unless the choice is
    overruled.  With debug names every level is let in, for the filter to decide.
    An unknown level is a fault; the steps are in place by then if there are no
    debug names. -/
def configure (env : Env) (o : LogOptions) (out : LogOutput) : Except Fault Unit × LogOutput :=
  if out.configured && !o.force then (.ok (), out)
  else
    let names := debugNames env o
    let json := wantsJson env o
    let word := levelWord env o
    if names.isEmpty then
      let steps := LogStep.chain [] (.number 0)
      match leastNumber word with
      | .ok n => (.ok (), ⟨true, some steps, json, n⟩)
      -- The steps have been set before the level is found to be unknown.
      | .error f => (.error f, { out with steps := some steps, asJson := json })
    else
      match thresholdOf word with
      | .ok least => (.ok (), ⟨true, some (LogStep.chain names least), json, LogLevel.debugNumber⟩)
      | .error f => (.error f, out)

/-- Are events for debugging let in? -/
def isDebugEnabled (out : LogOutput) : Bool := out.least ≤ LogLevel.debugNumber

/-- What is written for an event, if anything is, while a fault may be handled
    and some calls are under way. -/
def written (out : LogOutput) (context : LogContext) (time : Json) (c : LogCall)
    (fault : Option String := none) (calls : String := "") : Except Fault (Option Fields) :=
  match out.steps with
  | some steps =>
    match c.refusal? with
    | some f => .error f
    | none => writtenOf steps ⟨out.least, context, time, fault, calls⟩ c
  | none => .ok none

/-- How many lines the record of an event takes: one as JSON; otherwise one more
    for each line feed in its texts, which are written as they are. -/
def height (out : LogOutput) (record : Fields) : Nat :=
  if out.asJson then 1
  else 1 + ((record.flatMap fun p => (p.2.str?.getD "").toList).filter (· == '\n')).length

end LogOutput

end SinkPipeline
