import SinkPipeline.Base64
import SinkPipeline.Fault.Context
import SinkPipeline.Json.Reader
import SinkPipeline.Path
import SinkPipeline.Text.Blank
import SinkPipeline.Text.Utf8

/-! # Records

  A sink of many outputs writes one **record** per line: a JSON object that
  holds the path of a file and its content, as text or in base64.  A line that
  is not JSON, or not such an object, is no record.  Numbers that are too long
  and values that are nested too deeply are faults.
-/

namespace SinkPipeline

/-- A file that a sink of many outputs writes. -/
structure Record where
  /-- Its path, relative to the sink's directory. -/
  path : Text
  /-- What it holds. -/
  content : Text
  /-- How the content is written: `base64`, or anything else for text. -/
  encoding : Option Text := none
  deriving DecidableEq

namespace Record

/-! ### Reading -/

/-- What is wrong with a member that must be a string. -/
def stringError (name : String) : Option Json → List (List String × String)
  | none => [([name], "missing")]
  | some v => if v.text?.isSome then [] else [([name], "string_type")]

/-- What is wrong with a member that may be a string. -/
def optionalStringError (name : String) : Option Json → List (List String × String)
  | none | some .null => []
  | some v => if v.text?.isSome then [] else [([name], "string_type")]

/-- Everything that is wrong with a value as a record, by the names of the
    members. -/
def errorsOf (v : Json) : List (List String × String) :=
  match v.members? with
  | none => [([], "model_type")]
  | some ms =>
    -- In the order of the names.
    stringError "content" (ms.get? "content") ++ optionalStringError "encoding" (ms.get? "encoding")
      ++ stringError "path" (ms.get? "path")

/-- The record that a value spells; members of other names do not matter. -/
def ofJson (v : Json) : Except Fault Record :=
  match errorsOf v with
  | [] =>
    .ok {
      path := ((v.member? "path").bind Json.text?).getD []
      content := ((v.member? "content").bind Json.text?).getD []
      encoding := (v.member? "encoding").bind Json.text? }
  | errors => .error (.invalid errors)

/-- The fault of a text that cannot be read as JSON although it may be JSON. -/
def readFault? : Json.ReadError → Option Fault
  | .malformed => none
  | .hugeInteger n =>
    some (.plain .value
      ("Exceeds the limit (" ++ toString Json.maxIntegerDigits ++
        " digits) for integer string conversion: value has " ++ toString n ++
        " digits; use sys.set_int_max_str_digits() to increase the limit"))
  | .tooDeep isArray =>
    some (.plain .recursion
      ("maximum recursion depth exceeded while decoding a JSON " ++
        (if isArray then "array" else "object") ++ " from a unicode string"))

/-- The record on a line, if there is one. -/
def ofLine (line : String) : Except Fault (Option Record) :=
  match Json.read line with
  | .ok v => .ok (ofJson v).toOption
  | .error e =>
    match readFault? e with
    | none => .ok none
    | some f => .error f

/-! ### Content -/

/-- The UTF-8 of a text, which has none for surrogates. -/
def encodeText (t : Text) : Except Fault Bytes :=
  match Fault.ofSurrogates? (fun _ => true) t with
  | some f => .error f
  | none => .ok (Text.Utf8.encodeChars (t.filterMap Text.CodePoint.scalar?))

/-- The path as an ordinary string. -/
def pathText (r : Record) : String := Text.hold r.path

/-- The kind of fault that a base64 fault is. -/
def base64Fault (e : Base64.Fault) : Fault :=
  .plain (if e = .notAscii then .value else .base64) e.message

/-- The word that marks content in base64. -/
def base64Word : Text := Text.ofString "base64"

/-- The bytes that a record's file holds. -/
def decode (r : Record) : Except Fault Bytes :=
  if r.encoding = some base64Word then
    match Base64.decode r.content with
    | .ok bytes => .ok bytes
    | .error e =>
      .error (Fault.ofKind .materialize ("Invalid base64 content for " ++ r.pathText)
        { path := .str r.pathText } (some (base64Fault e)))
  else encodeText r.content

/-! ### Where it goes -/

/-- The text of a record's path without the slashes and backslashes in front. -/
def innerPath (path : String) : String :=
  String.ofList (path.toList.dropWhile fun c => c == '/' || c == '\\')

/-- The file of a path below a directory. -/
def target (base : Path) (path : String) : Path := base / Path.ofString (innerPath path)

end Record

end SinkPipeline
