import SinkPipeline.Json.Basic
import SinkPipeline.Number.Format
import SinkPipeline.Text.Quoted

/-! # Values in messages

  In a message a value is shown as a literal: `None`, `True` and `False`, the
  shortest number text, quoted strings, and lists and dictionaries of literals.
  Where a value stands for itself, a string is shown bare.
-/

namespace SinkPipeline.Json

mutual

/-- The literal of a value. -/
def literal : Json → String
  | .null => "None"
  | .bool true => "True"
  | .bool false => "False"
  | .int n => toString n
  | .float x => Number.shortestText Number.plainNames x
  | .str s => Text.quote s
  | .halves t => Text.quote (Text.hold t)
  | .arr items => "[" ++ ", ".intercalate (literals items) ++ "]"
  | .obj ms => "\x7b" ++ ", ".intercalate (memberLiterals ms) ++ "\x7d"

/-- The literal of each item. -/
def literals : List Json → List String
  | [] => []
  | v :: vs => literal v :: literals vs

/-- The literal of each member. -/
def memberLiterals : List (String × Json) → List String
  | [] => []
  | (name, v) :: ms => (Text.quote name ++ ": " ++ literal v) :: memberLiterals ms

end

/-- The value as it stands in running text: a string bare, all else as its
    literal. -/
def display : Json → String
  | .str s => s
  | .halves t => Text.hold t
  | v => literal v

/-- The word for the type of a value in messages. -/
def typeWord : Json → String
  | .null => "NoneType"
  | .bool _ => "bool"
  | .int _ => "int"
  | .float _ => "float"
  | .str _ | .halves _ => "str"
  | .arr _ => "list"
  | .obj _ => "dict"

end SinkPipeline.Json
