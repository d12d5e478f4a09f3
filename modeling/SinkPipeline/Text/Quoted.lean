import SinkPipeline.Text.CodePoint
import SinkPipeline.Text.Hex
import SinkPipeline.Text.Printable

/-! # Quoted text

  A text in messages is shown between single quotes, or between double quotes
  when it holds a single quote and no double one.  The quote in use, the
  backslash and every character that is not printable are escaped, by the
  shortest of `\n` `\r` `\t`, `\xNN`, `\uNNNN` and `\UNNNNNNNN`.
-/

namespace SinkPipeline.Text

/-- One character between quotes of the kind `quote`. -/
def quoteChar (quote c : Char) : List Char :=
  if c = quote ∨ c = '\\' then ['\\', c]
  else if c = '\n' then ['\\', 'n']
  else if c = '\r' then ['\\', 'r']
  else if c = '\t' then ['\\', 't']
  else if isPrintable c then [c]
  else
    let n := (CodePoint.ofHeld c).toNat
    if n < 0x100 then '\\' :: 'x' :: hexDigits 2 n
    else if n < 0x10000 then '\\' :: 'u' :: hexDigits 4 n
    else '\\' :: 'U' :: hexDigits 8 n

/-- The quote that a text is shown in. -/
def quoteFor (cs : List Char) : Char :=
  if '\'' ∈ cs ∧ '"' ∉ cs then '"' else '\''

/-- The quoted form of a text. -/
def quote (s : String) : String :=
  let q := quoteFor s.toList
  String.ofList (q :: s.toList.flatMap (quoteChar q) ++ [q])

end SinkPipeline.Text
