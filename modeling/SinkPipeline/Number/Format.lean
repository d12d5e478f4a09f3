import SinkPipeline.Number.Shortest

/-! # Number text

  The three ways in which a double is written: the **shortest** text that reads
  back, a fixed number of **places**, and six **significant** digits.  The last
  two round the exact binary value, a tie going to the even digit.
-/

namespace SinkPipeline.Number

/-- The decimal digits of a natural number. -/
def digitsOf (n : Nat) : List Char := Nat.toDigits 10 n

/-- The digits padded with zeros on the left to a given width. -/
def padZeros (width : Nat) (cs : List Char) : List Char :=
  List.replicate (width - cs.length) '0' ++ cs

/-- Zeros at the end taken off. -/
def trimZeros (cs : List Char) : List Char := (cs.reverse.dropWhile (· == '0')).reverse

/-- An exponent: its sign and at least two digits. -/
def exponentText (e : Int) : List Char :=
  'e' :: (if e < 0 then '-' else '+') :: padZeros 2 (digitsOf e.natAbs)

/-- A significand: the first digit, and the others after a point if there are any. -/
def significandText : List Char → List Char
  | [] => []
  | [d] => [d]
  | d :: ds => d :: '.' :: ds

/-- Digits written positionally, with the point after `point` of them; a text
    without a fractional part gets the one that is given. -/
def positional (ds : List Char) (point : Int) (noFraction : List Char) : List Char :=
  if point ≤ 0 then '0' :: '.' :: List.replicate (-point).toNat '0' ++ ds
  else
    let whole := ds.take point.toNat
    let fraction := ds.drop point.toNat
    whole ++ List.replicate (point.toNat - whole.length) '0' ++
      (if fraction.isEmpty then noFraction else '.' :: fraction)

/-- The sign in front of a text. -/
def signed (negative : Bool) (cs : List Char) : List Char := if negative then '-' :: cs else cs

/-- How the values that are not finite are written. -/
structure SpecialNames where
  /-- Not a number. -/
  nan : String
  /-- Positive infinity; the negative one has a minus sign in front. -/
  infinity : String

/-- `nan` and `inf`, as in messages. -/
def plainNames : SpecialNames := ⟨"nan", "inf"⟩

/-- `NaN` and `Infinity`, as in JSON text. -/
def jsonNames : SpecialNames := ⟨"NaN", "Infinity"⟩

/-- A value that is not finite. -/
def specialText (names : SpecialNames) (x : Float) : String :=
  if x.isNaN then names.nan else if x < 0 then "-" ++ names.infinity else names.infinity

/-- The shortest text that reads back.  Values from `0.0001` up to, but not
    including, `10 ^ 16` are written positionally and keep a `.0`. -/
def shortestText (names : SpecialNames) (x : Float) : String :=
  match parts? x with
  | none => specialText names x
  | some ⟨negative, m, q⟩ =>
    if m = 0 then String.ofList (signed negative ['0', '.', '0'])
    else
      let d := shortest m q
      let ds := trimZeros (digitsOf d.digits)
      let point : Int := d.exponent + (digitsOf d.digits).length
      String.ofList <| signed negative <|
        if -4 < point ∧ point ≤ 16 then positional ds point ['.', '0']
        else significandText ds ++ exponentText (point - 1)

/-- The value times `10 ^ places`, rounded to a whole number. -/
def scaled (m : Nat) (q : Int) (places : Nat) : Nat :=
  roundDiv (m * twoUp q * Nat.pow 10 places) (twoUp (-q))

/-- Written with a fixed number of places. -/
def fixedText (places : Nat) (x : Float) : String :=
  match parts? x with
  | none => specialText plainNames x
  | some ⟨negative, m, q⟩ =>
    let ds := padZeros (places + 1) (digitsOf (scaled m q places))
    let cut := ds.length - places
    String.ofList <| signed negative <|
      ds.take cut ++ (if places = 0 then [] else '.' :: ds.drop cut)

/-- The double nearest to the value rounded to two places. -/
def round2 (x : Float) : Float :=
  match parts? x with
  | none => x
  | some ⟨negative, m, q⟩ => nearest negative (scaled m q 2) 100

/-- The value rounded to `n` significant digits, as digits and the exponent of
    the first one. -/
def significant (m : Nat) (q : Int) (n : Nat) : Nat × Int :=
  let lead := decimalExponent m q
  let p := lead - (n - 1 : Nat)
  let c := roundDiv (m * twoUp q * tenUp (-p)) (twoUp (-q) * tenUp p)
  -- Rounding up may have made one more digit.
  if c = Nat.pow 10 n then (c / 10, lead + 1) else (c, lead)

/-- Written with at most six significant digits and no zeros at the end;
    exponents below -4 or above 5 are written out. -/
def compactText (x : Float) : String :=
  match parts? x with
  | none => specialText plainNames x
  | some ⟨negative, m, q⟩ =>
    if m = 0 then String.ofList (signed negative ['0'])
    else
      let (c, lead) := significant m q 6
      let ds := trimZeros (digitsOf c)
      String.ofList <| signed negative <|
        if -4 ≤ lead ∧ lead < 6 then positional ds (lead + 1) []
        else significandText ds ++ exponentText lead

end SinkPipeline.Number
