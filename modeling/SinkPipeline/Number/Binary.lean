/-! # Binary floating point, exactly

  A finite double is `± m · 2 ^ q` for natural `m` below `2 ^ 53`.  `parts?`
  takes it apart, and `nearest` goes back from an arbitrary quotient of natural
  numbers to the **nearest** double, a tie going to the even neighbour.  Every
  number text of the library is read and written through these two, in exact
  arithmetic on natural numbers.
-/

namespace SinkPipeline.Number

/-- The quotient rounded to the nearest natural number, a tie to the even one. -/
def roundDiv (num den : Nat) : Nat :=
  let q := num / den
  let r := num % den
  if 2 * r < den then q
  else if den < 2 * r then q + 1
  else if q % 2 = 0 then q else q + 1

/-- The least significand of full width, `2 ^ 52`. -/
def fullSignificand : Nat := 0x10000000000000

/-- The sign bit, `2 ^ 63`. -/
def signBit : Nat := 0x8000000000000000

/-- A finite double taken apart: `± m · 2 ^ q`. -/
structure Parts where
  /-- Is the sign bit set? -/
  negative : Bool
  /-- The significand, below `2 ^ 53`. -/
  m : Nat
  /-- The binary exponent, at least -1074. -/
  q : Int
  deriving DecidableEq, Repr

/-- The parts of a double, if it is finite. -/
def parts? (x : Float) : Option Parts :=
  let bits : Nat := x.toBits.toNat
  let negative : Bool := bits / signBit % 2 = 1
  let e : Nat := bits / fullSignificand % 2048
  let f : Nat := bits % fullSignificand
  if e = 2047 then none
  else if e = 0 then some ⟨negative, f, -1074⟩
  else some ⟨negative, fullSignificand + f, (e : Int) - 1075⟩

/-- The double with the given sign and the remaining 63 bits. -/
def ofMagnitude (negative : Bool) (bits : Nat) : Float :=
  Float.ofBits ((if negative then signBit else 0) + bits).toUInt64

/-- The bits of positive infinity. -/
def infinityBits : Nat := 2047 * fullSignificand

/-- The exponent of the leading binary digit of a positive quotient. -/
def leadExponent (num den : Nat) : Int :=
  let e := (num.log2 : Int) - den.log2
  let below :=
    if 0 ≤ e then num < den * Nat.pow 2 e.toNat else num * Nat.pow 2 (-e).toNat < den
  if below then e - 1 else e

/-- The double nearest to `± num / den`; a magnitude beyond the largest double
    is infinite. -/
def nearest (negative : Bool) (num den : Nat) : Float :=
  if num = 0 ∨ den = 0 then ofMagnitude negative 0
  else
    let e := leadExponent num den
    if e > 1023 then ofMagnitude negative infinityBits
    else
      let q : Int := if e - 52 < -1074 then -1074 else e - 52
      let m :=
        if 0 ≤ q then roundDiv num (den * Nat.pow 2 q.toNat)
        else roundDiv (num * Nat.pow 2 (-q).toNat) den
      -- a significand that rounds up to `2 ^ 53` carries into the exponent by itself
      if m < fullSignificand then ofMagnitude negative m
      else ofMagnitude negative ((q + 1075).toNat * fullSignificand + (m - fullSignificand))

/-- The double nearest to `± digits · 10 ^ exponent`.  Exponents so large or so
    small that the answer is infinite or zero are not computed. -/
def ofDecimal (negative : Bool) (digits : Nat) (exponent : Int) : Float :=
  if digits = 0 then ofMagnitude negative 0
  else
    let magnitude : Int := (Nat.toDigits 10 digits).length + exponent
    if magnitude > 310 then ofMagnitude negative infinityBits
    else if magnitude < -330 then ofMagnitude negative 0
    else if 0 ≤ exponent then nearest negative (digits * Nat.pow 10 exponent.toNat) 1
    else nearest negative digits (Nat.pow 10 (-exponent).toNat)

/-- The double nearest to a whole number. -/
def ofInt (n : Int) : Float := ofDecimal (n < 0) n.natAbs 0

end SinkPipeline.Number
