import SinkPipeline.Number.Binary

/-! # The shortest decimal of a double

  The decimal with the **fewest digits** that reads back as a given double and,
  among those, the one nearest to it.  On the grid of decimals with `n` digits
  only the two neighbours of the value can be meant: if any point of the grid
  reads back, one of these two does.
-/

namespace SinkPipeline.Number

/-- The decimal `digits · 10 ^ exponent`. -/
structure Decimal where
  /-- The significant digits as a number. -/
  digits : Nat
  /-- The power of ten. -/
  exponent : Int
  deriving DecidableEq, Repr

/-- Ten to the larger of `p` and zero. -/
def tenUp (p : Int) : Nat := Nat.pow 10 p.toNat

/-- Two to the larger of `p` and zero. -/
def twoUp (p : Int) : Nat := Nat.pow 2 p.toNat

/-- How `c · 10 ^ p` compares with `x · 2 ^ q`. -/
def compareDecimal (c : Nat) (p : Int) (x : Nat) (q : Int) : Ordering :=
  compare (c * tenUp p * twoUp (-q)) (x * twoUp q * tenUp (-p))

/-- Does `c · 10 ^ p` read back as `m · 2 ^ q`?  The numbers that do lie
    between the midpoints to the two neighbouring doubles, midpoints included
    exactly when `m` is even; below a power of two the neighbour is half as far. -/
def readsBack (m : Nat) (q : Int) (c : Nat) (p : Int) : Bool :=
  let low := if m = fullSignificand ∧ -1074 < q then 4 * m - 1 else 4 * m - 2
  let high := 4 * m + 2
  let edge := m % 2 = 0
  let above := compareDecimal c p low (q - 2)
  let below := compareDecimal c p high (q - 2)
  (above == .gt || (edge && above == .eq)) && (below == .lt || (edge && below == .eq))

/-- The distance of `c · 10 ^ p` from `m · 2 ^ q`, as a whole number in a unit
    that depends on `p` and `q` alone. -/
def distance (m : Nat) (q : Int) (c : Nat) (p : Int) : Nat :=
  let a := c * tenUp p * twoUp (-q)
  let b := m * twoUp q * tenUp (-p)
  if a < b then b - a else a - b

/-- The largest `e` with `10 ^ e ≤ m · 2 ^ q`, found upwards from -324. -/
def decimalExponent (m : Nat) (q : Int) : Int :=
  let rec climb : Nat → Int → Int
    | 0, e => e
    | fuel + 1, e =>
      if compareDecimal 1 (e + 1) m q == .gt then e else climb fuel (e + 1)
  climb 640 (-324)

/-- The grid of `n + 1` digits: the neighbour of the value that reads back, the
    nearer one if both do. -/
def onGrid (m : Nat) (q : Int) (lead : Int) (n : Nat) : Option Decimal :=
  let p := lead - n
  let c := m * twoUp q * tenUp (-p) / (twoUp (-q) * tenUp p)
  match readsBack m q c p && c != 0, readsBack m q (c + 1) p with
  | true, true => if distance m q (c + 1) p < distance m q c p then some ⟨c + 1, p⟩ else some ⟨c, p⟩
  | true, false => some ⟨c, p⟩
  | false, true => some ⟨c + 1, p⟩
  | false, false => none

/-- The shortest decimal of the positive double `m · 2 ^ q`; seventeen digits
    are always enough. -/
def shortest (m : Nat) (q : Int) : Decimal :=
  let lead := decimalExponent m q
  ((List.range 17).findSome? (onGrid m q lead)).getD ⟨m, 0⟩

end SinkPipeline.Number
