import Covenant.Number.Double

/-!
# The shortest decimal of a double

Every real number strictly between two midpoints rounds to the double that
lies between them, and the midpoints themselves do so when the mantissa is
even. The shortest decimal of a double is the decimal with the fewest digits
among the numbers that round to it, and of two such decimals the nearer one;
on a tie the one with the even last digit.

The search goes through the decimal grids from one digit to seventeen. On
each grid only the two neighbours of the double have to be tried: if any
point of the grid lies in the interval, one of the two does.
-/

namespace Covenant

namespace Shortest

/-- **The interval that rounds to a double**, over the common denominator
`den`: the value, the two ends, and whether the ends belong to it. -/
structure Interval where
  /-- Numerator of the double itself. -/
  value : Nat
  /-- Numerator of the lower end. -/
  low : Nat
  /-- Numerator of the upper end. -/
  high : Nat
  /-- The common denominator. -/
  den : Nat
  /-- Whether the ends round to the double as well. -/
  closed : Bool

/-- The interval of `m · 2 ^ e`. Below a power of two the gap to the next
smaller double is half as wide, except at the least exponent. -/
def Interval.of (m : Nat) (e : Int) : Interval :=
  let narrow := m == Nat.pow 2 52 && decide (Double.minExponent < e)
  -- quarters of the last place, so that both ends are whole
  let v := 4 * m
  let lo := if narrow then v - 1 else v - 2
  let hi := v + 2
  let closed := m % 2 == 0
  if 0 ≤ e then
    let s := Nat.pow 2 e.toNat
    ⟨v * s, lo * s, hi * s, 4, closed⟩
  else ⟨v, lo, hi, 4 * Nat.pow 2 (-e).toNat, closed⟩

/-- Whether `num / den` lies in the interval. -/
def Interval.holds (i : Interval) (num den : Nat) : Bool :=
  let a := num * i.den
  if i.closed then decide (i.low * den ≤ a) && decide (a ≤ i.high * den)
  else decide (i.low * den < a) && decide (a < i.high * den)

/-- `10 ^ k` as a fraction. -/
def tenTo (k : Int) : Nat × Nat :=
  if 0 ≤ k then (Nat.pow 10 k.toNat, 1) else (1, Nat.pow 10 (-k).toNat)

/-- The decimal point's place: the `k` with `10 ^ (k-1) ≤ num / den < 10 ^ k`,
found by correcting a guess from the number of digits. -/
def magnitude (num den : Nat) : Int :=
  let guess : Int := ((Nat.toDigits 10 num).length : Int) - ((Nat.toDigits 10 den).length : Int)
  -- the true place is `guess` or `guess + 1`
  let (p, q) := tenTo guess
  if num * q < p * den then guess else guess + 1

/-- The candidate of the grid `10 ^ grid`, if one of the double's two
neighbours there rounds to it. -/
def candidate (i : Interval) (grid : Int) : Option Nat :=
  let (p, q) := tenTo grid
  -- `value / den / 10 ^ grid = (value * q) / (den * p)`
  let num := i.value * q
  let den := i.den * p
  let below := num / den
  let above := below + 1
  let okBelow := i.holds (below * p) q
  let okAbove := i.holds (above * p) q
  if okBelow && okAbove then
    let twice := 2 * (num % den)
    if twice < den then some below
    else if den < twice then some above
    else if below % 2 = 0 then some below else some above
  else if okBelow then some below
  else if okAbove then some above
  else none

/-- The first grid with a candidate, from `digits` digits on. -/
def search (i : Interval) (point : Int) : (fuel digits : Nat) → Nat × Int
  | 0, _ => (0, 0)
  | fuel + 1, digits =>
    let grid := point - digits
    match candidate i grid with
    | some d => (d, grid)
    | none => search i point fuel (digits + 1)

/-- Drops trailing zeros of a decimal, raising the exponent for each. -/
def trim (fuel d : Nat) (e : Int) : Nat × Int :=
  match fuel with
  | 0 => (d, e)
  | fuel + 1 => if d ≠ 0 ∧ d % 10 = 0 then trim fuel (d / 10) (e + 1) else (d, e)

/-- **The shortest decimal of `m · 2 ^ e`** as digits and a power of ten. -/
def decimal (m : Nat) (e : Int) : Nat × Int :=
  if m = 0 then (0, 0)
  else
    let i := Interval.of m e
    let (d, x) := search i (magnitude i.value i.den) 17 1
    trim 17 d x

/-- One tenth needs one digit. -/
example : decimal 7205759403792794 (-56) = (1, -1) := by decide +kernel

/-- The smallest double is written with one digit. -/
example : decimal 1 (-1074) = (5, -324) := by decide +kernel

end Shortest

end Covenant
