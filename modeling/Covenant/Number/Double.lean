/-!
# Doubles as exact dyadic numbers

A double is kept as what it denotes, `± mantissa · 2 ^ exponent`, and not as
a machine word: every comparison, every rounding and every decimal text is
then an exact computation on natural numbers, and nothing rests on the
machine's arithmetic.

`Double.ofRatio` is the only way a finite double is made from a number, so
every finite double here is in the canonical form of the 64-bit format: the
mantissa has at most 53 bits, it has exactly 53 bits unless the exponent is
the least one, and zero has the least exponent.
-/

namespace Covenant

/-- **A double**: a finite dyadic number with a sign, an infinity, or no
number at all. -/
inductive Double where
  /-- The value that is not a number. -/
  | nan
  /-- An infinity and whether it is the negative one. -/
  | infinite (negative : Bool)
  /-- The number `± mantissa · 2 ^ exponent`; zero keeps its sign. -/
  | finite (negative : Bool) (mantissa : Nat) (exponent : Int)
deriving DecidableEq, Repr, Inhabited

namespace Double

/-- The least exponent of a finite double. -/
def minExponent : Int := -1074

/-- The greatest exponent of a finite double. -/
def maxExponent : Int := 971

/-- Zero with a sign. -/
def zero (negative : Bool) : Double := .finite negative 0 minExponent

/-- `num / den` rounded to the nearest natural number, a half to the even
neighbour. -/
def roundHalfEven (num den : Nat) : Nat :=
  let q := num / den
  let twice := 2 * (num % den)
  if twice < den then q
  else if den < twice then q + 1
  else if q % 2 = 0 then q else q + 1

/-- `num / den · 2 ^ (-e)` as a fraction of natural numbers. -/
def scaleBy (num den : Nat) (e : Int) : Nat × Nat :=
  if 0 ≤ e then (num, den * Nat.pow 2 e.toNat) else (num * Nat.pow 2 (-e).toNat, den)

/-- **The double nearest to `± num / den`**, a tie going to the even
mantissa and what is too large going to infinity.

The exponent is chosen so that the scaled quotient has 53 bits: the binary
logarithms of numerator and denominator determine it up to one, and one
comparison settles which. -/
def ofRatio (negative : Bool) (num den : Nat) : Double :=
  if num = 0 ∨ den = 0 then zero negative
  else
    let guess : Int := (Nat.log2 num : Int) - (Nat.log2 den : Int) - 52
    let (n, d) := scaleBy num den guess
    let e := max (if n / d < Nat.pow 2 52 then guess - 1 else guess) minExponent
    let (n, d) := scaleBy num den e
    let m := roundHalfEven n d
    let (m, e) := if m = Nat.pow 2 53 then (Nat.pow 2 52, e + 1) else (m, e)
    if maxExponent < e then .infinite negative
    else if m = 0 then zero negative
    else .finite negative m e

/-- The double nearest to `± digits · 10 ^ e`.

A decimal exponent far beyond the format is answered without writing its
power of ten out: the number then lies beyond the largest double, or below
half of the smallest one. -/
def ofDecimal (negative : Bool) (digits : Nat) (e : Int) : Double :=
  if digits = 0 then zero negative
  else
    if 400 < e then .infinite negative
    else if 0 ≤ e then ofRatio negative (digits * Nat.pow 10 e.toNat) 1
    else if e + (Nat.log2 digits : Int) < -400 then zero negative
    else ofRatio negative digits (Nat.pow 10 (-e).toNat)

/-- The double nearest to an integer. -/
def ofInt (i : Int) : Double := ofRatio (i < 0) i.natAbs 1

/-- Whether the double is a number other than an infinity. -/
def isFinite : Double → Bool
  | .finite .. => true
  | _ => false

/-- The integer that a finite double denotes, if it denotes one. -/
def toInt? : Double → Option Int
  | .finite s m e =>
    let magnitude : Option Nat :=
      if 0 ≤ e then some (m * Nat.pow 2 e.toNat)
      else if m % Nat.pow 2 (-e).toNat = 0 then some (m / Nat.pow 2 (-e).toNat)
      else none
    magnitude.map fun n => if s then -(n : Int) else n
  | _ => none

/-- The integer part of a finite double, toward zero. -/
def truncate? : Double → Option Int
  | .finite s m e =>
    let n := if 0 ≤ e then m * Nat.pow 2 e.toNat else m / Nat.pow 2 (-e).toNat
    some (if s then -(n : Int) else n)
  | _ => none

/-- The greatest integer not above a finite double. -/
def floor? : Double → Option Int
  | .finite s m e =>
    let (num, den) := scaleBy m 1 (-e)
    some (Int.fdiv (if s then -(num : Int) else num) den)
  | _ => none

/-- The least integer not below a finite double. -/
def ceiling? : Double → Option Int
  | .finite s m e => (floor? (.finite (!s) m e)).map fun i => -i
  | _ => none

/-- The sum of a double and an integer, rounded. -/
def plusInt : Double → Int → Double
  | .finite s m e, i =>
    let (num, den) := scaleBy m 1 (-e)
    let sum := (if s then -(num : Int) else num) + i * den
    ofRatio (sum < 0) sum.natAbs den
  | d, _ => d

/-- Two doubles as values of one common denominator, for comparison. -/
private def alignedNumerators (m₁ : Nat) (e₁ : Int) (m₂ : Nat) (e₂ : Int) : Nat × Nat :=
  let low := min e₁ e₂
  (m₁ * Nat.pow 2 (e₁ - low).toNat, m₂ * Nat.pow 2 (e₂ - low).toNat)

/-- Numeric equality: the zeros are equal to each other, and what is not a
number is equal to nothing. -/
def same : Double → Double → Bool
  | .finite s₁ m₁ e₁, .finite s₂ m₂ e₂ =>
    let (a, b) := alignedNumerators m₁ e₁ m₂ e₂
    a == b && (s₁ == s₂ || a == 0)
  | .infinite s₁, .infinite s₂ => s₁ == s₂
  | _, _ => false

/-- Whether the double is the integer `i`. -/
def sameInt (d : Double) (i : Int) : Bool := d.toInt? == some i

/-- Whether the double is greater than one; what is not a number is not. -/
def exceedsOne : Double → Bool
  | .finite s m e =>
    !s && (if 0 ≤ e then decide (1 < m * Nat.pow 2 e.toNat) else decide (Nat.pow 2 (-e).toNat < m))
  | .infinite s => !s
  | .nan => false

/-- Whether the double is zero, of either sign. -/
def isZero : Double → Bool
  | .finite _ m _ => m == 0
  | _ => false

/-- Both zeros are the same number. -/
example : (zero true).same (zero false) = true := by decide

/-- Minus one and a half lies between minus two and minus one. -/
example : (floor? (ofRatio true 3 2), ceiling? (ofRatio true 3 2), plusInt (ofRatio true 3 2) 2)
    = (some (-2), some (-1), ofRatio false 1 2) := by decide +kernel

/-- A third is the mantissa `6004799503160661` over `2 ^ 54`. -/
example : ofRatio false 1 3 = .finite false 6004799503160661 (-54) := by decide +kernel

end Double

end Covenant
