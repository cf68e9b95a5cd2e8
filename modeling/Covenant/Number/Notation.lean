import Covenant.Number.Layout

/-!
# Doubles to a given number of digits

Where a text asks for so many digits, a double is rounded to them exactly, a
half going to the even neighbour. `Notation.fixed` rounds to decimal places,
`Notation.scientific` to places behind the leading digit, and
`Notation.general` to significant digits, written in whichever of the two
notations is the shorter for the exponent at hand.

The number is given by its mantissa and binary exponent; signs are for the
caller.
-/

namespace Covenant

namespace Notation

/-- A point and what follows it; a point that nothing follows is left out
unless it is to be kept. -/
def fraction (keepPoint : Bool) (digits : List Char) : List Char :=
  if digits.isEmpty && !keepPoint then [] else '.' :: digits

/-- Digits without the zeros at their end. -/
def dropZeros (digits : List Char) : List Char :=
  (digits.reverse.dropWhile (· == '0')).reverse

/-- **Fixed notation**: all digits before the point and so many behind it. -/
def fixed (places : Nat) (keepPoint : Bool) (m : Nat) (e : Int) : List Char :=
  let (num, den) := Double.scaleBy m 1 (-e)
  let ds := NumberLayout.padZeros (places + 1)
    (natDigits (Double.roundHalfEven (num * Nat.pow 10 places) den))
  ds.take (ds.length - places) ++ fraction keepPoint (ds.drop (ds.length - places))

/-- The exponent of the leading decimal digit of `num / den`, both positive. -/
def leadingExponent (num den : Nat) : Int :=
  if den ≤ num then ((natDigits (num / den)).length : Int) - 1
  else -((natDigits ((den - 1) / num)).length : Int)

/-- **The leading digits of a number**, so many of them, and the exponent of
the first. Rounding up through all digits moves the exponent by one. -/
def significant (count : Nat) (m : Nat) (e : Int) : List Char × Int :=
  if m = 0 then (List.replicate count '0', 0)
  else
    let (num, den) := Double.scaleBy m 1 (-e)
    let leading := leadingExponent num den
    let shift : Int := (count : Int) - 1 - leading
    let scaled :=
      if 0 ≤ shift then Double.roundHalfEven (num * Nat.pow 10 shift.toNat) den
      else Double.roundHalfEven num (den * Nat.pow 10 (-shift).toNat)
    if scaled = Nat.pow 10 count then (natDigits (Nat.pow 10 (count - 1)), leading + 1)
    else (natDigits scaled, leading)

/-- A leading digit, those behind it, and an exponent. -/
def withExponent (keepPoint : Bool) (digits : List Char) (exponent : Int) : List Char :=
  digits.take 1 ++ fraction keepPoint (digits.drop 1) ++ 'e' ::
    NumberLayout.plain.exponentText exponent

/-- **Scientific notation**: one digit before the point, so many behind it,
and an exponent. -/
def scientific (places : Nat) (keepPoint : Bool) (m : Nat) (e : Int) : List Char :=
  let (ds, exponent) := significant (places + 1) m e
  withExponent keepPoint ds exponent

/-- **General notation**: so many significant digits, at least one, without an
exponent if the leading digit's lies between minus four and their number.
Zeros at the end are dropped unless the point is to be kept. -/
def general (count : Nat) (keepPoint : Bool) (m : Nat) (e : Int) : List Char :=
  let count := max 1 count
  let (ds, exponent) := significant count m e
  let tail (ds : List Char) := fraction keepPoint (if keepPoint then ds else dropZeros ds)
  if exponent < -4 || (count : Int) ≤ exponent then
    ds.take 1 ++ tail (ds.drop 1) ++ 'e' :: NumberLayout.plain.exponentText exponent
  else if 0 ≤ exponent then
    ds.take (exponent.toNat + 1) ++ tail (ds.drop (exponent.toNat + 1))
  else '0' :: tail (List.replicate (-exponent - 1).toNat '0' ++ ds)

/-- Five eighths to two places: the half goes to the even neighbour. -/
example : fixed 2 false 5 (-3) = "0.62".toList := by decide +kernel

/-- A number rounded up through all its digits. -/
example : scientific 1 false 999 0 = "1.0e+03".toList ∧ general 2 false 999 0 = "1e+03".toList := by
  decide +kernel

end Notation

end Covenant
