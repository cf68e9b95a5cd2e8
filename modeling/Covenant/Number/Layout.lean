import Covenant.Number.Shortest

/-!
# How numbers are laid out as text

The digits of a double are settled by `Shortest.decimal`; what remains is
layout: where positional notation ends and exponents begin, and how an
exponent is written. Both layouts of the library are values of one record,
so that a reader sees at a glance where they differ.
-/

namespace Covenant

/-- The decimal digits of a natural number. -/
def natDigits (n : Nat) : List Char := Nat.toDigits 10 n

/-- An integer as text: a minus sign if negative, then its digits. -/
def intText : Int → List Char
  | .ofNat n => natDigits n
  | .negSucc n => '-' :: natDigits (n + 1)

/-- **A layout for doubles.** The exponent meant here is that of the leading
digit. -/
structure NumberLayout where
  /-- The least exponent written positionally. -/
  leastPositional : Int
  /-- The greatest exponent written positionally. -/
  greatestPositional : Int
  /-- The least number of digits of a negative exponent. -/
  negativeExponentDigits : Nat
  /-- The text of what is not a number. -/
  nanText : List Char
  /-- The text of the positive infinity. -/
  infiniteText : List Char

namespace NumberLayout

/-- **The plain layout**: positional from `0.0001` to below `10 ^ 16`, and an
exponent has at least two digits. -/
def plain : NumberLayout where
  leastPositional := -4
  greatestPositional := 15
  negativeExponentDigits := 2
  nanText := "nan".toList
  infiniteText := "inf".toList

/-- **The layout of JSON documents**: the plain one, with the names that JSON
readers commonly accept for what JSON has no number for. -/
def document : NumberLayout :=
  { plain with nanText := "NaN".toList, infiniteText := "Infinity".toList }

/-- **The layout of mismatch reports**: positional from `0.00001` on, no
padded exponents, and `null` for what JSON has no number for. -/
def report : NumberLayout where
  leastPositional := -5
  greatestPositional := 15
  negativeExponentDigits := 1
  nanText := "null".toList
  infiniteText := "null".toList

/-- Pads with zeros on the left up to a width. -/
def padZeros (width : Nat) (cs : List Char) : List Char :=
  List.replicate (width - cs.length) '0' ++ cs

/-- An exponent with its sign. -/
def exponentText (l : NumberLayout) (e : Int) : List Char :=
  if e < 0 then '-' :: padZeros l.negativeExponentDigits (natDigits e.natAbs)
  else '+' :: padZeros 2 (natDigits e.natAbs)

/-- The magnitude `digits · 10 ^ e`, always with a point or an exponent. -/
def magnitudeText (l : NumberLayout) (digits : Nat) (e : Int) : List Char :=
  let ds := natDigits digits
  let leading : Int := e + ds.length - 1
  if digits = 0 then "0.0".toList
  else if l.leastPositional ≤ leading ∧ leading ≤ l.greatestPositional then
    if 0 ≤ e then ds ++ List.replicate e.toNat '0' ++ ".0".toList
    else if 0 ≤ leading then ds.take (leading.toNat + 1) ++ '.' :: ds.drop (leading.toNat + 1)
    else "0.".toList ++ List.replicate (-leading - 1).toNat '0' ++ ds
  else
    let fraction := ds.drop 1
    ds.take 1 ++ (if fraction.isEmpty then [] else '.' :: fraction) ++ 'e' :: exponentText l leading

/-- **A double as text** in a layout. -/
def doubleText (l : NumberLayout) : Double → List Char
  | .nan => l.nanText
  | .infinite negative =>
    if negative ∧ l.infiniteText ≠ l.nanText then '-' :: l.infiniteText else l.infiniteText
  | .finite negative m e =>
    let (d, x) := Shortest.decimal m e
    (if negative then ['-'] else []) ++ l.magnitudeText d x

/-- `0.00001` needs an exponent in the plain layout and none in reports. -/
example : plain.magnitudeText 1 (-5) = "1e-05".toList ∧
    report.magnitudeText 1 (-5) = "0.00001".toList := by decide +kernel

/-- From `10 ^ 16` on both layouts use an exponent. -/
example : plain.magnitudeText 1 16 = "1e+16".toList ∧
    report.magnitudeText 1 15 = "1000000000000000.0".toList := by decide +kernel

end NumberLayout

end Covenant
