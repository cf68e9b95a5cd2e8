import Covenant.Text.Blank

/-!
# Integers in the digits of any script

Every script with decimal digits has ten of them in a row, so a digit is
known by the zero of its row. A numeral may have blanks around it, a sign,
and single underscores between its digits.
-/

namespace Covenant.Text

/-- The zeros of all scripts. -/
def zeros : List Nat := [
  0x30, 0x660, 0x6f0, 0x7c0, 0x966, 0x9e6, 0xa66, 0xae6, 0xb66, 0xbe6, 0xc66, 0xce6, 0xd66, 0xde6,
  0xe50, 0xed0, 0xf20, 0x1040, 0x1090, 0x17e0, 0x1810, 0x1946, 0x19d0, 0x1a80, 0x1a90, 0x1b50,
  0x1bb0, 0x1c40, 0x1c50, 0xa620, 0xa8d0, 0xa900, 0xa9d0, 0xa9f0, 0xaa50, 0xabf0, 0xff10, 0x104a0,
  0x10d30, 0x11066, 0x110f0, 0x11136, 0x111d0, 0x112f0, 0x11450, 0x114d0, 0x11650, 0x116c0,
  0x11730, 0x118e0, 0x11950, 0x11c50, 0x11d50, 0x11da0, 0x16a60, 0x16ac0, 0x16b50, 0x1d7ce,
  0x1d7d8, 0x1d7e2, 0x1d7ec, 0x1d7f6, 0x1e140, 0x1e2f0, 0x1e950, 0x1fbf0]

/-- The value of a digit. -/
def digitValue? (c : Char) : Option Nat :=
  (zeros.find? fun z => decide (z ≤ c.toNat) && decide (c.toNat < z + 10)).map (c.toNat - ·)

/-- The digits of a numeral, with single underscores between them. -/
def numeralDigits? : List Char → Option (List Nat)
  | [] => none
  | [c] => (digitValue? c).map ([·])
  | c :: '_' :: rest =>
    match digitValue? c, numeralDigits? rest with
    | some d, some ds => some (d :: ds)
    | _, _ => none
  | c :: rest =>
    match digitValue? c, numeralDigits? rest with
    | some d, some ds => some (d :: ds)
    | _, _ => none

/-- The most digits of a numeral. -/
def numeralLimit : Nat := 4300

/-- The natural number of a numeral without a sign. -/
def magnitude? (cs : List Char) : Option Nat :=
  match numeralDigits? cs with
  | some ds => if ds.length ≤ numeralLimit then some (ds.foldl (fun n d => n * 10 + d) 0) else none
  | none => none

/-- **The integer that a numeral denotes.** -/
def numeral? (cs : List Char) : Option Int :=
  match trimNumber cs with
  | '-' :: cs => (magnitude? cs).map fun n => -(n : Int)
  | '+' :: cs => (magnitude? cs).map Int.ofNat
  | cs => (magnitude? cs).map Int.ofNat

/-- Blanks, a sign and an underscore, and digits of another script. -/
example : numeral? " -1_0 ".toList = some (-10) ∧ numeral? "٨٠".toList = some 80 ∧
    numeral? "1__0".toList = none ∧ numeral? "".toList = none := by decide +kernel

end Covenant.Text
