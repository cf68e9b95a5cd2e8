import Covenant.Json.Reader
import Covenant.Text.Quoted
import Covenant.Text.Utf8

/-!
# Percent forms

In the parts of an address a character stands for itself or for nothing but
the bytes of its UTF-8 form, each written as a percent sign and two digits.
What is in percent form already stays as it is, so that quoting a text twice
is quoting it once.
-/

namespace Covenant.Text

/-- Whether a character is a hexadecimal digit. -/
def isHexDigit (c : Char) : Bool := (Json.hexValue? c).isSome

/-- A byte in percent form. -/
def percentByte (b : UInt8) : List Char := '%' :: (hexPadded 2 b.toNat).map Char.toUpper

/-- The characters that stand for themselves in every part. -/
def isUnreserved (c : Char) : Bool := c.isAlphanum || "-._~".toList.contains c

/-- A character as it stands, or in percent form. -/
def percentChar (safe : Char → Bool) (c : Char) : List Char :=
  if isUnreserved c || safe c then [c] else (String.utf8EncodeChar c).flatMap percentByte

/-- **A text in which only unreserved and safe characters and percent forms
stand as they are.** -/
def percentQuoted (safe : Char → Bool) : List Char → List Char
  | [] => []
  | '%' :: a :: b :: rest =>
    if isHexDigit a && isHexDigit b then '%' :: a :: b :: percentQuoted safe rest
    else percentChar safe '%' ++ percentQuoted safe (a :: b :: rest)
  | c :: rest => percentChar safe c ++ percentQuoted safe rest

/-- The bytes of a text with percent forms. -/
def percentBytes : List Char → List UInt8
  | [] => []
  | '%' :: a :: b :: rest =>
    match Json.hexValue? a, Json.hexValue? b with
    | some m, some n => UInt8.ofNat (m * 16 + n) :: percentBytes rest
    | _, _ => 0x25 :: percentBytes (a :: b :: rest)
  | c :: rest => String.utf8EncodeChar c ++ percentBytes rest

/-- **The text that percent forms stand for**; what is no text is replaced. -/
def percentDecoded (cs : List Char) : List Char := decodeLossy (percentBytes cs)

/-- A percent form stays, a lone percent sign does not. -/
example : percentQuoted (fun _ => false) "é%2f%".toList = "%C3%A9%2f%25".toList ∧
    percentDecoded "%C3%A9%41%".toList = "éA%".toList := by decide +kernel

end Covenant.Text
