import Covenant.Text.Printable
import Covenant.Json.Printer

/-!
# Quoted literals

The literal form in which diagnostics show a text: in single quotes, or in
double quotes where the text holds single quotes and no double ones. The
quote in use, backslashes, and characters that are not printable are escaped.
-/

namespace Covenant.Text

/-- The quote around a literal. -/
def quoteFor (cs : List Char) : Char :=
  if cs.contains '\'' && !cs.contains '"' then '"' else '\''

/-- The last `width` hexadecimal digits of a number. -/
def hexPadded (width n : Nat) : List Char :=
  (List.range width).reverse.map fun i => Json.hexDigit (n / Nat.pow 16 i % 16)

/-- One character of a literal in the given quotes. -/
def literalChar (quote c : Char) : List Char :=
  let n := c.toNat
  if c = quote ∨ c = '\\' then ['\\', c]
  else if c = '\n' then ['\\', 'n']
  else if c = '\r' then ['\\', 'r']
  else if c = '\t' then ['\\', 't']
  else if isPrintable c then [c]
  else if n < 0x100 then '\\' :: 'x' :: hexPadded 2 n
  else if n < 0x10000 then '\\' :: 'u' :: hexPadded 4 n
  else '\\' :: 'U' :: hexPadded 8 n

/-- **A text as a literal.** -/
def literal (cs : List Char) : List Char :=
  let quote := quoteFor cs
  quote :: (cs.flatMap (literalChar quote) ++ [quote])

/-- One byte of a literal in the given quotes. -/
def literalByte (quote : Char) (b : UInt8) : List Char :=
  let c := Char.ofNat b.toNat
  if b.toNat < 0x7f then literalChar quote c else '\\' :: 'x' :: hexPadded 2 b.toNat

/-- A string of bytes as a literal. -/
def literalBytes (bs : List UInt8) : List Char :=
  let quote := quoteFor (bs.map fun b => Char.ofNat b.toNat)
  'b' :: quote :: (bs.flatMap (literalByte quote) ++ [quote])

/-- A single quote alone changes the quotes, both kinds together do not. -/
example : literal "it's".toList = "\"it's\"".toList ∧
    literal "\"it's".toList = "'\"it\\'s'".toList := by decide +kernel

end Covenant.Text
