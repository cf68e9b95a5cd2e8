/-!
# Blank characters

The characters that trimming removes: the white space of Unicode and the
four information separators. Zero-width characters are not blank.
-/

namespace Covenant.Text

/-- Whether a character is blank. -/
def isBlank (c : Char) : Bool :=
  let n := c.toNat
  (9 ≤ n && n ≤ 13) || (0x1c ≤ n && n ≤ 0x20) || n == 0x85 || n == 0xa0 || n == 0x1680
    || (0x2000 ≤ n && n ≤ 0x200a) || n == 0x2028 || n == 0x2029 || n == 0x202f
    || n == 0x205f || n == 0x3000

/-- Removes blank characters from both ends. -/
def trim (cs : List Char) : List Char :=
  ((cs.dropWhile isBlank).reverse.dropWhile isBlank).reverse

/-- Whether a character is a blank around a numeral: the information separators
are not. -/
def isNumberBlank (c : Char) : Bool := isBlank c && !(0x1c ≤ c.toNat && c.toNat ≤ 0x1f)

/-- A numeral without the blanks around it. -/
def trimNumber (cs : List Char) : List Char :=
  ((cs.dropWhile isNumberBlank).reverse.dropWhile isNumberBlank).reverse

/-- Removes blank characters from the end. -/
def trimRight (cs : List Char) : List Char := (cs.reverse.dropWhile isBlank).reverse

/-- Lowercase of the Latin letters `A` to `Z`; every other character stays.
It serves comparisons with words in those letters only: no other character
has a lowercase form that consists of letters of such a word. -/
def lowerLatin (cs : List Char) : List Char := cs.map Char.toLower

/-- Trimming keeps what stands between the first and the last character that
is not blank. -/
example : trim "\x1c a b\u3000".toList = "a b".toList := by decide +kernel

end Covenant.Text
