import Covenant.Json.Basic
import Covenant.Number.Layout

/-!
# Writing JSON

One printer serves every document of the library. What distinguishes the
documents is a `Json.Style`: what separates items, whether characters beyond
ASCII are escaped, whether the document is indented, and how doubles are
laid out.
-/

namespace Covenant

namespace Json

/-- **A style of writing documents.** -/
structure Style where
  /-- What stands between two items or fields. -/
  item : List Char
  /-- What stands between a field's name and its value. -/
  colon : List Char
  /-- Whether everything but printable ASCII is escaped. -/
  ascii : Bool
  /-- How far each level is indented; without indentation the document has
  one line. -/
  indent : Option Nat
  /-- The layout of doubles. -/
  numbers : NumberLayout

namespace Style

/-- No blanks, and characters as they are. -/
def compact : Style := ⟨[','], [':'], false, none, .document⟩

/-- No blanks, and everything beyond ASCII escaped. -/
def compactAscii : Style := { compact with ascii := true }

/-- Two blanks of indentation per level, for contract files. -/
def indented : Style := ⟨[','], [':', ' '], false, some 2, .document⟩

/-- One line with a blank after each comma and colon, for log lines. -/
def logLine : Style := ⟨[',', ' '], [':', ' '], true, none, .document⟩

/-- No blanks, and doubles as mismatch reports show them. -/
def report : Style := { compact with numbers := .report }

end Style

/-- A digit below sixteen as a hexadecimal digit. -/
def hexDigit (n : Nat) : Char := Char.ofNat (if n < 10 then 48 + n else 87 + n)

/-- Four hexadecimal digits. -/
def hex4 (n : Nat) : List Char :=
  [hexDigit (n / 4096 % 16), hexDigit (n / 256 % 16), hexDigit (n / 16 % 16), hexDigit (n % 16)]

/-- A code unit as an escape. -/
def unitEscape (n : Nat) : List Char := '\\' :: 'u' :: hex4 n

/-- A character inside a string: quotes, backslashes and control characters
are always escaped, and in an ASCII style so is all that is not printable
ASCII, a character beyond `0xffff` by its two surrogates. -/
def escapeChar (ascii : Bool) (c : Char) : List Char :=
  let n := c.toNat
  if c = '"' then ['\\', '"']
  else if c = '\\' then ['\\', '\\']
  else if c = '\n' then ['\\', 'n']
  else if c = '\r' then ['\\', 'r']
  else if c = '\t' then ['\\', 't']
  else if n = 8 then ['\\', 'b']
  else if n = 12 then ['\\', 'f']
  else if n < 0x20 then unitEscape n
  else if ascii ∧ 0x7e < n then
    if n < 0x10000 then unitEscape n
    else unitEscape (0xd800 + (n - 0x10000) / 0x400) ++ unitEscape (0xdc00 + (n - 0x10000) % 0x400)
  else [c]

/-- A string in quotes. -/
def quoted (ascii : Bool) (cs : List Char) : List Char :=
  '"' :: (cs.flatMap (escapeChar ascii) ++ ['"'])

/-- The line break before an item at a level, in an indented style. -/
def Style.lineBreak (s : Style) (level : Nat) : List Char :=
  match s.indent with
  | some width => '\n' :: List.replicate (width * level) ' '
  | none => []

mutual

/-- The document as characters, at a level of nesting. -/
def render (s : Style) (level : Nat) : Json → List Char
  | .null => "null".toList
  | .bool b => if b then "true".toList else "false".toList
  | .int i => intText i
  | .double d => s.numbers.doubleText d
  | .str t => quoted s.ascii t.toList
  | .arr [] => ['[', ']']
  | .arr (j :: js) =>
    '[' :: (s.lineBreak (level + 1) ++ (render s (level + 1) j ++
      (renderItems s (level + 1) js ++ (s.lineBreak level ++ [']']))))
  | .obj [] => ['{', '}']
  | .obj ((k, j) :: fs) =>
    '{' :: (s.lineBreak (level + 1) ++ (quoted s.ascii k.toList ++ (s.colon ++
      (render s (level + 1) j ++ (renderFields s (level + 1) fs ++ (s.lineBreak level ++ ['}']))))))

/-- The items after the first, each with its separator. -/
def renderItems (s : Style) (level : Nat) : List Json → List Char
  | [] => []
  | j :: js => s.item ++ (s.lineBreak level ++ (render s level j ++ renderItems s level js))

/-- The fields after the first, each with its separator. -/
def renderFields (s : Style) (level : Nat) : List (String × Json) → List Char
  | [] => []
  | (k, j) :: fs =>
    s.item ++ (s.lineBreak level ++ (quoted s.ascii k.toList ++ (s.colon ++
      (render s level j ++ renderFields s level fs))))

end

mutual

/-- **Whether every integer in a document has a text**: integers with more digits
than a limit have none. -/
def integersWithin (limit : Nat) : Json → Bool
  | .int i => decide ((natDigits i.natAbs).length ≤ limit)
  | .arr items => integersWithinItems limit items
  | .obj fields => integersWithinFields limit fields
  | _ => true

/-- Whether every integer in the items has a text. -/
def integersWithinItems (limit : Nat) : List Json → Bool
  | [] => true
  | j :: js => integersWithin limit j && integersWithinItems limit js

/-- Whether every integer in the fields has a text. -/
def integersWithinFields (limit : Nat) : List (String × Json) → Bool
  | [] => true
  | (_, j) :: fs => integersWithin limit j && integersWithinFields limit fs

end

/-- **The text of a document** in a style. -/
def text (s : Style) (j : Json) : String := String.ofList (render s 0 j)

/-- An ASCII style writes a character beyond `0xffff` as two escapes. -/
example : (Json.str "🎉").text .compactAscii = "\"\\ud83c\\udf89\"" := by decide +kernel

end Json

end Covenant
