import Covenant.Json.Basic

/-!
# Reading JSON

The reader accepts the JSON grammar, the names `NaN`, `Infinity` and
`-Infinity` for doubles, and nothing else. `Json.readRaw?` keeps the fields of
an object as they stand; with `Json.read?` a repeated key keeps its first
place and its last value.

Nesting is bounded by a limit: a document whose depth (`Json.depth`) exceeds
it is refused. The recursion runs on fuel computed from the length of the
text, which the wrappers hide.
-/

namespace Covenant

namespace Json

/-- The blanks between tokens. -/
def isGap (c : Char) : Bool := c == ' ' || c == '\t' || c == '\n' || c == '\r'

/-- Drops the blanks before a token. -/
def skipGap (cs : List Char) : List Char := cs.dropWhile isGap

/-- The value of a hexadecimal digit. -/
def hexValue? (c : Char) : Option Nat :=
  let n := c.toNat
  if 48 ≤ n ∧ n ≤ 57 then some (n - 48)
  else if 97 ≤ n ∧ n ≤ 102 then some (n - 87)
  else if 65 ≤ n ∧ n ≤ 70 then some (n - 55)
  else none

/-- The code unit of four hexadecimal digits. -/
def unit? (a b c d : Char) : Option Nat :=
  match hexValue? a, hexValue? b, hexValue? c, hexValue? d with
  | some a, some b, some c, some d => some (((a * 16 + b) * 16 + c) * 16 + d)
  | _, _, _, _ => none

/-- Whether a code unit is the first or the second half of a pair. -/
def isHighHalf (n : Nat) : Bool := decide (0xd800 ≤ n) && decide (n < 0xdc00)

@[inherit_doc isHighHalf]
def isLowHalf (n : Nat) : Bool := decide (0xdc00 ≤ n) && decide (n < 0xe000)

/-- The character of a one-letter escape. -/
def shortEscape? (c : Char) : Option Char :=
  if c = '"' then some '"'
  else if c = '\\' then some '\\'
  else if c = '/' then some '/'
  else if c = 'n' then some '\n'
  else if c = 'r' then some '\r'
  else if c = 't' then some '\t'
  else if c = 'b' then some (Char.ofNat 8)
  else if c = 'f' then some (Char.ofNat 12)
  else none

/-- **The rest of a string**, after its opening quote: its characters and
what follows the closing quote. Control characters have to be escaped, and
halves of a pair have to come in pairs. -/
def readString? : List Char → Option (List Char × List Char)
  | [] => none
  | '"' :: rest => some ([], rest)
  | '\\' :: 'u' :: a :: b :: c :: d :: rest =>
    match unit? a b c d with
    | none => none
    | some n =>
      if isHighHalf n then
        match rest with
        | '\\' :: 'u' :: e :: f :: g :: h :: rest =>
          match unit? e f g h with
          | none => none
          | some m =>
            if isLowHalf m then
              match readString? rest with
              | some (cs, rest) =>
                some (Char.ofNat (0x10000 + (n - 0xd800) * 0x400 + (m - 0xdc00)) :: cs, rest)
              | none => none
            else none
        | _ => none
      else if isLowHalf n then none
      else
        match readString? rest with
        | some (cs, rest) => some (Char.ofNat n :: cs, rest)
        | none => none
  | '\\' :: c :: rest =>
    match shortEscape? c with
    | none => none
    | some e =>
      match readString? rest with
      | some (cs, rest) => some (e :: cs, rest)
      | none => none
  | c :: rest =>
    if c = '\\' ∨ c.toNat < 0x20 then none
    else
      match readString? rest with
      | some (cs, rest) => some (c :: cs, rest)
      | none => none

/-- The digits at the front, and what follows them. -/
def spanDigits (cs : List Char) : List Char × List Char :=
  (cs.takeWhile Char.isDigit, cs.dropWhile Char.isDigit)

/-- The number that digits denote. -/
def digitsValue (ds : List Char) : Nat := ds.foldl (fun n c => n * 10 + (c.toNat - 48)) 0

/-- A fraction: its digits and what follows, where there is a point. A point
without digits is refused. -/
def readFraction? (cs : List Char) : Option (Option (List Char) × List Char) :=
  match cs with
  | '.' :: rest =>
    let (ds, rest) := spanDigits rest
    if ds.isEmpty then none else some (some ds, rest)
  | _ => some (none, cs)

/-- An exponent: its value and what follows, where there is one. An exponent
without digits is refused. -/
def readExponent? (cs : List Char) : Option (Option Int × List Char) :=
  let digits (negative : Bool) (cs : List Char) : Option (Option Int × List Char) :=
    let (ds, rest) := spanDigits cs
    if ds.isEmpty then none
    else
      let n : Int := digitsValue ds
      some (some (if negative then -n else n), rest)
  match cs with
  | c :: rest =>
    if c = 'e' ∨ c = 'E' then
      match rest with
      | '-' :: rest => digits true rest
      | '+' :: rest => digits false rest
      | _ => digits false rest
    else some (none, cs)
  | [] => some (none, cs)

/-- The most digits of an integer. -/
def integerDigitLimit : Nat := 4300

/-- **A number**, after its sign: digits without a leading zero, then
possibly a fraction and an exponent. With neither it is an integer, which may
not be longer than the limit. -/
def readNumber? (negative : Bool) (cs : List Char) : Option (Json × List Char) :=
  let (whole, rest) := spanDigits cs
  if whole.isEmpty ∨ (whole.head? = some '0' ∧ 1 < whole.length) then none
  else
    match readFraction? rest with
    | none => none
    | some (fraction, rest) =>
      match readExponent? rest with
      | none => none
      | some (exponent, rest) =>
        match fraction, exponent with
        | none, none =>
          let n : Int := digitsValue whole
          if integerDigitLimit < whole.length then none
          else some (.int (if negative then -n else n), rest)
        | _, _ =>
          let places := (fraction.getD []).length
          let digits := digitsValue (whole ++ fraction.getD [])
          some (.double (.ofDecimal negative digits (exponent.getD 0 - places)), rest)

/-- What follows a word at the front. -/
def afterWord? (word : String) (cs : List Char) : Option (List Char) :=
  let w := word.toList
  if w.isPrefixOf cs then some (cs.drop w.length) else none

/-- A scalar other than a string. -/
def readScalar? (cs : List Char) : Option (Json × List Char) :=
  match cs with
  | 'n' :: _ => (afterWord? "null" cs).map (Json.null, ·)
  | 't' :: _ => (afterWord? "true" cs).map (Json.bool true, ·)
  | 'f' :: _ => (afterWord? "false" cs).map (Json.bool false, ·)
  | 'N' :: _ => (afterWord? "NaN" cs).map (Json.double .nan, ·)
  | 'I' :: _ => (afterWord? "Infinity" cs).map (Json.double (.infinite false), ·)
  | '-' :: 'I' :: _ => (afterWord? "-Infinity" cs).map (Json.double (.infinite true), ·)
  | '-' :: rest => readNumber? true rest
  | _ => readNumber? false cs

mutual

/-- A document at the front, after blanks; `room` is how many levels of
nesting may still be opened. -/
def readValue? : (fuel room : Nat) → List Char → Option (Json × List Char)
  | 0, _, _ => none
  | fuel + 1, room, cs =>
    match skipGap cs with
    | '"' :: rest => (readString? rest).map fun (s, rest) => (.str (String.ofList s), rest)
    | '[' :: rest =>
      match skipGap rest with
      | ']' :: rest => some (.arr [], rest)
      | _ =>
        match room with
        | 0 => none
        | room + 1 => (readItems? fuel room rest).map fun (js, rest) => (.arr js, rest)
    | '{' :: rest =>
      match skipGap rest with
      | '}' :: rest => some (.obj [], rest)
      | _ =>
        match room with
        | 0 => none
        | room + 1 =>
          (readFields? fuel room rest).map fun (fs, rest) => (.obj fs, rest)
    | cs => readScalar? cs

/-- The items of an array up to its closing bracket. -/
def readItems? : (fuel room : Nat) → List Char → Option (List Json × List Char)
  | 0, _, _ => none
  | fuel + 1, room, cs =>
    match readValue? fuel room cs with
    | none => none
    | some (j, rest) =>
      match skipGap rest with
      | ']' :: rest => some ([j], rest)
      | ',' :: rest => (readItems? fuel room rest).map fun (js, rest) => (j :: js, rest)
      | _ => none

/-- The fields of an object up to its closing brace. -/
def readFields? : (fuel room : Nat) → List Char → Option (List (String × Json) × List Char)
  | 0, _, _ => none
  | fuel + 1, room, cs =>
    match skipGap cs with
    | '"' :: rest =>
      match readString? rest with
      | none => none
      | some (k, rest) =>
        match skipGap rest with
        | ':' :: rest =>
          match readValue? fuel room rest with
          | none => none
          | some (j, rest) =>
            match skipGap rest with
            | '}' :: rest => some ([(String.ofList k, j)], rest)
            | ',' :: rest =>
              (readFields? fuel room rest).map fun (fs, rest) => ((String.ofList k, j) :: fs, rest)
            | _ => none
        | _ => none
    | _ => none

end

/-- How deep a document may be nested. -/
def depthLimit : Nat := 200

/-- The document that characters are, with its fields as they stand, read with
a limit on its depth. -/
def readRawChars? (limit : Nat) (cs : List Char) : Option Json :=
  match readValue? (2 * cs.length + 2) limit cs with
  | some (j, rest) => if (skipGap rest).isEmpty then some j else none
  | none => none

/-- The document that characters are, read with a limit on its depth. -/
def readChars? (limit : Nat) (cs : List Char) : Option Json := (readRawChars? limit cs).map merged

/-- The document that a text is, with its fields as they stand. -/
def readRaw? (s : String) : Option Json := readRawChars? depthLimit s.toList

/-- **The document that a text is**, if it is one. -/
def read? (s : String) : Option Json := (readRaw? s).map merged

/-- A repeated key keeps its place and takes the last value. -/
example : (read? "\x7b\"a\": 1, \"b\": null, \"a\": [2]\x7d").map (fun j => j.field? "b" matches some .null)
    = some true := by decide +kernel

end Json

end Covenant
