import Covenant.Failure
import Covenant.Number.Notation

/-!
# Message templates

The message of a log record may be a template with directives, each of which
takes the next argument: `%s` shows it, `%r` shows it as a literal, `%d`,
`%x`, `%e` and their kin want a number, and `%%` stands for a percent sign.

A directive is, in this order: a percent sign; a name in parentheses, which
addresses the entry of a dictionary; flags; a least width; a point and a
precision; a letter for the size, which says nothing; and the letter of the
conversion. A star in place of width or precision takes an argument for it.

The arguments are a `Supply`: those of a tuple, which directives take in
order and all of which have to be taken, or a single value. A dictionary may be
addressed by names, and neither it nor what else is looked into by position
has to be taken.
-/

namespace Covenant

namespace Template

/-! ## Supplies -/

/-- **What the names of directives address.** -/
inductive Addressed where
  /-- Nothing. -/
  | nothing
  /-- Places in a row, which have no names. -/
  | places
  /-- The entries of a dictionary. -/
  | entries (es : List (Key × Value))

/-- **What directives take their arguments from.** -/
structure Supply where
  /-- The arguments that have not been taken. -/
  rest : List Value
  /-- What names address. -/
  addressed : Addressed

namespace Supply

/-- The supply of a value. -/
def ofValue : Value → Supply
  | .tuple vs => ⟨vs, .nothing⟩
  | .dict es => ⟨[.dict es], .entries es⟩
  | .list vs => ⟨[.list vs], .places⟩
  | .bytes bs => ⟨[.bytes bs], .places⟩
  | v => ⟨[v], .nothing⟩

/-- Takes the next argument. -/
def take (s : Supply) : Except Failure (Value × Supply) :=
  match s.rest with
  | v :: rest => .ok (v, { s with rest := rest })
  | [] => .error .mistyped

/-- Turns to the entry of a name: it is the only argument from then on. -/
def turnTo (s : Supply) (name : String) : Except Failure Supply :=
  match s.addressed with
  | .entries es =>
    match Entries.get? es (.str name) with
    | some v => .ok { s with rest := [v] }
    | none => .error .entryMissing
  | _ => .error .mistyped

/-- Whether a name may stand in a directive; it may be found to address
nothing after all. -/
def takesNames (s : Supply) : Bool :=
  match s.addressed with
  | .nothing => false
  | _ => true

/-- Whether nothing is left that had to be taken. -/
def isSpent (s : Supply) : Bool := s.rest.isEmpty || s.takesNames

end Supply

/-! ## Directives -/

/-- **What a directive asks for** besides the conversion. -/
structure Directive where
  /-- The flags. -/
  flags : List Char
  /-- The least width. -/
  width : Nat
  /-- The precision. -/
  precision : Option Nat
  /-- The letter of the conversion. -/
  letter : Char

namespace Directive

/-- Whether the text is put to the left. -/
def isLeft (d : Directive) : Bool := d.flags.contains '-'

/-- Whether the alternative form is asked for. -/
def isAlternative (d : Directive) : Bool := d.flags.contains '#'

end Directive

/-- The name in parentheses at the front; those within it pair up. -/
def spanName : (depth : Nat) → List Char → Option (List Char × List Char)
  | _, [] => none
  | depth, c :: cs =>
    if c = ')' then
      match depth with
      | 0 => some ([], cs)
      | depth + 1 => (spanName depth cs).map fun (name, rest) => (c :: name, rest)
    else (spanName (if c = '(' then depth + 1 else depth) cs).map fun (name, rest) => (c :: name, rest)

/-- A name, if the directive has one. -/
def readName (cs : List Char) (s : Supply) : Except Failure (List Char × Supply) :=
  match cs with
  | '(' :: rest =>
    if !s.takesNames then .error .mistyped
    else
      match spanName 0 rest with
      | none => .error .misvalued
      | some (name, rest) => (s.turnTo (String.ofList name)).map fun s => (rest, s)
  | _ => .ok (cs, s)

/-- The greatest width. -/
def greatestWidth : Nat := Nat.pow 2 63 - 1

/-- The greatest precision. -/
def greatestPrecision : Nat := Nat.pow 2 31 - 1

/-- A number or a star at the front; a star takes the number from the
arguments. Neither may go beyond a greatest one. -/
def readSize (greatest : Nat) (cs : List Char) (s : Supply) :
    Except Failure (Option Int × List Char × Supply) :=
  let within (i : Int) (rest : List Char) (s : Supply) :
      Except Failure (Option Int × List Char × Supply) :=
    if -(greatest : Int) - 1 ≤ i ∧ i ≤ greatest then .ok (some i, rest, s) else .error .outOfRange
  match cs with
  | '*' :: rest =>
    match s.take with
    | .error e => .error e
    | .ok (.int i, s) => within i rest s
    | .ok (.bool b, s) => within (if b then 1 else 0) rest s
    | .ok _ => .error .mistyped
  | _ =>
    let (ds, rest) := Json.spanDigits cs
    let n := Json.digitsValue ds
    if greatest < n then .error .misvalued
    else .ok (if ds.isEmpty then none else some n, rest, s)

/-- A precision, if the directive has one; a point alone asks for none, and
less than none is none. -/
def readPrecision (cs : List Char) (s : Supply) : Except Failure (Option Nat × List Char × Supply) :=
  match cs with
  | '.' :: rest =>
    (readSize greatestPrecision rest s).map fun (n, rest, s) => (some (n.getD 0).toNat, rest, s)
  | _ => .ok (none, cs, s)

/-- The text without a letter for the size. -/
def skipSize : List Char → List Char
  | c :: rest => if "hlL".toList.contains c then rest else c :: rest
  | [] => []

/-- **The directive after a percent sign**, what follows it, and the supply. A
width less than zero puts the text to the left. -/
def readDirective (cs : List Char) (s : Supply) : Except Failure (Directive × List Char × Supply) := do
  let (cs, s) ← readName cs s
  let flags := cs.takeWhile "-+ #0".toList.contains
  let (width, cs, s) ← readSize greatestWidth (cs.drop flags.length) s
  let flags := if width.getD 0 < 0 then '-' :: flags else flags
  let (precision, cs, s) ← readPrecision cs s
  match skipSize cs with
  | letter :: rest => return (⟨flags, (width.getD 0).natAbs, precision, letter⟩, rest, s)
  | [] => .error .misvalued

/-! ## Conversions -/

/-- How many characters fit into the memory. -/
def roomLimit : Nat := Nat.pow 2 26

/-- The text, if so many characters fit into the memory. -/
def ifRoom (size : Nat) (made : Unit → List Char) : Except Failure (List Char) :=
  if roomLimit < size then .error .outOfMemory else .ok (made ())

/-- Pads a text with blanks to the least width. -/
def pad (d : Directive) (cs : List Char) : List Char :=
  let missing := List.replicate (d.width - cs.length) ' '
  if d.isLeft then cs ++ missing else missing ++ cs

/-- A text cut to the precision. -/
def cut (d : Directive) (cs : List Char) : List Char :=
  match d.precision with
  | some n => cs.take n
  | none => cs

/-- What stands before a number: its sign, or what the flags put in its
place. -/
def signOf (d : Directive) (negative : Bool) : List Char :=
  if negative then ['-']
  else if d.flags.contains '+' then ['+']
  else if d.flags.contains ' ' then [' ']
  else []

/-- A number with its sign and a mark of its base, padded with blanks, or with
zeros behind sign and mark if asked to. -/
def padNumber (d : Directive) (negative : Bool) (mark digits : List Char) : List Char :=
  let front := signOf d negative ++ mark
  if d.flags.contains '0' && !d.isLeft then
    front ++ NumberLayout.padZeros (d.width - front.length) digits
  else pad d (front ++ digits)

/-- The integer that a value counts as. -/
def integer? : Value → Option Int
  | .int i => some i
  | .bool b => some (if b then 1 else 0)
  | _ => none

/-- The integer of a value, toward zero. -/
def truncated : Value → Except Failure Int
  | .double .nan => .error .misvalued
  | .double x =>
    match x.truncate? with
    | some i => .ok i
    | none => .error .outOfRange
  | v =>
    match integer? v with
    | some i => .ok i
    | none => .error .mistyped

/-- The integer of a value that has to be one. -/
def exactly (v : Value) : Except Failure Int :=
  match integer? v with
  | some i => .ok i
  | none => .error .mistyped

/-- An integer in a base, with at least as many digits as the precision,
which may not come too near to the greatest one. -/
def whole (d : Directive) (base : Nat) (mark : Char) (i : Int) : Except Failure (List Char) :=
  let least := d.precision.getD 0
  if greatestPrecision - 3 < least then .error .outOfRange
  else
    ifRoom least fun _ =>
      padNumber d (i < 0) (if d.isAlternative && base != 10 then ['0', mark] else [])
        (NumberLayout.padZeros least (Nat.toDigits base i.natAbs))

/-- The double of a value. -/
def double (v : Value) : Except Failure Double :=
  match v with
  | .double x => .ok x
  | v =>
    match integer? v with
    | none => .error .mistyped
    | some i =>
      match Double.ofInt i with
      | .infinite _ => .error .outOfRange
      | x => .ok x

/-- A double in one of the notations, with six digits unless the precision
says otherwise. -/
def measured (d : Directive) (write : Nat → Bool → Nat → Int → List Char) (x : Double) :
    Except Failure (List Char) :=
  match x with
  | .nan => .ok (padNumber d false [] "nan".toList)
  | .infinite negative => .ok (padNumber d negative [] "inf".toList)
  | .finite negative m e =>
    let places := d.precision.getD 6
    ifRoom places fun _ => padNumber d negative [] (write places d.isAlternative m e)

/-- More decimal digits than any double has. -/
def allDigits : Nat := 1100

/-- General notation, which drops the zeros at the end unless the alternative
form is asked for: more digits than a double has make no difference. -/
def general (d : Directive) (x : Double) : Except Failure (List Char) :=
  measured (if d.isAlternative then d else { d with precision := d.precision.map (min allDigits) })
    Notation.general x

/-- A literal in which everything beyond ASCII is escaped. -/
def asciiLiteral (v : Value) : List Char :=
  v.literal.flatMap fun c =>
    let n := c.toNat
    if n < 0x80 then [c]
    else if n < 0x100 then '\\' :: 'x' :: Text.hexPadded 2 n
    else if n < 0x10000 then '\\' :: 'u' :: Text.hexPadded 4 n
    else '\\' :: 'U' :: Text.hexPadded 8 n

/-- A single character: itself, or told by its number. -/
def character : Value → Except Failure Char
  | .str s =>
    match s.toList with
    | [c] => .ok c
    | _ => .error .mistyped
  | v =>
    match integer? v with
    | none => .error .mistyped
    | some i => if 0 ≤ i ∧ i < 0x110000 then .ok (Char.ofNat i.toNat) else .error .outOfRange

/-- A value as a directive asks for it, whatever its width. -/
def converted (d : Directive) (v : Value) : Except Failure (List Char) :=
  let upper (cs : List Char) : List Char := cs.map Char.toUpper
  match d.letter with
  | 's' => .ok (pad d (cut d v.displayChars))
  | 'r' => .ok (pad d (cut d v.literal))
  | 'a' => .ok (pad d (cut d (asciiLiteral v)))
  | 'd' | 'i' | 'u' => do whole d 10 ' ' (← truncated v)
  | 'o' => do whole d 8 'o' (← exactly v)
  | 'x' => do whole d 16 'x' (← exactly v)
  | 'X' => do return upper (← whole d 16 'x' (← exactly v))
  | 'e' => do measured d Notation.scientific (← double v)
  | 'E' => do return upper (← measured d Notation.scientific (← double v))
  | 'f' => do measured d Notation.fixed (← double v)
  | 'F' => do return upper (← measured d Notation.fixed (← double v))
  | 'g' => do general d (← double v)
  | 'G' => do return upper (← general d (← double v))
  | 'c' => (character v).map fun c => pad d [c]
  | _ => .error .misvalued

/-- **A value as a directive asks for it.** -/
def convert (d : Directive) (v : Value) : Except Failure (List Char) :=
  if roomLimit < d.width then do
    let _ ← converted { d with width := 0 } v
    .error .outOfMemory
  else converted d v

/-! ## Filling -/

/-- Fills a template from the front; `fuel` bounds its length. -/
def fillFrom : (fuel : Nat) → Supply → List Char → Except Failure (List Char)
  | _, s, [] => if s.isSpent then .ok [] else .error .mistyped
  | 0, _, _ => .ok []
  | fuel + 1, s, '%' :: '%' :: rest => return '%' :: (← fillFrom fuel s rest)
  | fuel + 1, s, '%' :: rest => do
    let (d, rest, s) ← readDirective rest s
    let (v, s) ← s.take
    let cs ← convert d v
    return cs ++ (← fillFrom fuel s rest)
  | fuel + 1, s, c :: rest => return c :: (← fillFrom fuel s rest)

/-- **A template filled with arguments**: those of a tuple, or a single value.
Where nothing is given it stands for itself. -/
def fill (template : String) (args : Value) : Except Failure String :=
  if !args.isTruthy then .ok template
  else (fillFrom template.length (.ofValue args) template.toList).map String.ofList

/-- A directive for numbers refuses a text. -/
example : ((fill "%d" (.str "x")).toOption, (fill "%s: 100%%" (.int 5)).toOption)
    = (none, some "5: 100%") := by decide +kernel

/-- Zeros go between the mark of the base and the digits. -/
example : (fill "%#06x|%-5d|%+.3d" (.tuple [.int 255, .int 42, .int 7])).toOption
    = some "0x00ff|42   |+007" := by decide +kernel

/-- A list is one argument, and need not be taken. -/
example : ((fill "%s" (.list [.int 1])).toOption, (fill "x" (.list [.int 1])).toOption,
    (fill "x" (.int 1)).toOption) = (some "[1]", some "x", none) := by decide +kernel

end Template

end Covenant
