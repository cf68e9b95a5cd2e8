import Covenant.Validation.Basic
import Covenant.Text.Blank
import Covenant.Value.Document
import Covenant.Json.Reader

/-!
# Checking scalars

Scalars are read leniently: bytes count as the text they encode, a text that
spells a number counts as the number, truth values count as zero and one, and
a double without a fraction counts as an integer.
-/

namespace Covenant

namespace Validation

/-- A check of a value. -/
abbrev Check (α : Type) := Value → Checked α

/-- A text, or bytes that encode one. -/
def text : Check String
  | .str s => .passed s
  | .bytes bs =>
    match textOfBytes bs with
    | .ok s => .passed s
    | .error _ => .fault .undecodableText
  | _ => .fault .textExpected

/-- The text that a value is or encodes. -/
def spelling? : Value → Option String
  | .str s => some s
  | .bytes bs => (textOfBytes bs).toOption
  | _ => none

/-! ## Integers -/

/-- The spelling without leading zeros, and without underscores between them.
Anything but a digit or a minus sign in front is refused. -/
def dropLeadingZeros? (cs : List Char) : Option (List Char) :=
  match cs with
  | '0' :: rest =>
    let tail := rest.dropWhile fun c => c == '0' || c == '_'
    match tail with
    | [] => some [cs.getLast?.getD '0']
    | '.' :: _ =>
      -- the character before the point stays
      some ((cs.take (cs.length - tail.length)).getLast?.getD '0' :: tail)
    | c :: _ => if c.isDigit || c == '-' then some tail else none
  | c :: _ => if c.isDigit || c == '-' then some cs else none
  | [] => none

/-- The spelling without a point that zeros follow, and only zeros. -/
def dropZeroFraction (cs : List Char) : List Char :=
  let whole := cs.takeWhile (· != '.')
  let fraction := (cs.drop whole.length).drop 1
  if !fraction.isEmpty && fraction.all (· == '0') then whole else cs

/-- Whether two underscores stand side by side. -/
def hasDoubleUnderscore : List Char → Bool
  | '_' :: '_' :: _ => true
  | _ :: cs => hasDoubleUnderscore cs
  | [] => false

/-- The text without single underscores between other characters. -/
def dropUnderscores (cs : List Char) : List Char :=
  if cs.head? == some '_' || cs.getLast? == some '_' || hasDoubleUnderscore cs then cs
  else cs.filter (· != '_')

/-- **The bare spelling of an integer**: without blanks around it, a plus
sign, leading zeros, a fraction of zeros, and underscores. -/
def bareSpelling? (cs : List Char) : Option (List Char) :=
  match Text.trimNumber cs with
  | '+' :: '-' :: _ => none
  | '+' :: cs => unsigned cs
  | cs => unsigned cs
where
  /-- The bare spelling of what has no plus sign. -/
  unsigned (cs : List Char) : Option (List Char) :=
    (dropLeadingZeros? cs).map fun cs =>
      match dropZeroFraction cs with
      | '-' :: digits => '-' :: dropUnderscores digits
      | digits => dropUnderscores digits

/-- The natural number that digits are. -/
def digits? (cs : List Char) : Option Nat :=
  if cs.isEmpty || !cs.all Char.isDigit then none else some (Json.digitsValue cs)

/-- The integer of a bare spelling. -/
def bareInteger? : List Char → Option Int
  | '-' :: cs => (digits? cs).map fun n => -(n : Int)
  | cs => (digits? cs).map Int.ofNat

/-- The integer that a text spells. -/
def spelledInteger? (cs : List Char) : Option Int := (bareSpelling? cs).bind bareInteger?

/-- The first natural number that does not fit into 64 bits with a sign. -/
def wordBound : Nat := Nat.pow 2 63

/-- Whether an integer fits into 64 bits with its sign. -/
def isWord (i : Int) : Bool := decide (-(wordBound : Int) ≤ i) && decide (i < wordBound)

/-- **An integer from a text.** A bare spelling may not be longer than the
limit, unless the integer fits into 64 bits. -/
def integerOfText (s : String) : Checked Int :=
  match bareSpelling? s.toList with
  | none => .fault .integerSpelling
  | some cs =>
    let i := bareInteger? cs
    if Json.integerDigitLimit < cs.length && !(i.any isWord) then .fault .integerTooLarge
    else
      match i with
      | some i => .passed i
      | none => .fault .integerSpelling

/-- **An integer.** -/
def integer : Check Int
  | .int i => .passed i
  | .bool b => .passed (if b then 1 else 0)
  | .double d =>
    if !d.isFinite then .fault .integerNotFinite
    else
      match d.toInt? with
      | none => .fault .integerWithFraction
      | some i => if i.natAbs < wordBound then .passed i else .fault .integerTooLarge
  | .str s => integerOfText s
  | .bytes bs =>
    match textOfBytes bs with
    | .ok s => integerOfText s
    | .error _ => .fault .integerSpelling
  | _ => .fault .integerExpected

/-! ## Truth values -/

/-- The words for a truth value, in any case. -/
def truthOfText (s : String) : Checked Bool :=
  let word := String.ofList (Text.lowerLatin s.toList)
  if ["0", "f", "n", "no", "off", "false"].contains word then .passed false
  else if ["1", "t", "y", "yes", "on", "true"].contains word then .passed true
  else .fault .truthSpelling

/-- The truth value that an integer stands for; one that does not fit into 64
bits is not looked at. -/
def truthOfInteger (i : Int) : Checked Bool :=
  if i = 0 then .passed false
  else if i = 1 then .passed true
  else if isWord i then .fault .truthSpelling
  else .fault .truthExpected

/-- **A truth value.** -/
def truth : Check Bool
  | .bool b => .passed b
  | .int i => truthOfInteger i
  | .double d =>
    match d.toInt? with
    | some i => if i = -(wordBound : Int) then .fault .truthExpected else truthOfInteger i
    | none => .fault .truthExpected
  | .str s => truthOfText s
  | .bytes bs =>
    match textOfBytes bs with
    | .ok s => truthOfText s
    | .error _ => .fault .truthSpelling
  | _ => .fault .truthExpected

/-! ## Numbers -/

/-- The double that a text spells: a decimal in which either side of the point
may be missing, possibly with an exponent, or the name of an infinity or of
what is not a number, in any case. -/
def spelledNumber? (cs : List Char) : Option Double :=
  match cs with
  | '-' :: cs => unsigned true cs
  | '+' :: cs => unsigned false cs
  | cs => unsigned false cs
where
  /-- The double without its sign. -/
  unsigned (negative : Bool) (cs : List Char) : Option Double :=
    let word := String.ofList (Text.lowerLatin cs)
    if word == "inf" || word == "infinity" then some (.infinite negative)
    else if word == "nan" then some .nan
    else
      let (whole, rest) := Json.spanDigits cs
      let (fraction, rest) :=
        match rest with
        | '.' :: rest => Json.spanDigits rest
        | _ => ([], rest)
      if whole.isEmpty && fraction.isEmpty then none
      else
        match Json.readExponent? rest with
        | some (e, []) =>
          some (.ofDecimal negative (Json.digitsValue (whole ++ fraction))
            (e.getD 0 - fraction.length))
        | _ => none

/-- A number from a spelling. -/
def numberOfText (s : String) : Checked Double :=
  match spelledNumber? (Text.trimNumber s.toList) with
  | some d => .passed d
  | none =>
    if s.toList.contains '_' then
      match spelledNumber? (dropUnderscores s.toList) with
      | some d => .passed d
      | none => .fault .numberSpelling
    else .fault .numberSpelling

/-- **A number**, as a double. -/
def number : Check Double
  | .double d => .passed d
  | .int i => if (Double.ofInt i).isFinite then .passed (.ofInt i) else .fault .numberExpected
  | .bool b => .passed (.ofInt (if b then 1 else 0))
  | .str s => numberOfText s
  | .bytes bs =>
    match textOfBytes bs with
    | .ok s => numberOfText s
    | .error _ => .fault .numberSpelling
  | _ => .fault .numberExpected

/-- What counts as an integer's spelling, and what does not. -/
example : spelledInteger? " +1_000.00 ".toList = some 1000 ∧ spelledInteger? "007".toList = some 7 ∧
    spelledInteger? "1__0".toList = none ∧ spelledInteger? "-007".toList = some (-7) ∧
    spelledInteger? "1.5".toList = none ∧ spelledInteger? "0.".toList = none ∧
    spelledInteger? "0-2.0".toList = some (-2) := by
  decide +kernel

end Validation

end Covenant
