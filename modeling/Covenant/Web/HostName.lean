import Covenant.Text.Lowercase
import Covenant.Text.LabelCharacter
import Covenant.Text.Percent

/-!
# Host names

A host is a number of four parts, a number in brackets, or a name. Numbers
have to be well formed. A name in ASCII is written in lowercase; in any other
name every label beyond ASCII gets a form in ASCII, in which the other
characters are told by their order and their distance from each other.
-/

namespace Covenant

/-- **What is wrong with a host.** -/
inductive HostFault where
  /-- It looks like a number of four parts and is none. -/
  | fourParts
  /-- What is in brackets is no number. -/
  | bracketed
  /-- A label is none. -/
  | label
deriving DecidableEq

namespace HostName

/-! ## Numbers -/

/-- The states of looking for four runs of digits with one character between
them that are left after a character: an even one waits for the first digit
of a run, an odd one is inside of a run. -/
def fourRunsAfter (states : List Nat) (c : Char) : List Nat :=
  (states.flatMap fun s =>
    if s % 2 = 0 then (if c.isDigit then [s + 1] else [])
    else (if c.isDigit then [s] else []) ++ (if s < 7 then [s + 1] else [])).eraseDups

/-- Whether a text is four runs of digits with any one character between
them. -/
def looksFourPart (cs : List Char) : Bool := (cs.foldl fourRunsAfter [0]).contains 7

/-- Whether a text is a number from 0 to 255 without leading zeros. -/
def isOctet (cs : List Char) : Bool :=
  !cs.isEmpty && cs.all Char.isDigit && decide (cs.length ≤ 3) && (cs.head? != some '0' || cs == ['0'])
    && decide (Json.digitsValue cs ≤ 255)

/-- Whether a text is a number of four parts. -/
def isFourPart (cs : List Char) : Bool :=
  let parts := cs.splitOn '.'
  parts.length == 4 && parts.all isOctet

/-- Whether a text is a part of a number in brackets. -/
def isGroup (cs : List Char) : Bool :=
  !cs.isEmpty && decide (cs.length ≤ 4) && cs.all Text.isHexDigit

/-- Whether the groups between colons are those of a number: eight, or fewer
with one gap in place of the missing ones. -/
def areGroups (groups : List (List Char)) : Bool :=
  let inner := (groups.drop 1).dropLast
  let gaps := (inner.zipIdx.filter fun g => g.1.isEmpty).map fun g => g.2 + 1
  match gaps with
  | [] => groups.length == 8 && groups.all isGroup
  | [i] =>
    let before := groups.take i
    let after := groups.drop (i + 1)
    let before := if before.head? == some [] then before.drop 1 else before
    let after := if after.getLast? == some [] then after.dropLast else after
    before.all isGroup && after.all isGroup && decide (before.length + after.length < 8)
      && (groups.head? != some [] || i == 1)
      && (groups.getLast? != some [] || i + 2 == groups.length)
  | _ => false

/-- Whether a text is a number as it stands in brackets: groups, of which the
last two may be written as a number of four parts, and possibly a zone. -/
def isBracketed (cs : List Char) : Bool :=
  let number := cs.takeWhile (· != '%')
  let zone := cs.drop number.length
  let groups := number.splitOn ':'
  let last := groups.getLast?.getD []
  (zone.isEmpty || (1 < zone.length && !(zone.drop 1).contains '%')) && !cs.contains '/'
    && 3 ≤ groups.length
    && (if last.contains '.' then
          isFourPart last && decide (groups.length ≤ 8) && areGroups (groups.dropLast ++ [['0'], ['0']])
        else decide (groups.length ≤ 9) && areGroups groups)

/-! ## Labels -/

/-- Whether a code point lies in one of some ranges. -/
def within (ranges : List (Nat × Nat)) (c : Char) : Bool :=
  ranges.any fun r => decide (r.1 ≤ c.toNat) && decide (c.toNat ≤ r.2)

/-- Greek letters. -/
def isGreek (c : Char) : Bool := within [(0x370, 0x3ff), (0x1f00, 0x1fff)] c

/-- Hebrew letters. -/
def isHebrew (c : Char) : Bool := within [(0x591, 0x5f4)] c

/-- Letters of Japanese and Chinese. -/
def isEastAsian (c : Char) : Bool :=
  within [(0x3005, 0x3007), (0x3021, 0x3029), (0x3041, 0x3096), (0x309d, 0x309f), (0x30a1, 0x30fa),
    (0x30fd, 0x30ff), (0x3400, 0x4dbf), (0x4e00, 0x9fff), (0xf900, 0xfad9), (0x20000, 0x323af)] c

/-- Letters that are written from right to left. -/
def isRightToLeft (c : Char) : Bool :=
  within [(0x590, 0x65f), (0x66a, 0x6ef), (0x6fa, 0x8ff), (0xfb1d, 0xfdff), (0xfe70, 0xfeff),
    (0x10800, 0x10fff), (0x1e800, 0x1efff)] c

/-- Digits that are used with letters written from right to left only. -/
def isArabicDigit (c : Char) : Bool := within [(0x660, 0x669)] c

/-- Digits that are used with all letters. -/
def isCommonDigit (c : Char) : Bool := c.isDigit || within [(0x6f0, 0x6f9)] c

/-- Whether a character that is fit for some labels only is fit for this one,
after a character and before others. -/
def fitsContext (label : List Char) (before : Option Char) (c : Char) (after : List Char) : Bool :=
  let n := c.toNat
  if n = 0xb7 then before == some 'l' && after.head? == some 'l'
  else if n = 0x375 then after.head?.any isGreek
  else if n = 0x5f3 ∨ n = 0x5f4 then before.any isHebrew
  else if n = 0x30fb then label.any isEastAsian
  else if isArabicDigit c then !label.any (within [(0x6f0, 0x6f9)])
  else if 0x6f0 ≤ n ∧ n ≤ 0x6f9 then !label.any isArabicDigit
  else false

/-- Letters that make one letter with a mark, by the mark. -/
def composing : List (Nat × String) := [
  (0x300, "aeinouwy"), (0x301, "acegiklmnoprsuwyz"), (0x302, "aceghijosuwyz"), (0x303, "aeinouvy"),
  (0x304, "aegiouy"), (0x306, "aegiou"), (0x307, "abcdefghmnoprstwxyz"), (0x308, "aehiotuwxy"),
  (0x309, "aeiouy"), (0x30a, "auwy"), (0x30b, "ou"), (0x30c, "acdeghijklnorstuz"),
  (0x30f, "aeioru"), (0x311, "aeioru"), (0x31b, "ou"), (0x323, "abdehiklmnorstuvwyz"),
  (0x324, "u"), (0x325, "a"), (0x326, "st"), (0x327, "cdeghklnrst"), (0x328, "aeiou"),
  (0x32d, "delntu"), (0x32e, "h"), (0x330, "eiu"), (0x331, "bdhklnrtz"), (0x340, "aeinouwy"),
  (0x341, "acegiklmnoprsuwyz"), (0x344, "iu")]

/-- Whether a letter and the mark after it should have been one letter. -/
def composes (before : Option Char) (mark : Char) : Bool :=
  match before, composing.lookup mark.toNat with
  | some c, some letters => letters.toList.contains c
  | _, _ => false

/-- Whether every character is fit for the label, read from the front. -/
def fits (label : List Char) : (before : Option Char) → List Char → Bool
  | _, [] => true
  | before, c :: after =>
    (Text.isLabelChar c || fitsContext label before c after) && !composes before c
      && fits label (some c) after

/-- Whether the direction of writing does not change within a label. -/
def hasOneDirection (label : List Char) : Bool :=
  if label.any fun c => isRightToLeft c || isArabicDigit c then
    label.all (fun c => isRightToLeft c || isArabicDigit c || isCommonDigit c || c == '-')
      && label.head?.any isRightToLeft && !(label.any isArabicDigit && label.any isCommonDigit)
  else true

/-- Whether hyphens stand where they may: neither at an end nor as a pair in
the third place. -/
def hasGoodHyphens (label : List Char) : Bool :=
  label.head? != some '-' && label.getLast? != some '-' && (label.drop 2).take 2 != ['-', '-']

/-- **Whether a text is a label.** -/
def isLabel (label : List Char) : Bool :=
  !label.isEmpty && hasGoodHyphens label && !within [(0x300, 0x36f)] (label.headD 'a')
    && fits label none label && hasOneDirection label

/-! ## Labels in ASCII -/

/-- A digit below thirty-six. -/
def digit (n : Nat) : Char := Char.ofNat (if n < 26 then 97 + n else 22 + n)

/-- How much a digit in a place tells, with the present bias. -/
def threshold (place bias : Nat) : Nat :=
  if place ≤ bias then 1 else if bias + 26 ≤ place then 26 else place - bias

/-- The digits of a number; `fuel` bounds how many there are. -/
def digitsOf (bias : Nat) : (fuel place n : Nat) → List Char
  | 0, _, _ => []
  | fuel + 1, place, n =>
    let t := threshold place bias
    if n < t then [digit n]
    else digit (t + (n - t) % (36 - t)) :: digitsOf bias fuel (place + 36) ((n - t) / (36 - t))

/-- Scales a distance down until it is small; `fuel` bounds the steps. -/
def scaled : (fuel steps n : Nat) → Nat
  | 0, steps, n => steps + 36 * n / (n + 38)
  | fuel + 1, steps, n =>
    if 455 < n then scaled fuel (steps + 36) (n / 35) else steps + 36 * n / (n + 38)

/-- The bias after a distance. -/
def adapted (distance count : Nat) (isFirst : Bool) : Nat :=
  let d := if isFirst then distance / 700 else distance / 2
  scaled d 0 (d + d / count)

/-- **How far the writing of a label is.** -/
structure Writing where
  /-- What is written. -/
  out : List Char
  /-- The distance since the last character that was written. -/
  distance : Nat
  /-- The bias. -/
  bias : Nat
  /-- How many characters are written. -/
  count : Nat

/-- Passes a character of the label in the round of a code point. -/
def pass (basic point : Nat) (w : Writing) (c : Char) : Writing :=
  if c.toNat < point then { w with distance := w.distance + 1 }
  else if c.toNat = point then
    ⟨w.out ++ digitsOf w.bias (w.distance + 1) 36 w.distance, 0,
      adapted w.distance (w.count + 1) (w.count == basic), w.count + 1⟩
  else w

/-- The rounds of the code points of a label, in order. -/
def rounds (label : List Char) (basic : Nat) : (least : Nat) → List Nat → Writing → Writing
  | _, [], w => w
  | least, point :: points, w =>
    let w := { w with distance := w.distance + (point - least) * (w.count + 1) }
    let w := label.foldl (pass basic point) w
    rounds label basic (point + 1) points { w with distance := w.distance + 1 }

/-- A label in ASCII, without the mark in front. -/
def asciiForm (label : List Char) : List Char :=
  let basic := label.filter fun c => c.toNat < 0x80
  let points := ((label.filter fun c => 0x80 ≤ c.toNat).map Char.toNat).eraseDups
  let points := points.mergeSort (· ≤ ·)
  let w := rounds label basic.length 0x80 points ⟨[], 0, 72, basic.length⟩
  (if basic.isEmpty then [] else basic ++ ['-']) ++ w.out

/-- A label of a name that is not in ASCII as a whole. -/
def labelText? (label : List Char) : Option (List Char) :=
  let mark := "xn--".toList
  let text := if label.all (fun c => c.toNat < 0x80) then label else mark ++ asciiForm label
  if (mark.isPrefixOf label || isLabel label) && decide (text.length ≤ 63) then some text else none

/-- The dots between labels, of all kinds. -/
def isDot (c : Char) : Bool := [0x2e, 0x3002, 0xff0e, 0xff61].contains c.toNat

/-- A name that is not in ASCII, label by label; it may end with a dot. -/
def nameText? (name : List Char) : Option (List Char) :=
  let labels := (name.map fun c => if isDot c then '.' else c).splitOn '.'
  let ends := labels.getLast? == some []
  match (if ends then labels.dropLast else labels).mapM labelText? with
  | some (l :: ls) =>
    let text := List.intercalate ['.'] (l :: ls) ++ (if ends then ['.'] else [])
    if text.length ≤ (if ends then 254 else 253) then some text else none
  | _ => none

/-! ## Hosts -/

/-- The characters of a name in ASCII that are not put into percent form. -/
def isNameChar (c : Char) : Bool := "!$&'()*+,;=\"`\x7b\x7d%|\\".toList.contains c

/-- **The host as it is asked for**; a number in brackets is without them. -/
def text (host : List Char) : Except HostFault (List Char) :=
  if host.isEmpty then .ok []
  else if looksFourPart host then if isFourPart host then .ok host else .error .fourParts
  else if host.head? == some '[' && host.getLast? == some ']' then
    let number := (host.drop 1).dropLast
    if isBracketed number then .ok number else .error .bracketed
  else if host.all (fun c => c.toNat < 0x80) then
    .ok (Text.percentQuoted isNameChar (host.map Char.toLower))
  else
    match nameText? (Text.lower host) with
    | some cs => .ok cs
    | none => .error .label

/-- Names beyond ASCII, and numbers. -/
example : (text "Bücher.test".toList).toOption = some "xn--bcher-kva.test".toList ∧
    (text "[::1]".toList).toOption = some "::1".toList ∧ (text "1.2.3.256".toList).toOption = none ∧
    (text "☃.test".toList).toOption = none := by decide +kernel

end HostName

end Covenant
