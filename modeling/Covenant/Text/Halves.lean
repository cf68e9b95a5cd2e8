import Covenant.Text.Quoted

/-!
# Halves of surrogate pairs

A `Char` is a scalar value, and half of a surrogate pair is none. A text may
hold such a half on its own all the same, and then UTF-8 has no bytes for the
text. Here a text with halves is written with other characters in their
places, ones that it does not hold otherwise. `Halves` says which characters
these are; where nothing else is said, every character is itself.
-/

namespace Covenant.Text

/-- **The characters that stand for halves of surrogate pairs**, each with the
number of the half. -/
abbrev Halves := List (Char × Nat)

/-- The halves that no path may hold. The second halves from `0xdc80` to
`0xdcff` stand for the bytes of names that are no text. -/
def Halves.inPaths (halves : Halves) : Halves :=
  halves.filter fun (_, half) => !(decide (0xdc80 ≤ half) && decide (half ≤ 0xdcff))

/-- **Where a text has no bytes**: a run of halves. -/
structure Unencodable where
  /-- Where the run begins. -/
  position : Nat
  /-- How long it is. -/
  length : Nat
  /-- The number of its first half. -/
  half : Nat
deriving DecidableEq

/-- The first run of halves in characters that begin at a position. -/
def unencodableFrom (halves : Halves) (position : Nat) : List Char → Option Unencodable
  | [] => none
  | c :: cs =>
    match halves.lookup c with
    | none => unencodableFrom halves (position + 1) cs
    | some half =>
      some ⟨position, (cs.takeWhile fun c => (halves.lookup c).isSome).length + 1, half⟩

/-- **Where a text has no bytes first**, if it has none somewhere. -/
def unencodable? (halves : Halves) (s : String) : Option Unencodable :=
  if halves.isEmpty then none else unencodableFrom halves 0 s.toList

/-- A text has bytes if and only if none of its characters stands for a half. -/
theorem unencodable?_eq_none_iff {halves : Halves} {s : String} :
    unencodable? halves s = none ↔ ∀ c ∈ s.toList, halves.lookup c = none := by
  have hfrom : ∀ (position : Nat) (cs : List Char),
      unencodableFrom halves position cs = none ↔ ∀ c ∈ cs, halves.lookup c = none := by
    intro position cs
    induction cs generalizing position with
    | nil => simp [unencodableFrom]
    | cons c cs ih =>
      rw [unencodableFrom, List.forall_mem_cons]
      cases halves.lookup c with
      | none => simp [ih]
      | some half => simp
  unfold unencodable?
  cases halves with
  | nil => simp
  | cons h hs => exact hfrom 0 s.toList

/-- The words about a text without bytes. -/
def Unencodable.text (u : Unencodable) : String :=
  (if u.length = 1 then
      "'utf-8' codec can't encode character '\\u" ++ String.ofList (hexPadded 4 u.half)
        ++ "' in position " ++ String.ofList (natDigits u.position)
    else
      "'utf-8' codec can't encode characters in position "
        ++ String.ofList (natDigits u.position) ++ "-"
        ++ String.ofList (natDigits (u.position + u.length - 1)))
    ++ ": surrogates not allowed"

/-- Two halves side by side are one run. -/
example : unencodable? [('?', 0xd800)] "a??b?" = some ⟨1, 2, 0xd800⟩ := by decide +kernel

end Covenant.Text
