/-!
# Reading UTF-8

`decodeUtf8` reads a list of bytes as text, or tells where the first bytes are
that are no character. Overlong forms, surrogates and code points beyond
`0x10ffff` are ill-formed.
-/

namespace Covenant.Text

/-- A continuation byte's six bits. -/
def continuation? (b : UInt8) : Option Nat :=
  if 0x80 ≤ b.toNat ∧ b.toNat < 0xc0 then some (b.toNat - 0x80) else none

/-- **One character off the front**, and what follows it. -/
def utf8Char? : List UInt8 → Option (Char × List UInt8)
  | [] => none
  | b :: rest =>
    let n := b.toNat
    if n < 0x80 then some (Char.ofNat n, rest)
    else if 0xc2 ≤ n ∧ n < 0xe0 then
      match rest with
      | b₁ :: rest =>
        (continuation? b₁).map fun c₁ => (Char.ofNat ((n - 0xc0) * 64 + c₁), rest)
      | _ => none
    else if 0xe0 ≤ n ∧ n < 0xf0 then
      match rest with
      | b₁ :: b₂ :: rest =>
        match continuation? b₁, continuation? b₂ with
        | some c₁, some c₂ =>
          let p := (n - 0xe0) * 4096 + c₁ * 64 + c₂
          if 0x800 ≤ p ∧ ¬(0xd800 ≤ p ∧ p < 0xe000) then some (Char.ofNat p, rest) else none
        | _, _ => none
      | _ => none
    else if 0xf0 ≤ n ∧ n < 0xf5 then
      match rest with
      | b₁ :: b₂ :: b₃ :: rest =>
        match continuation? b₁, continuation? b₂, continuation? b₃ with
        | some c₁, some c₂, some c₃ =>
          let p := (n - 0xf0) * 262144 + c₁ * 4096 + c₂ * 64 + c₃
          if 0x10000 ≤ p ∧ p < 0x110000 then some (Char.ofNat p, rest) else none
        | _, _, _ => none
      | _ => none
    else none

/-- **Where bytes stop being text.** -/
structure IllFormed where
  /-- The position of the first byte that is part of no character. -/
  position : Nat
  /-- How many bytes from there on look like the beginning of a character, and
  at least one. -/
  length : Nat
  /-- Whether the bytes end before it can be told that they are no character. -/
  isCut : Bool
deriving DecidableEq

/-- Whether a byte can follow the first byte of a character. -/
def mayFollow (first second : Nat) : Bool :=
  let least := if first = 0xe0 then 0xa0 else if first = 0xf0 then 0x90 else 0x80
  let most := if first = 0xed then 0x9f else if first = 0xf4 then 0x8f else 0xbf
  decide (least ≤ second) && decide (second ≤ most)

/-- The extent of the ill-formed bytes at the front. -/
def illFormedAt (position : Nat) : List UInt8 → IllFormed
  | b₀ :: rest =>
    let n := b₀.toNat
    if n < 0xc2 || 0xf5 ≤ n then ⟨position, 1, false⟩
    else
      match rest with
      | [] => ⟨position, 1, true⟩
      | b₁ :: rest =>
        if !mayFollow n b₁.toNat then ⟨position, 1, false⟩
        else
          match rest with
          | [] => ⟨position, 2, true⟩
          | b₂ :: rest =>
            if (continuation? b₂).isNone then ⟨position, 2, false⟩
            else ⟨position, 3, rest.isEmpty⟩
  | [] => ⟨position, 0, true⟩

/-- Reads characters until the bytes end or one is ill-formed; `fuel` bounds
the number of characters and `position` counts the bytes read. -/
def decodeUtf8From : (fuel position : Nat) → List UInt8 → Except IllFormed (List Char)
  | _, _, [] => .ok []
  | 0, position, bytes => .error (illFormedAt position bytes)
  | fuel + 1, position, bytes =>
    match utf8Char? bytes with
    | none => .error (illFormedAt position bytes)
    | some (c, rest) =>
      match decodeUtf8From fuel (position + c.utf8Size) rest with
      | .ok cs => .ok (c :: cs)
      | .error e => .error e

/-- **The text that bytes encode**, or where they stop being text. -/
def decodeUtf8 (bytes : List UInt8) : Except IllFormed String :=
  match decodeUtf8From bytes.length 0 bytes with
  | .ok cs => .ok (String.ofList cs)
  | .error e => .error e

/-- Reads characters, one replacement character in place of what is ill-formed;
`fuel` bounds their number. -/
def decodeLossyFrom : (fuel : Nat) → List UInt8 → List Char
  | 0, _ => []
  | _, [] => []
  | fuel + 1, bytes =>
    match utf8Char? bytes with
    | some (c, rest) => c :: decodeLossyFrom fuel rest
    | none => Char.ofNat 0xfffd :: decodeLossyFrom fuel (bytes.drop (illFormedAt 0 bytes).length)

/-- The text that bytes encode, with replacements for what is ill-formed. -/
def decodeLossy (bytes : List UInt8) : List Char := decodeLossyFrom bytes.length bytes

/-- A character that is cut off and one that is not completed. -/
example : (decodeUtf8 [0x61, 0xe2, 0x82]).toBool = false ∧
    illFormedAt 1 [0xe2, 0x82] = ⟨1, 2, true⟩ ∧ illFormedAt 0 [0xe2, 0x82, 0x41] = ⟨0, 2, false⟩ ∧
    illFormedAt 0 [0xe0, 0x80, 0x80] = ⟨0, 1, false⟩ := by decide +kernel

/-- Line breaks of the three kinds all become a line feed. -/
def unifyLineBreaks : List Char → List Char
  | '\r' :: '\n' :: rest => '\n' :: unifyLineBreaks rest
  | '\r' :: rest => '\n' :: unifyLineBreaks rest
  | c :: rest => c :: unifyLineBreaks rest
  | [] => []

/-- Text without carriage returns is unchanged. -/
theorem unifyLineBreaks_of_not_mem {cs : List Char} (h : '\r' ∉ cs) :
    unifyLineBreaks cs = cs := by
  fun_induction unifyLineBreaks cs <;> simp_all

end Covenant.Text
