import Covenant.Json.Printer
import Covenant.Json.Reader

/-!
# Tokens of JSON texts

What the printer writes for a string or for an integer is read as the string
or the integer that it was (`Json.readString?_quoted`,
`Json.readScalar?_intText`). A string is read up to its closing quote,
whatever comes after it. The digits of an integer have no end of their own: they
are read as the integer only if what comes next does not go on with a number
(`Json.Stops`), and only as many as the reader takes.
-/

namespace Covenant

/-! ## Digits -/

theorem isDigit_of_mem_natDigits {n : Nat} {c : Char} (h : c ∈ natDigits n) : c.isDigit = true :=
  Nat.isDigit_of_mem_toDigits (by decide) (by decide) h

theorem natDigits_ne_nil (n : Nat) : natDigits n ≠ [] := Nat.toDigits_ne_nil

theorem natDigits_eq_of_head_zero {n : Nat} (h : (natDigits n).head? = some '0') :
    natDigits n = ['0'] := by
  unfold natDigits at h ⊢
  induction n using Nat.strongRecOn with
  | ind n ih =>
    rw [Nat.toDigits_eq_if (by decide)] at h ⊢
    by_cases hn : n < 10
    · rw [if_pos hn] at h ⊢
      exact congrArg (fun c => [c]) (Option.some.inj h)
    · obtain ⟨d, ds, hds⟩ := List.exists_cons_of_ne_nil (natDigits_ne_nil (n / 10))
      rw [if_neg hn, show Nat.toDigits 10 (n / 10) = d :: ds from hds] at h
      have hsmall := ih (n / 10) (by omega) ((congrArg List.head? hds).trans h)
      -- the number without its last digit would be zero
      have hzero : n / 10 = 0 := by
        rw [show n / 10 = Nat.ofDigitChars 10 (Nat.toDigits 10 (n / 10)) 0 from
          Nat.ofDigitChars_ten_toDigits.symm, hsmall]
        rfl
      omega

namespace Json

/-- Digits denote the number they are the digits of. -/
theorem digitsValue_natDigits (n : Nat) : digitsValue (natDigits n) = n := by
  unfold digitsValue natDigits
  refine Eq.trans ?_ (Nat.ofDigitChars_ten_toDigits : _ = n)
  unfold Nat.ofDigitChars
  congr 1
  funext a c
  rw [Nat.mul_comm]
  rfl

/-! ## Strings -/

theorem hexValue?_hexDigit : ∀ n < 16, hexValue? (hexDigit n) = some n := by decide

theorem unit?_hex4 {n : Nat} (h : n < 0x10000) :
    unit? (hexDigit (n / 4096 % 16)) (hexDigit (n / 256 % 16)) (hexDigit (n / 16 % 16))
      (hexDigit (n % 16)) = some n := by
  unfold unit?
  rw [hexValue?_hexDigit _ (by omega), hexValue?_hexDigit _ (by omega),
    hexValue?_hexDigit _ (by omega), hexValue?_hexDigit _ (by omega)]
  refine congrArg some ?_
  omega

section Strings

variable {tail cs rest : List Char}

theorem readString?_plain {c : Char} (hquote : c ≠ '"') (hback : c ≠ '\\')
    (hcontrol : ¬ c.toNat < 0x20) (h : readString? tail = some (cs, rest)) :
    readString? (c :: tail) = some (c :: cs, rest) := by
  rw [readString?, if_neg (not_or.mpr ⟨hback, hcontrol⟩), h]
  · exact hquote
  · exact fun _ _ _ _ _ hc => absurd hc hback
  · exact fun _ _ hc => absurd hc hback

theorem readString?_short {e c : Char} (he : shortEscape? e = some c)
    (h : readString? tail = some (cs, rest)) :
    readString? ('\\' :: e :: tail) = some (c :: cs, rest) := by
  rw [readString?, he]
  · dsimp only
    rw [h]
  · rintro _ _ _ _ _ rfl
    cases he

theorem readString?_unit {n : Nat} (hn : n < 0x10000) (hhigh : isHighHalf n = false)
    (hlow : isLowHalf n = false) (h : readString? tail = some (cs, rest)) :
    readString? (unitEscape n ++ tail) = some (Char.ofNat n :: cs, rest) := by
  unfold unitEscape hex4
  rw [List.cons_append, List.cons_append, List.cons_append, List.cons_append, List.cons_append,
    List.cons_append, List.nil_append, readString?, unit?_hex4 hn]
  dsimp only
  rw [hhigh, hlow, h]
  rfl

/-- Escapes of two code units that are the halves of a character. -/
theorem readString?_pair {n m : Nat} (hn : n < 0x10000) (hm : m < 0x10000)
    (hhigh : isHighHalf n = true) (hlow : isLowHalf m = true)
    (h : readString? tail = some (cs, rest)) :
    readString? (unitEscape n ++ (unitEscape m ++ tail))
      = some (Char.ofNat (0x10000 + (n - 0xd800) * 0x400 + (m - 0xdc00)) :: cs, rest) := by
  unfold unitEscape hex4
  simp only [List.cons_append, List.nil_append]
  rw [readString?, unit?_hex4 hn]
  dsimp only
  rw [hhigh, if_pos rfl]
  simp only [unit?_hex4 hm]
  rw [hlow, h]
  rfl

/-- A character is no half of a pair. -/
theorem not_half (c : Char) : isHighHalf c.toNat = false ∧ isLowHalf c.toNat = false := by
  have hvalid : c.toNat < 0xd800 ∨ 0xdfff < c.toNat ∧ c.toNat < 0x110000 := c.valid
  unfold isHighHalf isLowHalf
  rw [Bool.and_eq_false_iff, Bool.and_eq_false_iff, decide_eq_false_iff_not,
    decide_eq_false_iff_not, decide_eq_false_iff_not, decide_eq_false_iff_not]
  omega

theorem readString?_unitEscape {c : Char} (hc : c.toNat < 0x10000)
    (h : readString? tail = some (cs, rest)) :
    readString? (unitEscape c.toNat ++ tail) = some (c :: cs, rest) := by
  obtain ⟨hhigh, hlow⟩ := not_half c
  have hread := readString?_unit hc hhigh hlow h
  rwa [Char.ofNat_toNat] at hread

theorem readString?_halves {c : Char} (hc : ¬ c.toNat < 0x10000)
    (h : readString? tail = some (cs, rest)) :
    readString? (unitEscape (0xd800 + (c.toNat - 0x10000) / 0x400)
      ++ (unitEscape (0xdc00 + (c.toNat - 0x10000) % 0x400) ++ tail)) = some (c :: cs, rest) := by
  have hvalid : c.toNat < 0xd800 ∨ 0xdfff < c.toNat ∧ c.toNat < 0x110000 := c.valid
  have hread := readString?_pair (n := 0xd800 + (c.toNat - 0x10000) / 0x400)
    (m := 0xdc00 + (c.toNat - 0x10000) % 0x400) (by omega) (by omega)
    (by simp only [isHighHalf, Bool.and_eq_true, decide_eq_true_eq]; omega)
    (by simp only [isLowHalf, Bool.and_eq_true, decide_eq_true_eq]; omega) h
  -- the two halves put the character together again
  rwa [show 0x10000 + (0xd800 + (c.toNat - 0x10000) / 0x400 - 0xd800) * 0x400
    + (0xdc00 + (c.toNat - 0x10000) % 0x400 - 0xdc00) = c.toNat by omega,
    Char.ofNat_toNat] at hread

/-- **An escaped character is read as itself.** -/
theorem readString?_escapeChar (ascii : Bool) (c : Char) (h : readString? tail = some (cs, rest)) :
    readString? (escapeChar ascii c ++ tail) = some (c :: cs, rest) := by
  have hself : Char.ofNat c.toNat = c := Char.ofNat_toNat c
  unfold escapeChar
  dsimp only
  by_cases hquote : c = '"'
  · rw [if_pos hquote, hquote]
    exact readString?_short rfl h
  rw [if_neg hquote]
  by_cases hback : c = '\\'
  · rw [if_pos hback, hback]
    exact readString?_short rfl h
  rw [if_neg hback]
  by_cases hnewline : c = '\n'
  · rw [if_pos hnewline, hnewline]
    exact readString?_short rfl h
  rw [if_neg hnewline]
  by_cases hreturn : c = '\r'
  · rw [if_pos hreturn, hreturn]
    exact readString?_short rfl h
  rw [if_neg hreturn]
  by_cases htab : c = '\t'
  · rw [if_pos htab, htab]
    exact readString?_short rfl h
  rw [if_neg htab]
  by_cases h8 : c.toNat = 8
  · rw [if_pos h8, ← hself, h8]
    exact readString?_short rfl h
  rw [if_neg h8]
  by_cases h12 : c.toNat = 12
  · rw [if_pos h12, ← hself, h12]
    exact readString?_short rfl h
  rw [if_neg h12]
  by_cases hcontrol : c.toNat < 0x20
  · rw [if_pos hcontrol]
    exact readString?_unitEscape (by omega) h
  rw [if_neg hcontrol]
  by_cases hascii : ascii = true ∧ 0x7e < c.toNat
  · rw [if_pos hascii]
    by_cases hbmp : c.toNat < 0x10000
    · rw [if_pos hbmp]
      exact readString?_unitEscape hbmp h
    · rw [if_neg hbmp, List.append_assoc]
      exact readString?_halves hbmp h
  · rw [if_neg hascii]
    exact readString?_plain hquote hback hcontrol h

/-- **A quoted string is read as itself**, after its opening quote. -/
theorem readString?_quoted (ascii : Bool) (cs rest : List Char) :
    readString? (cs.flatMap (escapeChar ascii) ++ ('"' :: rest)) = some (cs, rest) := by
  induction cs with
  | nil => rw [List.flatMap_nil, List.nil_append, readString?]
  | cons c cs ih =>
    rw [List.flatMap_cons, List.append_assoc]
    exact readString?_escapeChar ascii c ih

end Strings

/-! ## Numbers -/

/-- Characters with which no number goes on. -/
def Stops (cs : List Char) : Prop :=
  ∀ c ∈ cs.head?, c.isDigit = false ∧ c ≠ '.' ∧ c ≠ 'e' ∧ c ≠ 'E'

theorem stops_nil : Stops [] := fun _ h => nomatch h

/-- The digits at the front, where no digit comes after them. -/
theorem spanDigits_append {ds rest : List Char} (hds : ∀ c ∈ ds, c.isDigit = true)
    (hrest : ∀ c ∈ rest.head?, c.isDigit = false) : spanDigits (ds ++ rest) = (ds, rest) := by
  unfold spanDigits
  rw [List.takeWhile_append_of_pos hds, List.dropWhile_append_of_pos hds]
  cases rest with
  | nil => simp
  | cons c cs => simp [hrest c rfl]

/-- The digits at the front are those of the number, if no number goes on. -/
theorem spanDigits_natDigits (n : Nat) {rest : List Char} (hrest : Stops rest) :
    spanDigits (natDigits n ++ rest) = (natDigits n, rest) :=
  spanDigits_append (fun _ hc => isDigit_of_mem_natDigits hc) fun c hc => (hrest c hc).1

theorem readFraction?_of_stops {rest : List Char} (hrest : Stops rest) :
    readFraction? rest = some (none, rest) := by
  unfold readFraction?
  split
  · obtain ⟨-, hpoint, -⟩ := hrest _ rfl
    exact absurd rfl hpoint
  · rfl

theorem readExponent?_of_stops {rest : List Char} (hrest : Stops rest) :
    readExponent? rest = some (none, rest) := by
  unfold readExponent?
  cases rest with
  | nil => rfl
  | cons c cs =>
    obtain ⟨-, -, hsmall, hlarge⟩ := hrest c rfl
    exact if_neg (not_or.mpr ⟨hsmall, hlarge⟩)

/-- **The digits of a number are read as the number**, unless they are too
many. -/
theorem readNumber?_natDigits (negative : Bool) {n : Nat} {rest : List Char}
    (hlimit : (natDigits n).length ≤ integerDigitLimit) (hrest : Stops rest) :
    readNumber? negative (natDigits n ++ rest)
      = some (.int (if negative then -(n : Int) else n), rest) := by
  unfold readNumber?
  rw [spanDigits_natDigits n hrest]
  dsimp only
  have hshape : ¬ ((natDigits n).isEmpty = true
      ∨ (natDigits n).head? = some '0' ∧ 1 < (natDigits n).length) := by
    rintro (hempty | ⟨hzero, hlong⟩)
    · exact natDigits_ne_nil n (List.isEmpty_iff.mp hempty)
    · rw [natDigits_eq_of_head_zero hzero] at hlong
      exact absurd hlong (by decide)
  rw [if_neg hshape, readFraction?_of_stops hrest]
  dsimp only
  rw [readExponent?_of_stops hrest]
  dsimp only
  rw [if_neg (Nat.not_lt.mpr hlimit), digitsValue_natDigits]

theorem readScalar?_of_digit {c : Char} (cs : List Char) (hc : c.isDigit = true) :
    readScalar? (c :: cs) = readNumber? false (c :: cs)
      ∧ readScalar? ('-' :: c :: cs) = readNumber? true (c :: cs) := by
  have hne : ∀ d : Char, d.isDigit = false → c ≠ d := by
    rintro d hd rfl
    rw [hc] at hd
    cases hd
  constructor
  · rw [readScalar?]
    all_goals
      rintro _ heq
      exact hne _ (by decide) (List.cons.inj heq).1
  · rw [readScalar?]
    rintro _ heq
    exact hne _ (by decide) (List.cons.inj heq).1

/-- **An integer is read as itself**, unless it has too many digits. -/
theorem readScalar?_intText {i : Int} {rest : List Char}
    (hlimit : (natDigits i.natAbs).length ≤ integerDigitLimit) (hrest : Stops rest) :
    readScalar? (intText i ++ rest) = some (.int i, rest) := by
  cases i with
  | ofNat n =>
    obtain ⟨c, cs, hcs⟩ := List.exists_cons_of_ne_nil (natDigits_ne_nil n)
    have hc : c.isDigit = true := isDigit_of_mem_natDigits (by rw [hcs]; exact List.mem_cons_self)
    have hread := readNumber?_natDigits false hlimit hrest
    show readScalar? (natDigits n ++ rest) = _
    rw [show natDigits (Int.ofNat n).natAbs = natDigits n from rfl, hcs] at hread
    rw [hcs, List.cons_append, (readScalar?_of_digit _ hc).1]
    exact hread
  | negSucc n =>
    obtain ⟨c, cs, hcs⟩ := List.exists_cons_of_ne_nil (natDigits_ne_nil (n + 1))
    have hc : c.isDigit = true := isDigit_of_mem_natDigits (by rw [hcs]; exact List.mem_cons_self)
    have hread := readNumber?_natDigits true hlimit hrest
    show readScalar? ('-' :: (natDigits (n + 1) ++ rest)) = _
    rw [show natDigits (Int.negSucc n).natAbs = natDigits (n + 1) from rfl, hcs] at hread
    rw [hcs, List.cons_append, (readScalar?_of_digit _ hc).2]
    exact hread

/-! ## Blanks -/

/-- Blanks before a token do not matter. -/
theorem skipGap_append {gap : List Char} (h : gap.all isGap = true) (cs : List Char) :
    skipGap (gap ++ cs) = skipGap cs :=
  List.dropWhile_append_of_pos fun c hc => List.all_eq_true.mp h c hc

theorem skipGap_cons {c : Char} (h : isGap c = false) (cs : List Char) :
    skipGap (c :: cs) = c :: cs :=
  List.dropWhile_cons_of_neg (by rw [h]; exact Bool.false_ne_true)

theorem skipGap_append_cons {gap : List Char} {c : Char} (hgap : gap.all isGap = true)
    (hc : isGap c = false) (cs : List Char) : skipGap (gap ++ c :: cs) = c :: cs := by
  rw [skipGap_append hgap, skipGap_cons hc]

/-- Blanks stop a number, if what comes after them does. -/
theorem stops_append {gap : List Char} (hgap : gap.all isGap = true) {rest : List Char}
    (hrest : Stops rest) : Stops (gap ++ rest) := by
  cases gap with
  | nil => exact hrest
  | cons c cs =>
    intro d hd
    obtain rfl : c = d := Option.some.inj hd
    have hc : isGap c = true := List.all_eq_true.mp hgap c List.mem_cons_self
    simp only [isGap, Bool.or_eq_true, beq_iff_eq] at hc
    obtain ((rfl | rfl) | rfl) | rfl := hc <;> decide

/-- What is neither a digit nor a part of a fraction stops a number. -/
theorem stops_of_mark {c : Char} {rest : List Char}
    (h : c.isDigit = false ∧ c ≠ '.' ∧ c ≠ 'e' ∧ c ≠ 'E') : Stops (c :: rest) := by
  intro d hd
  obtain rfl : c = d := Option.some.inj hd
  exact h

end Json

end Covenant
