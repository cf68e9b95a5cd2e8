import Covenant.Proofs.Json.Tokens

/-!
# Doubles in JSON texts

The text of a finite double is read as a double again, in every layout
(`Json.readScalar?_doubleText`): it has digits without a zero in front, and a
point or an exponent with digits of its own, so that no reader takes it for an
integer or stops before its end.

Which double that is depends on the digits that the layout was given. It is
called `Double.asRead` here and not looked into.
-/

namespace Covenant

namespace Json

/-! ## The parts of a number -/

/-- **Digits**, at least one of them. -/
def Digits (ds : List Char) : Prop := ds ≠ [] ∧ ∀ c ∈ ds, c.isDigit = true

/-- **The digits before a point**: no zero stands in front of others. -/
def Whole (ds : List Char) : Prop := Digits ds ∧ (ds.head? = some '0' → ds.length ≤ 1)

theorem digits_natDigits (n : Nat) : Digits (natDigits n) :=
  ⟨natDigits_ne_nil n, fun _ hc => isDigit_of_mem_natDigits hc⟩

theorem Digits.zeros_append {ds : List Char} (h : Digits ds) (n : Nat) :
    Digits (List.replicate n '0' ++ ds) := by
  refine ⟨by simp [h.1], fun c hc => ?_⟩
  obtain hc | hc := List.mem_append.mp hc
  · rw [List.eq_of_mem_replicate hc]
    rfl
  · exact h.2 c hc

theorem whole_singleton {c : Char} (h : c.isDigit = true) : Whole [c] :=
  ⟨⟨List.cons_ne_nil c [], by simpa using h⟩, fun _ => Nat.le_refl 1⟩

/-- The digits of a number other than zero start with another digit than zero. -/
theorem head_natDigits_ne_zero {n : Nat} (h : n ≠ 0) : (natDigits n).head? ≠ some '0' := by
  intro hzero
  have hdigits : digitsValue (natDigits n) = 0 := by
    rw [natDigits_eq_of_head_zero hzero]
    rfl
  rw [digitsValue_natDigits] at hdigits
  exact h hdigits

section Parts

variable {whole fraction rest : List Char}

theorem readFraction?_point (hfraction : Digits fraction)
    (hrest : ∀ c ∈ rest.head?, c.isDigit = false) :
    readFraction? ('.' :: (fraction ++ rest)) = some (some fraction, rest) := by
  simp [readFraction?, spanDigits_append hfraction.2 hrest, hfraction.1]

/-- Zeros in front do not change the number that digits denote. -/
theorem digitsValue_padZeros (width n : Nat) :
    digitsValue (NumberLayout.padZeros width (natDigits n)) = n := by
  have hzeros : ∀ k : Nat,
      (List.replicate k '0').foldl (fun n c => n * 10 + (c.toNat - 48)) 0 = 0 := by
    intro k
    induction k with
    | zero => rfl
    | succ k ih => exact ih
  unfold NumberLayout.padZeros digitsValue
  rw [List.foldl_append, hzeros]
  exact digitsValue_natDigits n

/-- **An exponent is read as itself.** -/
theorem readExponent?_exponentText (l : NumberLayout) (e : Int) (hrest : Stops rest) :
    readExponent? ('e' :: (l.exponentText e ++ rest)) = some (some e, rest) := by
  have hdigits : ∀ width, Digits (NumberLayout.padZeros width (natDigits e.natAbs)) := fun width =>
    (digits_natDigits e.natAbs).zeros_append _
  have hspan : ∀ width, spanDigits (NumberLayout.padZeros width (natDigits e.natAbs) ++ rest)
      = (NumberLayout.padZeros width (natDigits e.natAbs), rest) := fun width =>
    spanDigits_append (hdigits width).2 fun c hc => (hrest c hc).1
  unfold readExponent? NumberLayout.exponentText
  by_cases he : e < 0
  · rw [if_pos he]
    simp only [List.cons_append, hspan, digitsValue_padZeros]
    have hne := (hdigits l.negativeExponentDigits).1
    have hvalue : -(e.natAbs : Int) = e := by omega
    rw [if_pos (.inl trivial), if_neg (by simpa using hne), if_pos trivial, hvalue]
  · rw [if_neg he]
    simp only [List.cons_append, hspan, digitsValue_padZeros]
    have hne := (hdigits 2).1
    have hvalue : (e.natAbs : Int) = e := by omega
    rw [if_pos (.inl trivial), if_neg (by simpa using hne), if_neg (by decide), hvalue]

/-- The digits before a point are no reason to refuse a number. -/
theorem Whole.shape (h : Whole whole) :
    ¬ (whole.isEmpty = true ∨ whole.head? = some '0' ∧ 1 < whole.length) := by
  rintro (hempty | ⟨hzero, hlong⟩)
  · exact h.1.1 (List.isEmpty_iff.mp hempty)
  · exact Nat.not_lt.mpr (h.2 hzero) hlong

/-- **Characters that are read as a double**, whatever comes after them, as long
as it does not go on with a number. -/
def ReadAsDouble (negative : Bool) (cs : List Char) : Prop :=
  ∃ d : Double, ∀ rest, Stops rest → readNumber? negative (cs ++ rest) = some (.double d, rest)

theorem readAsDouble_point (negative : Bool) (hwhole : Whole whole) (hfraction : Digits fraction) :
    ReadAsDouble negative (whole ++ '.' :: fraction) := by
  refine ⟨.ofDecimal negative (digitsValue (whole ++ fraction)) (0 - fraction.length),
    fun rest hrest => ?_⟩
  rw [List.append_assoc, List.cons_append]
  unfold readNumber?
  rw [spanDigits_append hwhole.1.2 (by simp)]
  dsimp only
  rw [if_neg hwhole.shape, readFraction?_point hfraction fun c hc => (hrest c hc).1]
  dsimp only
  rw [readExponent?_of_stops hrest]
  rfl

/-- A number with an exponent, and with a point if digits are behind it. -/
theorem readAsDouble_exponent (l : NumberLayout) (negative : Bool) (e : Int) (hwhole : Whole whole)
    (hfraction : ∀ c ∈ fraction, c.isDigit = true) :
    ReadAsDouble negative (whole ++ (if fraction.isEmpty then [] else '.' :: fraction)
      ++ 'e' :: l.exponentText e) := by
  refine ⟨.ofDecimal negative (digitsValue (whole ++ fraction)) (e - fraction.length),
    fun rest hrest => ?_⟩
  have hexponent := readExponent?_exponentText l e hrest
  cases fraction with
  | nil =>
    rw [List.append_assoc, List.append_assoc]
    unfold readNumber?
    rw [spanDigits_append hwhole.1.2 (by simp)]
    dsimp only
    rw [if_neg hwhole.shape]
    simp [readFraction?, hexponent]
  | cons c cs =>
    have hpoint : readFraction? ('.' :: (c :: cs ++ 'e' :: (l.exponentText e ++ rest)))
        = some (some (c :: cs), 'e' :: (l.exponentText e ++ rest)) :=
      readFraction?_point ⟨List.cons_ne_nil c cs, hfraction⟩ (by simp)
    rw [List.append_assoc, List.append_assoc]
    unfold readNumber?
    rw [spanDigits_append hwhole.1.2 (by simp)]
    dsimp only
    rw [if_neg hwhole.shape]
    simp only [List.cons_append] at hpoint
    simp [hpoint, hexponent]

end Parts

/-! ## The text of a double -/

/-- The first digits of a number other than zero may stand before a point. -/
theorem whole_take_natDigits {n k : Nat} (hn : n ≠ 0) (hk : k ≠ 0) (tail : List Char)
    (htail : ∀ c ∈ tail, c.isDigit = true) : Whole ((natDigits n).take k ++ tail) := by
  obtain ⟨k, rfl⟩ := Nat.exists_eq_add_one_of_ne_zero hk
  have hhead := head_natDigits_ne_zero hn
  have hdigits := digits_natDigits n
  obtain ⟨c, cs, hcs⟩ := List.exists_cons_of_ne_nil hdigits.1
  rw [hcs] at hhead hdigits ⊢
  refine ⟨⟨by simp, fun d hd => ?_⟩, fun h => absurd h hhead⟩
  obtain hd | hd := List.mem_append.mp hd
  · exact hdigits.2 d (List.mem_of_mem_take hd)
  · exact htail d hd

/-- **A magnitude is read as a double**, in every layout. -/
theorem readAsDouble_magnitudeText (l : NumberLayout) (negative : Bool) (digits : Nat) (e : Int) :
    ReadAsDouble negative (l.magnitudeText digits e) := by
  have hzero : Whole ['0'] := whole_singleton rfl
  have hds := digits_natDigits digits
  unfold NumberLayout.magnitudeText
  dsimp only
  generalize hleading : e + ((natDigits digits).length : Int) - 1 = leading
  by_cases hdigits : digits = 0
  · rw [if_pos hdigits]
    exact readAsDouble_point negative hzero hzero.1
  rw [if_neg hdigits]
  by_cases hpositional : l.leastPositional ≤ leading ∧ leading ≤ l.greatestPositional
  · rw [if_pos hpositional]
    by_cases he : 0 ≤ e
    · rw [if_pos he]
      have hwhole := whole_take_natDigits hdigits (k := (natDigits digits).length)
        (by simpa using hds.1) (List.replicate e.toNat '0')
        (fun c hc => by rw [List.eq_of_mem_replicate hc]; rfl)
      rw [List.take_length] at hwhole
      exact readAsDouble_point negative hwhole hzero.1
    rw [if_neg he]
    by_cases hbefore : 0 ≤ leading
    · rw [if_pos hbefore]
      -- the point stands among the digits
      have hwhole := whole_take_natDigits hdigits (k := leading.toNat + 1) (by simp) []
        (fun c hc => nomatch hc)
      rw [List.append_nil] at hwhole
      refine readAsDouble_point negative hwhole ⟨?_, fun c hc => hds.2 c (List.mem_of_mem_drop hc)⟩
      rw [ne_eq, List.drop_eq_nil_iff]
      omega
    · rw [if_neg hbefore]
      exact readAsDouble_point negative hzero (hds.zeros_append _)
  · rw [if_neg hpositional]
    have hwhole := whole_take_natDigits hdigits (k := 1) (by simp) [] (fun c hc => nomatch hc)
    rw [List.append_nil] at hwhole
    exact readAsDouble_exponent l negative leading hwhole
      fun c hc => hds.2 c (List.mem_of_mem_drop hc)

theorem ReadAsDouble.head {negative : Bool} {cs : List Char} (h : ReadAsDouble negative cs) :
    ∃ c t, cs = c :: t ∧ c.isDigit = true := by
  obtain ⟨d, hd⟩ := h
  have hread := hd [] stops_nil
  cases cs with
  | nil => cases hread
  | cons c t =>
    refine ⟨c, t, rfl, ?_⟩
    cases hc : c.isDigit with
    | true => rfl
    | false => simp [readNumber?, spanDigits, hc] at hread

/-- The text of a finite double: a sign, if there is one, and a number. -/
theorem exists_doubleText (l : NumberLayout) {d : Double} (hd : d.isFinite = true) :
    ∃ negative cs, l.doubleText d = (if negative then ['-'] else []) ++ cs
      ∧ ReadAsDouble negative cs := by
  cases d with
  | nan => cases hd
  | infinite negative => cases hd
  | finite negative m e => exact ⟨negative, _, rfl, readAsDouble_magnitudeText l negative _ _⟩

end Json

/-- **The double that the text of a double is read as.** -/
def Double.asRead (l : NumberLayout) (d : Double) : Double :=
  match Json.readScalar? (l.doubleText d) with
  | some (.double r, _) => r
  | _ => d

namespace Json

/-- **The text of a finite double is read as a double.** -/
theorem readScalar?_doubleText (l : NumberLayout) {d : Double} (hd : d.isFinite = true)
    {rest : List Char} (hrest : Stops rest) :
    readScalar? (l.doubleText d ++ rest) = some (.double (d.asRead l), rest) := by
  obtain ⟨negative, cs, htext, hnumber⟩ := exists_doubleText l hd
  obtain ⟨c, t, rfl, hc⟩ := hnumber.head
  obtain ⟨r, hr⟩ := hnumber
  have hread : ∀ tail, Stops tail →
      readScalar? (l.doubleText d ++ tail) = some (.double r, tail) := by
    intro tail htail
    rw [htext]
    cases negative with
    | false => exact (readScalar?_of_digit (t ++ tail) hc).1.trans (hr tail htail)
    | true => exact (readScalar?_of_digit (t ++ tail) hc).2.trans (hr tail htail)
  have hself : d.asRead l = r := by
    have hnil := hread [] stops_nil
    rw [List.append_nil] at hnil
    unfold Double.asRead
    rw [hnil]
  rw [hself]
  exact hread rest hrest

theorem exists_head_doubleText (l : NumberLayout) {d : Double} (hd : d.isFinite = true) :
    ∃ c cs, l.doubleText d = c :: cs ∧ (c = '-' ∨ c.isDigit = true) := by
  obtain ⟨negative, cs, htext, hnumber⟩ := exists_doubleText l hd
  obtain ⟨c, t, rfl, hc⟩ := hnumber.head
  cases negative with
  | false => exact ⟨c, t, htext, .inr hc⟩
  | true => exact ⟨'-', c :: t, htext, .inl rfl⟩

end Json

end Covenant
