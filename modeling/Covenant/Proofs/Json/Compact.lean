import Covenant.Proofs.Json.Reading
import Covenant.Text.Blank

/-!
# Compact texts

A compact text has no blank outside its string literals
(`Json.not_blank_of_mem_outside`). What is outside is found by going through the
text once (`Json.outside`): a quote opens or closes a literal, and a backslash
inside one takes the next character with it. Since the printer escapes quotes
and backslashes, the literals found that way are the ones it wrote.
-/

namespace Covenant

namespace Json

/-- **Where in a text a character stands.** -/
inductive Place where
  /-- Outside of string literals. -/
  | outside
  /-- Inside a literal. -/
  | inside
  /-- Inside a literal, behind a backslash. -/
  | escaped
deriving DecidableEq

/-- The place behind a character. -/
def Place.next : Place → Char → Place
  | .outside, c => if c = '"' then .inside else .outside
  | .inside, c => if c = '"' then .outside else if c = '\\' then .escaped else .inside
  | .escaped, _ => .inside

/-- **The characters outside the string literals** of a text that starts at a
place; the quotes around a literal are not among them. -/
def outside (p : Place) : List Char → List Char
  | [] => []
  | c :: cs => if p = .outside ∧ c ≠ '"' then c :: outside (p.next c) cs else outside (p.next c) cs

section Literals

variable {rest : List Char}

theorem outside_cons {c : Char} (h : c ≠ '"') (cs : List Char) :
    outside .outside (c :: cs) = c :: outside .outside cs := by
  simp [outside, Place.next, h]

theorem outside_append_of_not_mem {cs : List Char} (h : '"' ∉ cs) :
    outside .outside (cs ++ rest) = cs ++ outside .outside rest := by
  induction cs with
  | nil => rfl
  | cons c cs ih =>
    obtain ⟨hc, hcs⟩ := not_or.mp (fun hmem => h (List.mem_cons.mpr hmem))
    rw [List.cons_append, outside_cons (fun heq => hc heq.symm), ih hcs, List.cons_append]

theorem outside_plain {c : Char} (hquote : c ≠ '"') (hback : c ≠ '\\') :
    outside .inside (c :: rest) = outside .inside rest := by
  simp [outside, Place.next, hquote, hback]

/-- An escape inside a literal: the character behind the backslash does not
count, and none of the others is special. -/
theorem outside_escape {c : Char} {cs : List Char} (h : ∀ d ∈ cs, d ≠ '"' ∧ d ≠ '\\') :
    outside .inside ('\\' :: c :: (cs ++ rest)) = outside .inside rest := by
  have hskip : outside .inside ('\\' :: c :: (cs ++ rest)) = outside .inside (cs ++ rest) := by
    simp [outside, Place.next]
  rw [hskip]
  induction cs with
  | nil => rfl
  | cons d cs ih =>
    obtain ⟨⟨hquote, hback⟩, hcs⟩ := List.forall_mem_cons.mp h
    rw [List.cons_append, outside_plain hquote hback]
    exact ih hcs (by simp [outside, Place.next])

theorem hexDigit_plain : ∀ n < 16, hexDigit n ≠ '"' ∧ hexDigit n ≠ '\\' := by decide

theorem outside_unitEscape (n : Nat) : outside .inside (unitEscape n ++ rest) = outside .inside rest := by
  refine outside_escape fun d hd => ?_
  unfold hex4 at hd
  simp only [List.mem_cons, List.not_mem_nil, or_false] at hd
  obtain rfl | rfl | rfl | rfl := hd <;> exact hexDigit_plain _ (Nat.mod_lt _ (by decide))

/-- **What an escaped character is**: a backslash with a letter, code units, or
the character itself. -/
theorem escapeChar_cases (ascii : Bool) (c : Char) :
    (∃ e, escapeChar ascii c = ['\\', e]) ∨ (∃ n, escapeChar ascii c = unitEscape n)
      ∨ (∃ n m, escapeChar ascii c = unitEscape n ++ unitEscape m)
      ∨ c ≠ '"' ∧ c ≠ '\\' ∧ escapeChar ascii c = [c] := by
  unfold escapeChar
  dsimp only
  by_cases hquote : c = '"'
  · exact .inl ⟨_, if_pos hquote⟩
  by_cases hback : c = '\\'
  · exact .inl ⟨'\\', by rw [if_neg hquote, if_pos hback]⟩
  rw [if_neg hquote, if_neg hback]
  by_cases hnewline : c = '\n'
  · exact .inl ⟨_, if_pos hnewline⟩
  rw [if_neg hnewline]
  by_cases hreturn : c = '\r'
  · exact .inl ⟨_, if_pos hreturn⟩
  rw [if_neg hreturn]
  by_cases htab : c = '\t'
  · exact .inl ⟨_, if_pos htab⟩
  rw [if_neg htab]
  by_cases h8 : c.toNat = 8
  · exact .inl ⟨_, if_pos h8⟩
  rw [if_neg h8]
  by_cases h12 : c.toNat = 12
  · exact .inl ⟨_, if_pos h12⟩
  rw [if_neg h12]
  by_cases hcontrol : c.toNat < 0x20
  · exact .inr (.inl ⟨_, if_pos hcontrol⟩)
  rw [if_neg hcontrol]
  by_cases hascii : ascii = true ∧ 0x7e < c.toNat
  · rw [if_pos hascii]
    by_cases hbmp : c.toNat < 0x10000
    · exact .inr (.inl ⟨_, if_pos hbmp⟩)
    · exact .inr (.inr (.inl ⟨_, _, if_neg hbmp⟩))
  · exact .inr (.inr (.inr ⟨hquote, hback, if_neg hascii⟩))

theorem outside_escapeChar (ascii : Bool) (c : Char) :
    outside .inside (escapeChar ascii c ++ rest) = outside .inside rest := by
  obtain ⟨e, he⟩ | ⟨n, hn⟩ | ⟨n, m, hpair⟩ | ⟨hquote, hback, hself⟩ := escapeChar_cases ascii c
  · rw [he]
    exact outside_escape (List.forall_mem_nil _)
  · rw [hn, outside_unitEscape]
  · rw [hpair, List.append_assoc, outside_unitEscape, outside_unitEscape]
  · rw [hself]
    exact outside_plain hquote hback

/-- **A quoted string is a literal**, and nothing of it is outside. -/
theorem outside_quoted (ascii : Bool) (cs : List Char) :
    outside .outside (quoted ascii cs ++ rest) = outside .outside rest := by
  have hinside : ∀ cs : List Char,
      outside .inside (cs.flatMap (escapeChar ascii) ++ '"' :: rest) = outside .outside rest := by
    intro cs
    induction cs with
    | nil => rw [List.flatMap_nil, List.nil_append, outside]; rfl
    | cons c cs ih => rw [List.flatMap_cons, List.append_assoc, outside_escapeChar, ih]
  unfold quoted
  rw [List.cons_append, List.append_assoc]
  exact hinside cs

end Literals

/-- Digits and signs are neither quotes nor blank. -/
theorem not_blank_of_digit {c : Char} (h : c = '-' ∨ c.isDigit = true) :
    c ≠ '"' ∧ Text.isBlank c = false := by
  obtain rfl | hc := h
  · decide
  refine ⟨?_, ?_⟩
  · rintro rfl
    exact absurd hc (by decide)
  · have hrange : 48 ≤ c.toNat ∧ c.toNat ≤ 57 := by
      simpa [Char.isDigit, UInt32.le_iff_toNat_le] using hc
    simp [Text.isBlank]
    omega

/-! ## Texts without blanks -/

/-- **Characters that bring no blank**: what is outside of literals is not blank,
whatever comes after them. -/
def Blankless (cs : List Char) : Prop :=
  ∀ rest, ∀ c ∈ outside .outside (cs ++ rest), Text.isBlank c = false ∨ c ∈ outside .outside rest

theorem Blankless.append {cs ds : List Char} (hcs : Blankless cs) (hds : Blankless ds) :
    Blankless (cs ++ ds) := by
  intro rest c hc
  rw [List.append_assoc] at hc
  obtain hblank | hc := hcs (ds ++ rest) c hc
  · exact .inl hblank
  · exact hds rest c hc

theorem blankless_of_chars {cs : List Char} (h : ∀ c ∈ cs, c ≠ '"' ∧ Text.isBlank c = false) :
    Blankless cs := by
  intro rest c hc
  rw [outside_append_of_not_mem fun hmem => (h _ hmem).1 rfl] at hc
  exact (List.mem_append.mp hc).imp_left fun hmem => (h c hmem).2

theorem blankless_of_all {cs : List Char}
    (h : cs.all (fun c => c != '"' && !Text.isBlank c) = true) : Blankless cs := by
  refine blankless_of_chars fun c hc => ?_
  simpa using List.all_eq_true.mp h c hc

theorem blankless_quoted (ascii : Bool) (cs : List Char) : Blankless (quoted ascii cs) := by
  intro rest c hc
  rw [outside_quoted] at hc
  exact .inr hc

theorem blankless_intText (i : Int) : Blankless (intText i) := by
  have hdigits : ∀ n, ∀ c ∈ natDigits n, c ≠ '"' ∧ Text.isBlank c = false := fun n c hc =>
    not_blank_of_digit (.inr (isDigit_of_mem_natDigits hc))
  cases i with
  | ofNat n => exact blankless_of_chars (hdigits n)
  | negSucc n =>
    exact blankless_of_chars (List.forall_mem_cons.mpr ⟨not_blank_of_digit (.inl rfl), hdigits _⟩)

mutual

/-- **A document without doubles is written compactly without blanks.** -/
theorem blankless_render : ∀ (j : Json) (level : Nat), j.Exact →
    Blankless (render .compact level j)
  | .null, _, _ => show Blankless "null".toList from blankless_of_all (by decide)
  | .bool true, _, _ => show Blankless "true".toList from blankless_of_all (by decide)
  | .bool false, _, _ => show Blankless "false".toList from blankless_of_all (by decide)
  | .int i, _, _ => blankless_intText i
  | .double _, _, h => h.elim
  | .str t, _, _ => blankless_quoted false t.toList
  | .arr [], _, _ => show Blankless ['[', ']'] from blankless_of_all (by decide)
  | .arr (j :: js), level, h => by
    have hopen : Blankless ['['] := blankless_of_all (by decide)
    have hclose : Blankless [']'] := blankless_of_all (by decide)
    exact hopen.append ((blankless_render j (level + 1) h.1).append
      ((blankless_renderItems js (level + 1) h.2).append hclose))
  | .obj [], _, _ => show Blankless ['\x7b', '\x7d'] from blankless_of_all (by decide)
  | .obj ((k, j) :: fs), level, h => by
    have hopen : Blankless ['\x7b'] := blankless_of_all (by decide)
    have hcolon : Blankless [':'] := blankless_of_all (by decide)
    have hclose : Blankless ['\x7d'] := blankless_of_all (by decide)
    exact hopen.append ((blankless_quoted false k.toList).append (hcolon.append
      ((blankless_render j (level + 1) h.2.1).append
        ((blankless_renderFields fs (level + 1) h.2.2).append hclose))))

theorem blankless_renderItems : ∀ (js : List Json) (level : Nat), ExactItems js →
    Blankless (renderItems .compact level js)
  | [], _, _ => show Blankless [] from blankless_of_all (by decide)
  | j :: js, level, h => by
    have hcomma : Blankless [','] := blankless_of_all (by decide)
    exact hcomma.append ((blankless_render j level h.1).append (blankless_renderItems js level h.2))

theorem blankless_renderFields : ∀ (fs : List (String × Json)) (level : Nat), ExactFields fs →
    Blankless (renderFields .compact level fs)
  | [], _, _ => show Blankless [] from blankless_of_all (by decide)
  | (k, j) :: fs, level, h => by
    have hcomma : Blankless [','] := blankless_of_all (by decide)
    have hcolon : Blankless [':'] := blankless_of_all (by decide)
    exact hcomma.append ((blankless_quoted false k.toList).append (hcolon.append
      ((blankless_render j level h.1).append (blankless_renderFields fs level h.2))))

end

/-- **A compact text has no blank outside its string literals**, if no double is
in it. -/
theorem not_blank_of_mem_outside {j : Json} (h : j.Exact) {c : Char}
    (hc : c ∈ outside .outside (j.text .compact).toList) : Text.isBlank c = false := by
  rw [text, String.toList_ofList, ← List.append_nil (render .compact 0 j)] at hc
  obtain hblank | hc := blankless_render j 0 h [] c hc
  · exact hblank
  · cases hc

end Json

end Covenant
