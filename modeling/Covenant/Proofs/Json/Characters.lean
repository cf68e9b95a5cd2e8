import Covenant.Proofs.Json.Compact

/-!
# The characters of a text

Whatever is in the strings of a document, its text has no control characters but
the line breaks that the style puts between items, and in an ASCII style it has
nothing beyond ASCII either (`Json.forall_mem_render`): strings are escaped, and
everything else is written in marks, digits and words.

Doubles are left out, since what stands for them is a matter of their layout.
-/

namespace Covenant

namespace Json

/-- **A character that a style writes as it is**: none below the blank, and none
beyond the tilde in an ASCII style. -/
def Plain (ascii : Bool) (c : Char) : Prop := 0x20 ≤ c.toNat ∧ (ascii = true → c.toNat ≤ 0x7e)

section Characters

variable {ascii : Bool}

/-- What lies between the blank and the tilde is plain in every style. -/
theorem plain_of_printable {c : Char} (h : 0x20 ≤ c.toNat ∧ c.toNat ≤ 0x7e) : Plain ascii c :=
  ⟨h.1, fun _ => h.2⟩

theorem plain_of_isDigit {c : Char} (h : c.isDigit = true) : Plain ascii c := by
  have hrange : 48 ≤ c.toNat ∧ c.toNat ≤ 57 := by
    simpa [Char.isDigit, UInt32.le_iff_toNat_le] using h
  exact plain_of_printable (by omega)

theorem hexDigit_printable :
    ∀ n < 16, 0x20 ≤ (hexDigit n).toNat ∧ (hexDigit n).toNat ≤ 0x7e := by decide

theorem plain_of_mem_unitEscape {n : Nat} {c : Char} (hc : c ∈ unitEscape n) : Plain ascii c := by
  unfold unitEscape hex4 at hc
  simp only [List.mem_cons, List.not_mem_nil, or_false] at hc
  obtain rfl | rfl | rfl | rfl | rfl | rfl := hc
  · exact plain_of_printable (by decide)
  · exact plain_of_printable (by decide)
  all_goals exact plain_of_printable (hexDigit_printable _ (Nat.mod_lt _ (by decide)))

/-- **What is not plain is escaped.** -/
theorem plain_of_mem_escapeChar {c d : Char} (hd : d ∈ escapeChar ascii c) : Plain ascii d := by
  have hletters : ∀ e : Char, 0x20 ≤ e.toNat ∧ e.toNat ≤ 0x7e → d ∈ ['\\', e] → Plain ascii d := by
    intro e he hmem
    simp only [List.mem_cons, List.not_mem_nil, or_false] at hmem
    obtain rfl | rfl := hmem
    · exact plain_of_printable (by decide)
    · exact plain_of_printable he
  unfold escapeChar at hd
  dsimp only at hd
  split at hd
  · exact hletters _ (by decide) hd
  split at hd
  · exact hletters _ (by decide) hd
  split at hd
  · exact hletters _ (by decide) hd
  split at hd
  · exact hletters _ (by decide) hd
  split at hd
  · exact hletters _ (by decide) hd
  split at hd
  · exact hletters _ (by decide) hd
  split at hd
  · exact hletters _ (by decide) hd
  split at hd
  · exact plain_of_mem_unitEscape hd
  rename_i hcontrol
  split at hd
  · split at hd
    · exact plain_of_mem_unitEscape hd
    · exact (List.mem_append.mp hd).elim plain_of_mem_unitEscape plain_of_mem_unitEscape
  · rename_i hbeyond
    obtain rfl := List.mem_singleton.mp hd
    exact ⟨Nat.not_lt.mp hcontrol, fun hascii =>
      Nat.not_lt.mp fun hlt => hbeyond ⟨hascii, hlt⟩⟩

theorem plain_of_mem_quoted {cs : List Char} {c : Char} (hc : c ∈ quoted ascii cs) :
    Plain ascii c := by
  have hquote : Plain ascii '"' := plain_of_printable (by decide)
  unfold quoted at hc
  obtain rfl | hc := List.mem_cons.mp hc
  · exact hquote
  obtain hc | hc := List.mem_append.mp hc
  · obtain ⟨d, -, hd⟩ := List.mem_flatMap.mp hc
    exact plain_of_mem_escapeChar hd
  · exact List.mem_singleton.mp hc ▸ hquote

/-- The text of an integer is plain. -/
theorem plain_of_mem_intText {i : Int} {c : Char} (hc : c ∈ intText i) : Plain ascii c := by
  cases i with
  | ofNat n => exact plain_of_isDigit (isDigit_of_mem_natDigits hc)
  | negSucc n =>
    obtain rfl | hc := List.mem_cons.mp hc
    · exact plain_of_printable (by decide)
    · exact plain_of_isDigit (isDigit_of_mem_natDigits hc)

end Characters

/-- **What holds of all that a style writes**: of what stands between items and of
plain characters. -/
structure Style.Writes (s : Style) (P : Char → Prop) : Prop where
  item : ∀ c ∈ s.item, P c
  colon : ∀ c ∈ s.colon, P c
  lineBreak : ∀ level, ∀ c ∈ s.lineBreak level, P c
  plain : ∀ c, Plain s.ascii c → P c

section Texts

variable {s : Style} {P : Char → Prop}

theorem forall_mem_append {cs ds : List Char} (hcs : ∀ c ∈ cs, P c) (hds : ∀ c ∈ ds, P c) :
    ∀ c ∈ cs ++ ds, P c :=
  fun c hc => (List.mem_append.mp hc).elim (hcs c) (hds c)

theorem Style.Writes.marks (h : s.Writes P) {cs : List Char}
    (hcs : cs.all (fun c => decide (0x20 ≤ c.toNat ∧ c.toNat ≤ 0x7e)) = true) : ∀ c ∈ cs, P c :=
  fun c hc => h.plain c (plain_of_printable (of_decide_eq_true (List.all_eq_true.mp hcs c hc)))

theorem Style.Writes.quoted (h : s.Writes P) (cs : List Char) : ∀ c ∈ quoted s.ascii cs, P c :=
  fun c hc => h.plain c (plain_of_mem_quoted hc)

mutual

/-- **The characters of an exact document's text** are those that its style
writes. -/
theorem forall_mem_render (h : s.Writes P) : ∀ (j : Json) (level : Nat), j.Exact →
    ∀ c ∈ render s level j, P c
  | .null, _, _ => show ∀ c ∈ "null".toList, P c from h.marks (by decide)
  | .bool true, _, _ => show ∀ c ∈ "true".toList, P c from h.marks (by decide)
  | .bool false, _, _ => show ∀ c ∈ "false".toList, P c from h.marks (by decide)
  | .int _, _, _ => fun c hc => h.plain c (plain_of_mem_intText hc)
  | .double _, _, hexact => hexact.elim
  | .str t, _, _ => h.quoted t.toList
  | .arr [], _, _ => show ∀ c ∈ ['[', ']'], P c from h.marks (by decide)
  | .arr (j :: js), level, hexact => by
    have hopen : ∀ c ∈ ['['], P c := h.marks (by decide)
    have hclose : ∀ c ∈ [']'], P c := h.marks (by decide)
    exact forall_mem_append hopen (forall_mem_append (h.lineBreak (level + 1))
      (forall_mem_append (forall_mem_render h j (level + 1) hexact.1)
        (forall_mem_append (forall_mem_renderItems h js (level + 1) hexact.2)
          (forall_mem_append (h.lineBreak level) hclose))))
  | .obj [], _, _ => show ∀ c ∈ ['\x7b', '\x7d'], P c from h.marks (by decide)
  | .obj ((k, j) :: fs), level, hexact => by
    have hopen : ∀ c ∈ ['\x7b'], P c := h.marks (by decide)
    have hclose : ∀ c ∈ ['\x7d'], P c := h.marks (by decide)
    exact forall_mem_append hopen (forall_mem_append (h.lineBreak (level + 1))
      (forall_mem_append (h.quoted k.toList) (forall_mem_append h.colon
        (forall_mem_append (forall_mem_render h j (level + 1) hexact.2.1)
          (forall_mem_append (forall_mem_renderFields h fs (level + 1) hexact.2.2)
            (forall_mem_append (h.lineBreak level) hclose))))))

theorem forall_mem_renderItems (h : s.Writes P) : ∀ (js : List Json) (level : Nat),
    ExactItems js → ∀ c ∈ renderItems s level js, P c
  | [], _, _ => fun _ hc => nomatch hc
  | j :: js, level, hexact =>
    forall_mem_append h.item (forall_mem_append (h.lineBreak level)
      (forall_mem_append (forall_mem_render h j level hexact.1)
        (forall_mem_renderItems h js level hexact.2)))

theorem forall_mem_renderFields (h : s.Writes P) : ∀ (fs : List (String × Json)) (level : Nat),
    ExactFields fs → ∀ c ∈ renderFields s level fs, P c
  | [], _, _ => fun _ hc => nomatch hc
  | (k, j) :: fs, level, hexact =>
    forall_mem_append h.item (forall_mem_append (h.lineBreak level)
      (forall_mem_append (h.quoted k.toList) (forall_mem_append h.colon
        (forall_mem_append (forall_mem_render h j level hexact.1)
          (forall_mem_renderFields h fs level hexact.2)))))

end

theorem forall_mem_text (h : s.Writes P) {j : Json} (hexact : j.Exact) :
    ∀ c ∈ (j.text s).toList, P c := by
  rw [text, String.toList_ofList]
  exact forall_mem_render h j 0 hexact

end Texts

/-- **A log line is printable ASCII.** -/
theorem writes_logLine : Style.logLine.Writes fun c => 0x20 ≤ c.toNat ∧ c.toNat ≤ 0x7e where
  item := List.forall_mem_cons.mpr ⟨by decide, List.forall_mem_singleton.mpr (by decide)⟩
  colon := List.forall_mem_cons.mpr ⟨by decide, List.forall_mem_singleton.mpr (by decide)⟩
  lineBreak _ _ hc := nomatch hc
  plain _ hc := ⟨hc.1, hc.2 rfl⟩

/-- **No carriage return is in an indented text.** -/
theorem writes_indented : Style.indented.Writes (· ≠ '\r') where
  item := List.forall_mem_singleton.mpr (by decide)
  colon := List.forall_mem_cons.mpr ⟨by decide, List.forall_mem_singleton.mpr (by decide)⟩
  lineBreak level _ hc := by
    rintro rfl
    exact absurd hc (by simp [Style.lineBreak, Style.indented])
  plain _ hc := by
    rintro rfl
    exact absurd hc.1 (by decide)

end Json

end Covenant
