import Covenant.Proofs.Json.Numerals

/-!
# Reading back what was printed

A document whose doubles are finite (`Json.Finite`) is read from the text that
the printer makes of it (`Json.readRawChars?_text`), for every style whose
separators are a comma and a colon with blanks behind them, if the document is
not nested deeper and its integers are not longer than the reader takes. It
comes back with each double as that double's text is read (`Json.asRead`), so a
document without doubles comes back as it was. If no key in it is repeated
either (`Json.Exact`), there is nothing to merge, and all ways of reading agree
(`Json.readRaw?_text`, `Json.merged_of_exact`).

The reader counts two things down: its fuel, of which there is at least as much
as there are characters left, and its room, of which there is at least as much
as the document is nested deep. Every step reads a character, so neither runs
out before the end.
-/

namespace Covenant

namespace Json

/-! ## One step of the reader -/

section Steps

-- the equations of the reader are made once here, not by each of the lemmas that unfold it
attribute [local simp] readValue? readItems? readFields?

variable {fuel room : Nat} {cs inner more rest : List Char} {c : Char} {j : Json}
  {js : List Json} {fs : List (String × Json)} {k : List Char}

theorem readValue?_scalar (hskip : skipGap cs = c :: more)
    (hc : c ≠ '"' ∧ c ≠ '[' ∧ c ≠ '\x7b') :
    readValue? (fuel + 1) room cs = readScalar? (c :: more) := by
  obtain ⟨hquote, hbracket, hbrace⟩ := hc
  rw [readValue?, hskip]
  split
  · rename_i heq
    exact absurd (List.cons.inj heq).1 hquote
  · rename_i heq
    exact absurd (List.cons.inj heq).1 hbracket
  · rename_i heq
    exact absurd (List.cons.inj heq).1 hbrace
  · rfl

theorem readValue?_str (hskip : skipGap cs = '"' :: inner)
    (hread : readString? inner = some (k, rest)) :
    readValue? (fuel + 1) room cs = some (.str (String.ofList k), rest) := by
  rw [readValue?, hskip]
  show (readString? inner).map _ = _
  rw [hread]
  rfl

theorem readValue?_arr (hskip : skipGap cs = '[' :: inner) (hhead : skipGap inner = c :: more)
    (hc : c ≠ ']') (hitems : readItems? fuel room inner = some (js, rest)) :
    readValue? (fuel + 1) (room + 1) cs = some (.arr js, rest) := by
  rw [readValue?, hskip]
  simp only [hhead]
  split
  · rename_i heq
    exact absurd (List.cons.inj heq).1 hc
  · rw [hitems]
    rfl

theorem readValue?_obj (hskip : skipGap cs = '\x7b' :: inner) (hhead : skipGap inner = c :: more)
    (hc : c ≠ '\x7d') (hfields : readFields? fuel room inner = some (fs, rest)) :
    readValue? (fuel + 1) (room + 1) cs = some (.obj fs, rest) := by
  rw [readValue?, hskip]
  simp only [hhead]
  split
  · rename_i heq
    exact absurd (List.cons.inj heq).1 hc
  · rw [hfields]
    rfl

theorem readItems?_last (hvalue : readValue? fuel room cs = some (j, more))
    (hclose : skipGap more = ']' :: rest) : readItems? (fuel + 1) room cs = some ([j], rest) := by
  simp only [readItems?, hvalue, hclose]

theorem readItems?_next (hvalue : readValue? fuel room cs = some (j, more))
    (hcomma : skipGap more = ',' :: inner) (hitems : readItems? fuel room inner = some (js, rest)) :
    readItems? (fuel + 1) room cs = some (j :: js, rest) := by
  simp only [readItems?, hvalue, hcomma, hitems, Option.map_some]

theorem readFields?_last {name : List Char} (hskip : skipGap cs = '"' :: name)
    (hname : readString? name = some (k, inner)) {value : List Char}
    (hcolon : skipGap inner = ':' :: value) (hvalue : readValue? fuel room value = some (j, more))
    (hclose : skipGap more = '\x7d' :: rest) :
    readFields? (fuel + 1) room cs = some ([(String.ofList k, j)], rest) := by
  simp only [readFields?, hskip, hname, hcolon, hvalue, hclose]

theorem readFields?_next {name : List Char} (hskip : skipGap cs = '"' :: name)
    (hname : readString? name = some (k, inner)) {value : List Char}
    (hcolon : skipGap inner = ':' :: value) (hvalue : readValue? fuel room value = some (j, more))
    {others : List Char} (hcomma : skipGap more = ',' :: others)
    (hfields : readFields? fuel room others = some (fs, rest)) :
    readFields? (fuel + 1) room cs = some ((String.ofList k, j) :: fs, rest) := by
  simp only [readFields?, hskip, hname, hcolon, hvalue, hcomma, hfields, Option.map_some]

end Steps

/-! ## Documents -/

mutual

/-- **An exact document**: nothing in it is a double, and no object in it has a
repeated key. -/
def Exact : Json → Prop
  | .double _ => False
  | .arr items => ExactItems items
  | .obj fields => (fields.map Prod.fst).Nodup ∧ ExactFields fields
  | _ => True

def ExactItems : List Json → Prop
  | [] => True
  | j :: js => Exact j ∧ ExactItems js

def ExactFields : List (String × Json) → Prop
  | [] => True
  | (_, j) :: fs => Exact j ∧ ExactFields fs

end

mutual

/-- **A document of finite doubles**: none in it is an infinity or no number. -/
def Finite : Json → Prop
  | .double d => d.isFinite = true
  | .arr items => FiniteItems items
  | .obj fields => FiniteFields fields
  | _ => True

def FiniteItems : List Json → Prop
  | [] => True
  | j :: js => Finite j ∧ FiniteItems js

def FiniteFields : List (String × Json) → Prop
  | [] => True
  | (_, j) :: fs => Finite j ∧ FiniteFields fs

end

mutual

/-- **A document as its text is read**: every double is the one that its text
is read as, all else stays. -/
def asRead (l : NumberLayout) : Json → Json
  | .double d => .double (d.asRead l)
  | .arr items => .arr (asReadItems l items)
  | .obj fields => .obj (asReadFields l fields)
  | j => j

/-- Every item as its text is read. -/
def asReadItems (l : NumberLayout) : List Json → List Json
  | [] => []
  | j :: js => asRead l j :: asReadItems l js

/-- Every field as its text is read. -/
def asReadFields (l : NumberLayout) : List (String × Json) → List (String × Json)
  | [] => []
  | (k, j) :: fs => (k, asRead l j) :: asReadFields l fs

end

mutual

/-- An exact document has no doubles, finite or not. -/
theorem Exact.finite : ∀ {j : Json}, j.Exact → j.Finite
  | .null, _ => trivial
  | .bool _, _ => trivial
  | .int _, _ => trivial
  | .double _, h => h.elim
  | .str _, _ => trivial
  | .arr _, h => ExactItems.finite h
  | .obj _, h => ExactFields.finite h.2

theorem ExactItems.finite : ∀ {js : List Json}, ExactItems js → FiniteItems js
  | [], _ => trivial
  | _ :: _, h => ⟨Exact.finite h.1, ExactItems.finite h.2⟩

theorem ExactFields.finite : ∀ {fs : List (String × Json)}, ExactFields fs → FiniteFields fs
  | [], _ => trivial
  | (_, _) :: _, h => ⟨Exact.finite h.1, ExactFields.finite h.2⟩

end

mutual

/-- **An exact document is read as it is.** -/
theorem asRead_of_exact (l : NumberLayout) : ∀ {j : Json}, j.Exact → j.asRead l = j
  | .null, _ => rfl
  | .bool _, _ => rfl
  | .int _, _ => rfl
  | .double _, h => h.elim
  | .str _, _ => rfl
  | .arr _, h => congrArg Json.arr (asReadItems_of_exact l h)
  | .obj _, h => congrArg Json.obj (asReadFields_of_exact l h.2)

theorem asReadItems_of_exact (l : NumberLayout) :
    ∀ {js : List Json}, ExactItems js → asReadItems l js = js
  | [], _ => rfl
  | j :: js, h => by
    rw [asReadItems, asRead_of_exact l h.1, asReadItems_of_exact l h.2]

theorem asReadFields_of_exact (l : NumberLayout) :
    ∀ {fs : List (String × Json)}, ExactFields fs → asReadFields l fs = fs
  | [], _ => rfl
  | (k, j) :: fs, h => by
    rw [asReadFields, asRead_of_exact l h.1, asReadFields_of_exact l h.2]

end

/-- **A style that a reader takes**: what separates items is a comma, and what
separates a name from its value a colon, with nothing but blanks behind. -/
structure Style.Spaced (s : Style) : Prop where
  item : ∃ gap, s.item = ',' :: gap ∧ gap.all isGap = true
  colon : ∃ gap, s.colon = ':' :: gap ∧ gap.all isGap = true

/-- Items with their separators. -/
def renderRow (s : Style) (level : Nat) : List Json → List Char
  | [] => []
  | j :: js => render s level j ++ renderItems s level js

/-- Fields with their separators. -/
def renderFieldRow (s : Style) (level : Nat) : List (String × Json) → List Char
  | [] => []
  | (k, j) :: fs =>
    quoted s.ascii k.toList ++ (s.colon ++ (render s level j ++ renderFields s level fs))

section Documents

variable {s : Style}

theorem all_lineBreak (s : Style) (level : Nat) : (s.lineBreak level).all isGap = true := by
  unfold Style.lineBreak
  cases s.indent with
  | none => rfl
  | some width =>
    refine List.all_eq_true.mpr fun c hc => ?_
    obtain rfl | hc := List.mem_cons.mp hc
    · rfl
    · rw [List.eq_of_mem_replicate hc]
      rfl

/-- What a number starts with is not blank and starts nothing else. -/
theorem ne_of_sign_or_digit {c : Char} (h : c = '-' ∨ c.isDigit = true) :
    (c ≠ '"' ∧ c ≠ '[' ∧ c ≠ '\x7b') ∧ isGap c = false ∧ c ≠ ']' := by
  have hne : ∀ d : Char, (d = '-' ∨ d.isDigit = true → False) → c ≠ d := by
    rintro d hd rfl
    exact hd h
  have hblank : isGap c = false := by
    simp [isGap, hne ' ' (by decide), hne '\t' (by decide), hne '\n' (by decide),
      hne '\r' (by decide)]
  exact ⟨⟨hne _ (by decide), hne _ (by decide), hne _ (by decide)⟩, hblank, hne _ (by decide)⟩

theorem exists_head_intText (i : Int) :
    ∃ c cs, intText i = c :: cs ∧ (c = '-' ∨ c.isDigit = true) := by
  cases i with
  | ofNat n =>
    obtain ⟨c, cs, hcs⟩ := List.exists_cons_of_ne_nil (natDigits_ne_nil n)
    refine ⟨c, cs, hcs, .inr (isDigit_of_mem_natDigits (n := n) ?_)⟩
    rw [hcs]
    exact List.mem_cons_self
  | negSucc n => exact ⟨'-', natDigits (n + 1), rfl, .inl rfl⟩

/-- Every document starts with a character that is neither blank nor closes an
array. -/
theorem exists_render (s : Style) (level : Nat) {j : Json} (h : j.Finite) :
    ∃ c cs, render s level j = c :: cs ∧ isGap c = false ∧ c ≠ ']' := by
  cases j with
  | null => exact ⟨_, _, rfl, by decide, by decide⟩
  | bool b => cases b <;> exact ⟨_, _, rfl, by decide, by decide⟩
  | int i =>
    obtain ⟨c, cs, hcs, hc⟩ := exists_head_intText i
    exact ⟨c, cs, hcs, (ne_of_sign_or_digit hc).2⟩
  | double d =>
    obtain ⟨c, cs, hcs, hc⟩ := exists_head_doubleText s.numbers h
    exact ⟨c, cs, hcs, (ne_of_sign_or_digit hc).2⟩
  | str t => exact ⟨_, _, rfl, by decide, by decide⟩
  | arr js => cases js <;> exact ⟨_, _, rfl, by decide, by decide⟩
  | obj fs =>
    cases fs with
    | nil => exact ⟨_, _, rfl, by decide, by decide⟩
    | cons f fs => exact ⟨_, _, rfl, by decide, by decide⟩

/-- An array that is not empty, as one row of items in brackets. -/
theorem render_arr (s : Style) (level : Nat) (j : Json) (js : List Json) :
    render s level (.arr (j :: js)) = '[' :: (s.lineBreak (level + 1)
      ++ (renderRow s (level + 1) (j :: js) ++ (s.lineBreak level ++ [']']))) := by
  rw [render, renderRow, List.append_assoc]

/-- An object that is not empty, as one row of fields in braces. -/
theorem render_obj (s : Style) (level : Nat) (f : String × Json) (fs : List (String × Json)) :
    render s level (.obj (f :: fs)) = '\x7b' :: (s.lineBreak (level + 1)
      ++ (renderFieldRow s (level + 1) (f :: fs) ++ (s.lineBreak level ++ ['\x7d']))) := by
  obtain ⟨k, j⟩ := f
  simp only [render, renderFieldRow, List.append_assoc]

/-- **An array that is not empty is read where its row of items is.** -/
theorem readValue?_render_arr {level fuel room : Nat} {gap rest : List Char} {j : Json}
    {js items : List Json} (hfinite : j.Finite) (hgap : gap.all isGap = true)
    (hitems : readItems? fuel room (s.lineBreak (level + 1) ++ (renderRow s (level + 1) (j :: js)
      ++ (s.lineBreak level ++ (']' :: rest)))) = some (items, rest)) :
    readValue? (fuel + 1) (room + 1) (gap ++ (render s level (.arr (j :: js)) ++ rest))
      = some (.arr items, rest) := by
  -- the reader looks for the closing bracket of an empty array first, and finds an item
  obtain ⟨d, ds, hd, hblank, hclose⟩ := exists_render s (level + 1) hfinite
  rw [render_arr]
  simp only [List.cons_append, List.append_assoc, List.nil_append]
  have hhead : skipGap (s.lineBreak (level + 1) ++ (renderRow s (level + 1) (j :: js)
      ++ (s.lineBreak level ++ (']' :: rest))))
      = d :: (ds ++ (renderItems s (level + 1) js ++ (s.lineBreak level ++ (']' :: rest)))) := by
    rw [renderRow, hd, List.append_assoc]
    exact skipGap_append_cons (all_lineBreak s (level + 1)) hblank _
  exact readValue?_arr (skipGap_append_cons hgap (by decide) _) hhead hclose hitems

/-- **An object that is not empty is read where its row of fields is.** -/
theorem readValue?_render_obj {level fuel room : Nat} {gap rest : List Char} {f : String × Json}
    {fs fields : List (String × Json)} (hgap : gap.all isGap = true)
    (hfields : readFields? fuel room (s.lineBreak (level + 1)
      ++ (renderFieldRow s (level + 1) (f :: fs) ++ (s.lineBreak level ++ ('\x7d' :: rest))))
        = some (fields, rest)) :
    readValue? (fuel + 1) (room + 1) (gap ++ (render s level (.obj (f :: fs)) ++ rest))
      = some (.obj fields, rest) := by
  rw [render_obj]
  simp only [List.cons_append, List.append_assoc, List.nil_append]
  have hhead : skipGap (s.lineBreak (level + 1) ++ (renderFieldRow s (level + 1) (f :: fs)
      ++ (s.lineBreak level ++ ('\x7d' :: rest))))
      = '"' :: (f.1.toList.flatMap (escapeChar s.ascii) ++ ('"' :: (s.colon
        ++ (render s (level + 1) f.2 ++ (renderFields s (level + 1) fs
          ++ (s.lineBreak level ++ ('\x7d' :: rest))))))) := by
    simp only [renderFieldRow, quoted, List.cons_append, List.append_assoc, List.nil_append]
    exact skipGap_append_cons (all_lineBreak s (level + 1)) (by decide) _
  exact readValue?_obj (skipGap_append_cons hgap (by decide) _) hhead (by decide) hfields

mutual

/-- **A document is read from its text**, with blanks before it and whatever
comes after it. -/
theorem readValue?_render (hs : s.Spaced) : ∀ (j : Json) {level fuel room : Nat}
    {gap rest : List Char}, j.Finite → j.integersWithin integerDigitLimit = true →
    gap.all isGap = true → Stops rest → j.depth ≤ room → (render s level j).length ≤ fuel →
    readValue? fuel room (gap ++ (render s level j ++ rest)) = some (j.asRead s.numbers, rest) := by
  intro j level fuel room gap rest hfinite hintegers hgap hrest hroom hfuel
  obtain ⟨c, cs, hrender, hc, -⟩ := exists_render s level hfinite
  obtain ⟨fuel, rfl⟩ : ∃ f, fuel = f + 1 :=
    Nat.exists_eq_add_one_of_ne_zero (by rw [hrender, List.length_cons] at hfuel; omega)
  have hskip : skipGap (gap ++ (render s level j ++ rest)) = render s level j ++ rest := by
    rw [skipGap_append hgap, hrender, List.cons_append, skipGap_cons hc]
  match j with
  | .null =>
    rw [readValue?_scalar hskip ⟨by decide, by decide, by decide⟩]
    rfl
  | .bool b =>
    cases b with
    | false =>
      rw [readValue?_scalar hskip ⟨by decide, by decide, by decide⟩]
      rfl
    | true =>
      rw [readValue?_scalar hskip ⟨by decide, by decide, by decide⟩]
      rfl
  | .int i =>
    obtain ⟨c, cs, hcs, hstart⟩ := exists_head_intText i
    have hlimit : (natDigits i.natAbs).length ≤ integerDigitLimit := of_decide_eq_true hintegers
    rw [render, hcs, List.cons_append] at hskip
    rw [render, hcs, List.cons_append, readValue?_scalar hskip (ne_of_sign_or_digit hstart).1,
      ← List.cons_append, ← hcs]
    exact readScalar?_intText hlimit hrest
  | .double d =>
    obtain ⟨c, cs, hcs, hstart⟩ := exists_head_doubleText s.numbers hfinite
    rw [render, hcs, List.cons_append] at hskip
    rw [render, hcs, List.cons_append, readValue?_scalar hskip (ne_of_sign_or_digit hstart).1,
      ← List.cons_append, ← hcs]
    exact readScalar?_doubleText s.numbers hfinite hrest
  | .str t =>
    have hquoted : skipGap (gap ++ (render s level (.str t) ++ rest))
        = '"' :: (t.toList.flatMap (escapeChar s.ascii) ++ ('"' :: rest)) := by
      rw [hskip, render, quoted, List.cons_append, List.append_assoc, List.singleton_append]
    rw [readValue?_str hquoted (readString?_quoted s.ascii t.toList rest), String.ofList_toList]
    rfl
  | .arr [] =>
    rw [readValue?, hskip]
    rfl
  | .arr (j :: js) =>
    obtain ⟨room, rfl⟩ : ∃ r, room = r + 1 :=
      Nat.exists_eq_add_one_of_ne_zero (by simp only [depth, depthItems] at hroom; omega)
    rw [render_arr] at hfuel
    simp only [List.length_cons, List.length_append, List.length_nil] at hfuel
    exact readValue?_render_arr hfinite.1 hgap
      (readItems?_render hs (j :: js) (List.cons_ne_nil j js) hfinite hintegers
        (all_lineBreak s (level + 1)) (all_lineBreak s level) hroom (by omega))
  | .obj [] =>
    rw [readValue?, hskip]
    rfl
  | .obj (f :: fs) =>
    obtain ⟨room, rfl⟩ : ∃ r, room = r + 1 :=
      Nat.exists_eq_add_one_of_ne_zero (by simp only [depth, depthFields] at hroom; omega)
    rw [render_obj] at hfuel
    simp only [List.length_cons, List.length_append, List.length_nil] at hfuel
    exact readValue?_render_obj hgap
      (readFields?_render hs (f :: fs) (List.cons_ne_nil f fs) hfinite hintegers
        (all_lineBreak s (level + 1)) (all_lineBreak s level) hroom (by omega))

/-- **Items are read from their texts** up to the closing bracket, each item with
the reader and the rest after its comma. -/
theorem readItems?_render (hs : s.Spaced) : ∀ (items : List Json) {level fuel room : Nat}
    {gap gap' rest : List Char}, items ≠ [] → FiniteItems items →
    integersWithinItems integerDigitLimit items = true → gap.all isGap = true →
    gap'.all isGap = true → depthItems items ≤ room + 1 →
    (renderRow s level items).length + 1 ≤ fuel →
    readItems? fuel room (gap ++ (renderRow s level items ++ (gap' ++ (']' :: rest))))
      = some (asReadItems s.numbers items, rest) := by
  intro items level fuel room gap gap' rest hne hfinite hintegers hgap hgap' hroom hfuel
  obtain ⟨fuel, rfl⟩ : ∃ f, fuel = f + 1 := Nat.exists_eq_add_one_of_ne_zero (by omega)
  match items with
  | [] => exact absurd rfl hne
  | [j] =>
    have hstop : Stops (gap' ++ (']' :: rest)) := stops_append hgap' (stops_of_mark (by decide))
    simp only [renderRow, renderItems, List.append_nil, depthItems, integersWithinItems,
      Bool.and_true] at hfuel hroom hintegers ⊢
    exact readItems?_last
      (readValue?_render hs j hfinite.1 hintegers hgap hstop (by omega) (by omega))
      (skipGap_append_cons hgap' (by decide) rest)
  | j :: j' :: js =>
    -- behind the comma comes a row of its own, and the line break is blank before it
    obtain ⟨hj, hjs⟩ := Bool.and_eq_true_iff.mp hintegers
    obtain ⟨blank, hcomma, hblank⟩ := hs.item
    have hrow : renderRow s level (j :: j' :: js)
        = render s level j
          ++ (',' :: (blank ++ (s.lineBreak level ++ renderRow s level (j' :: js)))) := by
      rw [renderRow, renderItems, hcomma, renderRow, List.cons_append]
    rw [hrow] at hfuel ⊢
    simp only [List.length_cons, List.length_append] at hfuel
    rw [depthItems] at hroom
    rw [List.append_assoc, List.cons_append]
    refine readItems?_next (readValue?_render hs j hfinite.1 hj hgap (stops_of_mark (by decide))
      (by omega) (by omega)) (skipGap_cons (by decide) _) ?_
    have hitems : readItems? fuel room ((blank ++ s.lineBreak level)
        ++ (renderRow s level (j' :: js) ++ (gap' ++ (']' :: rest))))
          = some (asReadItems s.numbers (j' :: js), rest) :=
      readItems?_render hs (j' :: js) (List.cons_ne_nil j' js) hfinite.2 hjs
        (by rw [List.all_append, hblank, all_lineBreak]; rfl) hgap' (by omega) (by omega)
    simpa only [List.append_assoc] using hitems

/-- **Fields are read from their texts** up to the closing brace. -/
theorem readFields?_render (hs : s.Spaced) : ∀ (fields : List (String × Json))
    {level fuel room : Nat} {gap gap' rest : List Char}, fields ≠ [] → FiniteFields fields →
    integersWithinFields integerDigitLimit fields = true → gap.all isGap = true →
    gap'.all isGap = true → depthFields fields ≤ room + 1 →
    (renderFieldRow s level fields).length + 1 ≤ fuel →
    readFields? fuel room (gap ++ (renderFieldRow s level fields ++ (gap' ++ ('\x7d' :: rest))))
      = some (asReadFields s.numbers fields, rest) := by
  intro fields level fuel room gap gap' rest hne hfinite hintegers hgap hgap' hroom hfuel
  obtain ⟨fuel, rfl⟩ : ∃ f, fuel = f + 1 := Nat.exists_eq_add_one_of_ne_zero (by omega)
  obtain ⟨space, hcolon, hspace⟩ := hs.colon
  match fields with
  | [] => exact absurd rfl hne
  | [(k, j)] =>
    have hstop : Stops (gap' ++ ('\x7d' :: rest)) := stops_append hgap' (stops_of_mark (by decide))
    simp only [renderFieldRow, renderFields, quoted, hcolon, List.append_nil, List.cons_append,
      List.append_assoc, List.nil_append, List.length_cons, List.length_append, depthFields,
      integersWithinFields, Bool.and_true] at hfuel hroom hintegers ⊢
    exact (readFields?_last (skipGap_append_cons hgap (by decide) _)
      (readString?_quoted s.ascii k.toList _) (skipGap_cons (by decide) _)
      (readValue?_render hs j hfinite.1 hintegers hspace hstop (by omega) (by omega))
      (skipGap_append_cons hgap' (by decide) rest)).trans (by rw [String.ofList_toList]; rfl)
  | (k, j) :: (k', j') :: fs =>
    obtain ⟨hj, hfs⟩ := Bool.and_eq_true_iff.mp hintegers
    obtain ⟨blank, hcomma, hblank⟩ := hs.item
    have hrow : renderFieldRow s level ((k, j) :: (k', j') :: fs)
        = '"' :: (k.toList.flatMap (escapeChar s.ascii) ++ ('"' :: (':' :: (space
          ++ (render s level j ++ (',' :: (blank ++ (s.lineBreak level
            ++ renderFieldRow s level ((k', j') :: fs))))))))) := by
      rw [renderFieldRow, renderFields, hcomma, renderFieldRow, quoted, hcolon]
      simp only [List.cons_append, List.append_assoc, List.nil_append]
    rw [hrow] at hfuel ⊢
    simp only [List.length_cons, List.length_append] at hfuel
    rw [depthFields] at hroom
    have hfields : readFields? fuel room ((blank ++ s.lineBreak level)
        ++ (renderFieldRow s level ((k', j') :: fs) ++ (gap' ++ ('\x7d' :: rest))))
        = some (asReadFields s.numbers ((k', j') :: fs), rest) :=
      readFields?_render hs ((k', j') :: fs) (List.cons_ne_nil _ fs) hfinite.2 hfs
        (by rw [List.all_append, hblank, all_lineBreak]; rfl) hgap' (by omega) (by omega)
    simp only [List.cons_append, List.append_assoc] at hfields ⊢
    exact (readFields?_next (skipGap_append_cons hgap (by decide) _)
      (readString?_quoted s.ascii k.toList _) (skipGap_cons (by decide) _)
      (readValue?_render hs j hfinite.1 hj hspace (stops_of_mark (by decide)) (by omega) (by omega))
      (skipGap_cons (by decide) _) hfields).trans (by rw [String.ofList_toList]; rfl)

end

end Documents

/-! ## Texts -/

/-- **A document of finite doubles is read from its text**, with blanks behind
it, wherever the limit on its depth allows for it. -/
theorem readRawChars?_text {s : Style} (hs : s.Spaced) {j : Json} {blank : String} {limit : Nat}
    (hfinite : j.Finite) (hintegers : j.integersWithin integerDigitLimit = true)
    (hdepth : j.depth ≤ limit) (hblank : blank.toList.all isGap = true) :
    readRawChars? limit (j.text s ++ blank).toList = some (j.asRead s.numbers) := by
  have hread : readValue? (2 * (render s 0 j ++ blank.toList).length + 2) limit
      ([] ++ (render s 0 j ++ blank.toList)) = some (j.asRead s.numbers, blank.toList) := by
    have hstop : Stops (blank.toList ++ []) := stops_append hblank stops_nil
    rw [List.append_nil] at hstop
    exact readValue?_render hs j hfinite hintegers rfl hstop hdepth
      (by rw [List.length_append]; omega)
  have hskip : skipGap blank.toList = [] := by
    rw [← List.append_nil blank.toList, skipGap_append hblank]
    rfl
  unfold readRawChars?
  rw [text, String.toList_append, String.toList_ofList]
  rw [List.nil_append] at hread
  rw [hread]
  dsimp only
  rw [hskip]
  rfl

/-- A compact text is read without anything behind it. -/
theorem readRawChars?_text_compact {j : Json} {limit : Nat} (hfinite : j.Finite)
    (hintegers : j.integersWithin integerDigitLimit = true) (hdepth : j.depth ≤ limit) :
    readRawChars? limit (j.text .compact).toList = some (j.asRead .document) := by
  have hspaced : Style.compact.Spaced := ⟨⟨[], rfl, rfl⟩, ⟨[], rfl, rfl⟩⟩
  have hread := readRawChars?_text hspaced hfinite hintegers hdepth
    (show "".toList.all isGap = true from rfl)
  rwa [String.append_empty] at hread

/-- **An exact document is read from its text**, with blanks behind it. -/
theorem readRaw?_text {s : Style} (hs : s.Spaced) {j : Json} {blank : String} (hexact : j.Exact)
    (hintegers : j.integersWithin integerDigitLimit = true) (hdepth : j.depth ≤ depthLimit)
    (hblank : blank.toList.all isGap = true) : readRaw? (j.text s ++ blank) = some j := by
  unfold readRaw?
  rw [readRawChars?_text hs hexact.finite hintegers hdepth hblank, asRead_of_exact s.numbers hexact]

theorem spaced_indented : Style.indented.Spaced :=
  ⟨⟨[], rfl, rfl⟩, ⟨[' '], rfl, rfl⟩⟩

/-! ## Merging -/

mutual

/-- **An exact document has nothing to merge.** -/
theorem merged_of_exact : ∀ j : Json, j.Exact → j.merged = j
  | .null, _ => rfl
  | .bool _, _ => rfl
  | .int _, _ => rfl
  | .double _, _ => rfl
  | .str _, _ => rfl
  | .arr js, h => by
    rw [merged, mergedItems_of_exact js h]
  | .obj fs, h => by
    rw [merged, mergedFields_of_exact fs h.2, Entries.ofPairs_of_nodup h.1]

theorem mergedItems_of_exact : ∀ js : List Json, ExactItems js → mergedItems js = js
  | [], _ => rfl
  | j :: js, h => by
    rw [mergedItems, merged_of_exact j h.1, mergedItems_of_exact js h.2]

theorem mergedFields_of_exact :
    ∀ fs : List (String × Json), ExactFields fs → mergedFields fs = fs
  | [], _ => rfl
  | (k, j) :: fs, h => by
    rw [mergedFields, merged_of_exact j h.1, mergedFields_of_exact fs h.2]

end

/-- **An exact document is read from its text**, and nothing in it is merged. -/
theorem read?_text {s : Style} (hs : s.Spaced) {j : Json} (hexact : j.Exact)
    (hintegers : j.integersWithin integerDigitLimit = true) (hdepth : j.depth ≤ depthLimit) :
    read? (j.text s) = some j := by
  have hraw := readRaw?_text hs hexact hintegers hdepth (show "".toList.all isGap = true from rfl)
  rw [String.append_empty] at hraw
  rw [read?, hraw, Option.map_some, merged_of_exact j hexact]

/-- Merging but in no fields is merging. -/
theorem mergedBut_nil (j : Json) : j.mergedBut [] = j.merged := by
  cases j with
  | obj fields =>
    refine congrArg (fun fs => Json.obj (Entries.ofPairs fs)) ?_
    induction fields with
    | nil => rfl
    | cons f fs ih =>
      obtain ⟨k, j⟩ := f
      rw [List.map_cons, ih, mergedFields]
      cases j <;> rfl
  | _ => rfl

end Json

end Covenant
