import Covenant.Proofs.Value.Documents

/-!
# Records and their documents

A record **comes back** from its document if it has a document, and checking the
document gives the record again (`RoundTrips`). A field may also be left out of
the document; it comes back then if the check has it for a default
(`FieldRoundTrips`). The lemmas here take this from the parts to the whole: from
the items to a list, from the entries to a dictionary, and from each field to
the fields of a record by its names.

Two things are carried along with every document. It is exact, so that it is
read from its text as it is, and it is nested as deep as the record is laid open:
documents are made only up to a limit on their levels, and read only up to
another. Where a field is left out, the record laid open holds nothing under its
name, which is not deeper than any field that is there (`BothForms`).
-/

namespace Covenant

open Validation

/-! ## Fields -/

namespace Json

theorem exactFields_iff {fs : List (String × Json)} : ExactFields fs ↔ ∀ f ∈ fs, f.2.Exact := by
  induction fs with
  | nil => simp [ExactFields]
  | cons f fs ih => rw [ExactFields, ih, List.forall_mem_cons]

theorem depthFields_le_iff {fs : List (String × Json)} {n : Nat} :
    depthFields fs ≤ n ↔ ∀ f ∈ fs, f.2.depth < n := by
  induction fs with
  | nil => simp [depthFields]
  | cons f fs ih => rw [depthFields, Nat.max_le, ih, List.forall_mem_cons, Nat.succ_le_iff]

theorem depth_obj_concat (fs : List (String × Json)) (name : String) (j : Json) :
    (obj (fs ++ [(name, j)])).depth = max (obj fs).depth (j.depth + 1) := by
  show depthFields (fs ++ [(name, j)]) = max (depthFields fs) (j.depth + 1)
  induction fs with
  | nil => exact Nat.max_comm _ _
  | cons f fs ih => rw [List.cons_append, depthFields, depthFields, ih, Nat.max_assoc]

end Json

theorem Value.depth_record_concat (fs : List (String × Value)) (name : String) (v : Value) :
    (record (fs ++ [(name, v)])).depth = max (record fs).depth (v.depth + 1) := by
  show depthEntries ((fs ++ [(name, v)]).map fun f => (Key.str f.1, f.2))
    = max (depthEntries (fs.map fun f => (Key.str f.1, f.2))) (v.depth + 1)
  induction fs with
  | nil => exact Nat.max_comm _ _
  | cons f fs ih =>
    rw [List.cons_append, List.map_cons, List.map_cons, depthEntries, depthEntries, ih,
      Nat.max_assoc]

theorem Entries.get?_append {α : Type} (es es' : List (String × α)) (k : String) :
    Entries.get? (es ++ es') k = (Entries.get? es k).or (Entries.get? es' k) :=
  List.lookup_append

theorem Entries.get?_map {α β : Type} (f : α → β) (es : List (String × α)) (k : String) :
    Entries.get? (es.map fun e => (e.1, f e.2)) k = (Entries.get? es k).map f := by
  induction es with
  | nil => rfl
  | cons e es ih =>
    rw [List.map_cons, Entries.get?_cons, Entries.get?_cons, ih]
    cases k == e.1 <;> rfl

theorem get?_fieldIfAny (name k : String) (j : Option Json) :
    Entries.get? (fieldIfAny name j) k = if k == name then j else none := by
  cases j with
  | none => simp [fieldIfAny]
  | some j => simp [fieldIfAny, Entries.get?_cons]

theorem get?_record (fs : List (String × Value)) (k : String) :
    Entries.get? (fs.map fun f => (Key.str f.1, f.2)) (.str k) = Entries.get? fs k := by
  induction fs with
  | nil => rfl
  | cons f fs ih =>
    rw [List.map_cons, Entries.get?_cons, Entries.get?_cons, ih]
    show (if (k == f.1) = true then _ else _) = _
    cases k == f.1 <;> rfl

theorem get?_ofJsonFields (fs : List (String × Json)) (k : String) :
    Entries.get? (Value.ofJsonFields fs) (.str k) = (Entries.get? fs k).map Value.ofJson := by
  rw [← Entries.get?_map, ← get?_record, List.map_map, Value.ofJsonFields_eq_map]
  rfl

/-! ## Round trips -/

variable {α : Type} {document : α → Except Unwritable Json} {check : Check α} {n : Nat}

/-- **Something comes back from its document**: it has one, which is exact and
of a known depth, and checking the document gives it again. -/
def RoundTrips (document : α → Except Unwritable Json) (check : Check α) (n : Nat) (a : α) : Prop :=
  ∃ j, document a = .ok j ∧ j.Exact ∧ j.depth = n ∧ check (.ofJson j) = .passed a

/-- **A field that may be left out** comes back: if it is there, it is exact and
of a known depth, and checking it gives the field again; if not, the default is
the field, and there is no depth to know. -/
def FieldRoundTrips (check : Check α) (n : Nat) (default a : α) : Option Json → Prop
  | some j => j.Exact ∧ j.depth = n ∧ check (.ofJson j) = .passed a
  | none => default = a ∧ n = 0

/-- **Records in a list come back** one by one, each of them as far as its levels
fit. -/
theorem roundTrips_documents [Model α] {as : List α}
    (h : ∀ a ∈ as, (Model.opened a).depth < Value.levelLimit →
      RoundTrips Model.document (Model.check : Check α) (Model.opened a).depth a)
    (hdepth : (Value.list (as.map Model.opened)).depth < Value.levelLimit) :
    ∃ js, Model.documents as = .ok js ∧ (Json.arr js).Exact
      ∧ (Json.arr js).depth = (Value.list (as.map Model.opened)).depth
      ∧ ∀ i, items Model.check i (Value.ofJsonItems js) = .passed as := by
  induction as with
  | nil => exact ⟨[], rfl, trivial, rfl, fun _ => rfl⟩
  | cons a as ih =>
    obtain ⟨ha, has⟩ := List.forall_mem_cons.mp h
    obtain ⟨hhead, htail⟩ := Nat.max_lt.mp hdepth
    obtain ⟨j, hdocument, hexact, hj, hcheck⟩ := ha (Nat.lt_of_succ_lt hhead)
    obtain ⟨js, hdocuments, hexacts, hjs, hchecks⟩ := ih has htail
    refine ⟨j :: js, Model.documents_cons_eq_ok_iff.mpr ⟨j, js, hdocument, hdocuments, rfl⟩,
      ⟨hexact, hexacts⟩, ?_, fun i => ?_⟩
    · show max (j.depth + 1) (Json.arr js).depth = _
      rw [hj, hjs]
      rfl
    · rw [Value.ofJsonItems, items, hcheck, hchecks]
      rfl

/-- Entries come back one by one, each of them as far as its levels fit. -/
theorem roundTrips_plainFields {opened : α → Value} {fs : List (String × α)}
    (h : ∀ f ∈ fs, (opened f.2).depth < Value.levelLimit →
      RoundTrips document check (opened f.2).depth f.2)
    (hdepth : (Value.record (fs.map fun f => (f.1, opened f.2))).depth < Value.levelLimit) :
    ∃ js, plainFields document fs = .ok js ∧ js.map Prod.fst = fs.map Prod.fst
      ∧ Json.ExactFields js
      ∧ (Json.obj js).depth = (Value.record (fs.map fun f => (f.1, opened f.2))).depth
      ∧ entries check (Value.ofJsonFields js) = .passed fs := by
  induction fs with
  | nil => exact ⟨[], rfl, rfl, trivial, rfl, rfl⟩
  | cons f fs ih =>
    obtain ⟨k, a⟩ := f
    obtain ⟨ha, hfs⟩ := List.forall_mem_cons.mp h
    obtain ⟨hhead, htail⟩ := Nat.max_lt.mp hdepth
    obtain ⟨j, hdocument, hexact, hj, hcheck⟩ := ha (Nat.lt_of_succ_lt hhead)
    obtain ⟨js, hdocuments, hkeys, hexacts, hjs, hchecks⟩ := ih hfs htail
    refine ⟨(k, j) :: js, plainFields_cons_eq_ok_iff.mpr ⟨j, js, hdocument, hdocuments, rfl⟩,
      congrArg (k :: ·) hkeys, ⟨hexact, hexacts⟩, ?_, ?_⟩
    · show max (j.depth + 1) (Json.obj js).depth = _
      rw [hj, hjs]
      rfl
    · rw [Value.ofJsonFields, entries, hcheck, hchecks]
      rfl

/-- **A dictionary comes back** if its keys are distinct and its entries come
back. -/
theorem roundTrips_dictionary {opened : α → Value} {fs : Entries String α}
    (hkeys : fs.keys.Nodup)
    (h : ∀ f ∈ fs, (opened f.2).depth < Value.levelLimit →
      RoundTrips document check (opened f.2).depth f.2)
    (hdepth : (Value.record (fs.map fun f => (f.1, opened f.2))).depth < Value.levelLimit) :
    RoundTrips (fun fs => (plainFields document fs).map .obj) (dictionary check)
      (Value.record (fs.map fun f => (f.1, opened f.2))).depth fs := by
  obtain ⟨js, hdocument, hjs, hexact, heq, hcheck⟩ := roundTrips_plainFields h hdepth
  have hnodup : (fs.map Prod.fst).Nodup := hkeys
  refine ⟨.obj js, ?_, ⟨by rwa [hjs], hexact⟩, heq, ?_⟩
  · dsimp only
    rw [hdocument]
    rfl
  · show (entries check (Value.ofJsonFields js)).map Entries.ofPairs = .passed fs
    rw [hcheck, Checked.map, Entries.ofPairs_of_nodup hnodup]

/-- A dictionary of documents with distinct keys is taken as it is. -/
theorem dictionary_anything_ofJson {fs : List (String × Json)} (h : (fs.map Prod.fst).Nodup) :
    dictionary anything (.ofJson (.obj fs)) = .passed (fs.map fun f => (f.1, .ofJson f.2)) := by
  rw [← Value.record_map_ofJson]
  refine dictionary_anything_record ?_
  rwa [List.map_map]

/-- **A field that may hold nothing comes back** if what it holds does, and has
another document than nothing. -/
theorem fieldRoundTrips_nullable {opened : α → Value} {o : Option α}
    (h : ∀ a ∈ o, RoundTrips document check (opened a).depth a ∧ document a ≠ .ok .null) :
    ∃ j, documentIfAny document o = .ok j
      ∧ FieldRoundTrips (nullable check) (openedOrNull opened o).depth none o j := by
  cases o with
  | none => exact ⟨none, rfl, rfl, rfl⟩
  | some a =>
    obtain ⟨⟨j, hdocument, hexact, hdepth, hcheck⟩, hnull⟩ := h a rfl
    refine ⟨some j, ?_, hexact, hdepth, ?_⟩
    · rw [documentIfAny, hdocument]
      rfl
    · cases j with
      | null => exact absurd hdocument hnull
      | _ =>
        refine Eq.trans ?_ (congrArg (Checked.map some) hcheck)
        rfl

/-! ## Fields of records -/

variable {fs : List (String × Json)} {name : String} {names : List String} {a default : α}

/-- A field that is there, by the first of its names. -/
theorem named?_of_get? {j : Json} (h : Entries.get? fs name = some j) :
    named? (Value.ofJsonFields fs) (name :: names) = some (name, .ofJson j) := by
  rw [named?, get?_ofJsonFields, h]
  rfl

theorem required_of_get? {j : Json} (h : Entries.get? fs name = some j)
    (hcheck : check (.ofJson j) = .passed a) :
    required (Value.ofJsonFields fs) (name :: names) check = .passed a := by
  rw [required, named?_of_get? h]
  dsimp only
  rw [hcheck]
  rfl

/-- A field that could have been left out comes back where it is there. -/
theorem withDefault_of_some {j : Json} (h : Entries.get? fs name = some j)
    (hcheck : check (.ofJson j) = .passed a) :
    withDefault (Value.ofJsonFields fs) (name :: names) default check = .passed a := by
  rw [withDefault, named?_of_get? h]
  dsimp only
  rw [hcheck]
  rfl

/-- A field that may be left out comes back, if its other names are unused. -/
theorem withDefault_of_get? {j : Option Json} (h : Entries.get? fs name = j)
    (hnames : ∀ other ∈ names, Entries.get? fs other = none)
    (hfield : FieldRoundTrips check n default a j) :
    withDefault (Value.ofJsonFields fs) (name :: names) default check = .passed a := by
  cases j with
  | some j => exact withDefault_of_some h hfield.2.2
  | none =>
    have hnone : named? (Value.ofJsonFields fs) (name :: names) = none := by
      rw [named?, get?_ofJsonFields, h]
      dsimp only [Option.map_none]
      induction names with
      | nil => rfl
      | cons other names ih =>
        obtain ⟨hother, hrest⟩ := List.forall_mem_cons.mp hnames
        rw [named?, get?_ofJsonFields, hother]
        exact ih hrest
    rw [withDefault, hnone]
    exact congrArg Checked.passed hfield.1

/-! ## Records -/

/-- **The fields of a record in both forms**, laid open and in its document.
Those of the document have some of the names in their order, and are exact; and
both are nested equally deep. -/
structure BothForms (opened : List (String × Value)) (names : List String)
    (fs : List (String × Json)) : Prop where
  keys : (fs.map Prod.fst).Sublist names
  fields : ∀ f ∈ fs, f.2.Exact
  depth : (Json.obj fs).depth = (Value.record opened).depth

namespace BothForms

variable {opened : List (String × Value)} {v : Value}

theorem nil : BothForms [] [] [] := ⟨.slnil, fun _ hf => (nomatch hf), rfl⟩

theorem field {j : Json} (h : BothForms opened names fs) (openedName name : String)
    (hexact : j.Exact) (hdepth : j.depth = v.depth) :
    BothForms (opened ++ [(openedName, v)]) (names ++ [name]) (fs ++ [(name, j)]) := by
  refine ⟨?_, ?_, ?_⟩
  · rw [List.map_append]
    exact h.keys.append (List.Sublist.refl _)
  · exact List.forall_mem_append.mpr ⟨h.fields, List.forall_mem_singleton.mpr hexact⟩
  · rw [Json.depth_obj_concat, Value.depth_record_concat, h.depth, hdepth]

/-- A field that only the record laid open has, and others before it. -/
theorem absent (h : BothForms opened names fs) (hopened : opened ≠ []) (openedName : String)
    (hv : v.depth = 0) : BothForms (opened ++ [(openedName, v)]) names fs := by
  refine ⟨h.keys, h.fields, ?_⟩
  obtain ⟨f, hf⟩ := List.exists_mem_of_ne_nil _ hopened
  -- the fields before it are not less deep
  have hpos : 0 + 1 ≤ (Value.record opened).depth :=
    Nat.le_trans (Nat.succ_le_succ (Nat.zero_le _))
      (Value.depth_record_le_iff.mp (Nat.le_refl _) f hf)
  rw [Value.depth_record_concat, h.depth, hv, Nat.max_eq_left hpos]

theorem fieldIfAny {j : Option Json} (h : BothForms opened names fs) (hopened : opened ≠ [])
    (openedName name : String) (hj : FieldRoundTrips check v.depth default a j) :
    BothForms (opened ++ [(openedName, v)]) (names ++ [name])
      (fs ++ Covenant.fieldIfAny name j) := by
  cases j with
  | some j => exact h.field openedName name hj.1 hj.2.1
  | none =>
    obtain ⟨hkeys, hfields, hdepth⟩ := h.absent hopened openedName hj.2
    rw [show fs ++ Covenant.fieldIfAny name none = fs from List.append_nil fs]
    exact ⟨hkeys.trans (List.sublist_append_left names [name]), hfields, hdepth⟩

/-- **The document of a record** is exact if the names of its fields are
distinct, and as deep as the record laid open. -/
theorem obj (h : BothForms opened names fs) (hnames : names.Nodup) :
    (Json.obj fs).Exact ∧ (Json.obj fs).depth = (Value.record opened).depth :=
  ⟨⟨hnames.sublist h.keys, Json.exactFields_iff.mpr h.fields⟩, h.depth⟩

end BothForms

end Covenant
