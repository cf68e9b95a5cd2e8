import Covenant.Validation.Record
import Covenant.Matcher

/-!
# Models

A model is a typed record that can be checked out of a value, written as a
document, and laid open as a value again.

* The **document** uses the names of contract files and leaves out fields
  that hold nothing.
* The **opened** value uses the names of this library and has every field;
  matchers appear in their integration form, tuples stay tuples.
-/

namespace Covenant

open Validation

/-- **What becomes of an assignment to a field of a record.** -/
inductive Assignment where
  /-- The field takes the value. -/
  | taken
  /-- The record never changes. -/
  | frozen
  /-- The field is derived from the others. -/
  | derived
  /-- The name stands for the record as a whole, and the value for no record. -/
  | structural
  /-- There is no such field. -/
  | unknown
deriving DecidableEq

/-- **A model.** -/
class Model (α : Type) where
  /-- The model's name in reports. -/
  name : String
  /-- The check that a value passes to become a record of the model. -/
  check : Check α
  /-- The record as a document, repeated keys included. -/
  document : α → Except Unwritable Json
  /-- The record laid open. -/
  opened : α → Value
  /-- The fields whose entries are all checked in a JSON text, repeated keys
  included. -/
  dictionaries : List String := []
  /-- What becomes of an assignment to a field, by its name. -/
  assignment : String → Assignment := fun _ => .frozen

/-- Names that stand for the record as a whole. -/
def structuralNames : List String := ["__class__", "__dict__"]

/-- Names with an underscore in front that belong to the model and not to a
record of it. -/
def modelNames : List String :=
  ["__class_vars__", "__fields_set__", "__private_attributes__", "__signature__", "__weakref__"]

/-- What becomes of an assignment to a name with an underscore in front, which
is no field: most are free. -/
def Assignment.ofReserved (name : String) : Assignment :=
  if structuralNames.contains name then .structural
  else if modelNames.contains name then .derived
  else .taken

/-- The names that every record derives from its fields. -/
def derivedNames : List String := ["model_extra", "model_fields_set"]

namespace Model

variable {α : Type} [Model α]

/-- **What becomes of an assignment to a name.** -/
def assigned (α : Type) [Model α] (target : String) : Assignment :=
  if target.toList.head? = some '_' then .ofReserved target else assignment α target

/-- A record out of a value. -/
def ofValue (v : Value) : Except Report α := Validation.ofValue (name α) check v

/-- A record out of a JSON text. -/
def ofText (s : String) : Except Report α :=
  Validation.ofText (name α) (dictionaries α) check s

/-- The document of a record, with equal keys merged. -/
def dumped (a : α) : Except Unwritable Json := (document a).map Json.merged

/-- The documents of records. -/
def documents : List α → Except Unwritable (List Json)
  | [] => .ok []
  | a :: as =>
    match document a with
    | .error e => .error e
    | .ok j => (documents as).map (j :: ·)

/-- Records have documents if the first one has one and the others have theirs. -/
theorem documents_cons_eq_ok_iff {a : α} {as : List α} {js : List Json} :
    documents (a :: as) = .ok js ↔
      ∃ j rest, document a = .ok j ∧ documents as = .ok rest ∧ j :: rest = js := by
  rw [documents]
  cases document a with
  | error e => simp
  | ok j => cases documents as <;> simp [Except.map]

/-- Every one of the records has its document, and every document is that of a record. -/
theorem exists_of_documents {as : List α} {js : List Json} (h : documents as = .ok js) :
    (∀ a ∈ as, ∃ j ∈ js, document a = .ok j) ∧ ∀ j ∈ js, ∃ a ∈ as, document a = .ok j := by
  induction as generalizing js with
  | nil =>
    cases h
    exact ⟨fun _ ha => (nomatch ha), fun _ hj => (nomatch hj)⟩
  | cons a as ih =>
    obtain ⟨j, rest, hj, hrest, rfl⟩ := documents_cons_eq_ok_iff.mp h
    obtain ⟨hrecords, hdocuments⟩ := ih hrest
    refine ⟨List.forall_mem_cons.mpr ⟨⟨j, List.mem_cons_self, hj⟩, fun b hb => ?_⟩,
      List.forall_mem_cons.mpr ⟨⟨a, List.mem_cons_self, hj⟩, fun k hk => ?_⟩⟩
    · obtain ⟨k, hk, hdocument⟩ := hrecords b hb
      exact ⟨k, List.mem_cons_of_mem _ hk, hdocument⟩
    · obtain ⟨b, hb, hdocument⟩ := hdocuments k hk
      exact ⟨b, List.mem_cons_of_mem _ hb, hdocument⟩

/-- There are as many documents as records. -/
theorem length_of_documents {as : List α} {js : List Json} (h : documents as = .ok js) :
    js.length = as.length := by
  induction as generalizing js with
  | nil =>
    cases h
    rfl
  | cons a as ih =>
    obtain ⟨j, rest, -, hrest, rfl⟩ := documents_cons_eq_ok_iff.mp h
    rw [List.length_cons, List.length_cons, ih hrest]

/-- **Some of the records** have some of the documents, in order. -/
theorem documents_of_sublist {as bs : List α} {js : List Json} (hs : as.Sublist bs)
    (h : documents bs = .ok js) : ∃ is, documents as = .ok is ∧ is.Sublist js := by
  induction hs generalizing js with
  | slnil => exact ⟨js, h, .refl js⟩
  | cons b _ ih =>
    obtain ⟨j, rest, -, hrest, rfl⟩ := documents_cons_eq_ok_iff.mp h
    obtain ⟨is, his, hsub⟩ := ih hrest
    exact ⟨is, his, hsub.cons j⟩
  | cons_cons b _ ih =>
    obtain ⟨j, rest, hj, hrest, rfl⟩ := documents_cons_eq_ok_iff.mp h
    obtain ⟨is, his, hsub⟩ := ih hrest
    exact ⟨j :: is, documents_cons_eq_ok_iff.mpr ⟨j, is, hj, his, rfl⟩, hsub.cons_cons j⟩

end Model

/-! ## Building documents -/

/-- A field that is written if it holds something. -/
def fieldIfAny (name : String) : Option Json → List (String × Json)
  | some j => [(name, j)]
  | none => []

/-- A text as a field. -/
def textIfAny (name : String) (s : Option String) : List (String × Json) :=
  fieldIfAny name (s.map .str)

/-- The document of something that may be absent. -/
def documentIfAny {α : Type} (document : α → Except Unwritable Json) :
    Option α → Except Unwritable (Option Json)
  | none => .ok none
  | some a => (document a).map some

/-- The document of a value, absent where the value is. -/
def plainIfAny : Value → Except Unwritable (Option Json)
  | .null => .ok none
  | v => v.plain.map some

/-- Named documents of values. -/
def plainFields {α : Type} (document : α → Except Unwritable Json) :
    List (String × α) → Except Unwritable (List (String × Json))
  | [] => .ok []
  | (k, a) :: es =>
    match document a with
    | .error e => .error e
    | .ok j => (plainFields document es).map ((k, j) :: ·)

/-- Named values have documents if the first one has one and the others have theirs. -/
theorem plainFields_cons_eq_ok_iff {α : Type} {document : α → Except Unwritable Json} {k : String}
    {a : α} {es : List (String × α)} {js : List (String × Json)} :
    plainFields document ((k, a) :: es) = .ok js ↔
      ∃ j rest, document a = .ok j ∧ plainFields document es = .ok rest ∧ (k, j) :: rest = js := by
  rw [plainFields]
  cases document a with
  | error e => simp
  | ok j => cases plainFields document es <;> simp [Except.map]

/-! ## Opening records -/

/-- A text as a value, or nothing. -/
def textOrNull : Option String → Value
  | some s => .str s
  | none => .null

/-- Something as a value, or nothing. -/
def openedOrNull {α : Type} (opened : α → Value) : Option α → Value
  | some a => opened a
  | none => .null

/-- A value with its matchers in integration form. -/
def openedValue (v : Value) : Value := v.unwrapMatchers false

/-- Named values with their matchers in integration form. -/
def openedFields (fs : Entries String Value) : Value :=
  .record (fs.map fun (k, v) => (k, openedValue v))

/-! ## Matchers as a model -/

/-- The fields of a matcher out of its integration form: every entry but the
type, the generator and the example is an attribute. -/
def MatcherOf.ofIntegration (es : List (Key × Value)) : List (Key × Value) :=
  let own := [MatcherOf.typeField, MatcherOf.generatorField, MatcherOf.valueField]
  let field name := (Entries.get? es (.str name)).getD .null
  [(.str "type", field MatcherOf.typeField),
    (.str "value", field MatcherOf.valueField),
    (.str "attributes", .dict (es.filter fun (k, _) => !((k.str?.map own.contains).getD false))),
    (.str "generator", field MatcherOf.generatorField)]

/-- A matcher out of its integration form, or out of its own fields. -/
def MatcherOf.check : Check Matcher
  | .matcher m => .passed m
  | .dict es =>
    let es := if Entries.has es (.str MatcherOf.typeField) then MatcherOf.ofIntegration es else es
    MatcherOf.mk <$> required es ["type"] text
      <*> withDefault es ["value"] .null anything
      <*> withDefault es ["attributes"] [] (dictionary anything)
      <*> withDefault es ["generator"] none (nullable text)
  | _ => .fault (.recordExpected "Matcher")

instance : Model Matcher where
  name := "Matcher"
  check := MatcherOf.check
  document m := m.document
  opened m := openedValue (.matcher m)

end Covenant
