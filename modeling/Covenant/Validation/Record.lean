import Covenant.Validation.Scalar

/-!
# Checking collections and records

A record is checked field by field. A field may have two names, the one of
the documents and the one of this library; the former wins where both are
given, and it is the one under which a missing field is reported. Fields that
a record does not know are ignored, unless the record keeps them
(`extraFields`).
-/

namespace Covenant

namespace Validation

variable {α β : Type}

/-! ## Collections -/

/-- Any value. -/
def anything : Check Value := .passed

/-- Nothing, or what the check accepts. -/
def nullable (check : Check α) : Check (Option α)
  | .null => .passed none
  | v => (check v).map some

/-- Every item of a list, at its index. -/
def items (check : Check α) : (index : Nat) → List Value → Checked (List α)
  | _, [] => .passed []
  | i, v :: vs => List.cons <$> (check v).within (.item i) <*> items check (i + 1) vs

/-- A list; a tuple counts as one. -/
def list (check : Check α) : Check (List α)
  | .list vs => items check 0 vs
  | .tuple vs => items check 0 vs
  | _ => .fault .listExpected

/-- A tuple; a list counts as one. -/
def tuple (check : Check α) : Check (List α)
  | .list vs => items check 0 vs
  | .tuple vs => items check 0 vs
  | _ => .fault .tupleExpected

/-- The place of an entry with a key. -/
def keyPlace : Key → Place
  | .str s => .field s
  | .int i => .field (String.ofList (intText i))
  | .bool b => .field (if b then "1" else "0")
  | k => .field (String.ofList k.literal)

/-- Every entry of a dictionary with its key as a text. -/
def entries (check : Check α) : List (Key × Value) → Checked (List (String × α))
  | [] => .passed []
  | (k, v) :: es =>
    (fun k v es => (k, v) :: es) <$> ((text (Value.ofKey k)).within .key).within (keyPlace k)
      <*> (check v).within (keyPlace k) <*> entries check es

/-- A dictionary whose keys are texts. -/
def dictionary (check : Check α) : Check (Entries String α)
  | .dict es => (entries check es).map Entries.ofPairs
  | _ => .fault .dictionaryExpected

/-- Entries under texts are taken as they are. -/
theorem entries_anything_of_texts (es : List (String × Value)) :
    entries anything (es.map fun e => (Key.str e.1, e.2)) = .passed es := by
  induction es with
  | nil => rfl
  | cons e es ih =>
    rw [List.map_cons, entries, ih]
    rfl

/-- A dictionary with distinct texts for keys is taken as it is. -/
theorem dictionary_anything_record {fs : List (String × Value)} (h : (fs.map Prod.fst).Nodup) :
    dictionary anything (.record fs) = .passed fs := by
  show (entries anything (fs.map fun f => (Key.str f.1, f.2))).map Entries.ofPairs = _
  rw [entries_anything_of_texts, Checked.map, Entries.ofPairs_of_nodup h]

/-! ## Records -/

/-- The first of several names under which a record has a field, with the
field. -/
def named? (es : List (Key × Value)) : List String → Option (String × Value)
  | [] => none
  | name :: names =>
    match Entries.get? es (.str name) with
    | some v => some (name, v)
    | none => named? es names

/-- A field that has to be there. -/
def required (es : List (Key × Value)) (names : List String) (check : Check α) : Checked α :=
  match named? es names with
  | some (name, v) => (check v).within (.field name)
  | none => (Checked.fault .missing).within (.field (names.headD ""))

/-- A field with a default. -/
def withDefault (es : List (Key × Value)) (names : List String) (default : α) (check : Check α) :
    Checked α :=
  match named? es names with
  | some (name, v) => (check v).within (.field name)
  | none => .passed default

/-- The fields that a record keeps besides those it knows. -/
def extraFields (known : List String) (es : List (Key × Value)) : Checked (List (String × Value)) :=
  go (es.filter fun (k, _) => !((k.str?.map known.contains).getD false))
where
  /-- The fields with their names as texts. -/
  go : List (Key × Value) → Checked (List (String × Value))
    | [] => .passed []
    | (k, v) :: es =>
      match k.str? with
      | some name => ((name, v) :: ·) <$> go es
      | none =>
        (fun (_ : Unit) es => es) <$> (Checked.fault .textKeyExpected).within (keyPlace k) <*> go es

/-- A record: a dictionary checked field by field. -/
def record (model : String) (check : List (Key × Value) → Checked α) : Check α
  | .dict es => check es
  | _ => .fault (.recordExpected model)

/-! ## Reports -/

/-- Checks a value for a model. -/
def ofValue (model : String) (check : Check α) (v : Value) : Except Report α :=
  (check v).report model .value

/-- Checks a JSON text for a model; what is no JSON is reported as such. A
repeated key stands for its last value, except in the dictionaries named,
where every entry is checked. -/
def ofText (model : String) (dictionaries : List String) (check : Check α) (s : String) :
    Except Report α :=
  match Json.readRaw? s with
  | some j => (check (.ofJson (j.mergedBut dictionaries))).report model .text
  | none => .error ⟨model, .text, [⟨[], .notJson⟩]⟩

end Validation

end Covenant
