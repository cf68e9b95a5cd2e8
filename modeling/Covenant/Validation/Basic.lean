import Covenant.Value.Literal

/-!
# Checking values

Contracts, options and engine reports come from outside as values or as JSON
text. A check turns such a value into a typed one, or finds **faults**: each
fault says where it is (`Place`s from the outside in) and why (`Cause`).

A check does not stop at the first fault. `Checked` is therefore an
applicative and not a monad: the checks of a record's fields are combined
with `<*>`, which gathers the faults of both sides in order.
-/

namespace Covenant

namespace Validation

/-- **One step from a value to a part of it.** -/
inductive Place where
  /-- The field of a record, or the entry of a dictionary. -/
  | field (name : String)
  /-- The item of a list. -/
  | item (index : Nat)
  /-- The key of an entry, as opposed to its value. -/
  | key
  /-- One of the alternatives that a value may take. -/
  | alternative (name : String)
deriving DecidableEq

/-- A place in a path; a name with a point in it stands in backquotes. -/
def Place.text : Place → String
  | .field name => if name.toList.contains '.' then "`" ++ name ++ "`" else name
  | .item i => String.ofList (natDigits i)
  | .key => "[key]"
  | .alternative name => name

/-- **Why a value was refused.** -/
inductive Cause where
  /-- A required field is absent. -/
  | missing
  /-- Not a text. -/
  | textExpected
  /-- Bytes that are no text. -/
  | undecodableText
  /-- Not an integer. -/
  | integerExpected
  /-- A text that spells no integer. -/
  | integerSpelling
  /-- A double with a fraction in place of an integer. -/
  | integerWithFraction
  /-- A double that is not finite in place of an integer. -/
  | integerNotFinite
  /-- A number too large to be taken for an integer. -/
  | integerTooLarge
  /-- Not a truth value. -/
  | truthExpected
  /-- A number or text that stands for no truth value. -/
  | truthSpelling
  /-- Not a number. -/
  | numberExpected
  /-- A text that spells no number. -/
  | numberSpelling
  /-- Not a dictionary. -/
  | dictionaryExpected
  /-- Not a list. -/
  | listExpected
  /-- Not a tuple. -/
  | tupleExpected
  /-- Not a record of the named model. -/
  | recordExpected (model : String)
  /-- Not a record of the named plain model. -/
  | plainRecordExpected (model : String)
  /-- A key that is no text. -/
  | textKeyExpected
  /-- Not a path. -/
  | pathExpected
  /-- Nothing that can be called. -/
  | callableExpected
  /-- Assignment to a record that does not change. -/
  | immutable
  /-- A text that is no JSON document. -/
  | notJson
deriving DecidableEq

/-- **What was checked**: a value, or a JSON text. Some faults are worded in
the terms of the one or the other. -/
inductive Origin where
  /-- A value. -/
  | value
  /-- A JSON text. -/
  | text
deriving DecidableEq

/-- The short name of a cause. -/
def Cause.code : Cause → String
  | .missing => "missing"
  | .textExpected => "string_type"
  | .undecodableText => "string_unicode"
  | .integerExpected => "int_type"
  | .integerSpelling => "int_parsing"
  | .integerWithFraction => "int_from_float"
  | .integerNotFinite => "finite_number"
  | .integerTooLarge => "int_parsing_size"
  | .truthExpected => "bool_type"
  | .truthSpelling => "bool_parsing"
  | .numberExpected => "float_type"
  | .numberSpelling => "float_parsing"
  | .dictionaryExpected => "dict_type"
  | .listExpected => "list_type"
  | .tupleExpected => "tuple_type"
  | .recordExpected _ => "model_type"
  | .plainRecordExpected _ => "dataclass_type"
  | .textKeyExpected => "invalid_key"
  | .pathExpected => "path_type"
  | .callableExpected => "callable_type"
  | .immutable => "frozen_instance"
  | .notJson => "json_invalid"

/-- The wording of a cause. -/
def Cause.message (origin : Origin) : Cause → String
  | .missing => "Field required"
  | .textExpected => "Input should be a valid string"
  | .undecodableText =>
    "Input should be a valid string, unable to parse raw data as a unicode string"
  | .integerExpected => "Input should be a valid integer"
  | .integerSpelling => "Input should be a valid integer, unable to parse string as an integer"
  | .integerWithFraction => "Input should be a valid integer, got a number with a fractional part"
  | .integerNotFinite => "Input should be a finite number"
  | .integerTooLarge => "Unable to parse input string as an integer, exceeded maximum size"
  | .truthExpected => "Input should be a valid boolean"
  | .truthSpelling => "Input should be a valid boolean, unable to interpret input"
  | .numberExpected => "Input should be a valid number"
  | .numberSpelling => "Input should be a valid number, unable to parse string as a number"
  | .dictionaryExpected =>
    match origin with
    | .value => "Input should be a valid dictionary"
    | .text => "Input should be an object"
  | .listExpected =>
    match origin with
    | .value => "Input should be a valid list"
    | .text => "Input should be a valid array"
  | .tupleExpected =>
    match origin with
    | .value => "Input should be a valid tuple"
    | .text => "Input should be a valid array"
  | .recordExpected model =>
    match origin with
    | .value => "Input should be a valid dictionary or instance of " ++ model
    | .text => "Input should be an object"
  | .plainRecordExpected model =>
    match origin with
    | .value => "Input should be a dictionary or an instance of " ++ model
    | .text => "Input should be an object"
  | .textKeyExpected => "Keys should be strings"
  | .pathExpected => "Input is not a valid path for <class 'pathlib.Path'>"
  | .callableExpected => "Input should be callable"
  | .immutable => "Instance is frozen"
  | .notJson => "Invalid JSON"

/-- **A fault**: a cause and the path to it. -/
structure Fault where
  /-- The places from the outside in; none for the checked value itself. -/
  path : List Place
  /-- The cause. -/
  cause : Cause
deriving DecidableEq

/-- The lines of a fault: its path, if it has one, and its wording. -/
def Fault.text (origin : Origin) (f : Fault) : String :=
  (if f.path.isEmpty then "" else "\n" ++ ".".intercalate (f.path.map Place.text))
    ++ "\n  " ++ f.cause.message origin ++ " [type=" ++ f.cause.code ++ "]"

/-- **A report**: the faults found while checking for a model. -/
structure Report where
  /-- The model checked for. -/
  model : String
  /-- What was checked. -/
  origin : Origin
  /-- The faults in order. -/
  faults : List Fault
deriving DecidableEq

/-- **The text of a report**: a count, then each fault. -/
def Report.text (r : Report) : String :=
  let n := r.faults.length
  String.ofList (natDigits n) ++ " validation error" ++ (if n = 1 then "" else "s") ++ " for "
    ++ r.model ++ String.join (r.faults.map (Fault.text r.origin))

/-- The report that a field of an unchangeable record was assigned to. -/
def Report.immutableField (model field : String) : Report :=
  ⟨model, .value, [⟨[.field field], .immutable⟩]⟩

/-! ## Checked values -/

/-- **The result of a check**: a typed value, or all faults found. -/
inductive Checked (α : Type) where
  /-- The value passed. -/
  | passed (a : α)
  /-- The value was refused. -/
  | refused (faults : List Fault)

namespace Checked

variable {α β : Type}

/-- Changes the value of a passed check. -/
def map (f : α → β) : Checked α → Checked β
  | .passed a => .passed (f a)
  | .refused fs => .refused fs

/-- Combines two checks; if either refuses, the faults of both are kept. -/
def seq (f : Checked (α → β)) (a : Unit → Checked α) : Checked β :=
  match f, a () with
  | .passed f, .passed a => .passed (f a)
  | .passed _, .refused fs => .refused fs
  | .refused fs, .passed _ => .refused fs
  | .refused fs, .refused gs => .refused (fs ++ gs)

instance : Applicative Checked where
  pure := .passed
  seq := seq

/-- Combined checks pass if both do. -/
theorem seq_eq_passed_iff {f : Checked (α → β)} {a : Checked α} {b : β} :
    f <*> a = .passed b ↔ ∃ g x, f = .passed g ∧ a = .passed x ∧ g x = b := by
  show f.seq (fun _ => a) = _ ↔ _
  cases f <;> cases a <;> simp [seq]

/-- A check whose value is changed passes if it does. -/
theorem map_eq_passed_iff {g : α → β} {a : Checked α} {b : β} :
    g <$> a = .passed b ↔ ∃ x, a = .passed x ∧ g x = b := by
  show (Checked.passed g).seq (fun _ => a) = _ ↔ _
  cases a <;> simp [seq]

/-- A refusal of the checked value itself. -/
def fault (c : Cause) : Checked α := .refused [⟨[], c⟩]

/-- Puts the faults of a part at its place. -/
def within (p : Place) : Checked α → Checked α
  | .passed a => .passed a
  | .refused fs => .refused (fs.map fun f => { f with path := p :: f.path })

/-- A part passes at its place if it passes. -/
@[simp] theorem within_eq_passed_iff {p : Place} {c : Checked α} {a : α} :
    c.within p = .passed a ↔ c = .passed a := by
  cases c <;> simp [within]

/-- The typed value, or the report for a model. -/
def report (model : String) (origin : Origin) : Checked α → Except Report α
  | .passed a => .ok a
  | .refused fs => .error ⟨model, origin, fs⟩

/-- The faults, none for a value that passed. -/
def faults : Checked α → List Fault
  | .passed _ => []
  | .refused fs => fs

end Checked

/-- Two refused fields are both reported. -/
example : ((Prod.mk <$> (Checked.fault .missing : Checked Nat).within (.field "a")
      <*> (Checked.fault .missing : Checked Nat).within (.field "b")).report "Pair" .value).toOption
    = none := by decide +kernel

end Validation

end Covenant
