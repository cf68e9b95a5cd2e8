import Covenant.Json.Basic

/-!
# Values

Bodies, parameters, metadata and message contents are dynamic: a caller may
put any value there, and a **matcher** anywhere inside. A matcher stands in
for a literal value; it carries an example, and the rest of it is addressed
to the matching engine alone.

Besides what a JSON document can hold, a value can be a tuple, a string of
bytes, or a dictionary whose keys are not strings. Keys form a type of their
own (`Key`): what can be looked up by is immutable, so no key holds a list, a
dictionary or a matcher.
-/

namespace Covenant

/-- **A dictionary key.** -/
inductive Key where
  /-- The absent value. -/
  | null
  /-- A truth value. -/
  | bool (b : Bool)
  /-- An integer. -/
  | int (i : Int)
  /-- A double. -/
  | double (d : Double)
  /-- A text. -/
  | str (s : String)
  /-- A string of bytes. -/
  | bytes (bs : List UInt8)
  /-- A tuple of keys. -/
  | tuple (ks : List Key)
deriving Inhabited

namespace Key

/-- The number that a key is, if it is an integer or a truth value. -/
def int? : Key → Option Int
  | .bool b => some (if b then 1 else 0)
  | .int i => some i
  | _ => none

mutual

/-- **Whether two keys are the same**: numbers are the same as numbers
whatever their type, truth values counting as zero and one. -/
def same : Key → Key → Bool
  | .null, .null => true
  | .str s, .str t => s == t
  | .bytes a, .bytes b => a == b
  | .tuple a, .tuple b => sameAll a b
  | .double a, .double b => a.same b
  | .double a, k => (k.int?.map a.sameInt).getD false
  | k, .double b => (k.int?.map b.sameInt).getD false
  | k, l =>
    match k.int?, l.int? with
    | some i, some j => i == j
    | _, _ => false

/-- Whether two lists of keys are the same, key by key. -/
def sameAll : List Key → List Key → Bool
  | [], [] => true
  | k :: ks, l :: ls => same k l && sameAll ks ls
  | _, _ => false

end

instance : BEq Key := ⟨same⟩

/-- The text that a key is, if it is one. -/
def str? : Key → Option String
  | .str s => some s
  | _ => none

end Key

/-- **A matcher over values of type `α`.** -/
structure MatcherOf (α : Type) where
  /-- The kind of matcher, as the matching engine knows it. -/
  type : String
  /-- The example value used in generated traffic. -/
  value : α
  /-- Further settings for the engine, such as a pattern or a format. -/
  attributes : List (String × α)
  /-- What generates the example value, if anything does. -/
  generator : Option String
deriving Inhabited

/-- **A value**, with matchers anywhere inside. -/
inductive Value where
  /-- The absent value. -/
  | null
  /-- A truth value. -/
  | bool (b : Bool)
  /-- An integer. -/
  | int (i : Int)
  /-- A double. -/
  | double (d : Double)
  /-- A text. -/
  | str (s : String)
  /-- A string of bytes. -/
  | bytes (bs : List UInt8)
  /-- A list. -/
  | list (items : List Value)
  /-- A tuple. -/
  | tuple (items : List Value)
  /-- A dictionary with its entries in order. -/
  | dict (entries : List (Key × Value))
  /-- A matcher in place of a value. -/
  | matcher (m : MatcherOf Value)
deriving Inhabited

/-- **A matcher** whose example and attributes are values. -/
abbrev Matcher := MatcherOf Value

namespace Value

/-- A dictionary with string keys. -/
def record (fields : List (String × Value)) : Value :=
  .dict (fields.map fun (k, v) => (.str k, v))

/-- The fields of a dictionary under string keys. -/
def fields : Value → List (String × Value)
  | .dict es => es.filterMap fun (k, v) => k.str?.map (·, v)
  | _ => []

/-- The field of a dictionary under a string key. -/
def field? (v : Value) (name : String) : Option Value :=
  match v with
  | .dict es => Entries.get? es (.str name)
  | _ => none

mutual

/-- A document as a value. -/
def ofJson : Json → Value
  | .null => .null
  | .bool b => .bool b
  | .int i => .int i
  | .double d => .double d
  | .str s => .str s
  | .arr js => .list (ofJsonItems js)
  | .obj fs => .dict (ofJsonFields fs)

/-- Documents as values. -/
def ofJsonItems : List Json → List Value
  | [] => []
  | j :: js => ofJson j :: ofJsonItems js

/-- Named documents as entries. -/
def ofJsonFields : List (String × Json) → List (Key × Value)
  | [] => []
  | (k, j) :: fs => (.str k, ofJson j) :: ofJsonFields fs

end

mutual

/-- The key that a value is: lists, dictionaries and matchers are none. -/
def key? : Value → Option Key
  | .null => some .null
  | .bool b => some (.bool b)
  | .int i => some (.int i)
  | .double d => some (.double d)
  | .str s => some (.str s)
  | .bytes bs => some (.bytes bs)
  | .tuple vs => (keys? vs).map .tuple
  | _ => none

/-- The keys that values are, if all of them are keys. -/
def keys? : List Value → Option (List Key)
  | [] => some []
  | v :: vs =>
    match key? v, keys? vs with
    | some k, some ks => some (k :: ks)
    | _, _ => none

end

mutual

/-- A key as a value. -/
def ofKey : Key → Value
  | .null => .null
  | .bool b => .bool b
  | .int i => .int i
  | .double d => .double d
  | .str s => .str s
  | .bytes bs => .bytes bs
  | .tuple ks => .tuple (ofKeys ks)

/-- Keys as values. -/
def ofKeys : List Key → List Value
  | [] => []
  | k :: ks => ofKey k :: ofKeys ks

end

/-- **Whether a value counts as given**: nothing, zero, and what is empty do
not. -/
def isTruthy : Value → Bool
  | .null => false
  | .bool b => b
  | .int i => i != 0
  | .double d => !d.isZero
  | .str s => s != ""
  | .bytes bs => !bs.isEmpty
  | .list vs => !vs.isEmpty
  | .tuple vs => !vs.isEmpty
  | .dict es => !es.isEmpty
  | .matcher _ => true

/-- Whether a value is absent or a collection without elements. -/
def isEmpty : Value → Bool
  | .null => true
  | .str s => s == ""
  | .bytes bs => bs.isEmpty
  | .list vs => vs.isEmpty
  | .tuple vs => vs.isEmpty
  | .dict es => es.isEmpty
  | _ => false

end Value

/-- One, one as a double and the truth value are the same key. -/
example : Key.same (.int 1) (.bool true) = true ∧
    Key.same (.double (.ofInt 1)) (.bool true) = true := by decide +kernel

end Covenant
