import Covenant.Value.Basic
import Covenant.Number.Layout
import Covenant.Text.Utf8

/-!
# Values as documents

There are two ways from a value to a JSON document.

* `Value.strict?` is for values that are documents already: a string of bytes
  or a matcher inside is refused, and so is a key that JSON has no spelling
  for.
* `Value.plain` makes a document of a value: tuples become arrays, bytes are
  read as UTF-8, a matcher becomes its integration form, and what is not a
  finite number becomes `null`. Only bytes that are no UTF-8 and too deep a
  nesting stop it.

Both leave the keys as they come; a document in which spelling made two keys
equal is merged (`Json.merged`) where the target is an object rather than a
text.
-/

namespace Covenant

/-! ## The integration form of a matcher -/

namespace MatcherOf

/-- The field that marks an object as a matcher and names its type. -/
def typeField : String := "pact:matcher:type"

/-- The field that names a matcher's generator. -/
def generatorField : String := "pact:generator:type"

/-- The field with a matcher's example. -/
def valueField : String := "value"

/-- The fields of the integration form: the type, the generator if there is
one, the attributes, and the example last. An attribute with the name of one
of the former replaces it, and the example replaces an attribute of its
name. -/
def integrationFields {α : Type} (text : String → α) (m : MatcherOf α) : Entries String α :=
  let head : Entries String α := [(typeField, text m.type)]
  let head := match m.generator with
    | some g => if g = "" then head else head.put generatorField (text g)
    | none => head
  (head.putAll m.attributes).put valueField m.value

end MatcherOf

/-! ## Strict documents -/

/-- The spelling of a key in a strict document. -/
def Key.strict? : Key → Option String
  | .null => some "null"
  | .bool b => some (if b then "true" else "false")
  | .int i => some (String.ofList (intText i))
  | .double d => some (String.ofList (NumberLayout.document.doubleText d))
  | .str s => some s
  | _ => none

namespace Value

mutual

/-- **The document that a value is**, if it is one. -/
def strict? : Value → Option Json
  | .null => some .null
  | .bool b => some (.bool b)
  | .int i => some (.int i)
  | .double d => some (.double d)
  | .str s => some (.str s)
  | .list vs => (strictItems? vs).map .arr
  | .tuple vs => (strictItems? vs).map .arr
  | .dict es => (strictEntries? es).map .obj
  | .bytes _ => none
  | .matcher _ => none

/-- The documents that values are, if all of them are documents. -/
def strictItems? : List Value → Option (List Json)
  | [] => some []
  | v :: vs =>
    match strict? v, strictItems? vs with
    | some j, some js => some (j :: js)
    | _, _ => none

/-- The fields that entries are, if all of them are fields. -/
def strictEntries? : List (Key × Value) → Option (List (String × Json))
  | [] => some []
  | (k, v) :: es =>
    match k.strict?, strict? v, strictEntries? es with
    | some s, some j, some fs => some ((s, j) :: fs)
    | _, _, _ => none

end

end Value

/-! ## Plain documents -/

/-- **Bytes that are no UTF-8**: where they stop being text, and the byte
there. -/
structure Undecodable where
  /-- The byte. -/
  byte : UInt8
  /-- Where the bytes stop being text. -/
  extent : Text.IllFormed
deriving DecidableEq

/-- The text that bytes encode. -/
def textOfBytes (bs : List UInt8) : Except Undecodable String :=
  match Text.decodeUtf8 bs with
  | .ok s => .ok s
  | .error e => .error ⟨bs[e.position]?.getD 0, e⟩

/-- **Why no document is made of a value.** -/
inductive Unwritable where
  /-- Bytes inside that are no text. -/
  | undecodable (e : Undecodable)
  /-- Too many levels of nesting. -/
  | tooDeep
deriving DecidableEq

/-- **Why a document that is asked for has no text.** -/
inductive TextError where
  /-- Something inside of which no document is made. -/
  | unwritable (e : Unwritable)
  /-- Something inside that is no document, where it is to be one already. -/
  | notDocument
  /-- An integer inside that has no text. -/
  | integerTooLong

/-- The text that bytes in a value encode. -/
def plainBytes (bs : List UInt8) : Except Unwritable String :=
  match textOfBytes bs with
  | .ok s => .ok s
  | .error e => .error (.undecodable e)

/-- The spelling of a double as a key: only what is finite has one of its
own. -/
def Double.keyText (d : Double) : String :=
  if d.isFinite then String.ofList (NumberLayout.plain.doubleText d) else "None"

mutual

/-- The spelling of a key in a plain document; the parts of a tuple are
joined by commas. -/
def Key.plain : Key → Except Unwritable String
  | .null => .ok "None"
  | .bool b => .ok (if b then "true" else "false")
  | .int i => .ok (String.ofList (intText i))
  | .double d => .ok d.keyText
  | .str s => .ok s
  | .bytes bs => plainBytes bs
  | .tuple ks =>
    match Key.plains ks with
    | .ok ss => .ok (",".intercalate ss)
    | .error e => .error e

/-- The spellings of keys. -/
def Key.plains : List Key → Except Unwritable (List String)
  | [] => .ok []
  | k :: ks =>
    match k.plain with
    | .error e => .error e
    | .ok s =>
      match Key.plains ks with
      | .ok ss => .ok (s :: ss)
      | .error e => .error e

end

/-- Fields whose documents are made one after the other. -/
def fieldsInOrder : List (String × Except Unwritable Json) → Except Unwritable (List (String × Json))
  | [] => .ok []
  | (k, made) :: fs =>
    match made with
    | .error e => .error e
    | .ok j => (fieldsInOrder fs).map ((k, j) :: ·)

namespace Value

/-- The document of something without parts, at a level. -/
def plainLeaf (room : Nat) (made : Except Unwritable Json) : Except Unwritable Json :=
  match room with
  | 0 => .error .tooDeep
  | _ + 1 => made

mutual

/-- The document made of a value; `room` is how many levels there may be, its
own included. -/
def plainWithin (room : Nat) : Value → Except Unwritable Json
  | .null => plainLeaf room (.ok .null)
  | .bool b => plainLeaf room (.ok (.bool b))
  | .int i => plainLeaf room (.ok (.int i))
  | .double d => plainLeaf room (.ok (if d.isFinite then .double d else .null))
  | .str s => plainLeaf room (.ok (.str s))
  | .bytes bs => plainLeaf room ((plainBytes bs).map .str)
  | .list vs => plainLeaf room ((plainItems (room - 1) vs).map .arr)
  | .tuple vs => plainLeaf room ((plainItems (room - 1) vs).map .arr)
  | .dict es => plainLeaf room ((plainEntries (room - 1) es).map .obj)
  | .matcher ⟨type, value, attributes, generator⟩ =>
    plainLeaf room
      ((fieldsInOrder (MatcherOf.integrationFields
          (fun s => plainLeaf (room - 1) (.ok (.str s)))
          ⟨type, plainWithin (room - 1) value, plainAttributes (room - 1) attributes,
            generator⟩)).map .obj)

/-- The documents made of values. -/
def plainItems (room : Nat) : List Value → Except Unwritable (List Json)
  | [] => .ok []
  | v :: vs =>
    match plainWithin room v with
    | .error e => .error e
    | .ok j => (plainItems room vs).map (j :: ·)

/-- The fields made of entries. -/
def plainEntries (room : Nat) : List (Key × Value) → Except Unwritable (List (String × Json))
  | [] => .ok []
  | (k, v) :: es =>
    match k.plain with
    | .error e => .error e
    | .ok s =>
      match plainWithin room v with
      | .error e => .error e
      | .ok j => (plainEntries room es).map ((s, j) :: ·)

/-- Attributes with the documents made of them. -/
def plainAttributes (room : Nat) : List (String × Value) → List (String × Except Unwritable Json)
  | [] => []
  | (k, v) :: es => (k, plainWithin room v) :: plainAttributes room es

end

/-- How many levels the document of a value may have. -/
def levelLimit : Nat := 255

/-- **The document made of a value.** -/
def plain (v : Value) : Except Unwritable Json := plainWithin levelLimit v

end Value

/-- **The document of a matcher** on its own: the levels are counted from its
fields on. -/
def MatcherOf.document (m : MatcherOf Value) : Except Unwritable Json :=
  Value.plainWithin (Value.levelLimit + 1) (.matcher m)

/-- An attribute that gives way to the example may hold anything. -/
example : (MatcherOf.document ⟨"type", .int 1, [("value", .bytes [0xff])], none⟩
    matches .ok (.obj [(_, .str "type"), (_, .int 1)])) = true := by decide +kernel

end Covenant
