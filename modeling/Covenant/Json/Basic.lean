import Covenant.Entries
import Covenant.Number.Double

/-!
# JSON documents

A document is kept as it reads: integers are unbounded and stay apart from
doubles, and the fields of an object keep their order. The three values that
are doubles but no JSON numbers are kept too, because documents are written
and read with them.
-/

namespace Covenant

/-- **A JSON document.** -/
inductive Json where
  /-- The document `null`. -/
  | null
  /-- A truth value. -/
  | bool (b : Bool)
  /-- A number written without point and exponent. -/
  | int (i : Int)
  /-- A number written with a point or an exponent. -/
  | double (d : Double)
  /-- A string. -/
  | str (s : String)
  /-- An array. -/
  | arr (items : List Json)
  /-- An object with its fields in order. -/
  | obj (fields : List (String × Json))
deriving Inhabited, Repr

namespace Json

/-- The field of an object, if the document is an object that has it. -/
def field? (j : Json) (name : String) : Option Json :=
  match j with
  | .obj fields => Entries.get? fields name
  | _ => none

mutual

/-- **Merging**: in every object a repeated key keeps its first place and its
last value. -/
def merged : Json → Json
  | .arr items => .arr (mergedItems items)
  | .obj fields => .obj (Entries.ofPairs (mergedFields fields))
  | j => j

/-- Merging every item. -/
def mergedItems : List Json → List Json
  | [] => []
  | j :: js => merged j :: mergedItems js

/-- Merging every field's value. -/
def mergedFields : List (String × Json) → List (String × Json)
  | [] => []
  | (k, j) :: fs => (k, merged j) :: mergedFields fs

end

/-- Merging everywhere but in the objects that the named fields hold: these keep
their repeated keys. -/
def mergedBut (names : List String) : Json → Json
  | .obj fields =>
    .obj (Entries.ofPairs (fields.map fun (k, j) =>
      match j with
      | .obj inner => (k, if names.contains k then .obj (mergedFields inner) else merged j)
      | j => (k, merged j)))
  | j => merged j

/-- A named field keeps both of its entries. -/
example : (mergedBut ["a"] (.obj [("a", .obj [("x", .null), ("x", .bool true)])])
    matches .obj [("a", .obj [_, _])]) = true := by decide

mutual

/-- **How deep a document is nested**: a scalar has depth zero, and so has
nothing inside an empty array or object. -/
def depth : Json → Nat
  | .arr items => depthItems items
  | .obj fields => depthFields fields
  | _ => 0

/-- One more than the deepest item, and zero for no items. -/
def depthItems : List Json → Nat
  | [] => 0
  | j :: js => max (depth j + 1) (depthItems js)

/-- One more than the deepest field, and zero for no fields. -/
def depthFields : List (String × Json) → Nat
  | [] => 0
  | (_, j) :: fs => max (depth j + 1) (depthFields fs)

end

end Json

end Covenant
