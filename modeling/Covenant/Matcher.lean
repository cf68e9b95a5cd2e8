import Covenant.Value.Document
import Covenant.Json.Printer
import Covenant.Json.Reader

/-!
# Matchers

A matcher has three readings. In the **integration form** it is an object
that the matching engine understands; in **generated traffic** it is its
example; and in a **request or response body** it is the text of its
integration form.

The constructors below build the matchers that contracts use. None of them
looks into its example except `Matcher.eachLike`, which repeats it.
-/

namespace Covenant

namespace Value

mutual

/-- **The integration form of a value**: matchers become objects, tuples
become lists. The attributes of a matcher are taken as they are. -/
def toIntegration : Value → Value
  | .matcher ⟨type, value, attributes, generator⟩ =>
    .record (MatcherOf.integrationFields .str ⟨type, toIntegration value, attributes, generator⟩)
  | .dict es => .dict (toIntegrationEntries es)
  | .list vs => .list (toIntegrationItems vs)
  | .tuple vs => .list (toIntegrationItems vs)
  | v => v

/-- The integration form of each item. -/
def toIntegrationItems : List Value → List Value
  | [] => []
  | v :: vs => toIntegration v :: toIntegrationItems vs

/-- The integration form of each entry. -/
def toIntegrationEntries : List (Key × Value) → List (Key × Value)
  | [] => []
  | (k, v) :: es => (k, toIntegration v) :: toIntegrationEntries es

end

mutual

/-- **The example value**: matchers are replaced by their examples, however
deeply they are nested, and tuples become lists. -/
def reify : Value → Value
  | .matcher ⟨_, value, _, _⟩ => reify value
  | .dict es => .dict (reifyEntries es)
  | .list vs => .list (reifyItems vs)
  | .tuple vs => .list (reifyItems vs)
  | v => v

/-- The example value of each item. -/
def reifyItems : List Value → List Value
  | [] => []
  | v :: vs => reify v :: reifyItems vs

/-- The example value of each entry. -/
def reifyEntries : List (Key × Value) → List (Key × Value)
  | [] => []
  | (k, v) :: es => (k, reify v) :: reifyEntries es

end

mutual

/-- The value with every matcher in its integration form, those in attributes
included. Tuples stay, except inside a matcher's example (`inside`). -/
def unwrapMatchers (inside : Bool) : Value → Value
  | .matcher ⟨type, value, attributes, generator⟩ =>
    .record (MatcherOf.integrationFields .str
      ⟨type, unwrapMatchers true value, unwrapAttributes attributes, generator⟩)
  | .dict es => .dict (unwrapEntries inside es)
  | .list vs => .list (unwrapItems inside vs)
  | .tuple vs => if inside then .list (unwrapItems inside vs) else .tuple (unwrapItems inside vs)
  | v => v

/-- Every item with its matchers in integration form. -/
def unwrapItems (inside : Bool) : List Value → List Value
  | [] => []
  | v :: vs => unwrapMatchers inside v :: unwrapItems inside vs

/-- Every entry with its matchers in integration form. -/
def unwrapEntries (inside : Bool) : List (Key × Value) → List (Key × Value)
  | [] => []
  | (k, v) :: es => (k, unwrapMatchers inside v) :: unwrapEntries inside es

/-- Every attribute with its matchers in integration form. -/
def unwrapAttributes : List (String × Value) → List (String × Value)
  | [] => []
  | (k, v) :: es => (k, unwrapMatchers false v) :: unwrapAttributes es

end

/-- **The text of a body.** A text is its own body and nothing is none; any
other value is written as a compact document of its integration form, if that
is a document and its integers have texts. -/
def canonicalBody : Value → Except TextError (Option String)
  | .null => .ok none
  | .str s => .ok (some s)
  | v =>
    match (toIntegration v).strict? with
    | none => .error .notDocument
    | some j =>
      if j.integersWithin Json.integerDigitLimit then .ok (some (j.text .compact))
      else .error .integerTooLong

end Value

namespace MatcherOf

/-! ## Constructors -/

/-- A matcher without attributes and generator. -/
def plain (type : String) (value : Value) : Matcher := ⟨type, value, [], none⟩

/-- Matches any value of the example's type. -/
def like (value : Value) : Matcher := plain "type" value

/-- Matches texts that a pattern describes. -/
def regex (pattern sample : Value) : Matcher := ⟨"regex", sample, [("regex", pattern)], none⟩

/-- Matches integers. -/
def integer (sample : Value) : Matcher := plain "integer" sample

/-- Matches decimal numbers. -/
def decimal (sample : Value) : Matcher := plain "decimal" sample

/-- Matches truth values. -/
def boolean (sample : Value) : Matcher := plain "boolean" sample

/-- Matches texts. -/
def someText (sample : Value) : Matcher := plain "type" sample

/-- Matches points in time written in a format. -/
def timestamp (format sample : Value) : Matcher :=
  ⟨"timestamp", sample, [("format", format)], none⟩

/-- Matches texts that contain a text. -/
def including (part : Value) : Matcher := plain "include" part

/-- How often `eachLike` repeats its example: at least once, and as often as
the least count says. A least count that is no integer has to be a double
below one. -/
def repetitions? : Value → Option Nat
  | .bool _ => some 1
  | .int i => some (max i 1).toNat
  | .double d => if d.isFinite || d matches .infinite true then
      (if d.exceedsOne || d.sameInt 1 then none else some 1) else none
  | _ => none

/-- **Matches arrays whose elements are all like the example.** -/
def eachLike? (value least : Value) : Option Matcher :=
  (repetitions? least).map fun n =>
    ⟨"type", .list (List.replicate n value), [("min", least)], none⟩

end MatcherOf

/-- An attribute named like the example gives way to it. -/
example : (MatcherOf.integrationFields id ⟨"type", "a", [("value", "b")], none⟩)
    = [("pact:matcher:type", "type"), ("value", "a")] := by decide +kernel

end Covenant
