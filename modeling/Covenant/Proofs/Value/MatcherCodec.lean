import Covenant.Proofs.Value.Integration
import Covenant.Proofs.Value.Regular

/-!
# Matchers and their integration form

A matcher is encoded as its integration form and decoded from it. The form is flat:
type, generator, example and attributes stand side by side, told apart by three names
(`MatcherOf.ownNames`). `MatcherOf.codec` says what comes back in each direction.

* Encoding and decoding gives the matcher again, its example in integration form, if
  no attribute has one of the three names. An empty generator is no generator then.
* Decoding and encoding a document gives the entries of the document again, in an
  order of its own for the three names. An example that was not there is there as
  nothing, and a generator that says nothing is not there (`Encoded`).
-/

namespace Covenant

open Validation

namespace MatcherOf

/-! ## Encoding and decoding -/

/-- A matcher as it comes back: its example in integration form, and no empty
generator. -/
def integrated (m : Matcher) : Matcher :=
  withoutEmptyGenerator { m with value := m.value.toIntegration }

/-- The integration form of a matcher whose parts can be told apart. -/
theorem toIntegration_eq_record {m : Matcher} (hnames : (m.attributes.map Prod.fst).Nodup)
    (hown : ∀ a ∈ m.attributes, a.1 ∉ ownNames) :
    Value.toIntegration (.matcher m) = .record (fieldsOf .str m.integrated) :=
  congrArg Value.record (integrationFields_eq_fieldsOf
    (m := { m with value := m.value.toIntegration }) hnames hown _)

/-- **What is encoded is decoded.** -/
theorem ofValue_toIntegration {m : Matcher} (hnames : (m.attributes.map Prod.fst).Nodup)
    (hown : ∀ a ∈ m.attributes, a.1 ∉ ownNames) :
    Model.ofValue (Value.toIntegration (.matcher m)) = .ok m.integrated := by
  have hdistinct : m.integrated.Distinct := distinct_withoutEmptyGenerator hnames hown
  rw [toIntegration_eq_record hnames hown]
  show (MatcherOf.check (.record (fieldsOf .str m.integrated))).report "Matcher" .value = _
  rw [check_fieldsOf hdistinct]
  rfl

/-! ## Decoding and encoding -/

end MatcherOf

namespace Value

mutual

/-- A document is its own integration form. -/
theorem toIntegration_ofJson : ∀ j : Json, toIntegration (ofJson j) = ofJson j
  | .null => rfl
  | .bool _ => rfl
  | .int _ => rfl
  | .double _ => rfl
  | .str _ => rfl
  | .arr js => congrArg list (toIntegrationItems_ofJsonItems js)
  | .obj fs => congrArg dict (toIntegrationEntries_ofJsonFields fs)

theorem toIntegrationItems_ofJsonItems :
    ∀ js : List Json, toIntegrationItems (ofJsonItems js) = ofJsonItems js
  | [] => rfl
  | j :: js => by
    rw [ofJsonItems, toIntegrationItems, toIntegration_ofJson, toIntegrationItems_ofJsonItems]

theorem toIntegrationEntries_ofJsonFields :
    ∀ fs : List (String × Json), toIntegrationEntries (ofJsonFields fs) = ofJsonFields fs
  | [] => rfl
  | (k, j) :: fs => by
    rw [ofJsonFields, toIntegrationEntries, toIntegration_ofJson, toIntegrationEntries_ofJsonFields]

end

end Value

namespace MatcherOf

variable {fs : List (String × Json)} {type : String}

/-- **A generator in a document**: a text, nothing, or not there. -/
def IsGenerator (entry : Option Json) : Prop :=
  entry = none ∨ entry = some .null ∨ ∃ g, entry = some (.str g)

/-- The generator that an entry tells. -/
def generatorOf : Option Json → Option String
  | some (.str g) => some g
  | _ => none

/-- The entry of a generator as it is written: none for one that says nothing. -/
def writtenGenerator (entry : Option Json) : Option Json :=
  ((generatorOf entry).filter (· != "")).map .str

/-- Whether an entry is none of the matcher's own. -/
def isExtra (f : String × Json) : Bool := !ownNames.contains f.1

/-- **A document that was decoded and encoded again**: it has the entries that it had,
the extra ones in their order, but that nothing stands for an example that was not
there, and a generator that says nothing is gone. -/
structure Encoded (fs gs : List (String × Json)) : Prop where
  /-- Each name is there once. -/
  names : (gs.map Prod.fst).Nodup
  /-- The type is what it was. -/
  type : Entries.get? gs typeField = Entries.get? fs typeField
  /-- So is the example, if it was there. -/
  value : Entries.get? gs valueField = some ((Entries.get? fs valueField).getD .null)
  /-- So is the generator, if it says something. -/
  generator : Entries.get? gs generatorField = writtenGenerator (Entries.get? fs generatorField)
  /-- So are the other entries. -/
  extras : gs.filter isExtra = fs.filter isExtra

/-- The matcher that a document is. -/
def decoded (type : String) (fs : List (String × Json)) : MatcherOf Json :=
  ⟨type, (Entries.get? fs valueField).getD .null, fs.filter isExtra,
    generatorOf (Entries.get? fs generatorField)⟩

/-- **A document with a type and a generator is decoded.** -/
theorem ofValue_ofJson (hnames : (fs.map Prod.fst).Nodup)
    (htype : Entries.get? fs typeField = some (.str type))
    (hgenerator : IsGenerator (Entries.get? fs generatorField)) :
    (Model.ofValue (.ofJson (.obj fs)) : Except Report Matcher)
      = .ok ((decoded type fs).mapParts .ofJson) := by
  have hparts : (fs.map fun f => (f.1, Value.ofJson f.2)).map Prod.fst = fs.map Prod.fst := by
    rw [List.map_map]
    rfl
  have hgenerator : ((Entries.get? fs generatorField).map Value.ofJson).getD .null
      = textOrNull (generatorOf (Entries.get? fs generatorField)) := by
    obtain h | h | ⟨g, h⟩ := hgenerator <;> rw [h] <;> rfl
  have hvalue : ((Entries.get? fs valueField).map Value.ofJson).getD .null
      = .ofJson ((Entries.get? fs valueField).getD .null) := by
    cases Entries.get? fs valueField <;> rfl
  have hextras : (fs.map fun f => (f.1, Value.ofJson f.2)).filter (fun f => !ownNames.contains f.1)
      = (fs.filter isExtra).map fun f => (f.1, Value.ofJson f.2) := by
    rw [List.filter_map]
    rfl
  have hchecked : MatcherOf.check (.record (fs.map fun f => (f.1, .ofJson f.2)))
      = .passed ⟨type, _, _, generatorOf (Entries.get? fs generatorField)⟩ :=
    check_record (hparts ▸ hnames) (by rw [Entries.get?_map, htype]; rfl)
      (by rw [Entries.get?_map, hgenerator])
  rw [Entries.get?_map, hvalue, hextras, Value.record_map_ofJson] at hchecked
  show (MatcherOf.check (.ofJson (.obj fs))).report "Matcher" .value = _
  rw [hchecked]
  rfl

theorem own_decoded : ∀ a ∈ (decoded type fs).attributes, a.1 ∉ ownNames := by
  intro a ha
  have hextra := (List.mem_filter.mp ha).2
  simpa [isExtra] using hextra

/-- The integration form of a matcher of documents. -/
theorem toIntegration_mapParts {m : MatcherOf Json} (hnames : (m.attributes.map Prod.fst).Nodup)
    (hown : ∀ a ∈ m.attributes, a.1 ∉ ownNames) :
    Value.toIntegration (.matcher (m.mapParts .ofJson))
      = .ofJson (.obj (fieldsOf .str m.withoutEmptyGenerator)) := by
  have hparts : ((m.mapParts Value.ofJson).attributes.map Prod.fst) = m.attributes.map Prod.fst := by
    show (m.attributes.map fun a => (a.1, Value.ofJson a.2)).map Prod.fst = _
    rw [List.map_map]
    rfl
  have hown' : ∀ a ∈ (m.mapParts Value.ofJson).attributes, a.1 ∉ ownNames := by
    intro a ha
    obtain ⟨b, hb, rfl⟩ := List.mem_map.mp ha
    exact hown b hb
  have hintegrated : (m.mapParts Value.ofJson).integrated
      = m.withoutEmptyGenerator.mapParts Value.ofJson := by
    show (⟨m.type, (Value.ofJson m.value).toIntegration, _, _⟩ : Matcher) = _
    rw [Value.toIntegration_ofJson]
    rfl
  rw [toIntegration_eq_record (hparts ▸ hnames) hown', hintegrated, ← Value.record_map_ofJson]
  exact congrArg Value.record (fieldsOf_mapParts Json.str Value.ofJson m.withoutEmptyGenerator)

/-- **What is decoded is encoded again.** -/
theorem encoded_decoded (hnames : (fs.map Prod.fst).Nodup)
    (htype : Entries.get? fs typeField = some (.str type)) :
    ∃ gs, Value.toIntegration (.matcher ((decoded type fs).mapParts .ofJson)) = .ofJson (.obj gs)
      ∧ Encoded fs gs := by
  have hextras : ((decoded type fs).attributes.map Prod.fst).Nodup :=
    hnames.sublist (List.filter_sublist.map _)
  have hdistinct : (decoded type fs).withoutEmptyGenerator.Distinct :=
    distinct_withoutEmptyGenerator hextras own_decoded
  obtain ⟨htypes, hgenerator, hvalue⟩ := get?_fieldsOf Json.str hdistinct
  refine ⟨fieldsOf .str (decoded type fs).withoutEmptyGenerator, ?_, ⟨?_, ?_, hvalue, hgenerator, ?_⟩⟩
  · exact toIntegration_mapParts hextras own_decoded
  · rw [← integrationFields_of_distinct _ hdistinct]
    exact nodup_keys_integrationFields _ _
  · rw [htypes, htype]
    rfl
  · exact filter_fieldsOf _ hdistinct

/-- **The two sides of the integration form.** A matcher whose attributes have names
of their own comes back from its integration form, with its example in integration
form and without an empty generator. A document with a text for its type, and a text,
nothing, or no entry for its generator is a matcher, whose integration form has the
entries of the document again. -/
theorem codec :
    (∀ m : Matcher, (m.attributes.map Prod.fst).Nodup → (∀ a ∈ m.attributes, a.1 ∉ ownNames) →
      (Model.ofValue (Value.toIntegration (.matcher m)) : Except Report Matcher)
        = .ok { m with
          value := m.value.toIntegration, generator := m.generator.filter (· != "") })
      ∧ ∀ (fs : List (String × Json)) (type : String), (fs.map Prod.fst).Nodup →
        Entries.get? fs typeField = some (.str type) →
        IsGenerator (Entries.get? fs generatorField) →
        ∃ m, (Model.ofValue (.ofJson (.obj fs)) : Except Report Matcher) = .ok m
          ∧ ∃ gs, Value.toIntegration (.matcher m) = .ofJson (.obj gs) ∧ Encoded fs gs :=
  ⟨fun _ hnames hown => ofValue_toIntegration hnames hown,
    fun _ _ hnames htype hgenerator =>
      ⟨_, ofValue_ofJson hnames htype hgenerator, encoded_decoded hnames htype⟩⟩

/-- A document with its type last, an empty generator, no example, and two entries
besides. -/
def scattered : List (String × Json) :=
  [("min", .int 1), (generatorField, .str ""), ("max", .int 3), (typeField, .str "type")]

/-- It comes back with its type first, the two entries in order, and nothing for an
example. -/
theorem codec_scattered : ∃ m, (Model.ofValue (.ofJson (.obj scattered)) : Except Report Matcher) = .ok m
    ∧ ∃ gs, Value.toIntegration (.matcher m) = .ofJson (.obj gs) ∧ Encoded scattered gs
      ∧ gs.filter isExtra = [("min", .int 1), ("max", .int 3)] := by
  obtain ⟨m, hm, gs, hgs, hencoded⟩ := codec.2 scattered "type" (by decide) rfl (.inr (.inr ⟨"", rfl⟩))
  exact ⟨m, hm, gs, hgs, hencoded, hencoded.extras⟩

end MatcherOf

end Covenant
