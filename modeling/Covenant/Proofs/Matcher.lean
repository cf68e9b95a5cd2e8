import Covenant.Proofs.Contract.Codec

/-!
# Matchers and their documents

A matcher is written as an object in which its type, its generator and its
example stand among its attributes. Which entries are which can be told again
if no attribute goes by the name of one of the others, and if the generator is
not empty, since an empty one is not written (`MatcherOf.Distinct`). Such a
matcher, holding nothing but documents, comes back from its document
(`roundTrips_matcher`).
-/

namespace Covenant

open Validation

namespace MatcherOf

/-! ## The integration form -/

/-- The names that are not for attributes. -/
def ownNames : List String := [typeField, generatorField, valueField]

/-- **A matcher whose integration form tells its parts apart.** -/
structure Distinct {α : Type} (m : MatcherOf α) : Prop where
  /-- The attributes have different names. -/
  nodup : (m.attributes.map Prod.fst).Nodup
  /-- None of them is named like another part. -/
  own : ∀ a ∈ m.attributes, a.1 ∉ ownNames
  /-- The generator, if there is one, is not empty. -/
  generator : m.generator ≠ some ""

/-- The fields of a matcher in order. -/
def fieldsOf {α : Type} (text : String → α) (m : MatcherOf α) : Entries String α :=
  (typeField, text m.type)
    :: ((m.generator.toList.map fun g => (generatorField, text g))
      ++ (m.attributes ++ [(valueField, m.value)]))

/-- The fields have different names. -/
theorem Distinct.nodup_keys {α : Type} {m : MatcherOf α} (h : m.Distinct) :
    (typeField :: generatorField :: (m.attributes.map Prod.fst ++ [valueField])).Nodup := by
  have hown : (ownNames ++ m.attributes.map Prod.fst).Nodup := by
    refine List.nodup_append.mpr ⟨by decide, h.nodup, ?_⟩
    rintro k hk _ hk' rfl
    obtain ⟨a, ha, rfl⟩ := List.mem_map.mp hk'
    exact h.own a ha hk
  exact ((List.perm_append_comm.append_left [typeField, generatorField]).nodup_iff).mp hown

/-- **Where the parts can be told apart, the integration form has each of
them** in order. -/
theorem integrationFields_of_distinct {α : Type} (text : String → α) {m : MatcherOf α}
    (h : m.Distinct) : integrationFields text m = fieldsOf text m := by
  have hkeys := h.nodup_keys
  obtain ⟨type, value, attributes, generator⟩ := m
  -- the attributes and the example are put one after the other
  have hput : ∀ head : Entries String α, (head.putAll attributes).put valueField value
      = head.putAll (attributes ++ [(valueField, value)]) := fun head => by
    unfold Entries.putAll
    rw [List.foldl_append]
    rfl
  cases generator with
  | none =>
    have hfresh : (Entries.keys [(typeField, text type)]
        ++ (attributes ++ [(valueField, value)]).map Prod.fst).Nodup := by
      rw [List.map_append]
      exact hkeys.sublist ((List.sublist_cons_self generatorField _).cons_cons typeField)
    exact (hput [(typeField, text type)]).trans (Entries.putAll_eq_append hfresh)
  | some g =>
    have hg : g ≠ "" := fun hg => h.generator (congrArg some hg)
    have hfresh : (Entries.keys [(typeField, text type), (generatorField, text g)]
        ++ (attributes ++ [(valueField, value)]).map Prod.fst).Nodup := by
      rw [List.map_append]
      exact hkeys
    unfold integrationFields
    dsimp only
    rw [if_neg hg]
    exact (hput [(typeField, text type), (generatorField, text g)]).trans
      (Entries.putAll_eq_append hfresh)

/-- The parts of a matcher changed, each by itself. -/
def mapParts {α β : Type} (f : α → β) (m : MatcherOf α) : MatcherOf β :=
  ⟨m.type, f m.value, m.attributes.map fun a => (a.1, f a.2), m.generator⟩

/-- What the parts are does not matter for telling them apart. -/
theorem Distinct.mapParts {α β : Type} {m : MatcherOf α} (h : m.Distinct) (f : α → β) :
    (m.mapParts f).Distinct := by
  have hnames : (m.attributes.map fun a => (a.1, f a.2)).map Prod.fst = m.attributes.map Prod.fst := by
    rw [List.map_map]
    rfl
  refine ⟨?_, fun a ha => ?_, h.generator⟩
  · rw [show (m.mapParts f).attributes.map Prod.fst = _ from hnames]
    exact h.nodup
  · obtain ⟨b, hb, rfl⟩ := List.mem_map.mp ha
    exact h.own b hb

theorem fieldsOf_mapParts {α β : Type} (text : String → α) (f : α → β) (m : MatcherOf α) :
    fieldsOf (fun s => f (text s)) (m.mapParts f)
      = (fieldsOf text m).map fun a => (a.1, f a.2) := by
  unfold fieldsOf MatcherOf.mapParts
  rw [List.map_cons, List.map_append, List.map_append, List.map_map]
  rfl

/-- Changed parts have the changed integration form, whether the parts can be
told apart or not. -/
theorem integrationFields_mapParts {α β : Type} (text : String → α) (f : α → β) (m : MatcherOf α) :
    integrationFields (fun s => f (text s)) (m.mapParts f)
      = (integrationFields text m).map fun a => (a.1, f a.2) := by
  obtain ⟨type, value, attributes, generator⟩ := m
  unfold integrationFields MatcherOf.mapParts
  dsimp only
  rw [Entries.map_put, Entries.map_putAll]
  cases generator with
  | none => rfl
  | some g =>
    dsimp only
    by_cases hg : g = ""
    · rw [if_pos hg, if_pos hg]
      rfl
    · rw [if_neg hg, if_neg hg, Entries.map_put]
      rfl

section Fields

variable {α : Type} (text : String → α) (m : MatcherOf α)

/-- The integration form: the attributes are put onto texts, and the example
onto all of them. -/
theorem exists_head_integrationFields : ∃ head : Entries String α, head.keys.Nodup
    ∧ (∀ e ∈ head, ∃ s, e.2 = text s)
    ∧ integrationFields text m = (head.putAll m.attributes).put valueField m.value := by
  have htype : ∀ e ∈ [(typeField, text m.type)], ∃ s, e.2 = text s :=
    List.forall_mem_singleton.mpr ⟨m.type, rfl⟩
  unfold integrationFields
  cases m.generator with
  | none => exact ⟨[(typeField, text m.type)], by simp [Entries.keys], htype, rfl⟩
  | some g =>
    by_cases hg : g = ""
    · refine ⟨[(typeField, text m.type)], by simp [Entries.keys], htype, ?_⟩
      dsimp only
      rw [if_pos hg]
    · refine ⟨[(typeField, text m.type), (generatorField, text g)], ?_, ?_, ?_⟩
      · show [typeField, generatorField].Nodup
        decide
      · exact List.forall_mem_cons.mpr
          ⟨⟨m.type, rfl⟩, List.forall_mem_singleton.mpr ⟨g, rfl⟩⟩
      · dsimp only
        rw [if_neg hg]
        rfl

theorem nodup_keys_integrationFields : (integrationFields text m).keys.Nodup := by
  obtain ⟨head, hhead, -, hfields⟩ := exists_head_integrationFields text m
  rw [hfields]
  exact Entries.nodup_keys_put (Entries.nodup_keys_putAll m.attributes hhead)

/-- **What is in the integration form**: texts, the example, and the attributes
that do not give way to it. -/
theorem forall_integrationFields {P : α → Prop} (htext : ∀ s, P (text s))
    (hnames : (m.attributes.map Prod.fst).Nodup) :
    (∀ e ∈ integrationFields text m, P e.2)
      ↔ P m.value ∧ ∀ a ∈ m.attributes, a.1 ≠ valueField → P a.2 := by
  obtain ⟨head, hhead, htexts, hfields⟩ := exists_head_integrationFields text m
  rw [hfields]
  constructor
  · intro h
    refine ⟨h (valueField, m.value) ?_, fun a ha hne => h a ?_⟩
    · exact (Entries.mem_put (Entries.nodup_keys_putAll _ hhead)).mpr (.inl rfl)
    · refine (Entries.mem_put (Entries.nodup_keys_putAll _ hhead)).mpr (.inr ⟨?_, hne⟩)
      exact (Entries.mem_putAll hhead hnames).mpr (.inl ha)
  · rintro ⟨hvalue, hattributes⟩ e he
    obtain rfl | ⟨he, hne⟩ := (Entries.mem_put (Entries.nodup_keys_putAll _ hhead)).mp he
    · exact hvalue
    obtain he | ⟨he, -⟩ := (Entries.mem_putAll hhead hnames).mp he
    · exact hattributes e he hne
    · obtain ⟨s, hs⟩ := htexts e he
      rw [hs]
      exact htext s

end Fields

/-! ## Matchers of documents -/

/-- **An exact matcher**: its parts can be told apart, and its example and
attributes are exact. -/
structure Exact (m : Matcher) : Prop where
  distinct : m.Distinct
  value : m.value.Exact
  attributes : ∀ a ∈ m.attributes, a.2.Exact

/-- The document of a matcher of documents. -/
def json (m : MatcherOf Json) : Json := .obj (fieldsOf .str m)

/-- **An exact matcher is a matcher of documents.** -/
theorem Exact.exists_json {m : Matcher} (h : m.Exact) :
    ∃ mj : MatcherOf Json, m = mj.mapParts .ofJson ∧ mj.Distinct ∧ mj.value.Exact
      ∧ Json.ExactFields mj.attributes := by
  obtain ⟨type, value, attributes, generator⟩ := m
  obtain ⟨hdistinct, ⟨j, hj, hvalue⟩, hattributes⟩ := h
  obtain ⟨fs, hfs, rfl⟩ : ∃ fs, _ ∧ attributes = _ :=
    Value.exists_fields_of_exact hattributes
  obtain rfl : value = .ofJson j := hvalue
  have hnames : (fs.map fun f => (f.1, Value.ofJson f.2)).map Prod.fst = fs.map Prod.fst := by
    rw [List.map_map]
    rfl
  refine ⟨⟨type, j, fs, generator⟩, rfl, ⟨?_, fun a ha => ?_, hdistinct.generator⟩, hj, hfs⟩
  · rw [← hnames]
    exact hdistinct.nodup
  · exact hdistinct.own (a.1, .ofJson a.2) (List.mem_map.mpr ⟨a, ha, rfl⟩)

section Documents

variable {m : MatcherOf Json} (hdistinct : m.Distinct)

include hdistinct

/-- The document of a matcher of exact documents is exact. -/
theorem exact_json (hvalue : m.value.Exact) (hattributes : Json.ExactFields m.attributes) :
    m.json.Exact := by
  refine ⟨?_, ?_⟩
  · have hkeys := hdistinct.nodup_keys
    unfold fieldsOf
    rw [List.map_cons, List.map_append, List.map_append]
    cases m.generator with
    | none => exact hkeys.sublist ((List.sublist_cons_self generatorField _).cons_cons typeField)
    | some g => exact hkeys
  · rw [Json.exactFields_iff]
    intro f hf
    unfold fieldsOf at hf
    rw [List.mem_cons, List.mem_append, List.mem_append, List.mem_singleton] at hf
    obtain rfl | hf | hf | rfl := hf
    · trivial
    · obtain ⟨g, -, rfl⟩ := List.mem_map.mp hf
      trivial
    · exact Json.exactFields_iff.mp hattributes f hf
    · exact hvalue

/-- **Laid open, a matcher of documents is its document.** -/
theorem opened_mapParts : openedValue (.matcher (m.mapParts .ofJson)) = .ofJson m.json := by
  have hparts : (⟨m.type, Value.unwrapMatchers true (.ofJson m.value),
      Value.unwrapAttributes (m.attributes.map fun f => (f.1, .ofJson f.2)), m.generator⟩ : Matcher)
      = m.mapParts .ofJson := by
    rw [Value.unwrapMatchers_ofJson, Value.unwrapAttributes_ofJson]
    rfl
  show Value.record (integrationFields .str ⟨m.type, Value.unwrapMatchers true (.ofJson m.value),
      Value.unwrapAttributes (m.attributes.map fun f => (f.1, .ofJson f.2)), m.generator⟩) = _
  rw [hparts, integrationFields_of_distinct _ (hdistinct.mapParts _)]
  exact (congrArg Value.record (fieldsOf_mapParts Json.str Value.ofJson m)).trans
    (Value.record_map_ofJson _)

end Documents

theorem fieldsInOrder_map_ok (fs : List (String × Json)) :
    fieldsInOrder (fs.map fun f => (f.1, .ok f.2)) = .ok fs := by
  induction fs with
  | nil => rfl
  | cons f fs ih =>
    rw [List.map_cons, fieldsInOrder]
    rw [ih]
    rfl

/-- **The document of a matcher of exact documents**, if its levels fit. -/
theorem document_mapParts {m : MatcherOf Json} (hdistinct : m.Distinct) (hvalue : m.value.Exact)
    (hattributes : Json.ExactFields m.attributes) (hdepth : m.json.depth ≤ Value.levelLimit) :
    MatcherOf.document (m.mapParts .ofJson) = .ok m.json := by
  have hfields : ∀ f ∈ fieldsOf .str m, f.2.depth < m.json.depth :=
    Json.depthFields_le_iff.mp (Nat.le_refl m.json.depth)
  have hexample : m.value.depth < Value.levelLimit :=
    Nat.lt_of_lt_of_le (hfields (valueField, m.value) (by simp [fieldsOf])) hdepth
  have hothers : ∀ f ∈ m.attributes, f.2.depth < Value.levelLimit := fun f hf =>
    Nat.lt_of_lt_of_le (hfields f (by simp [fieldsOf, hf])) hdepth
  have hparts : (⟨m.type, Value.plainWithin Value.levelLimit (.ofJson m.value),
      Value.plainAttributes Value.levelLimit (m.attributes.map fun f => (f.1, .ofJson f.2)),
      m.generator⟩ : MatcherOf (Except Unwritable Json)) = m.mapParts .ok := by
    rw [Value.plainWithin_ofJson _ hvalue hexample, Value.plainAttributes_ofJson hattributes hothers]
    rfl
  show (fieldsInOrder (integrationFields (fun s => .ok (.str s)) ⟨m.type,
      Value.plainWithin Value.levelLimit (.ofJson m.value),
      Value.plainAttributes Value.levelLimit (m.attributes.map fun f => (f.1, .ofJson f.2)),
      m.generator⟩)).map Json.obj = _
  rw [hparts, integrationFields_of_distinct _ (hdistinct.mapParts _),
    fieldsOf_mapParts Json.str Except.ok m, fieldsInOrder_map_ok]
  rfl

section Reading

variable {α : Type} (text : String → α) {m : MatcherOf α}

/-- The parts of a matcher by their names. -/
theorem get?_fieldsOf (h : m.Distinct) :
    Entries.get? (fieldsOf text m) typeField = some (text m.type)
      ∧ Entries.get? (fieldsOf text m) generatorField = m.generator.map text
      ∧ Entries.get? (fieldsOf text m) valueField = some m.value := by
  have hattributes : ∀ k ∈ ownNames, Entries.get? m.attributes k = none := by
    intro k hk
    refine List.lookup_eq_none_iff.mpr fun a ha => ?_
    rw [bne_iff_ne]
    rintro rfl
    exact h.own a ha hk
  have hgenerator := hattributes generatorField (by decide)
  have hvalue := hattributes valueField (by decide)
  unfold fieldsOf
  refine ⟨rfl, ?_, ?_⟩
  · rw [Entries.get?_cons, if_neg (show ¬ (generatorField == typeField) = true by decide),
      Entries.get?_append, Entries.get?_append, hgenerator]
    cases m.generator <;> rfl
  · rw [Entries.get?_cons, if_neg (show ¬ (valueField == typeField) = true by decide),
      Entries.get?_append, Entries.get?_append, hvalue]
    cases m.generator <;> rfl

/-- The other entries are the attributes. -/
theorem filter_fieldsOf (h : m.Distinct) :
    (fieldsOf text m).filter (fun f => !ownNames.contains f.1) = m.attributes := by
  have hgenerator : (m.generator.toList.map fun g => (generatorField, text g)).filter
      (fun f => !ownNames.contains f.1) = [] := by
    cases m.generator <;> rfl
  have hattributes : m.attributes.filter (fun f => !ownNames.contains f.1) = m.attributes := by
    refine List.filter_eq_self.mpr fun a ha => ?_
    rw [Bool.not_eq_true', ← Bool.not_eq_true, List.contains_iff_mem]
    exact h.own a ha
  have htype : (fieldsOf text m).filter (fun f => !ownNames.contains f.1)
      = ((m.generator.toList.map fun g => (generatorField, text g))
        ++ (m.attributes ++ [(valueField, m.value)])).filter (fun f => !ownNames.contains f.1) := rfl
  rw [htype, List.filter_append, List.filter_append, hgenerator, hattributes]
  exact List.append_nil _

end Reading

/-- **What a record is checked for as a matcher**, entry by entry: the type, the
example, the generator, and the rest of the entries. -/
theorem check_record {fs : List (String × Value)} (hnames : (fs.map Prod.fst).Nodup)
    {type : String} {generator : Option String}
    (htype : Entries.get? fs typeField = some (.str type))
    (hgenerator : (Entries.get? fs generatorField).getD .null = textOrNull generator) :
    MatcherOf.check (.record fs) = .passed ⟨type, (Entries.get? fs valueField).getD .null,
      fs.filter (fun f => !ownNames.contains f.1), generator⟩ := by
  have hhas : Entries.has (fs.map fun f => (Key.str f.1, f.2)) (.str typeField) = true := by
    rw [Entries.has, get?_record, htype]
    rfl
  have hrest : (fs.map fun f => (Key.str f.1, f.2)).filter
      (fun e => !((e.1.str?.map ownNames.contains).getD false))
      = (fs.filter fun f => !ownNames.contains f.1).map fun f => (Key.str f.1, f.2) := by
    rw [List.filter_map]
    rfl
  have hfields : ofIntegration (fs.map fun f => (Key.str f.1, f.2))
      = [(.str "type", .str type), (.str "value", (Entries.get? fs valueField).getD .null),
        (.str "attributes", .record (fs.filter fun f => !ownNames.contains f.1)),
        (.str "generator", textOrNull generator)] := by
    unfold ofIntegration
    dsimp only
    rw [get?_record, get?_record, get?_record, htype, hgenerator]
    exact congrArg (fun es => [(Key.str "type", Value.str type),
      (.str "value", (Entries.get? fs valueField).getD .null), (.str "attributes", .dict es),
      (.str "generator", textOrNull generator)]) hrest
  have hattributes : dictionary anything (.record (fs.filter fun f => !ownNames.contains f.1))
      = .passed (fs.filter fun f => !ownNames.contains f.1) :=
    dictionary_anything_record (hnames.sublist (List.filter_sublist.map _))
  have hopened : nullable text (textOrNull generator) = .passed generator := by
    cases generator <;> rfl
  show (let es := if Entries.has (fs.map fun f => (Key.str f.1, f.2)) (.str typeField) then
        ofIntegration (fs.map fun f => (Key.str f.1, f.2))
        else fs.map fun f => (Key.str f.1, f.2)
      MatcherOf.mk <$> required es ["type"] text <*> withDefault es ["value"] .null anything
        <*> withDefault es ["attributes"] [] (dictionary anything)
        <*> withDefault es ["generator"] none (nullable text)) = _
  dsimp only
  rw [if_pos hhas, hfields]
  show MatcherOf.mk <$> Checked.passed type <*> .passed ((Entries.get? fs valueField).getD .null)
    <*> (dictionary anything (.record _)).within (.field "attributes")
    <*> (nullable text (textOrNull generator)).within (.field "generator") = _
  rw [hattributes, hopened]
  rfl

/-- **Checking the fields of a matcher gives the matcher.** -/
theorem check_fieldsOf {m : Matcher} (h : m.Distinct) :
    MatcherOf.check (.record (fieldsOf .str m)) = .passed m := by
  obtain ⟨htype, hgenerator, hvalue⟩ := get?_fieldsOf Value.str h
  have hnames : ((fieldsOf .str m).map Prod.fst).Nodup := by
    rw [← integrationFields_of_distinct _ h]
    exact nodup_keys_integrationFields _ m
  have hopened : (m.generator.map Value.str).getD .null = textOrNull m.generator := by
    cases m.generator <;> rfl
  rw [check_record hnames htype (hgenerator ▸ hopened), filter_fieldsOf _ h, hvalue]
  rfl

theorem check_json {m : MatcherOf Json} (h : m.Distinct) :
    MatcherOf.check (.ofJson m.json) = .passed (m.mapParts .ofJson) := by
  have hrecord : .ofJson m.json = Value.record (fieldsOf .str (m.mapParts .ofJson)) :=
    (Value.record_map_ofJson _).symm.trans
      (congrArg Value.record (fieldsOf_mapParts Json.str Value.ofJson m).symm)
  rw [hrecord, check_fieldsOf (h.mapParts _)]

end MatcherOf

/-- **An exact matcher comes back from its document**, if its levels fit. The
document is an object. -/
theorem roundTrips_matcher {m : Matcher} (h : m.Exact)
    (hdepth : (openedValue (.matcher m)).depth < Value.levelLimit) :
    RoundTrips MatcherOf.document MatcherOf.check (openedValue (.matcher m)).depth m
      ∧ ∀ j, MatcherOf.document m = .ok j → ∃ fs, j = .obj fs := by
  obtain ⟨mj, rfl, hdistinct, hvalue, hattributes⟩ := h.exists_json
  rw [MatcherOf.opened_mapParts hdistinct, Value.depth_ofJson] at hdepth ⊢
  have hdocument := MatcherOf.document_mapParts hdistinct hvalue hattributes (Nat.le_of_lt hdepth)
  refine ⟨⟨mj.json, hdocument, MatcherOf.exact_json hdistinct hvalue hattributes, rfl,
    MatcherOf.check_json hdistinct⟩, fun j hj => ⟨_, (Except.ok.inj (hdocument.symm.trans hj)).symm⟩⟩

end Covenant
