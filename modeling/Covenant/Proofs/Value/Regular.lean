import Covenant.Proofs.Matcher

/-!
# Regular values

A **regular** value (`Value.Regular`) is built from nothing, truth values,
integers and texts with lists, tuples, dictionaries under texts and matchers,
where no attribute of a matcher goes by the name of another part. There is more
in it than in a document: a tuple is written as a list, a matcher as an object,
and a generator that is empty is not written at all. So a regular value need not
come back from its document.

What can be said is that the document is exact (`Value.exact_of_plainWithin`,
`Value.exact_of_strict?`). It is then the document of an exact value too, which
does come back from it. For a matcher the same is said of its parts, since a
matcher may come back as a matcher (`MatcherOf.exists_json_of_document`).
-/

namespace Covenant

theorem exists_of_map_eq_ok {ε α β : Type} {f : α → β} {made : Except ε α} {b : β}
    (h : made.map f = .ok b) : ∃ a, made = .ok a ∧ f a = b := by
  cases made with
  | error e => cases h
  | ok a => exact ⟨a, rfl, Except.ok.inj h⟩

theorem exists_of_bind_eq_ok {ε α β : Type} {f : α → Except ε β} {made : Except ε α} {b : β}
    (h : (made >>= f) = .ok b) : ∃ a, made = .ok a ∧ f a = .ok b := by
  cases made with
  | error e => cases h
  | ok a => exact ⟨a, rfl, h⟩

namespace Value

mutual

/-- **A regular value**: no double and no string of bytes is in it, the keys of
its dictionaries are distinct texts, and the attributes of its matchers have
distinct names that no other part has. -/
def Regular : Value → Prop
  | .double _ => False
  | .bytes _ => False
  | .list vs => RegularItems vs
  | .tuple vs => RegularItems vs
  | .dict es => (es.map Prod.fst).Nodup ∧ RegularEntries es
  | .matcher ⟨_, v, attributes, _⟩ =>
    Regular v ∧ (attributes.map Prod.fst).Nodup ∧ RegularAttributes attributes
  | _ => True

/-- Every item is regular. -/
def RegularItems : List Value → Prop
  | [] => True
  | v :: vs => Regular v ∧ RegularItems vs

/-- Every entry is regular, and its key a text. -/
def RegularEntries : List (Key × Value) → Prop
  | [] => True
  | (k, v) :: es => (∃ s, k = .str s) ∧ Regular v ∧ RegularEntries es

/-- Every attribute is regular, and not named like another part. -/
def RegularAttributes : List (String × Value) → Prop
  | [] => True
  | (k, v) :: es => k ∉ MatcherOf.ownNames ∧ Regular v ∧ RegularAttributes es

end

theorem RegularAttributes.own {attributes : List (String × Value)}
    (h : RegularAttributes attributes) : ∀ a ∈ attributes, a.1 ∉ MatcherOf.ownNames := by
  induction attributes with
  | nil => exact fun a ha => nomatch ha
  | cons a as ih => exact List.forall_mem_cons.mpr ⟨h.1, ih h.2.2⟩

end Value

/-! ## Fields that were made -/

theorem exists_of_fieldsInOrder {fs : List (String × Except Unwritable Json)}
    {js : List (String × Json)} (h : fieldsInOrder fs = .ok js) :
    ∀ f ∈ fs, ∃ j, f.2 = .ok j := by
  induction fs generalizing js with
  | nil => exact fun f hf => nomatch hf
  | cons f fs ih =>
    obtain ⟨k, made⟩ := f
    cases made with
    | error e => cases h
    | ok j =>
      obtain ⟨js', hjs, -⟩ := exists_of_map_eq_ok h
      exact List.forall_mem_cons.mpr ⟨⟨j, rfl⟩, ih hjs⟩

theorem exists_eq_map_ok {fs : List (String × Except Unwritable Json)}
    (h : ∀ f ∈ fs, ∃ j, f.2 = .ok j) :
    ∃ js : List (String × Json), fs = js.map fun f => (f.1, .ok f.2) := by
  induction fs with
  | nil => exact ⟨[], rfl⟩
  | cons f fs ih =>
    obtain ⟨k, made⟩ := f
    obtain ⟨⟨j, hj⟩, hfs⟩ := List.forall_mem_cons.mp h
    obtain rfl : made = .ok j := hj
    obtain ⟨js, rfl⟩ := ih hfs
    exact ⟨(k, j) :: js, rfl⟩

namespace MatcherOf

/-- A matcher without a generator that is empty. -/
def withoutEmptyGenerator {α : Type} (m : MatcherOf α) : MatcherOf α :=
  { m with generator := m.generator.filter (· != "") }

/-- An empty generator is not written. -/
theorem integrationFields_withoutEmptyGenerator {α : Type} (text : String → α) (m : MatcherOf α) :
    integrationFields text m.withoutEmptyGenerator = integrationFields text m := by
  obtain ⟨type, value, attributes, generator⟩ := m
  cases generator with
  | none => rfl
  | some g =>
    by_cases hg : g = ""
    · subst hg
      rfl
    · have hkept : (some g).filter (· != "") = some g := by simp [hg]
      unfold withoutEmptyGenerator
      dsimp only
      rw [hkept]

section Parts

variable {α : Type} {m : MatcherOf α} (hnodup : (m.attributes.map Prod.fst).Nodup)
  (hown : ∀ a ∈ m.attributes, a.1 ∉ ownNames)

include hnodup hown

theorem distinct_withoutEmptyGenerator : m.withoutEmptyGenerator.Distinct where
  nodup := hnodup
  own := hown
  generator h := by simpa using (Option.mem_filter_iff.mp h).2

/-- The integration form has each of the parts in order. -/
theorem integrationFields_eq_fieldsOf (text : String → α) :
    integrationFields text m = fieldsOf text m.withoutEmptyGenerator := by
  rw [← integrationFields_withoutEmptyGenerator,
    integrationFields_of_distinct _ (distinct_withoutEmptyGenerator hnodup hown)]

end Parts

section Made

variable {m : MatcherOf (Except Unwritable Json)} (hnodup : (m.attributes.map Prod.fst).Nodup)
  (hown : ∀ a ∈ m.attributes, a.1 ∉ ownNames)

include hnodup hown

/-- Where a document is made of a matcher, its parts were made. -/
theorem exists_of_integrationFields {text : String → Except Unwritable Json}
    {fs : List (String × Json)} (h : fieldsInOrder (integrationFields text m) = .ok fs) :
    (∃ j, m.value = .ok j) ∧ ∀ a ∈ m.attributes, ∃ j, a.2 = .ok j := by
  rw [integrationFields_eq_fieldsOf hnodup hown] at h
  have hmade := exists_of_fieldsInOrder h
  refine ⟨hmade (valueField, m.value) ?_, fun a ha => hmade a ?_⟩
  · simp [fieldsOf, withoutEmptyGenerator]
  · simp [fieldsOf, withoutEmptyGenerator, ha]

/-- **A document that is made of a matcher is that of a matcher of documents**,
whose parts can be told apart. -/
theorem exists_json_of_fieldsInOrder {fs : List (String × Json)}
    (h : fieldsInOrder (integrationFields (fun s => .ok (.str s)) m) = .ok fs) :
    ∃ mj : MatcherOf Json, mj.Distinct ∧ Json.obj fs = mj.json ∧ m.value = .ok mj.value
      ∧ m.attributes = mj.attributes.map fun a => (a.1, .ok a.2) := by
  obtain ⟨⟨j, hvalue⟩, hattributes⟩ := exists_of_integrationFields hnodup hown h
  obtain ⟨as, has⟩ := exists_eq_map_ok hattributes
  let mj : MatcherOf Json := ⟨m.type, j, as, m.withoutEmptyGenerator.generator⟩
  have hparts : m.withoutEmptyGenerator = mj.mapParts .ok := by
    obtain ⟨type, value, attributes, generator⟩ := m
    obtain rfl : value = _ := hvalue
    obtain rfl : attributes = _ := has
    rfl
  have hdistinct := distinct_withoutEmptyGenerator hnodup hown
  have hnames : m.attributes.map Prod.fst = as.map Prod.fst := by
    rw [has, List.map_map]
    rfl
  refine ⟨mj, ⟨?_, fun a ha => ?_, hdistinct.generator⟩, ?_, hvalue, has⟩
  · rwa [hnames] at hnodup
  · refine hown (a.1, .ok a.2) ?_
    rw [has]
    exact List.mem_map.mpr ⟨a, ha, rfl⟩
  · rw [integrationFields_eq_fieldsOf hnodup hown, hparts, fieldsOf_mapParts Json.str Except.ok mj,
      fieldsInOrder_map_ok] at h
    rw [← Except.ok.inj h]
    rfl

end Made

end MatcherOf

namespace Value

theorem nodup_of_keys {fs : List (String × Json)} {es : List (Key × Value)}
    (hkeys : (fs.map Prod.fst).map Key.str = es.map Prod.fst) (h : (es.map Prod.fst).Nodup) :
    (fs.map Prod.fst).Nodup := by
  rw [← hkeys] at h
  exact List.Pairwise.of_map Key.str (fun _ _ hne heq => hne (congrArg Key.str heq)) h

/-! ## Plain documents -/

theorem plainLeaf_eq_ok {room : Nat} {made : Except Unwritable Json} {j : Json}
    (h : plainLeaf room made = .ok j) : 0 < room ∧ made = .ok j := by
  cases room with
  | zero => cases h
  | succ n => exact ⟨Nat.succ_pos n, h⟩

theorem plainAttributes_eq_map (room : Nat) (attributes : List (String × Value)) :
    plainAttributes room attributes = attributes.map fun a => (a.1, plainWithin room a.2) := by
  induction attributes with
  | nil => rfl
  | cons a as ih => exact congrArg ((a.1, plainWithin room a.2) :: ·) ih

/-- **The parts of a matcher in its document.** A document that is made of a
matcher with attributes of distinct names, none of them named like another part,
is that of a matcher of documents; and the parts were made at one level less. -/
theorem exists_json_of_plainWithin {type : String} {v : Value} {attributes : List (String × Value)}
    {generator : Option String} (hnodup : (attributes.map Prod.fst).Nodup)
    (hattributes : RegularAttributes attributes) {room : Nat} {j : Json}
    (h : plainWithin (room + 1) (.matcher ⟨type, v, attributes, generator⟩) = .ok j) :
    ∃ mj : MatcherOf Json, mj.Distinct ∧ j = mj.json ∧ plainWithin room v = .ok mj.value
      ∧ plainAttributes room attributes = mj.attributes.map fun a => (a.1, .ok a.2) := by
  obtain ⟨fs, hfs, rfl⟩ := exists_of_map_eq_ok (plainLeaf_eq_ok h).2
  rw [Nat.add_sub_cancel] at hfs
  have hnames : (plainAttributes room attributes).map Prod.fst = attributes.map Prod.fst := by
    rw [plainAttributes_eq_map, List.map_map]
    rfl
  have hown : ∀ a ∈ plainAttributes room attributes, a.1 ∉ MatcherOf.ownNames := by
    intro a ha
    rw [plainAttributes_eq_map] at ha
    obtain ⟨b, hb, rfl⟩ := List.mem_map.mp ha
    exact hattributes.own b hb
  rw [← hnames] at hnodup
  cases room with
  | zero =>
    -- without a level, not even the name of the type is made
    rw [MatcherOf.integrationFields_eq_fieldsOf hnodup hown] at hfs
    cases hfs
  | succ n => exact MatcherOf.exists_json_of_fieldsInOrder hnodup hown hfs

/-- A matcher of exact documents is as deep as the levels of its parts. -/
theorem exact_of_parts {mj : MatcherOf Json} {room : Nat} (hdistinct : mj.Distinct)
    (hvalue : mj.value.Exact ∧ mj.value.depth < room)
    (hattributes : Json.ExactFields mj.attributes ∧ Json.depthFields mj.attributes ≤ room) :
    mj.json.Exact ∧ mj.json.depth ≤ room := by
  refine ⟨MatcherOf.exact_json hdistinct hvalue.1 hattributes.1, Json.depthFields_le_iff.mpr ?_⟩
  intro f hf
  have hpos : 0 < room := Nat.lt_of_le_of_lt (Nat.zero_le _) hvalue.2
  unfold MatcherOf.fieldsOf at hf
  rw [List.mem_cons, List.mem_append, List.mem_append, List.mem_singleton] at hf
  obtain rfl | hf | hf | rfl := hf
  · exact hpos
  · obtain ⟨g, -, rfl⟩ := List.mem_map.mp hf
    exact hpos
  · exact Json.depthFields_le_iff.mp hattributes.2 f hf
  · exact hvalue.2

mutual

/-- **The document made of a regular value is exact**, and as deep as its levels
allow. -/
theorem exact_of_plainWithin : ∀ (v : Value) {room : Nat} {j : Json}, v.Regular →
    plainWithin room v = .ok j → j.Exact ∧ j.depth < room
  | .null, _, _, _, h => by
    obtain ⟨hroom, ⟨⟩⟩ := plainLeaf_eq_ok h
    exact ⟨trivial, hroom⟩
  | .bool _, _, _, _, h => by
    obtain ⟨hroom, ⟨⟩⟩ := plainLeaf_eq_ok h
    exact ⟨trivial, hroom⟩
  | .int _, _, _, _, h => by
    obtain ⟨hroom, ⟨⟩⟩ := plainLeaf_eq_ok h
    exact ⟨trivial, hroom⟩
  | .str _, _, _, _, h => by
    obtain ⟨hroom, ⟨⟩⟩ := plainLeaf_eq_ok h
    exact ⟨trivial, hroom⟩
  | .double _, _, _, hregular, _ => hregular.elim
  | .bytes _, _, _, hregular, _ => hregular.elim
  | .list vs, room, _, hregular, h => by
    obtain ⟨hroom, hmade⟩ := plainLeaf_eq_ok h
    obtain ⟨js, hjs, rfl⟩ := exists_of_map_eq_ok hmade
    obtain ⟨hexact, hdepth⟩ := exact_of_plainItems vs hregular hjs
    exact ⟨hexact, show Json.depthItems js < room by omega⟩
  | .tuple vs, room, _, hregular, h => by
    obtain ⟨hroom, hmade⟩ := plainLeaf_eq_ok h
    obtain ⟨js, hjs, rfl⟩ := exists_of_map_eq_ok hmade
    obtain ⟨hexact, hdepth⟩ := exact_of_plainItems vs hregular hjs
    exact ⟨hexact, show Json.depthItems js < room by omega⟩
  | .dict es, room, _, hregular, h => by
    obtain ⟨hroom, hmade⟩ := plainLeaf_eq_ok h
    obtain ⟨fs, hfs, rfl⟩ := exists_of_map_eq_ok hmade
    obtain ⟨hkeys, hexact, hdepth⟩ := exact_of_plainEntries es hregular.2 hfs
    exact ⟨⟨nodup_of_keys hkeys hregular.1, hexact⟩, show Json.depthFields fs < room by omega⟩
  | .matcher ⟨type, v, attributes, generator⟩, 0, _, _, h => nomatch h
  | .matcher ⟨type, v, attributes, generator⟩, room + 1, _, hregular, h => by
    obtain ⟨hv, hnodup, hattributes⟩ := hregular
    obtain ⟨mj, hdistinct, rfl, hvalue, hmade⟩ := exists_json_of_plainWithin hnodup hattributes h
    obtain ⟨hexact, hdepth⟩ := exact_of_parts hdistinct (exact_of_plainWithin v hv hvalue)
      (exact_of_plainAttributes attributes hattributes hmade)
    exact ⟨hexact, Nat.lt_succ_of_le hdepth⟩

theorem exact_of_plainItems : ∀ (vs : List Value) {room : Nat} {js : List Json}, RegularItems vs →
    plainItems room vs = .ok js → Json.ExactItems js ∧ Json.depthItems js ≤ room
  | [], _, _, _, h => by
    cases h
    exact ⟨trivial, Nat.zero_le _⟩
  | v :: vs, room, _, hregular, h => by
    rw [plainItems] at h
    cases hv : plainWithin room v with
    | error e =>
      rw [hv] at h
      cases h
    | ok j =>
      rw [hv] at h
      obtain ⟨js, hjs, rfl⟩ := exists_of_map_eq_ok h
      obtain ⟨hexact, hdepth⟩ := exact_of_plainWithin v hregular.1 hv
      obtain ⟨hexacts, hdepths⟩ := exact_of_plainItems vs hregular.2 hjs
      exact ⟨⟨hexact, hexacts⟩, Nat.max_le.mpr ⟨hdepth, hdepths⟩⟩

theorem exact_of_plainEntries : ∀ (es : List (Key × Value)) {room : Nat}
    {fs : List (String × Json)}, RegularEntries es → plainEntries room es = .ok fs →
    (fs.map Prod.fst).map Key.str = es.map Prod.fst ∧ Json.ExactFields fs
      ∧ Json.depthFields fs ≤ room
  | [], _, _, _, h => by
    cases h
    exact ⟨rfl, trivial, Nat.zero_le _⟩
  | (k, v) :: es, room, _, hregular, h => by
    obtain ⟨⟨s, rfl⟩, hvalue, hes⟩ := hregular
    rw [plainEntries, Key.plain] at h
    dsimp only at h
    cases hv : plainWithin room v with
    | error e =>
      rw [hv] at h
      cases h
    | ok j =>
      rw [hv] at h
      obtain ⟨fs, hfs, rfl⟩ := exists_of_map_eq_ok h
      obtain ⟨hexact, hdepth⟩ := exact_of_plainWithin v hvalue hv
      obtain ⟨hkeys, hexacts, hdepths⟩ := exact_of_plainEntries es hes hfs
      exact ⟨congrArg (Key.str s :: ·) hkeys, ⟨hexact, hexacts⟩,
        Nat.max_le.mpr ⟨hdepth, hdepths⟩⟩

theorem exact_of_plainAttributes : ∀ (es : List (String × Value)) {room : Nat}
    {fs : List (String × Json)}, RegularAttributes es →
    plainAttributes room es = fs.map (fun a => (a.1, .ok a.2)) →
    Json.ExactFields fs ∧ Json.depthFields fs ≤ room
  | [], _, [], _, _ => ⟨trivial, Nat.zero_le _⟩
  | (k, v) :: es, _, (s, j) :: fs, hregular, h => by
    obtain ⟨hv, hes⟩ := List.cons.inj h
    obtain ⟨hexact, hdepth⟩ := exact_of_plainWithin v hregular.2.1 (congrArg Prod.snd hv)
    obtain ⟨hexacts, hdepths⟩ := exact_of_plainAttributes es hregular.2.2 hes
    exact ⟨⟨hexact, hexacts⟩, Nat.max_le.mpr ⟨hdepth, hdepths⟩⟩

end

/-! ## Strict documents -/

mutual

/-- **The document that a regular value is**, if it is one, is exact. -/
theorem exact_of_strict? : ∀ (v : Value) {j : Json}, v.Regular → v.strict? = some j → j.Exact
  | .null, _, _, h => by
    cases h
    trivial
  | .bool _, _, _, h => by
    cases h
    trivial
  | .int _, _, _, h => by
    cases h
    trivial
  | .str _, _, _, h => by
    cases h
    trivial
  | .double _, _, hregular, _ => hregular.elim
  | .bytes _, _, hregular, _ => hregular.elim
  | .list vs, _, hregular, h => by
    obtain ⟨js, hjs, rfl⟩ := Option.map_eq_some_iff.mp h
    exact exact_of_strictItems? vs hregular hjs
  | .tuple vs, _, hregular, h => by
    obtain ⟨js, hjs, rfl⟩ := Option.map_eq_some_iff.mp h
    exact exact_of_strictItems? vs hregular hjs
  | .dict es, _, hregular, h => by
    obtain ⟨fs, hfs, rfl⟩ := Option.map_eq_some_iff.mp h
    obtain ⟨hkeys, hexact⟩ := exact_of_strictEntries? es hregular.2 hfs
    exact ⟨nodup_of_keys hkeys hregular.1, hexact⟩
  | .matcher _, _, _, h => nomatch h

theorem exact_of_strictItems? : ∀ (vs : List Value) {js : List Json}, RegularItems vs →
    strictItems? vs = some js → Json.ExactItems js
  | [], _, _, h => by
    cases h
    trivial
  | v :: vs, _, hregular, h => by
    rw [strictItems?] at h
    split at h
    case h_1 j js hv hvs =>
      cases h
      exact ⟨exact_of_strict? v hregular.1 hv, exact_of_strictItems? vs hregular.2 hvs⟩
    case h_2 => cases h

theorem exact_of_strictEntries? : ∀ (es : List (Key × Value)) {fs : List (String × Json)},
    RegularEntries es → strictEntries? es = some fs →
    (fs.map Prod.fst).map Key.str = es.map Prod.fst ∧ Json.ExactFields fs
  | [], _, _, h => by
    cases h
    exact ⟨rfl, trivial⟩
  | (k, v) :: es, _, hregular, h => by
    obtain ⟨⟨s, rfl⟩, hvalue, hes⟩ := hregular
    rw [strictEntries?] at h
    split at h
    case h_1 s' j fs hkey hv hfs =>
      cases h
      obtain rfl : s = s' := Option.some.inj hkey
      obtain ⟨hkeys, hexacts⟩ := exact_of_strictEntries? es hes hfs
      exact ⟨congrArg (Key.str s :: ·) hkeys, exact_of_strict? v hvalue hv, hexacts⟩
    case h_2 => cases h

end

end Value

/-- **A document that is made of a regular matcher** is that of a matcher of
exact documents, which fits the levels that documents may have. -/
theorem MatcherOf.exists_json_of_document {m : Matcher} (h : (Value.matcher m).Regular) {j : Json}
    (hdocument : m.document = .ok j) :
    ∃ mj : MatcherOf Json, mj.Distinct ∧ j = mj.json ∧ mj.value.Exact
      ∧ Json.ExactFields mj.attributes ∧ mj.json.depth ≤ Value.levelLimit := by
  obtain ⟨type, v, attributes, generator⟩ := m
  obtain ⟨hv, hnodup, hattributes⟩ := h
  obtain ⟨mj, hdistinct, hj, hvalue, hmade⟩ :=
    Value.exists_json_of_plainWithin hnodup hattributes hdocument
  have hvalueExact := Value.exact_of_plainWithin v hv hvalue
  have hattributesExact := Value.exact_of_plainAttributes attributes hattributes hmade
  exact ⟨mj, hdistinct, hj, hvalueExact.1, hattributesExact.1,
    (Value.exact_of_parts hdistinct hvalueExact hattributesExact).2⟩

end Covenant
