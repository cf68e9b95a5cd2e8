import Covenant.Proofs.Value.Parts

/-!
# The integration form and the text of a body

The integration form is for the matching engine, which knows neither matchers
nor tuples. It is made by going through collections and through the examples of
matchers; the attributes of a matcher are taken over as they are. So what a
matcher or a tuple in an attribute does depends on the attribute alone:

* the integration form is free of matchers just if the attributes taken over
  are (`Value.all_toIntegration`);
* it is its own integration form just if they hold no tuples either
  (`Value.toIntegration_eq_self_iff`);
* the value has a body just if they are free of matchers and no integer is too
  long to have a text (`Value.integration_of_built`).

All of it is said for values built of JSON values, tuples and matchers
(`Value.Built`), with induction over the value. In an attribute, `Value.all`
looks at all parts, while the induction stops there: that is why the tests of
an attribute are kept apart from the recursion (`Value.attributesAll`).
-/

namespace Covenant

namespace Value

/-! ## The attributes that are taken over -/

mutual

/-- **Whether the attributes that the integration form takes over pass a
test**: those of the matchers in collections and in examples, unless the
example takes their place. Matchers in attributes are not looked into. -/
def attributesAll (p : Value → Bool) : Value → Bool
  | .matcher ⟨_, v, attributes, _⟩ =>
    attributes.all (fun a => a.1 == MatcherOf.valueField || p a.2) && attributesAll p v
  | .dict es => attributesAllEntries p es
  | .list vs => attributesAllItems p vs
  | .tuple vs => attributesAllItems p vs
  | _ => true

/-- Whether the attributes taken over from the items pass. -/
def attributesAllItems (p : Value → Bool) : List Value → Bool
  | [] => true
  | v :: vs => attributesAll p v && attributesAllItems p vs

/-- Whether the attributes taken over from the entries pass. -/
def attributesAllEntries (p : Value → Bool) : List (Key × Value) → Bool
  | [] => true
  | (_, v) :: es => attributesAll p v && attributesAllEntries p es

end

/-- **No matcher is in a value**, attributes included. -/
def matcherFree (v : Value) : Bool := v.all fun w => !w.isMatcher

/-- **Neither a matcher nor a tuple is in a value.** -/
def isSettled (v : Value) : Bool := v.all fun w => !w.isMatcher && !w.isTuple

mutual

/-- **A value without matchers, laid open, stays as it is.** -/
theorem unwrapMatchers_of_matcherFree :
    ∀ v : Value, v.matcherFree = true → v.unwrapMatchers false = v
  | .null, _ => rfl
  | .bool _, _ => rfl
  | .int _, _ => rfl
  | .double _, _ => rfl
  | .str _, _ => rfl
  | .bytes _, _ => rfl
  | .list vs, h => congrArg Value.list (unwrapItems_of_matcherFree vs h)
  | .tuple vs, h => congrArg Value.tuple (unwrapItems_of_matcherFree vs h)
  | .dict es, h => congrArg Value.dict (unwrapEntries_of_matcherFree es h)
  | .matcher _, h => nomatch h

theorem unwrapItems_of_matcherFree :
    ∀ vs : List Value, allItems (fun w => !w.isMatcher) vs = true → unwrapItems false vs = vs
  | [], _ => rfl
  | v :: vs, h => by
    obtain ⟨hv, hvs⟩ := Bool.and_eq_true_iff.mp h
    rw [unwrapItems, unwrapMatchers_of_matcherFree v hv, unwrapItems_of_matcherFree vs hvs]

theorem unwrapEntries_of_matcherFree : ∀ es : List (Key × Value),
    allEntries (fun w => !w.isMatcher) es = true → unwrapEntries false es = es
  | [], _ => rfl
  | (k, v) :: es, h => by
    obtain ⟨hv, hes⟩ := Bool.and_eq_true_iff.mp h
    rw [unwrapEntries, unwrapMatchers_of_matcherFree v hv, unwrapEntries_of_matcherFree es hes]

end

section Integration

variable {p : Value → Bool} {double : Double → Bool}

/-- The attributes that are taken over from a matcher. -/
theorem attributesAll_matcher {type : String} {v : Value} {attributes : List (String × Value)}
    {generator : Option String} :
    attributesAll p (.matcher ⟨type, v, attributes, generator⟩) = true
      ↔ attributesAll p v = true
        ∧ ∀ a ∈ attributes, a.1 ≠ MatcherOf.valueField → p a.2 = true := by
  show (attributes.all (fun a => a.1 == MatcherOf.valueField || p a.2) && attributesAll p v) = true
    ↔ _
  rw [Bool.and_eq_true, and_comm, List.all_eq_true]
  refine and_congr_right fun _ => forall₂_congr fun a _ => ?_
  rw [Bool.or_eq_true, beq_iff_eq, ne_eq, Decidable.or_iff_not_imp_left]

/-- The fields that the integration form of a matcher has. -/
theorem forall_integrationFields_toIntegration {P : Value → Prop} {type : String} {v : Value}
    {attributes : List (String × Value)} {generator : Option String} (htext : ∀ s, P (.str s))
    (hnames : (attributes.map Prod.fst).Nodup) :
    (∀ e ∈ MatcherOf.integrationFields .str ⟨type, toIntegration v, attributes, generator⟩, P e.2)
      ↔ P (toIntegration v) ∧ ∀ a ∈ attributes, a.1 ≠ MatcherOf.valueField → P a.2 :=
  MatcherOf.forall_integrationFields .str ⟨type, toIntegration v, attributes, generator⟩ htext
    hnames

/-- A test that only matchers and tuples can fail. -/
def OnlySettled (p : Value → Bool) : Prop :=
  ∀ w : Value, w.isMatcher = false → w.isTuple = false → p w = true

mutual

/-- **What the integration form is free of**: matchers and tuples are left in it
only by the attributes that it takes over. -/
theorem all_toIntegration (hp : OnlySettled p) : ∀ v : Value, Built double v →
    (toIntegration v).all p = v.attributesAll (·.all p)
  | .null, _ => hp .null rfl rfl
  | .bool b, _ => hp (.bool b) rfl rfl
  | .int i, _ => hp (.int i) rfl rfl
  | .double d, _ => hp (.double d) rfl rfl
  | .str s, _ => hp (.str s) rfl rfl
  | .bytes bs, _ => hp (.bytes bs) rfl rfl
  | .list vs, h => by
    show (p (.list (toIntegrationItems vs)) && allItems p (toIntegrationItems vs)) = _
    rw [hp _ rfl rfl, Bool.true_and]
    exact allItems_toIntegration hp vs (built_list.mp h)
  | .tuple vs, h => by
    show (p (.list (toIntegrationItems vs)) && allItems p (toIntegrationItems vs)) = _
    rw [hp _ rfl rfl, Bool.true_and]
    exact allItems_toIntegration hp vs (built_tuple.mp h)
  | .dict es, h => by
    show (p (.dict (toIntegrationEntries es)) && allEntries p (toIntegrationEntries es)) = _
    rw [hp _ rfl rfl, Bool.true_and]
    exact allEntries_toIntegration hp es fun e he => (h.entries.2 e he).2
  | .matcher ⟨type, v, attributes, generator⟩, h => by
    obtain ⟨hnames, hv, -⟩ := built_matcher.mp h
    rw [Bool.eq_iff_iff, attributesAll_matcher, ← all_toIntegration hp v hv]
    show (record _).all p = true ↔ _
    rw [all_record, and_iff_right (hp _ rfl rfl)]
    exact forall_integrationFields_toIntegration (P := fun w => w.all p = true)
      (fun s => hp (.str s) rfl rfl) hnames

theorem allItems_toIntegration (hp : OnlySettled p) : ∀ vs : List Value,
    (∀ v ∈ vs, Built double v) →
    allItems p (toIntegrationItems vs) = attributesAllItems (·.all p) vs
  | [], _ => rfl
  | v :: vs, h => by
    obtain ⟨hv, hvs⟩ := List.forall_mem_cons.mp h
    rw [toIntegrationItems, allItems, all_toIntegration hp v hv, allItems_toIntegration hp vs hvs,
      attributesAllItems]

theorem allEntries_toIntegration (hp : OnlySettled p) : ∀ es : List (Key × Value),
    (∀ e ∈ es, Built double e.2) →
    allEntries p (toIntegrationEntries es) = attributesAllEntries (·.all p) es
  | [], _ => rfl
  | (k, v) :: es, h => by
    obtain ⟨hv, hes⟩ := List.forall_mem_cons.mp h
    rw [toIntegrationEntries, allEntries, all_toIntegration hp v hv,
      allEntries_toIntegration hp es hes, attributesAllEntries]

end

theorem keys_toIntegrationEntries (es : List (Key × Value)) :
    (toIntegrationEntries es).map Prod.fst = es.map Prod.fst := by
  induction es with
  | nil => rfl
  | cons e es ih => exact congrArg (e.1 :: ·) ih

mutual

/-- **The integration form is built of the same data.** -/
theorem built_toIntegration : ∀ v : Value, Built double v → Built double (toIntegration v)
  | .null, h => h
  | .bool _, h => h
  | .int _, h => h
  | .double _, h => h
  | .str _, h => h
  | .bytes _, h => h
  | .list vs, h => built_list.mpr (built_toIntegrationItems vs (built_list.mp h))
  | .tuple vs, h => built_list.mpr (built_toIntegrationItems vs (built_tuple.mp h))
  | .dict es, h => h.of_keys (keys_toIntegrationEntries es)
      (built_toIntegrationEntries es fun e he => (h.entries.2 e he).2)
  | .matcher ⟨type, v, attributes, generator⟩, h => by
    obtain ⟨hnames, hv, hattributes⟩ := built_matcher.mp h
    refine built_record (MatcherOf.nodup_keys_integrationFields _ _) ?_
    refine (forall_integrationFields_toIntegration (fun _ => rfl) hnames).mpr ?_
    exact ⟨built_toIntegration v hv, fun a ha _ => hattributes a ha⟩

theorem built_toIntegrationItems : ∀ vs : List Value, (∀ v ∈ vs, Built double v) →
    ∀ v ∈ toIntegrationItems vs, Built double v
  | [], _ => fun _ h => nomatch h
  | v :: vs, h => by
    obtain ⟨hv, hvs⟩ := List.forall_mem_cons.mp h
    exact List.forall_mem_cons.mpr ⟨built_toIntegration v hv, built_toIntegrationItems vs hvs⟩

theorem built_toIntegrationEntries : ∀ es : List (Key × Value), (∀ e ∈ es, Built double e.2) →
    ∀ e ∈ toIntegrationEntries es, Built double e.2
  | [], _ => fun _ h => nomatch h
  | (k, v) :: es, h => by
    obtain ⟨hv, hes⟩ := List.forall_mem_cons.mp h
    exact List.forall_mem_cons.mpr ⟨built_toIntegration v hv, built_toIntegrationEntries es hes⟩

end

/-! ## Once is enough -/

mutual

/-- **The integration form of a value is the value** if neither a matcher nor a
tuple is in it, and only then. -/
theorem toIntegration_eq_self_iff : ∀ v : Value, toIntegration v = v ↔ v.isSettled = true
  | .null => by simp [toIntegration, isSettled, all, isMatcher, isTuple]
  | .bool b => by simp [toIntegration, isSettled, all, isMatcher, isTuple]
  | .int i => by simp [toIntegration, isSettled, all, isMatcher, isTuple]
  | .double d => by simp [toIntegration, isSettled, all, isMatcher, isTuple]
  | .str s => by simp [toIntegration, isSettled, all, isMatcher, isTuple]
  | .bytes bs => by simp [toIntegration, isSettled, all, isMatcher, isTuple]
  | .list vs => by
    show Value.list (toIntegrationItems vs) = .list vs ↔ (true && allItems _ vs) = true
    rw [Bool.true_and, Value.list.injEq]
    exact toIntegrationItems_eq_self_iff vs
  | .tuple vs => by simp [toIntegration, isSettled, all, isMatcher, isTuple]
  | .dict es => by
    show Value.dict (toIntegrationEntries es) = .dict es ↔ (true && allEntries _ es) = true
    rw [Bool.true_and, Value.dict.injEq]
    exact toIntegrationEntries_eq_self_iff es
  | .matcher ⟨type, v, attributes, generator⟩ => by
    simp [toIntegration, isSettled, all, isMatcher, record]

theorem toIntegrationItems_eq_self_iff : ∀ vs : List Value, toIntegrationItems vs = vs
    ↔ allItems (fun w => !w.isMatcher && !w.isTuple) vs = true
  | [] => ⟨fun _ => rfl, fun _ => rfl⟩
  | v :: vs => by
    rw [toIntegrationItems, allItems, Bool.and_eq_true, List.cons.injEq,
      toIntegration_eq_self_iff v, toIntegrationItems_eq_self_iff vs]
    rfl

theorem toIntegrationEntries_eq_self_iff : ∀ es : List (Key × Value), toIntegrationEntries es = es
    ↔ allEntries (fun w => !w.isMatcher && !w.isTuple) es = true
  | [] => ⟨fun _ => rfl, fun _ => rfl⟩
  | (k, v) :: es => by
    rw [toIntegrationEntries, allEntries, Bool.and_eq_true, List.cons.injEq, Prod.mk.injEq,
      and_iff_right rfl, toIntegration_eq_self_iff v, toIntegrationEntries_eq_self_iff es]
    rfl

end

/-! ## Documents -/

mutual

/-- **A built value is a document if no matcher is in it**, and only then. -/
theorem isSome_strict? : ∀ v : Value, Built double v → v.strict?.isSome = v.matcherFree
  | .null, _ => rfl
  | .bool _, _ => rfl
  | .int _, _ => rfl
  | .double _, _ => rfl
  | .str _, _ => rfl
  | .bytes _, h => nomatch h
  | .list vs, h => by
    show ((strictItems? vs).map Json.arr).isSome = (true && allItems _ vs)
    rw [Option.isSome_map, Bool.true_and]
    exact isSome_strictItems? vs (built_list.mp h)
  | .tuple vs, h => by
    show ((strictItems? vs).map Json.arr).isSome = (true && allItems _ vs)
    rw [Option.isSome_map, Bool.true_and]
    exact isSome_strictItems? vs (built_tuple.mp h)
  | .dict es, h => by
    show ((strictEntries? es).map Json.obj).isSome = (true && allEntries _ es)
    rw [Option.isSome_map, Bool.true_and]
    exact isSome_strictEntries? es h.entries.2
  | .matcher _, _ => rfl

theorem isSome_strictItems? : ∀ vs : List Value, (∀ v ∈ vs, Built double v) →
    (strictItems? vs).isSome = allItems (fun w => !w.isMatcher) vs
  | [], _ => rfl
  | v :: vs, h => by
    obtain ⟨hv, hvs⟩ := List.forall_mem_cons.mp h
    rw [allItems, show v.all _ = v.matcherFree from rfl, ← isSome_strict? v hv,
      ← isSome_strictItems? vs hvs, strictItems?]
    cases v.strict? <;> cases strictItems? vs <;> rfl

theorem isSome_strictEntries? : ∀ es : List (Key × Value),
    (∀ e ∈ es, (∃ s, e.1 = .str s) ∧ Built double e.2) →
    (strictEntries? es).isSome = allEntries (fun w => !w.isMatcher) es
  | [], _ => rfl
  | (k, v) :: es, h => by
    obtain ⟨⟨⟨s, hk⟩, hv⟩, hes⟩ := List.forall_mem_cons.mp h
    obtain rfl : k = .str s := hk
    rw [allEntries, show v.all _ = v.matcherFree from rfl, ← isSome_strict? v hv,
      ← isSome_strictEntries? es hes, strictEntries?, Key.strict?]
    cases v.strict? <;> cases strictEntries? es <;> rfl

end

theorem exists_of_strictItems?_cons {v : Value} {vs : List Value} {js : List Json}
    (h : strictItems? (v :: vs) = some js) :
    ∃ j rest, v.strict? = some j ∧ strictItems? vs = some rest ∧ js = j :: rest := by
  rw [strictItems?] at h
  split at h
  · rename_i j rest hv hvs
    exact ⟨j, rest, hv, hvs, (Option.some.inj h).symm⟩
  · cases h

theorem exists_of_strictEntries?_cons {s : String} {v : Value} {es : List (Key × Value)}
    {fs : List (String × Json)} (h : strictEntries? ((.str s, v) :: es) = some fs) :
    ∃ j rest, v.strict? = some j ∧ strictEntries? es = some rest ∧ fs = (s, j) :: rest := by
  rw [strictEntries?, Key.strict?] at h
  split at h
  · rename_i s' j rest hs hv hes
    obtain rfl : s = s' := Option.some.inj hs
    exact ⟨j, rest, hv, hes, (Option.some.inj h).symm⟩
  · cases h

mutual

theorem finite_of_strict? : ∀ (v : Value) {j : Json}, Built Double.isFinite v →
    v.strict? = some j → j.Finite
  | .null, _, _, rfl => trivial
  | .bool _, _, _, rfl => trivial
  | .int _, _, _, rfl => trivial
  | .double _, _, h, rfl => h
  | .str _, _, _, rfl => trivial
  | .list vs, _, h, hj => by
    obtain ⟨js, hjs, rfl⟩ := Option.map_eq_some_iff.mp hj
    exact finite_of_strictItems? vs (built_list.mp h) hjs
  | .tuple vs, _, h, hj => by
    obtain ⟨js, hjs, rfl⟩ := Option.map_eq_some_iff.mp hj
    exact finite_of_strictItems? vs (built_tuple.mp h) hjs
  | .dict es, _, h, hj => by
    obtain ⟨fs, hfs, rfl⟩ := Option.map_eq_some_iff.mp hj
    exact finite_of_strictEntries? es h.entries.2 hfs

theorem finite_of_strictItems? : ∀ (vs : List Value) {js : List Json},
    (∀ v ∈ vs, Built Double.isFinite v) → strictItems? vs = some js → Json.FiniteItems js
  | [], _, _, rfl => trivial
  | v :: vs, _, h, hjs => by
    obtain ⟨hv, hvs⟩ := List.forall_mem_cons.mp h
    obtain ⟨j, rest, hj, hrest, rfl⟩ := exists_of_strictItems?_cons hjs
    exact ⟨finite_of_strict? v hv hj, finite_of_strictItems? vs hvs hrest⟩

theorem finite_of_strictEntries? : ∀ (es : List (Key × Value)) {fs : List (String × Json)},
    (∀ e ∈ es, (∃ s, e.1 = .str s) ∧ Built Double.isFinite e.2) → strictEntries? es = some fs →
    Json.FiniteFields fs
  | [], _, _, rfl => trivial
  | (k, v) :: es, _, h, hfs => by
    obtain ⟨⟨⟨s, hk⟩, hv⟩, hes⟩ := List.forall_mem_cons.mp h
    obtain rfl : k = .str s := hk
    obtain ⟨j, rest, hj, hrest, rfl⟩ := exists_of_strictEntries?_cons hfs
    exact ⟨finite_of_strict? v hv hj, finite_of_strictEntries? es hes hrest⟩

end

end Integration

/-! ## Bodies -/

/-- A value that is neither nothing nor a text is written as a document. -/
theorem canonicalBody_eq {v : Value} (hnull : v ≠ .null) (htext : ∀ s, v ≠ .str s) :
    v.canonicalBody = match v.toIntegration.strict? with
      | none => .error .notDocument
      | some j =>
        if j.integersWithin Json.integerDigitLimit then .ok (some (j.text .compact))
        else .error .integerTooLong := by
  cases v with
  | null => exact absurd rfl hnull
  | str s => exact absurd rfl (htext s)
  | _ => rfl

/-- **When a value has a body**: its integration form is a document, and the
integers in it have texts. -/
theorem exists_canonicalBody_iff {v : Value} : (∃ body, v.canonicalBody = .ok body)
    ↔ ∃ j, v.toIntegration.strict? = some j
      ∧ j.integersWithin Json.integerDigitLimit = true := by
  by_cases hnull : v = .null
  · subst hnull
    exact ⟨fun _ => ⟨.null, rfl, rfl⟩, fun _ => ⟨none, rfl⟩⟩
  by_cases htext : ∃ s, v = .str s
  · obtain ⟨s, rfl⟩ := htext
    exact ⟨fun _ => ⟨.str s, rfl, rfl⟩, fun _ => ⟨some s, rfl⟩⟩
  rw [canonicalBody_eq hnull (not_exists.mp htext)]
  cases v.toIntegration.strict? with
  | none => simp
  | some j =>
    by_cases hj : j.integersWithin Json.integerDigitLimit = true
    · simp [hj]
    · simp [hj]

/-- **What a body says**: it is the text that the value is, or the document of
the integration form. -/
theorem canonicalBody_eq_ok_some {v : Value} {t : String} (h : v.canonicalBody = .ok (some t)) :
    v = .str t ∨ v ≠ .null ∧ ∃ j, v.toIntegration.strict? = some j
      ∧ j.integersWithin Json.integerDigitLimit = true ∧ t = j.text .compact := by
  by_cases hnull : v = .null
  · subst hnull
    cases h
  by_cases htext : ∃ s, v = .str s
  · obtain ⟨s, rfl⟩ := htext
    cases h
    exact .inl rfl
  rw [canonicalBody_eq hnull (not_exists.mp htext)] at h
  refine .inr ⟨hnull, ?_⟩
  cases hj : v.toIntegration.strict? with
  | none =>
    rw [hj] at h
    cases h
  | some j =>
    rw [hj] at h
    dsimp only at h
    split at h
    · rename_i hintegers
      exact ⟨j, rfl, hintegers, (Option.some.inj (Except.ok.inj h)).symm⟩
    · cases h

/-- Only nothing has no body. -/
theorem canonicalBody_eq_ok_none {v : Value} : v.canonicalBody = .ok none ↔ v = .null := by
  refine ⟨fun h => Classical.byContradiction fun hnull => ?_, fun h => h ▸ rfl⟩
  by_cases htext : ∃ s, v = .str s
  · obtain ⟨s, rfl⟩ := htext
    cases h
  rw [canonicalBody_eq hnull (not_exists.mp htext)] at h
  split at h
  · cases h
  · split at h <;> cases h

/-- **What the integration form of a built value is free of, and what its body
is.** Matchers are left in the integration form just by the attributes that it
takes over, and making it once more changes nothing just if no tuple is left by
them either. Where no matcher is left the value has a body, unless an integer in
it has no text; where one is left it has none. A body is nothing for nothing, a
text for the text, and for any other value a JSON text: it is read as the
document of the integration form, with the doubles that their texts stand for. -/
theorem integration_of_built {v : Value} (h : v.Built Double.isFinite) :
    v.toIntegration.matcherFree = v.attributesAll matcherFree
      ∧ (v.toIntegration.toIntegration = v.toIntegration ↔ v.attributesAll isSettled = true)
      ∧ ((∃ body, v.canonicalBody = .ok body) ↔ v.attributesAll matcherFree = true
        ∧ ∀ j, v.toIntegration.strict? = some j → j.integersWithin Json.integerDigitLimit = true)
      ∧ (v.canonicalBody = .ok none ↔ v = .null)
      ∧ ∀ t, v.canonicalBody = .ok (some t) → v = .str t
        ∨ ∃ j, v.toIntegration.strict? = some j ∧ t = j.text .compact
          ∧ ∀ limit, j.depth ≤ limit →
            Json.readRawChars? limit t.toList = some (j.asRead .document) := by
  have hbuilt := built_toIntegration v h
  have hfree : v.toIntegration.matcherFree = v.attributesAll matcherFree :=
    all_toIntegration (fun w hmatcher _ => by simp [hmatcher]) v h
  have hsettled : v.toIntegration.isSettled = v.attributesAll isSettled :=
    all_toIntegration (fun w hmatcher htuple => by simp [hmatcher, htuple]) v h
  refine ⟨hfree, ?_, ?_, canonicalBody_eq_ok_none, fun t ht => ?_⟩
  · rw [toIntegration_eq_self_iff, hsettled]
  · rw [exists_canonicalBody_iff, ← hfree, ← isSome_strict? _ hbuilt]
    cases v.toIntegration.strict? <;> simp
  · obtain htext | ⟨-, j, hj, hintegers, rfl⟩ := canonicalBody_eq_ok_some ht
    · exact .inl htext
    refine .inr ⟨j, hj, rfl, fun limit hlimit => ?_⟩
    exact Json.readRawChars?_text_compact (finite_of_strict? _ hbuilt hj) hintegers hlimit

/-- A dictionary with matchers in a tuple and in an example, and a setting that
is a list. -/
def menu : Value :=
  .record [("dishes", .tuple [.matcher ⟨"type", .list [.matcher ⟨"decimal",
      .double (.ofRatio false 5 2), [], none⟩], [("tags", .list [.str "hot", .null])],
      some "Uuid"⟩]),
    ("open", .bool true)]

/-- It is written without matchers, making its integration form again changes
nothing, and it has a body. -/
theorem integration_of_built_menu :
    menu.Built Double.isFinite ∧ menu.toIntegration.matcherFree = true
      ∧ menu.toIntegration.toIntegration = menu.toIntegration
      ∧ (∃ body, menu.canonicalBody = .ok body)
      ∧ ∀ t, menu.canonicalBody = .ok (some t) → ∃ j, Json.readRawChars? 200 t.toList = some j := by
  have hbuilt : menu.Built Double.isFinite := by decide +kernel
  obtain ⟨hfree, honce, hbody, -, htext⟩ := integration_of_built hbuilt
  refine ⟨hbuilt, hfree.trans (by decide +kernel), honce.mpr (by decide +kernel),
    hbody.mpr ⟨by decide +kernel, fun j hj => ?_⟩, fun t ht => ?_⟩
  · cases hj
    decide +kernel
  · obtain hself | ⟨j, hj, -, hread⟩ := htext t ht
    · cases hself
    · cases hj
      exact ⟨_, hread 200 (by decide +kernel)⟩

/-- A matcher whose setting is a matcher. -/
def nestedSetting : Value :=
  .matcher ⟨"type", .int 1, [("x", .matcher ⟨"integer", .int 2, [], none⟩)], none⟩

/-- **A matcher that is left.** It stands in an attribute, so the integration
form still holds it, is not its own integration form, and has no text. -/
theorem matcher_left :
    nestedSetting.Built Double.isFinite ∧ nestedSetting.toIntegration.matcherFree = false
      ∧ nestedSetting.toIntegration.toIntegration ≠ nestedSetting.toIntegration
      ∧ nestedSetting.canonicalBody = .error .notDocument := by
  refine ⟨by decide +kernel, by decide +kernel, ?_, rfl⟩
  rw [ne_eq, toIntegration_eq_self_iff]
  decide +kernel

end Value

end Covenant
