import Covenant.Proofs.Matcher

/-!
# The parts of a value

What is said of a value and of everything inside it is said with a test
(`Value.all`): items, entries, and of a matcher both the example and the
attributes are parts. The two notions made of it here are what a caller builds
(`Value.Built`: finite data under texts, with matchers and tuples anywhere), and
what the integration form is meant to be (`Value.matcherFree`, and
`Value.isSettled` where there are no tuples either).

The integration form reaches less than all parts: it goes through collections
and examples, and takes attributes over as they are. `Value.attributesAll` tests
just those attributes, and `Value.all_toIntegration` says that nothing else
matters for the integration form.
-/

namespace Covenant

namespace Value

/-! ## Tests on all parts -/

mutual

/-- **Whether a value and all of its parts pass a test.** -/
def all (p : Value → Bool) : Value → Bool
  | .list vs => p (.list vs) && allItems p vs
  | .tuple vs => p (.tuple vs) && allItems p vs
  | .dict es => p (.dict es) && allEntries p es
  | .matcher ⟨type, v, attributes, generator⟩ =>
    p (.matcher ⟨type, v, attributes, generator⟩) && (all p v && allAttributes p attributes)
  | v => p v

/-- Whether every item passes with all of its parts. -/
def allItems (p : Value → Bool) : List Value → Bool
  | [] => true
  | v :: vs => all p v && allItems p vs

/-- Whether every entry passes with all of its parts. -/
def allEntries (p : Value → Bool) : List (Key × Value) → Bool
  | [] => true
  | (_, v) :: es => all p v && allEntries p es

/-- Whether every attribute passes with all of its parts. -/
def allAttributes (p : Value → Bool) : List (String × Value) → Bool
  | [] => true
  | (_, v) :: es => all p v && allAttributes p es

end

section All

variable {p : Value → Bool}

theorem allItems_eq_true {vs : List Value} :
    allItems p vs = true ↔ ∀ v ∈ vs, v.all p = true := by
  induction vs with
  | nil => simp [allItems]
  | cons v vs ih => simp [allItems, ih]

theorem allEntries_eq_true {es : List (Key × Value)} :
    allEntries p es = true ↔ ∀ e ∈ es, e.2.all p = true := by
  induction es with
  | nil => simp [allEntries]
  | cons e es ih =>
    obtain ⟨k, v⟩ := e
    rw [allEntries, Bool.and_eq_true, ih, List.forall_mem_cons]

theorem allAttributes_eq_true {es : List (String × Value)} :
    allAttributes p es = true ↔ ∀ e ∈ es, e.2.all p = true := by
  induction es with
  | nil => simp [allAttributes]
  | cons e es ih =>
    obtain ⟨k, v⟩ := e
    rw [allAttributes, Bool.and_eq_true, ih, List.forall_mem_cons]

theorem all_record {fs : List (String × Value)} :
    (record fs).all p = true ↔ p (record fs) = true ∧ ∀ f ∈ fs, f.2.all p = true := by
  show (p (record fs) && allEntries p (fs.map fun f => (Key.str f.1, f.2))) = true ↔ _
  rw [Bool.and_eq_true, allEntries_eq_true, List.forall_mem_map]

end All

/-! ## What a caller builds -/

/-- Whether a value is a matcher. -/
def isMatcher : Value → Bool
  | .matcher _ => true
  | _ => false

/-- Whether a value is a tuple. -/
def isTuple : Value → Bool
  | .tuple _ => true
  | _ => false

/-- What may stand as a part of a built value: no bytes, only doubles that pass
a test, and names of attributes and keys that are distinct, the keys being
texts. -/
def allowed (double : Double → Bool) : Value → Bool
  | .double d => double d
  | .bytes _ => false
  | .dict es => es.all (fun e => e.1.str?.isSome) && decide (es.map fun e => e.1.str?).Nodup
  | .matcher m => decide (m.attributes.map Prod.fst).Nodup
  | _ => true

/-- **A built value**: made of JSON values, tuples and matchers, with doubles
that pass a test. -/
def Built (double : Double → Bool) (v : Value) : Prop := v.all (allowed double) = true

instance (double : Double → Bool) (v : Value) : Decidable (Built double v) :=
  inferInstanceAs (Decidable (v.all (allowed double) = true))

section Built

variable {double : Double → Bool}

theorem built_list {vs : List Value} : Built double (.list vs) ↔ ∀ v ∈ vs, Built double v := by
  show (true && allItems (allowed double) vs) = true ↔ _
  rw [Bool.true_and, allItems_eq_true]
  rfl

theorem built_tuple {vs : List Value} : Built double (.tuple vs) ↔ ∀ v ∈ vs, Built double v :=
  built_list

/-- The keys of a built dictionary are distinct texts, and its values are built. -/
theorem Built.entries {es : List (Key × Value)} (h : Built double (.dict es)) :
    (es.map Prod.fst).Nodup ∧ ∀ e ∈ es, (∃ s, e.1 = .str s) ∧ Built double e.2 := by
  obtain ⟨hkeys, hvalues⟩ := Bool.and_eq_true_iff.mp h
  obtain ⟨htexts, hnodup⟩ := Bool.and_eq_true_iff.mp hkeys
  refine ⟨?_, fun e he => ⟨?_, allEntries_eq_true.mp hvalues e he⟩⟩
  · rw [decide_eq_true_eq, show (es.map fun e => e.1.str?) = (es.map Prod.fst).map Key.str? by
      rw [List.map_map]; rfl] at hnodup
    exact List.Pairwise.of_map Key.str? (fun _ _ hne heq => hne (congrArg Key.str? heq)) hnodup
  · have htext := List.all_eq_true.mp htexts e he
    cases hk : e.1 with
    | str s => exact ⟨s, rfl⟩
    | _ =>
      rw [hk] at htext
      cases htext

theorem Built.of_keys {es es' : List (Key × Value)} (h : Built double (.dict es))
    (hkeys : es'.map Prod.fst = es.map Prod.fst) (hes' : ∀ e ∈ es', Built double e.2) :
    Built double (.dict es') := by
  have hallowed : allowed double (.dict es') = allowed double (.dict es) := by
    have htexts : ∀ l : List (Key × Value), allowed double (.dict l)
        = ((l.map Prod.fst).all (fun k => k.str?.isSome)
          && decide ((l.map Prod.fst).map Key.str?).Nodup) := by
      intro l
      rw [List.all_map, List.map_map]
      rfl
    rw [htexts, htexts, hkeys]
  refine Bool.and_eq_true_iff.mpr ⟨?_, allEntries_eq_true.mpr hes'⟩
  rw [hallowed]
  exact (Bool.and_eq_true_iff.mp h).1

theorem built_record {fs : List (String × Value)} (hnames : (fs.map Prod.fst).Nodup)
    (hfs : ∀ f ∈ fs, Built double f.2) : Built double (record fs) := by
  refine all_record.mpr ⟨?_, hfs⟩
  show ((fs.map fun f => (Key.str f.1, f.2)).all (fun e => e.1.str?.isSome)
    && decide ((fs.map fun f => (Key.str f.1, f.2)).map fun e => e.1.str?).Nodup) = true
  rw [Bool.and_eq_true, decide_eq_true_eq, List.all_map, List.map_map]
  refine ⟨List.all_eq_true.mpr fun f _ => rfl, ?_⟩
  rw [show (fs.map ((fun e : Key × Value => e.1.str?) ∘ fun f => (Key.str f.1, f.2)))
    = (fs.map Prod.fst).map some by rw [List.map_map]; rfl]
  exact List.Pairwise.map some (fun _ _ hne heq => hne (Option.some.inj heq)) hnames

/-- A matcher is built of its example and its attributes. -/
theorem built_matcher {type : String} {v : Value} {attributes : List (String × Value)}
    {generator : Option String} : Built double (.matcher ⟨type, v, attributes, generator⟩)
    ↔ (attributes.map Prod.fst).Nodup ∧ Built double v ∧ ∀ a ∈ attributes, Built double a.2 := by
  show (decide (attributes.map Prod.fst).Nodup
    && (v.all (allowed double) && allAttributes (allowed double) attributes)) = true ↔ _
  rw [Bool.and_eq_true, Bool.and_eq_true, decide_eq_true_eq, allAttributes_eq_true]
  rfl

end Built

end Value

end Covenant
