import Covenant.Proofs.Value.Integration

/-!
# The example value

The example value puts the example of every matcher in its place, and a list in
place of every tuple. A matcher's example may itself be a matcher, or hold some,
so the recursion goes on where the matcher was.

* Nothing is left to be replaced (`Value.isSettled_reify`), so doing it twice is
  doing it once, and a value stays as it is just if there was nothing to replace
  (`Value.reify_eq_self_iff`).
* Of a matcher only the example is read: `Value.bare` takes everything else away
  from all matchers, and the example value is the same (`Value.reify_bare`).
* Everything else stays where it is. Places in a value are lists of numbers
  (`Value.at?`), and matchers take up none, since a collection is looked for under
  them. What is at a place of the example value is the example value of what is at
  that place (`Value.at?_reify`), a collection of the same shape.
-/

namespace Covenant

namespace Value

/-! ## Nothing is left to be replaced -/

mutual

/-- **Neither a matcher nor a tuple is left.** -/
theorem isSettled_reify : ∀ v : Value, v.reify.isSettled = true
  | .null => rfl
  | .bool _ => rfl
  | .int _ => rfl
  | .double _ => rfl
  | .str _ => rfl
  | .bytes _ => rfl
  | .list vs => allItems_reifyItems vs
  | .tuple vs => allItems_reifyItems vs
  | .dict es => allEntries_reifyEntries es
  | .matcher ⟨_, v, _, _⟩ => isSettled_reify v

theorem allItems_reifyItems :
    ∀ vs : List Value, allItems (fun w => !w.isMatcher && !w.isTuple) (reifyItems vs) = true
  | [] => rfl
  | v :: vs => Bool.and_eq_true_iff.mpr ⟨isSettled_reify v, allItems_reifyItems vs⟩

theorem allEntries_reifyEntries : ∀ es : List (Key × Value),
    allEntries (fun w => !w.isMatcher && !w.isTuple) (reifyEntries es) = true
  | [] => rfl
  | (_, v) :: es => Bool.and_eq_true_iff.mpr ⟨isSettled_reify v, allEntries_reifyEntries es⟩

end

mutual

/-- **Where there is nothing to replace, nothing changes.** -/
theorem reify_of_isSettled : ∀ v : Value, v.isSettled = true → v.reify = v
  | .null, _ => rfl
  | .bool _, _ => rfl
  | .int _, _ => rfl
  | .double _, _ => rfl
  | .str _, _ => rfl
  | .bytes _, _ => rfl
  | .list vs, h => congrArg Value.list (reifyItems_of_allItems vs h)
  | .tuple _, h => nomatch h
  | .dict es, h => congrArg Value.dict (reifyEntries_of_allEntries es h)
  | .matcher _, h => nomatch h

theorem reifyItems_of_allItems : ∀ vs : List Value,
    allItems (fun w => !w.isMatcher && !w.isTuple) vs = true → reifyItems vs = vs
  | [], _ => rfl
  | v :: vs, h => by
    obtain ⟨hv, hvs⟩ := Bool.and_eq_true_iff.mp h
    rw [reifyItems, reify_of_isSettled v hv, reifyItems_of_allItems vs hvs]

theorem reifyEntries_of_allEntries : ∀ es : List (Key × Value),
    allEntries (fun w => !w.isMatcher && !w.isTuple) es = true → reifyEntries es = es
  | [], _ => rfl
  | (k, v) :: es, h => by
    obtain ⟨hv, hes⟩ := Bool.and_eq_true_iff.mp h
    rw [reifyEntries, reify_of_isSettled v hv, reifyEntries_of_allEntries es hes]

end

/-- **A value is its own example value** just if neither a matcher nor a tuple is
in it. -/
theorem reify_eq_self_iff (v : Value) : v.reify = v ↔ v.isSettled = true :=
  ⟨fun h => h ▸ isSettled_reify v, reify_of_isSettled v⟩

/-- The example value is its own example value. -/
theorem reify_reify (v : Value) : v.reify.reify = v.reify :=
  reify_of_isSettled _ (isSettled_reify v)

/-! ## Only examples are read -/

mutual

/-- **A value with bare matchers**: of every matcher that is met on the way to an
example, only the example is kept. -/
def bare : Value → Value
  | .matcher ⟨_, v, _, _⟩ => .matcher (.like (bare v))
  | .dict es => .dict (bareEntries es)
  | .list vs => .list (bareItems vs)
  | .tuple vs => .tuple (bareItems vs)
  | v => v

/-- Every item with bare matchers. -/
def bareItems : List Value → List Value
  | [] => []
  | v :: vs => bare v :: bareItems vs

/-- Every entry with bare matchers. -/
def bareEntries : List (Key × Value) → List (Key × Value)
  | [] => []
  | (k, v) :: es => (k, bare v) :: bareEntries es

end

mutual

/-- **The rest of a matcher does not matter.** -/
theorem reify_bare : ∀ v : Value, v.bare.reify = v.reify
  | .null => rfl
  | .bool _ => rfl
  | .int _ => rfl
  | .double _ => rfl
  | .str _ => rfl
  | .bytes _ => rfl
  | .list vs => congrArg Value.list (reifyItems_bareItems vs)
  | .tuple vs => congrArg Value.list (reifyItems_bareItems vs)
  | .dict es => congrArg Value.dict (reifyEntries_bareEntries es)
  | .matcher ⟨_, v, _, _⟩ => reify_bare v

theorem reifyItems_bareItems : ∀ vs : List Value, reifyItems (bareItems vs) = reifyItems vs
  | [] => rfl
  | v :: vs => by rw [bareItems, reifyItems, reify_bare v, reifyItems_bareItems vs, reifyItems]

theorem reifyEntries_bareEntries :
    ∀ es : List (Key × Value), reifyEntries (bareEntries es) = reifyEntries es
  | [] => rfl
  | (k, v) :: es => by
    rw [bareEntries, reifyEntries, reify_bare v, reifyEntries_bareEntries es, reifyEntries]

end

/-! ## Everything else stays in its place -/

/-- What a value is under the matchers around it. -/
def uncovered : Value → Value
  | .matcher ⟨_, v, _, _⟩ => uncovered v
  | v => v

/-- The values that a collection holds, in order. -/
def held : Value → List Value
  | .list vs => vs
  | .tuple vs => vs
  | .dict es => es.map Prod.snd
  | _ => []

/-- **What is at a place of a value**: on every level of the nesting, the place
says the how manieth of the values that are held there. Matchers are no level. -/
def at? (v : Value) : List Nat → Option Value
  | [] => some v.uncovered
  | i :: place => v.uncovered.held[i]?.bind (at? · place)

/-- The keys of a dictionary, in order, or the places of a list. -/
def shape : Value → Option (List Key ⊕ Nat)
  | .dict es => some (.inl (es.map Prod.fst))
  | .list vs => some (.inr vs.length)
  | .tuple vs => some (.inr vs.length)
  | _ => none

theorem reifyItems_eq_map (vs : List Value) : reifyItems vs = vs.map reify := by
  induction vs with
  | nil => rfl
  | cons v vs ih => rw [reifyItems, ih, List.map_cons]

theorem reifyEntries_eq_map (es : List (Key × Value)) :
    reifyEntries es = es.map fun e => (e.1, e.2.reify) := by
  induction es with
  | nil => rfl
  | cons e es ih => rw [reifyEntries, ih, List.map_cons]

/-- Matchers around a value do not matter for its example value. -/
theorem reify_uncovered : ∀ v : Value, v.uncovered.reify = v.reify
  | .matcher ⟨_, v, _, _⟩ => reify_uncovered v
  | .null | .bool _ | .int _ | .double _ | .str _ | .bytes _ | .list _ | .tuple _ | .dict _ => rfl

theorem uncovered_reify : ∀ v : Value, v.reify.uncovered = v.reify
  | .matcher ⟨_, v, _, _⟩ => uncovered_reify v
  | .null | .bool _ | .int _ | .double _ | .str _ | .bytes _ | .list _ | .tuple _ | .dict _ => rfl

theorem isMatcher_uncovered : ∀ v : Value, v.uncovered.isMatcher = false
  | .matcher ⟨_, v, _, _⟩ => isMatcher_uncovered v
  | .null | .bool _ | .int _ | .double _ | .str _ | .bytes _ | .list _ | .tuple _ | .dict _ => rfl

/-- What the example value holds is the example values of what the value holds. -/
theorem held_reify : ∀ v : Value, v.isMatcher = false → v.reify.held = v.held.map reify
  | .list vs, _ => reifyItems_eq_map vs
  | .tuple vs, _ => reifyItems_eq_map vs
  | .dict es, _ => by
    rw [reify, held, held, reifyEntries_eq_map, List.map_map, List.map_map]
    rfl
  | .null, _ | .bool _, _ | .int _, _ | .double _, _ | .str _, _ | .bytes _, _ => rfl

/-- The example value has the shape of the value. -/
theorem shape_reify : ∀ v : Value, v.isMatcher = false → v.reify.shape = v.shape
  | .list vs, _ => by rw [reify, shape, shape, reifyItems_eq_map, List.length_map]
  | .tuple vs, _ => by rw [reify, shape, shape, reifyItems_eq_map, List.length_map]
  | .dict es, _ => by
    rw [reify, shape, shape, reifyEntries_eq_map, List.map_map]
    rfl
  | .null, _ | .bool _, _ | .int _, _ | .double _, _ | .str _, _ | .bytes _, _ => rfl

/-- **Values stay in their places.** -/
theorem at?_reify (v : Value) (place : List Nat) :
    v.reify.at? place = (v.at? place).map reify := by
  induction place generalizing v with
  | nil => rw [at?, at?, uncovered_reify, Option.map_some, reify_uncovered]
  | cons i place ih =>
    have hheld : v.reify.uncovered.held = v.uncovered.held.map reify := by
      rw [uncovered_reify, ← reify_uncovered]
      exact held_reify _ (isMatcher_uncovered v)
    rw [at?, at?, hheld, List.getElem?_map]
    cases v.uncovered.held[i]? with
    | none => rfl
    | some w => exact ih w

theorem isMatcher_at? {v w : Value} {place : List Nat} (h : v.at? place = some w) :
    w.isMatcher = false := by
  induction place generalizing v with
  | nil =>
    obtain rfl := Option.some.inj h
    exact isMatcher_uncovered v
  | cons i place ih =>
    obtain ⟨u, -, hu⟩ := Option.bind_eq_some_iff.mp h
    exact ih hu

/-- **Shapes stay**: at every place the keys, their order, and the lengths are what
they were. -/
theorem shape_at?_reify (v : Value) (place : List Nat) :
    (v.reify.at? place).map shape = (v.at? place).map shape := by
  rw [at?_reify]
  cases h : v.at? place with
  | none => rfl
  | some w => exact congrArg some (shape_reify w (isMatcher_at? h))

end Value

end Covenant
