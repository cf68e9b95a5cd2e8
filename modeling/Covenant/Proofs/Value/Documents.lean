import Covenant.Proofs.Json.Reading
import Covenant.Validation.Model

/-!
# Values that are documents

A document can be taken for a value (`Value.ofJson`). On such values all ways
to a document agree: read strictly it is the document it was
(`Value.strict?_ofJson`), made plain it is that as well, as long as its levels
do not run out (`Value.plainWithin_ofJson`), and laid open it stays as it is
(`Value.unwrapMatchers_ofJson`). A value that was taken from a document without
doubles and repeated keys is an exact one (`Value.Exact`).
-/

namespace Covenant

namespace Value

/-! ## Depth -/

mutual

/-- **How deep a value is nested**: something without parts has depth zero, and
so has an empty collection. -/
def depth : Value → Nat
  | .list vs => depthItems vs
  | .tuple vs => depthItems vs
  | .dict es => depthEntries es
  | .matcher ⟨_, v, attributes, _⟩ => max (depth v + 1) (depthAttributes attributes)
  | _ => 0

/-- One more than the deepest item, and zero for no items. -/
def depthItems : List Value → Nat
  | [] => 0
  | v :: vs => max (depth v + 1) (depthItems vs)

/-- One more than the deepest entry, and zero for no entries. -/
def depthEntries : List (Key × Value) → Nat
  | [] => 0
  | (_, v) :: es => max (depth v + 1) (depthEntries es)

/-- One more than the deepest attribute, and zero for no attributes. -/
def depthAttributes : List (String × Value) → Nat
  | [] => 0
  | (_, v) :: es => max (depth v + 1) (depthAttributes es)

end

mutual

/-- **A document is nested as deep as a value** as it is as a document. -/
theorem depth_ofJson : ∀ j : Json, (ofJson j).depth = j.depth
  | .null => rfl
  | .bool _ => rfl
  | .int _ => rfl
  | .double _ => rfl
  | .str _ => rfl
  | .arr js => depthItems_ofJsonItems js
  | .obj fs => depthEntries_ofJsonFields fs

theorem depthItems_ofJsonItems : ∀ js : List Json, depthItems (ofJsonItems js) = Json.depthItems js
  | [] => rfl
  | j :: js => by
    rw [ofJsonItems, depthItems, depth_ofJson j, depthItems_ofJsonItems js, Json.depthItems]

theorem depthEntries_ofJsonFields :
    ∀ fs : List (String × Json), depthEntries (ofJsonFields fs) = Json.depthFields fs
  | [] => rfl
  | (k, j) :: fs => by
    rw [ofJsonFields, depthEntries, depth_ofJson j, depthEntries_ofJsonFields fs, Json.depthFields]

end

theorem depth_record_le_iff {fs : List (String × Value)} {n : Nat} :
    (record fs).depth ≤ n ↔ ∀ f ∈ fs, f.2.depth + 1 ≤ n := by
  show depthEntries (fs.map fun f => (Key.str f.1, f.2)) ≤ n ↔ _
  induction fs with
  | nil => simp [depthEntries]
  | cons f fs ih =>
    obtain ⟨k, v⟩ := f
    rw [List.map_cons, depthEntries, Nat.max_le, ih, List.forall_mem_cons]

/-! ## The document again -/

mutual

/-- **A document, as a value, is that document.** -/
theorem strict?_ofJson : ∀ j : Json, (ofJson j).strict? = some j
  | .null => rfl
  | .bool _ => rfl
  | .int _ => rfl
  | .double _ => rfl
  | .str _ => rfl
  | .arr js => by
    show (strictItems? (ofJsonItems js)).map Json.arr = some (.arr js)
    rw [strictItems?_ofJsonItems js]
    rfl
  | .obj fs => by
    show (strictEntries? (ofJsonFields fs)).map Json.obj = some (.obj fs)
    rw [strictEntries?_ofJsonFields fs]
    rfl

theorem strictItems?_ofJsonItems : ∀ js : List Json, strictItems? (ofJsonItems js) = some js
  | [] => rfl
  | j :: js => by
    rw [ofJsonItems, strictItems?, strict?_ofJson j, strictItems?_ofJsonItems js]

theorem strictEntries?_ofJsonFields :
    ∀ fs : List (String × Json), strictEntries? (ofJsonFields fs) = some fs
  | [] => rfl
  | (k, j) :: fs => by
    rw [ofJsonFields, strictEntries?, strict?_ofJson j, strictEntries?_ofJsonFields fs]
    rfl

end

theorem strictEntries?_cons {k : String} {v : Value} {j : Json} {es : List (Key × Value)}
    {fs : List (String × Json)} (hv : v.strict? = some j) (hes : strictEntries? es = some fs) :
    strictEntries? ((.str k, v) :: es) = some ((k, j) :: fs) := by
  rw [strictEntries?, hv, hes]
  rfl

/-- Where there are levels left, something without parts is made as it is. -/
theorem plainLeaf_of_pos {room : Nat} (h : 0 < room) (made : Except Unwritable Json) :
    plainLeaf room made = made := by
  cases room with
  | zero => exact absurd h (Nat.lt_irrefl 0)
  | succ n => rfl

mutual

/-- **The document made of an exact document is that document**, if its levels
fit. -/
theorem plainWithin_ofJson : ∀ (j : Json) {room : Nat}, j.Exact → j.depth < room →
    plainWithin room (ofJson j) = .ok j
  | .null, _, _, h => plainLeaf_of_pos h _
  | .bool _, _, _, h => plainLeaf_of_pos h _
  | .int _, _, _, h => plainLeaf_of_pos h _
  -- a double that is not finite would have become nothing
  | .double _, _, hexact, _ => hexact.elim
  | .str _, _, _, h => plainLeaf_of_pos h _
  | .arr js, room, hexact, h => by
    have hdepth : Json.depthItems js < room := h
    show plainLeaf room ((plainItems (room - 1) (ofJsonItems js)).map .arr) = .ok (.arr js)
    rw [plainLeaf_of_pos (by omega), plainItems_ofJsonItems js hexact (by omega)]
    rfl
  | .obj fs, room, hexact, h => by
    have hdepth : Json.depthFields fs < room := h
    show plainLeaf room ((plainEntries (room - 1) (ofJsonFields fs)).map .obj) = .ok (.obj fs)
    rw [plainLeaf_of_pos (by omega), plainEntries_ofJsonFields fs hexact.2 (by omega)]
    rfl

theorem plainItems_ofJsonItems : ∀ (js : List Json) {room : Nat}, Json.ExactItems js →
    Json.depthItems js ≤ room → plainItems room (ofJsonItems js) = .ok js
  | [], _, _, _ => rfl
  | j :: js, room, hexact, h => by
    obtain ⟨hj, hjs⟩ := Nat.max_le.mp h
    rw [ofJsonItems, plainItems, plainWithin_ofJson j hexact.1 hj]
    dsimp only
    rw [plainItems_ofJsonItems js hexact.2 hjs]
    rfl

theorem plainEntries_ofJsonFields : ∀ (fs : List (String × Json)) {room : Nat},
    Json.ExactFields fs → Json.depthFields fs ≤ room → plainEntries room (ofJsonFields fs) = .ok fs
  | [], _, _, _ => rfl
  | (k, j) :: fs, room, hexact, h => by
    obtain ⟨hj, hfs⟩ := Nat.max_le.mp h
    rw [ofJsonFields, plainEntries, Key.plain]
    dsimp only
    rw [plainWithin_ofJson j hexact.1 hj]
    dsimp only
    rw [plainEntries_ofJsonFields fs hexact.2 hfs]
    rfl

end

theorem plainAttributes_ofJson {fs : List (String × Json)} {room : Nat} (hexact : Json.ExactFields fs)
    (hdepth : ∀ f ∈ fs, f.2.depth < room) :
    plainAttributes room (fs.map fun f => (f.1, .ofJson f.2)) = fs.map fun f => (f.1, .ok f.2) := by
  induction fs with
  | nil => rfl
  | cons f fs ih =>
    obtain ⟨hf, hfs⟩ := List.forall_mem_cons.mp hdepth
    rw [List.map_cons, plainAttributes, plainWithin_ofJson _ hexact.1 hf, ih hexact.2 hfs]
    rfl

mutual

/-- **A document holds no matcher**, and laid open it stays as it is. -/
theorem unwrapMatchers_ofJson (inside : Bool) :
    ∀ j : Json, unwrapMatchers inside (ofJson j) = ofJson j
  | .null => rfl
  | .bool _ => rfl
  | .int _ => rfl
  | .double _ => rfl
  | .str _ => rfl
  | .arr js => congrArg Value.list (unwrapItems_ofJsonItems inside js)
  | .obj fs => congrArg Value.dict (unwrapEntries_ofJsonFields inside fs)

theorem unwrapItems_ofJsonItems (inside : Bool) :
    ∀ js : List Json, unwrapItems inside (ofJsonItems js) = ofJsonItems js
  | [] => rfl
  | j :: js => by
    rw [ofJsonItems, unwrapItems, unwrapMatchers_ofJson inside j, unwrapItems_ofJsonItems inside js]

theorem unwrapEntries_ofJsonFields (inside : Bool) :
    ∀ fs : List (String × Json), unwrapEntries inside (ofJsonFields fs) = ofJsonFields fs
  | [] => rfl
  | (k, j) :: fs => by
    rw [ofJsonFields, unwrapEntries, unwrapMatchers_ofJson inside j,
      unwrapEntries_ofJsonFields inside fs]

end

theorem unwrapAttributes_ofJson (fs : List (String × Json)) :
    unwrapAttributes (fs.map fun f => (f.1, .ofJson f.2)) = fs.map fun f => (f.1, .ofJson f.2) := by
  induction fs with
  | nil => rfl
  | cons f fs ih => rw [List.map_cons, unwrapAttributes, ih, unwrapMatchers_ofJson]

/-! ## Exact values -/

/-- **An exact value** is an exact document: no matcher, no tuple, no string of
bytes, no double and no key but a text is in it. -/
def Exact (v : Value) : Prop := ∃ j : Json, j.Exact ∧ v = .ofJson j

theorem ofJsonFields_eq_map (fs : List (String × Json)) :
    ofJsonFields fs = fs.map fun f => (Key.str f.1, ofJson f.2) := by
  induction fs with
  | nil => rfl
  | cons f fs ih => exact congrArg ((Key.str f.1, ofJson f.2) :: ·) ih

/-- A record of documents is the document of the record. -/
theorem record_map_ofJson (fs : List (String × Json)) :
    record (fs.map fun f => (f.1, ofJson f.2)) = .ofJson (.obj fs) := by
  show dict ((fs.map fun f => (f.1, ofJson f.2)).map fun f => (Key.str f.1, f.2))
    = .dict (ofJsonFields fs)
  rw [List.map_map, ofJsonFields_eq_map]
  rfl

theorem exists_fields_of_exact {es : List (String × Value)} (h : ∀ e ∈ es, e.2.Exact) :
    ∃ fs : List (String × Json), Json.ExactFields fs
      ∧ es = fs.map fun f => (f.1, ofJson f.2) := by
  induction es with
  | nil => exact ⟨[], trivial, rfl⟩
  | cons e es ih =>
    obtain ⟨k, v⟩ := e
    obtain ⟨⟨j, hexact, hv⟩, hes⟩ := List.forall_mem_cons.mp h
    obtain rfl : v = .ofJson j := hv
    obtain ⟨fs, hexacts, rfl⟩ := ih hes
    exact ⟨(k, j) :: fs, ⟨hexact, hexacts⟩, rfl⟩

end Value

end Covenant
