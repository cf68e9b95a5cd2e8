import Covenant.Contract.Interaction
import Covenant.Proofs.Json.Compact
import Covenant.Proofs.Value.Integration
import Covenant.Proofs.Value.Regular

/-!
# Bodies and contents

A value reaches a contract as the body of a request or response, which is the
compact text of its integration form, or as the contents of a message, which are
the plain document made of it. The two ways share no step: one makes a value
without matchers and looks whether it is a document, the other makes a document
level by level, attributes of matchers included.

They agree where there is a body (`Value.plainWithin_of_strict?`): the plain
document is the one that the body is the text of, as long as it fits the levels
that documents may have. The induction is over the value; for a matcher the
fields on both ways are the two sides of one list of pairs, so that an attribute
is replaced on one way just where it is on the other
(`MatcherOf.integrationFields_mapParts`).
-/

namespace Covenant

namespace Value

/-! ## Values without doubles -/

/-- No double passes. -/
def noDouble : Double → Bool := fun _ => false

mutual

/-- A built value without doubles and matchers is regular. -/
theorem regular_of_built : ∀ v : Value, Built noDouble v → v.matcherFree = true → v.Regular
  | .null, _, _ => trivial
  | .bool _, _, _ => trivial
  | .int _, _, _ => trivial
  | .str _, _, _ => trivial
  | .list vs, h, hfree => regularItems_of_built vs (built_list.mp h) hfree
  | .tuple vs, h, hfree => regularItems_of_built vs (built_tuple.mp h) hfree
  | .dict es, h, hfree => ⟨h.entries.1, regularEntries_of_built es h.entries.2 hfree⟩

theorem regularItems_of_built : ∀ vs : List Value, (∀ v ∈ vs, Built noDouble v) →
    allItems (fun w => !w.isMatcher) vs = true → RegularItems vs
  | [], _, _ => trivial
  | v :: vs, h, hfree => by
    obtain ⟨hv, hvs⟩ := List.forall_mem_cons.mp h
    obtain ⟨hfirst, hrest⟩ := Bool.and_eq_true_iff.mp hfree
    exact ⟨regular_of_built v hv hfirst, regularItems_of_built vs hvs hrest⟩

theorem regularEntries_of_built : ∀ es : List (Key × Value),
    (∀ e ∈ es, (∃ s, e.1 = .str s) ∧ Built noDouble e.2) →
    allEntries (fun w => !w.isMatcher) es = true → RegularEntries es
  | [], _, _ => trivial
  | (k, v) :: es, h, hfree => by
    obtain ⟨⟨hk, hv⟩, hes⟩ := List.forall_mem_cons.mp h
    obtain ⟨hfirst, hrest⟩ := Bool.and_eq_true_iff.mp hfree
    exact ⟨hk, regular_of_built v hv hfirst, regularEntries_of_built es hes hrest⟩

end

mutual

/-- **The integration form of a document is the document.** -/
theorem strict?_toIntegration : ∀ (v : Value) {j : Json}, v.strict? = some j →
    (toIntegration v).strict? = some j
  | .null, _, h => h
  | .bool _, _, h => h
  | .int _, _, h => h
  | .double _, _, h => h
  | .str _, _, h => h
  | .list vs, _, h => by
    obtain ⟨js, hjs, rfl⟩ := Option.map_eq_some_iff.mp h
    exact congrArg (·.map Json.arr) (strictItems?_toIntegrationItems vs hjs)
  | .tuple vs, _, h => by
    obtain ⟨js, hjs, rfl⟩ := Option.map_eq_some_iff.mp h
    exact congrArg (·.map Json.arr) (strictItems?_toIntegrationItems vs hjs)
  | .dict es, _, h => by
    obtain ⟨fs, hfs, rfl⟩ := Option.map_eq_some_iff.mp h
    exact congrArg (·.map Json.obj) (strictEntries?_toIntegrationEntries es hfs)

theorem strictItems?_toIntegrationItems : ∀ (vs : List Value) {js : List Json},
    strictItems? vs = some js → strictItems? (toIntegrationItems vs) = some js
  | [], _, h => h
  | v :: vs, _, h => by
    obtain ⟨j, rest, hj, hrest, rfl⟩ := exists_of_strictItems?_cons h
    rw [toIntegrationItems, strictItems?, strict?_toIntegration v hj,
      strictItems?_toIntegrationItems vs hrest]

theorem strictEntries?_toIntegrationEntries : ∀ (es : List (Key × Value))
    {fs : List (String × Json)}, strictEntries? es = some fs →
    strictEntries? (toIntegrationEntries es) = some fs
  | [], _, h => h
  | (k, v) :: es, _, h => by
    rw [strictEntries?] at h
    split at h
    · rename_i s j rest hs hv hes
      rw [toIntegrationEntries, strictEntries?, hs, strict?_toIntegration v hv,
        strictEntries?_toIntegrationEntries es hes]
      exact h
    · cases h

end

/-! ## The plain document -/

/-- What is made where there are enough levels. -/
def madeWithin {α : Type} (room depth : Nat) (made : α) : Except Unwritable α :=
  if depth < room then .ok made else .error .tooDeep

/-- Something without parts takes one level. -/
theorem plainLeaf_eq_madeWithin (room : Nat) (j : Json) :
    plainLeaf room (.ok j) = madeWithin room 0 j := by
  cases room with
  | zero => rfl
  | succ n => exact (if_pos (Nat.succ_pos n)).symm

/-- A collection takes one level more than its parts. -/
theorem plainLeaf_map_madeWithin {α : Type} (f : α → Json) (room depth : Nat) (made : α) :
    plainLeaf room ((madeWithin (room - 1 + 1) depth made).map f)
      = madeWithin room depth (f made) := by
  cases room with
  | zero => rfl
  | succ n =>
    rw [Nat.add_sub_cancel]
    unfold madeWithin plainLeaf
    dsimp only
    split <;> rfl

theorem madeWithin_bind {α β : Type} (f : α → β) (room depth depths : Nat) (a : α) (bs : List β) :
    ((madeWithin room depth a).bind fun a => (madeWithin (room + 1) depths bs).map (f a :: ·))
      = madeWithin (room + 1) (max (depth + 1) depths) (f a :: bs) := by
  unfold madeWithin
  by_cases hfirst : depth < room
  · rw [if_pos hfirst]
    by_cases hrest : depths < room + 1
    · rw [if_pos hrest, if_pos (by omega)]
      rfl
    · rw [if_neg hrest, if_neg (by omega)]
      rfl
  · rw [if_neg hfirst, if_neg (show ¬ max (depth + 1) depths < room + 1 by omega)]
    rfl

/-- A part of a value beside what is made of it: where the one is a document, the
other is that document, if it fits. -/
def Agrees (room : Nat) (part : Value × Except Unwritable Json) : Prop :=
  ∀ j, part.1.strict? = some j → part.2 = madeWithin room j.depth j

/-- Fields that agree make the fields that their parts are. -/
theorem fieldsInOrder_of_agrees {room : Nat} {ps : List (String × Value × Except Unwritable Json)}
    {fs : List (String × Json)} (h : ∀ p ∈ ps, Agrees room p.2)
    (hfs : strictEntries? (ps.map fun p => (Key.str p.1, p.2.1)) = some fs) :
    fieldsInOrder (ps.map fun p => (p.1, p.2.2)) = madeWithin (room + 1) (Json.depthFields fs) fs := by
  induction ps generalizing fs with
  | nil =>
    cases hfs
    exact (if_pos (Nat.succ_pos room)).symm
  | cons p ps ih =>
    obtain ⟨hp, hps⟩ := List.forall_mem_cons.mp h
    obtain ⟨j, rest, hj, hrest, rfl⟩ := exists_of_strictEntries?_cons hfs
    obtain ⟨k, v, made⟩ := p
    obtain rfl : made = madeWithin room j.depth j := hp j hj
    refine Eq.trans ?_ (madeWithin_bind (fun j => (k, j)) room j.depth (Json.depthFields rest) j rest)
    rw [← ih hps hrest, List.map_cons]
    cases madeWithin room j.depth j <;> rfl

/-- A text in a matcher on both ways: as a value, and what is made of it. -/
def textBothWays (room : Nat) (s : String) : Value × Except Unwritable Json :=
  (.str s, plainLeaf room (.ok (.str s)))

/-- **The parts of a matcher on both ways**, side by side, so that one list has the
fields of both. -/
def partsBothWays (room : Nat) (m : Matcher) : MatcherOf (Value × Except Unwritable Json) :=
  ⟨m.type, (toIntegration m.value, plainWithin room m.value),
    m.attributes.map fun a => (a.1, a.2, plainWithin room a.2), m.generator⟩

theorem map_fst_partsBothWays (room : Nat) (m : Matcher) :
    ((MatcherOf.integrationFields (textBothWays room) (partsBothWays room m)).map
        fun p => (p.1, p.2.1))
      = MatcherOf.integrationFields .str
          ⟨m.type, toIntegration m.value, m.attributes, m.generator⟩ := by
  rw [← MatcherOf.integrationFields_mapParts (textBothWays room) Prod.fst (partsBothWays room m)]
  refine congrArg (MatcherOf.integrationFields Value.str) ?_
  unfold partsBothWays MatcherOf.mapParts
  rw [List.map_map]
  exact congrArg (MatcherOf.mk m.type (toIntegration m.value) · m.generator)
    (List.map_id m.attributes)

theorem map_snd_partsBothWays (room : Nat) (m : Matcher) :
    ((MatcherOf.integrationFields (textBothWays room) (partsBothWays room m)).map
        fun p => (p.1, p.2.2))
      = MatcherOf.integrationFields (fun s => plainLeaf room (.ok (.str s)))
          ⟨m.type, plainWithin room m.value, plainAttributes room m.attributes, m.generator⟩ := by
  rw [← MatcherOf.integrationFields_mapParts (textBothWays room) Prod.snd (partsBothWays room m)]
  refine congrArg (MatcherOf.integrationFields fun s => plainLeaf room (.ok (.str s))) ?_
  unfold partsBothWays MatcherOf.mapParts
  rw [List.map_map, plainAttributes_eq_map]
  rfl

/-- **A matcher agrees where its example and its attributes do.** An attribute that
gives way to the example is on neither way. -/
theorem plainWithin_matcher_of_agrees {room : Nat} {m : Matcher} {j : Json}
    (hnames : (m.attributes.map Prod.fst).Nodup)
    (hvalue : Agrees (room - 1) (toIntegration m.value, plainWithin (room - 1) m.value))
    (hattributes : ∀ a ∈ m.attributes, Agrees (room - 1) (a.2, plainWithin (room - 1) a.2))
    (hj : (toIntegration (.matcher m)).strict? = some j) :
    plainWithin room (.matcher m) = madeWithin room j.depth j := by
  obtain ⟨fs, hfs, rfl⟩ := Option.map_eq_some_iff.mp hj
  have hagree : ∀ e ∈ MatcherOf.integrationFields (textBothWays (room - 1))
      (partsBothWays (room - 1) m), Agrees (room - 1) e.2 := by
    refine (MatcherOf.forall_integrationFields _ _ ?_ ?_).mpr ⟨hvalue, ?_⟩
    · intro s j hj
      cases hj
      exact plainLeaf_eq_madeWithin (room - 1) (.str s)
    · unfold partsBothWays
      rwa [List.map_map]
    · intro a ha _
      obtain ⟨b, hb, rfl⟩ := List.mem_map.mp ha
      exact hattributes b hb
  have hstrict : strictEntries? ((MatcherOf.integrationFields (textBothWays (room - 1))
      (partsBothWays (room - 1) m)).map fun p => (Key.str p.1, p.2.1)) = some fs := by
    rw [← hfs]
    refine congrArg strictEntries? ?_
    rw [← map_fst_partsBothWays (room - 1) m, List.map_map]
    rfl
  have hmade := fieldsInOrder_of_agrees hagree hstrict
  rw [map_snd_partsBothWays] at hmade
  rw [plainWithin, hmade]
  exact plainLeaf_map_madeWithin Json.obj room (Json.depthFields fs) fs

mutual

/-- **Where there is a body, the plain document is the one that it is the text
of**, if its levels fit. -/
theorem plainWithin_of_strict? : ∀ (v : Value) {room : Nat} {j : Json}, Built noDouble v →
    (toIntegration v).strict? = some j → plainWithin room v = madeWithin room j.depth j
  | .null, room, _, _, rfl => plainLeaf_eq_madeWithin room .null
  | .bool b, room, _, _, rfl => plainLeaf_eq_madeWithin room (.bool b)
  | .int i, room, _, _, rfl => plainLeaf_eq_madeWithin room (.int i)
  | .str s, room, _, _, rfl => plainLeaf_eq_madeWithin room (.str s)
  | .list vs, room, _, h, hj => by
    obtain ⟨js, hjs, rfl⟩ := Option.map_eq_some_iff.mp hj
    rw [plainWithin, plainItems_of_strict? vs (built_list.mp h) hjs]
    exact plainLeaf_map_madeWithin Json.arr room (Json.depthItems js) js
  | .tuple vs, room, _, h, hj => by
    obtain ⟨js, hjs, rfl⟩ := Option.map_eq_some_iff.mp hj
    rw [plainWithin, plainItems_of_strict? vs (built_tuple.mp h) hjs]
    exact plainLeaf_map_madeWithin Json.arr room (Json.depthItems js) js
  | .dict es, room, _, h, hj => by
    obtain ⟨fs, hfs, rfl⟩ := Option.map_eq_some_iff.mp hj
    rw [plainWithin, plainEntries_of_strict? es h.entries.2 hfs]
    exact plainLeaf_map_madeWithin Json.obj room (Json.depthFields fs) fs
  | .matcher ⟨type, v, attributes, generator⟩, room, _, h, hj => by
    obtain ⟨hnames, hv, hattributes⟩ := built_matcher.mp h
    exact plainWithin_matcher_of_agrees hnames (fun j hj => plainWithin_of_strict? v hv hj)
      (fun a ha j hj => plainAttributes_of_strict? attributes hattributes a ha hj) hj

theorem plainItems_of_strict? : ∀ (vs : List Value) {room : Nat} {js : List Json},
    (∀ v ∈ vs, Built noDouble v) → strictItems? (toIntegrationItems vs) = some js →
    plainItems room vs = madeWithin (room + 1) (Json.depthItems js) js
  | [], room, _, _, rfl => (if_pos (Nat.succ_pos room)).symm
  | v :: vs, room, _, h, hjs => by
    obtain ⟨hv, hvs⟩ := List.forall_mem_cons.mp h
    obtain ⟨j, rest, hj, hrest, rfl⟩ := exists_of_strictItems?_cons hjs
    rw [plainItems, plainWithin_of_strict? v hv hj, plainItems_of_strict? vs hvs hrest]
    refine Eq.trans ?_ (madeWithin_bind id room j.depth (Json.depthItems rest) j rest)
    cases madeWithin room j.depth j <;> rfl

theorem plainEntries_of_strict? : ∀ (es : List (Key × Value)) {room : Nat}
    {fs : List (String × Json)}, (∀ e ∈ es, (∃ s, e.1 = .str s) ∧ Built noDouble e.2) →
    strictEntries? (toIntegrationEntries es) = some fs →
    plainEntries room es = madeWithin (room + 1) (Json.depthFields fs) fs
  | [], room, _, _, rfl => (if_pos (Nat.succ_pos room)).symm
  | (k, v) :: es, room, _, h, hfs => by
    obtain ⟨⟨⟨s, hk⟩, hv⟩, hes⟩ := List.forall_mem_cons.mp h
    obtain rfl : k = .str s := hk
    obtain ⟨j, rest, hj, hrest, rfl⟩ := exists_of_strictEntries?_cons hfs
    rw [plainEntries, Key.plain]
    dsimp only
    rw [plainWithin_of_strict? v hv hj, plainEntries_of_strict? es hes hrest]
    refine Eq.trans ?_ (madeWithin_bind (fun j => (s, j)) room j.depth (Json.depthFields rest) j rest)
    cases madeWithin room j.depth j <;> rfl

theorem plainAttributes_of_strict? : ∀ (attributes : List (String × Value)) {room : Nat},
    (∀ a ∈ attributes, Built noDouble a.2) → ∀ a ∈ attributes, ∀ {j : Json},
    a.2.strict? = some j → plainWithin room a.2 = madeWithin room j.depth j
  | [], _, _, _, ha, _, _ => nomatch ha
  | (k, v) :: es, room, h, a, ha, j, hj => by
    obtain ⟨hv, hes⟩ := List.forall_mem_cons.mp h
    obtain rfl | ha := List.mem_cons.mp ha
    · exact plainWithin_of_strict? v hv (strict?_toIntegration v hj)
    · exact plainAttributes_of_strict? es hes a ha hj

end

end Value

/-! ## Contents of messages -/

namespace Message

/-- A message that has nothing but contents. -/
def ofContents (v : Value) : Message := ⟨"", v, none, []⟩

theorem ofValue_contents (v : Value) :
    Model.ofValue (.record [("contents", v)]) = .ok (ofContents v) := rfl

/-- **The contents in the document of a message** are the plain document made of
them, and where none is made the message has no document. -/
theorem contents_dumped {v : Value} (hnull : v ≠ .null) :
    (Model.dumped (ofContents v)).map (·.field? "contents")
      = v.plain.map fun j => some j.merged := by
  have hcontents : plainIfAny v = v.plain.map some := by
    cases v with
    | null => exact absurd rfl hnull
    | _ => rfl
  show ((document (ofContents v)).map Json.merged).map (·.field? "contents") = _
  unfold document ofContents
  dsimp only
  rw [hcontents]
  cases v.plain <;> rfl

/-- **A body and the contents of a message say the same.** Where a value without
doubles, other than a text, has a body, the body is a JSON text without blanks
outside of string literals. Read again it is, in the same order of keys, the
contents in the document of the message with that value, as long as it is not
nested too deeply for a document of a message; if it is, the message has no
document. -/
theorem contents_of_canonicalBody {v : Value} {t : String} (hbuilt : v.Built Value.noDouble)
    (htext : ∀ s, v ≠ .str s) (hbody : v.canonicalBody = .ok (some t)) :
    ∃ j : Json, (∀ limit, j.depth ≤ limit → Json.readChars? limit t.toList = some j)
      ∧ (∀ c ∈ Json.outside .outside t.toList, Text.isBlank c = false)
      ∧ Model.ofValue (.record [("contents", v)]) = .ok (ofContents v)
      ∧ (Model.dumped (ofContents v)).map (·.field? "contents")
        = if j.depth < Value.levelLimit then .ok (some j) else .error .tooDeep := by
  obtain hself | ⟨hnull, j, hj, hintegers, rfl⟩ := Value.canonicalBody_eq_ok_some hbody
  · exact absurd hself (htext t)
  have hform := Value.built_toIntegration v hbuilt
  have hfree : v.toIntegration.matcherFree = true := by
    rw [← Value.isSome_strict? _ hform, hj]
    rfl
  have hexact : j.Exact :=
    Value.exact_of_strict? _ (Value.regular_of_built _ hform hfree) hj
  refine ⟨j, fun limit hlimit => ?_, fun c => Json.not_blank_of_mem_outside hexact,
    ofValue_contents v, ?_⟩
  · unfold Json.readChars?
    rw [Json.readRawChars?_text_compact hexact.finite hintegers hlimit,
      Json.asRead_of_exact _ hexact, Option.map_some, Json.merged_of_exact j hexact]
  · rw [contents_dumped hnull, Value.plain, Value.plainWithin_of_strict? v hbuilt hj]
    unfold Value.madeWithin
    by_cases hdepth : j.depth < Value.levelLimit
    · rw [if_pos hdepth, if_pos hdepth]
      show Except.ok (some j.merged) = .ok (some j)
      rw [Json.merged_of_exact j hexact]
    · rw [if_neg hdepth, if_neg hdepth]
      rfl

/-- An order with matchers in a tuple, in the example of a matcher and beside
each other, and with a note that has blanks and quotes. -/
def order : Value :=
  .record [("id", .matcher ⟨"integer", .int 17, [], some "RandomInt"⟩),
    ("lines", .tuple [.matcher ⟨"type", .list [.record [("sku", .matcher ⟨"regex", .str "a-1",
      [("regex", .str "a-\\d")], none⟩)]], [("min", .int 1), ("value", .null)], none⟩]),
    ("note", .str "say \"hi\" \n twice"), ("paid", .bool false), ("due", .null)]

/-- Its body is read as the contents of the message that holds it. -/
theorem contents_of_canonicalBody_order :
    order.Built Value.noDouble ∧ (∀ s, order ≠ .str s)
      ∧ ∃ t j, order.canonicalBody = .ok (some t)
        ∧ (∀ limit, j.depth ≤ limit → Json.readChars? limit t.toList = some j)
        ∧ (∀ c ∈ Json.outside .outside t.toList, Text.isBlank c = false)
        ∧ (Model.dumped (ofContents order)).map (·.field? "contents") = .ok (some j) := by
  have hbuilt : order.Built Value.noDouble := by decide +kernel
  have htext : ∀ s, order ≠ .str s := fun s h => nomatch h
  obtain ⟨t, ht⟩ : ∃ t, order.canonicalBody = .ok (some t) := ⟨_, rfl⟩
  obtain ⟨j, hread, hblank, -, hdumped⟩ := contents_of_canonicalBody hbuilt htext ht
  -- there is a document, so the body cannot be nested too deeply
  obtain ⟨k, hk⟩ : ∃ k, (Model.dumped (ofContents order)).map (·.field? "contents") = .ok k :=
    ⟨_, rfl⟩
  have hdepth : j.depth < Value.levelLimit := by
    refine Decidable.byContradiction fun hdeep => ?_
    rw [hk, if_neg hdeep] at hdumped
    cases hdumped
  exact ⟨hbuilt, htext, t, j, ht, hread, hblank, hdumped.trans (if_pos hdepth)⟩

/-- Lists inside each other, nested so deep. -/
def nested : Nat → Json
  | 0 => .arr []
  | n + 1 => .arr [nested n]

/-- Their depth is what they are named for, and no number is in them. -/
theorem nested_facts (n : Nat) : (nested n).depth = n
    ∧ (nested n).integersWithin Json.integerDigitLimit = true
    ∧ (Value.ofJson (nested n)).Built Value.noDouble := by
  induction n with
  | zero => exact ⟨rfl, rfl, rfl⟩
  | succ n ih =>
    obtain ⟨hdepth, hintegers, hbuilt⟩ := ih
    refine ⟨?_, ?_, Value.built_list.mpr (List.forall_mem_singleton.mpr hbuilt)⟩
    · show max ((nested n).depth + 1) 0 = n + 1
      rw [hdepth, Nat.max_zero]
    · show (Json.integersWithin _ (nested n) && true) = true
      rw [hintegers, Bool.true_and]

/-- **A body without a document of the message.** Lists nested in more levels than
documents may have still have a body. -/
theorem body_of_nested :
    (Value.ofJson (nested 255)).Built Value.noDouble
      ∧ (∃ t, (Value.ofJson (nested 255)).canonicalBody = .ok (some t))
      ∧ (Model.dumped (ofContents (.ofJson (nested 255)))).map (·.field? "contents")
        = .error .tooDeep := by
  obtain ⟨hdepth, hintegers, hbuilt⟩ := nested_facts 255
  have hnull : Value.ofJson (nested 255) ≠ .null := fun h => nomatch h
  have htext : ∀ s, Value.ofJson (nested 255) ≠ .str s := fun s h => nomatch h
  -- what matters of the lists is known, and they need not be looked at again
  generalize nested 255 = j at *
  have hform := Value.strict?_toIntegration _ (Value.strict?_ofJson j)
  refine ⟨hbuilt, ⟨j.text .compact, ?_⟩, ?_⟩
  · rw [Value.canonicalBody_eq hnull htext, hform]
    exact if_pos hintegers
  · rw [contents_dumped hnull, Value.plain, Value.plainWithin_of_strict? _ hbuilt hform, hdepth]
    rfl

end Message

end Covenant
