import Covenant.Proofs.Contract.RoundTrip
import Covenant.Proofs.Selection
import Covenant.Proofs.Value.Regular
import Mathlib.Data.List.Forall2

/-!
# The earlier form of provider states

A unit in the earlier form tells its provider state as a text, or as null for none,
under a key of its own (`Json.statesTold?`). The present form of such a unit has a
list of states in the place of that field (`Json.renewedUnit`), and that of a whole
contract has it for any units that are in the earlier form, wherever they are among
the others (`Json.renewed`).

Loading either gives the same (`Contract.parse_renewed`), whatever else is in the
units. Before a unit is checked it is upgraded, and after that the two differ in
the order of their fields at most, which no check notices: every field is looked up
by its names (`SameFields`). What is written is always in the present form
(`Json.HasStates`).
-/

namespace Covenant

open Validation

namespace Json

/-! ## The two forms -/

/-- **The states that a unit tells in the earlier form**, if it is in that form: its
state is a text or null, and it has no list of states. -/
def statesTold? : Json → Option (List ProviderState)
  | .obj fs =>
    if Entries.has fs "providerStates" then none
    else
      match Entries.get? fs "providerState" with
      | some .null => some []
      | some (.str s) => some (if s = "" then [] else [⟨s, .null⟩])
      | _ => none
  | _ => none

/-- The document of a list of states that have names only. -/
def namedStates (states : List ProviderState) : Json :=
  .arr (states.map fun s => .obj [("name", .str s.description)])

/-- A field of a unit, with the states in the place of the state. -/
def renewedField (states : Json) (f : String × Json) : String × Json :=
  if f.1 = "providerState" then ("providerStates", states) else f

/-- **The present form of a unit.** -/
def renewedUnit (unit : Json) : Json :=
  match statesTold? unit, unit with
  | some states, .obj fs => .obj (fs.map (renewedField (namedStates states)))
  | _, _ => unit

/-- The present form of a list of units. -/
def renewedUnits : Json → Json
  | .arr units => .arr (units.map renewedUnit)
  | j => j

/-- **The present form of a contract's document**: that of all its units. -/
def renewed : Json → Json
  | .obj fs => .obj (fs.map fun f =>
      (f.1, if f.1 = "interactions" ∨ f.1 = "messages" then renewedUnits f.2 else f.2))
  | j => j

/-- A unit is in the earlier form just if it has a state and no list of states. -/
theorem statesTold?_eq_some {fs : List (String × Json)} {states : List ProviderState}
    (h : statesTold? (.obj fs) = some states) :
    Entries.get? fs "providerStates" = none
      ∧ (Entries.get? fs "providerState" = some .null ∧ states = []
        ∨ ∃ s, Entries.get? fs "providerState" = some (.str s)
          ∧ states = if s = "" then [] else [⟨s, .null⟩]) := by
  rw [statesTold?] at h
  by_cases hlist : Entries.has fs "providerStates" = true
  · rw [if_pos hlist] at h
    cases h
  rw [if_neg hlist] at h
  refine ⟨Option.not_isSome_iff_eq_none.mp hlist, ?_⟩
  split at h
  · rename_i hstate
    exact .inl ⟨hstate, (Option.some.inj h).symm⟩
  · rename_i s hstate
    exact .inr ⟨s, hstate, (Option.some.inj h).symm⟩
  · cases h

/-- The states that are told have no parameters. -/
theorem parameters_of_statesTold? {unit : Json} {states : List ProviderState}
    (h : statesTold? unit = some states) : ∀ s ∈ states, s.parameters = .null := by
  cases unit with
  | obj fs =>
    obtain ⟨-, ⟨-, rfl⟩ | ⟨s, -, rfl⟩⟩ := statesTold?_eq_some h
    · exact fun s hs => nomatch hs
    · split
      · exact fun s hs => nomatch hs
      · exact List.forall_mem_singleton.mpr rfl
  | _ => cases h

end Json

/-! ## Fields looked up by name -/

namespace Entries

/-- What is put under a text is not found under another one. -/
theorem get?_put_str_of_ne (es : List (Key × Value)) {name k : String} (v : Value) (h : k ≠ name) :
    get? (put es (.str name) v) (.str k) = get? es (.str k) := by
  have hne : ¬ ((Key.str k == .str name) = true) := fun heq =>
    h (Key.str.inj (Key.beq_str_iff.mp heq))
  induction es with
  | nil => rw [put_nil, get?_cons, if_neg hne]
  | cons e es ih =>
    rw [put]
    by_cases hk : (e.1 == .str name) = true
    · rw [if_pos hk, get?_cons, get?_cons, Key.beq_str_iff.mp hk, if_neg hne, if_neg hne]
    · rw [if_neg hk, get?_cons, get?_cons, ih]

/-- What is erased under a text is found no less under another one. -/
theorem get?_erase_str_of_ne (es : List (Key × Value)) {name k : String} (h : k ≠ name) :
    get? (erase es (.str name)) (.str k) = get? es (.str k) := by
  induction es with
  | nil => rfl
  | cons e es ih =>
    rw [get?_cons]
    by_cases hk : (e.1 == .str name) = true
    · -- the entry goes, and it was not the one that is looked for
      have hgone : erase (e :: es) (.str name) = erase es (.str name) :=
        List.filter_cons_of_neg (by simp [hk])
      have hne : ¬ ((Key.str k == e.1) = true) := fun heq =>
        h (Key.str.inj ((Key.str_beq_iff.mp heq).symm.trans (Key.beq_str_iff.mp hk)))
      rw [hgone, ih, if_neg hne]
    · have hstays : erase (e :: es) (.str name) = e :: erase es (.str name) :=
        List.filter_cons_of_pos (by simp [hk])
      rw [hstays, get?_cons, ih]

end Entries

/-- **The same fields**, as far as a check looks them up: whatever the order, and
apart from a field of the earlier form. -/
def SameFields (es es' : List (Key × Value)) : Prop :=
  ∀ name, name ≠ "providerState" → Entries.get? es (.str name) = Entries.get? es' (.str name)

section Fields

variable {α : Type} {es es' : List (Key × Value)} {names : List String}

theorem SameFields.named? (h : SameFields es es') (hnames : "providerState" ∉ names) :
    Validation.named? es names = Validation.named? es' names := by
  induction names with
  | nil => rfl
  | cons name names ih =>
    obtain ⟨hname, hrest⟩ := not_or.mp fun hmem => hnames (List.mem_cons.mpr hmem)
    rw [Validation.named?, Validation.named?, h name fun heq => hname heq.symm, ih hrest]

theorem SameFields.required (h : SameFields es es') (hnames : "providerState" ∉ names)
    (check : Check α) : Validation.required es names check = Validation.required es' names check := by
  rw [Validation.required, Validation.required, h.named? hnames]

theorem SameFields.withDefault (h : SameFields es es') (hnames : "providerState" ∉ names)
    (default : α) (check : Check α) :
    Validation.withDefault es names default check = Validation.withDefault es' names default check := by
  rw [Validation.withDefault, Validation.withDefault, h.named? hnames]

end Fields

/-! ## Units -/

namespace Json

variable {fs : List (String × Json)} {states : List ProviderState}

/-- A field of the present form: the states are where the state was. -/
theorem get?_map_renewedField (v : Json) (hlist : Entries.get? fs "providerStates" = none)
    (k : String) : Entries.get? (fs.map (renewedField v)) k
      = if k = "providerStates" then (Entries.get? fs "providerState").map fun _ => v
        else if k = "providerState" then none else Entries.get? fs k := by
  induction fs with
  | nil => simp
  | cons f fs ih =>
    obtain ⟨name, j⟩ := f
    rw [Entries.get?_cons] at hlist
    split at hlist
    · cases hlist
    rename_i hne
    rw [List.map_cons, Entries.get?_cons, ih hlist, renewedField]
    have hne : name ≠ "providerStates" := fun heq => hne (by simp [heq])
    by_cases hname : name = "providerState"
    · by_cases hk : k = "providerStates"
      · simp [hname, hk, Entries.get?_cons]
      · by_cases hk' : k = "providerState"
        · simp [hname, hk']
        · simp [hname, hk, hk', Entries.get?_cons]
    · by_cases hk : k = "providerStates"
      · have hother : "providerState" ≠ name := fun heq => hname heq.symm
        have hother' : "providerStates" ≠ name := fun heq => hne heq.symm
        simp [hname, hk, hother, hother', Entries.get?_cons]
      · by_cases hk' : k = "providerState"
        · have hother : "providerState" ≠ name := fun heq => hname heq.symm
          simp [hname, hk', hother]
        · simp [hname, hk, hk', Entries.get?_cons]

/-- **A unit in the earlier form is upgraded** to one with the states that it tells. -/
theorem upgradeState_of_statesTold? (h : statesTold? (.obj fs) = some states) :
    upgradeState (.ofJson (.obj fs)) = .dict (Entries.put
      (Entries.erase (Value.ofJsonFields fs) (.str "providerState")) (.str "providerStates")
      (.ofJson (namedStates states))) := by
  obtain ⟨hlist, ⟨hstate, rfl⟩ | ⟨s, hstate, rfl⟩⟩ := statesTold?_eq_some h
  · simp [Value.ofJson, upgradeState, get?_ofJsonFields, hstate, Entries.has, hlist, namedStates,
      Value.isTruthy, Value.ofJsonItems]
  · by_cases hs : s = ""
    · simp [Value.ofJson, upgradeState, get?_ofJsonFields, hstate, Entries.has, hlist, namedStates,
        Value.isTruthy, Value.ofJsonItems, hs]
    · simp [Value.ofJson, upgradeState, get?_ofJsonFields, hstate, Entries.has, hlist, namedStates,
        Value.isTruthy, Value.ofJsonItems, Value.ofJsonFields, Value.record, hs]

/-- **After the upgrade a unit has the fields of its present form.** -/
theorem sameFields_renewedUnit (unit : Json) :
    upgradeState (.ofJson unit) = upgradeState (.ofJson (renewedUnit unit))
      ∨ ∃ es es', upgradeState (.ofJson unit) = .dict es
        ∧ upgradeState (.ofJson (renewedUnit unit)) = .dict es' ∧ SameFields es es' := by
  cases htold : statesTold? unit with
  | none =>
    refine .inl ?_
    unfold renewedUnit
    rw [htold]
  | some states =>
    match unit with
    | .obj fs =>
      obtain ⟨hlist, hstate⟩ := statesTold?_eq_some htold
      have hpresent : (Entries.get? fs "providerState").isSome = true := by
        obtain ⟨hstate, -⟩ | ⟨s, hstate, -⟩ := hstate <;> rw [hstate] <;> rfl
      have hrenewed : renewedUnit (.obj fs) = .obj (fs.map (renewedField (namedStates states))) := by
        unfold renewedUnit
        rw [htold]
      refine .inr ⟨_, Value.ofJsonFields (fs.map (renewedField (namedStates states))),
        upgradeState_of_statesTold? htold, ?_, ?_⟩
      · rw [hrenewed]
        exact upgradeState_of_get? (by rw [get?_map_renewedField _ hlist]; rfl)
      · intro name hname
        rw [get?_ofJsonFields, get?_map_renewedField _ hlist]
        by_cases hstates : name = "providerStates"
        · obtain ⟨state, hstate⟩ := Option.isSome_iff_exists.mp hpresent
          rw [hstates, Entries.get?_put_str, if_pos rfl, hstate]
          rfl
        · rw [Entries.get?_put_str_of_ne _ _ hstates, Entries.get?_erase_str_of_ne _ hname,
            get?_ofJsonFields, if_neg hstates, if_neg hname]

end Json

/-- **An interaction is checked the same in both forms.** -/
theorem Interaction.check_renewedUnit (unit : Json) :
    check (.ofJson unit.renewedUnit) = check (.ofJson unit) := by
  unfold check
  obtain hsame | ⟨es, es', hes, hes', hsame⟩ := Json.sameFields_renewedUnit unit
  · rw [hsame]
  · rw [hes, hes', record, record, hsame.required (by decide), hsame.withDefault (by decide),
      hsame.withDefault (by decide), hsame.withDefault (by decide)]

/-- **A message is checked the same in both forms.** -/
theorem Message.check_renewedUnit (unit : Json) :
    check (.ofJson unit.renewedUnit) = check (.ofJson unit) := by
  unfold check
  obtain hsame | ⟨es, es', hes, hes', hsame⟩ := Json.sameFields_renewedUnit unit
  · rw [hsame]
  · rw [hes, hes', record, record, hsame.withDefault (by decide), hsame.withDefault (by decide),
      hsame.withDefault (by decide), hsame.withDefault (by decide)]

/-! ## The states of a unit -/

theorem items_namedStates {states : List ProviderState} (h : ∀ s ∈ states, s.parameters = .null)
    (i : Nat) : items ProviderState.check i (Value.ofJsonItems
      (states.map fun s => .obj [("name", .str s.description)])) = .passed states := by
  induction states generalizing i with
  | nil => rfl
  | cons s states ih =>
    obtain ⟨hs, hstates⟩ := List.forall_mem_cons.mp h
    obtain ⟨description, parameters⟩ := s
    obtain rfl : parameters = .null := hs
    rw [List.map_cons, Value.ofJsonItems, items, ih hstates]
    rfl

/-- States that have names only are checked as they are told. -/
theorem tuple_namedStates {states : List ProviderState} (h : ∀ s ∈ states, s.parameters = .null) :
    tuple ProviderState.check (.ofJson (Json.namedStates states)) = .passed states :=
  items_namedStates h 0

/-- **An interaction has the states that it tells in the earlier form.** -/
theorem Interaction.providerStates_of_statesTold? {unit : Json} {i : Interaction}
    {states : List ProviderState} (hcheck : check (.ofJson unit) = .passed i)
    (htold : unit.statesTold? = some states) : i.providerStates = states := by
  cases unit with
  | obj fs =>
    have hstates := states_of_check hcheck (Json.upgradeState_of_statesTold? htold)
      (Entries.get?_put_str _ _ _)
    rw [tuple_namedStates (Json.parameters_of_statesTold? htold)] at hstates
    exact (Checked.passed.inj hstates).symm
  | _ => cases htold

/-- **A message has the states that it tells in the earlier form.** -/
theorem Message.providerStates_of_statesTold? {unit : Json} {m : Message}
    {states : List ProviderState} (hcheck : check (.ofJson unit) = .passed m)
    (htold : unit.statesTold? = some states) : m.providerStates = states := by
  cases unit with
  | obj fs =>
    rw [check, Json.upgradeState_of_statesTold? htold, record] at hcheck
    obtain ⟨_, told, hrest, hstates, rfl⟩ := Checked.seq_eq_passed_iff.mp hcheck
    obtain ⟨_, metadata, hparts, -, rfl⟩ := Checked.seq_eq_passed_iff.mp hrest
    obtain ⟨_, contents, hdescribed, -, rfl⟩ := Checked.seq_eq_passed_iff.mp hparts
    obtain ⟨_, -, rfl⟩ := Checked.map_eq_passed_iff.mp hdescribed
    rw [withDefault, named?, Entries.get?_put_str] at hstates
    dsimp only at hstates
    rw [Checked.within_eq_passed_iff,
      tuple_namedStates (Json.parameters_of_statesTold? htold)] at hstates
    exact (Checked.passed.inj hstates).symm
  | _ => cases htold

/-! ## Lists of units -/

section Lists

variable {α : Type} {check : Check α}

theorem items_renewedUnits (h : ∀ unit, check (.ofJson (Json.renewedUnit unit)) = check (.ofJson unit))
    (units : List Json) (i : Nat) :
    items check i (Value.ofJsonItems (units.map Json.renewedUnit))
      = items check i (Value.ofJsonItems units) := by
  induction units generalizing i with
  | nil => rfl
  | cons unit units ih =>
    rw [List.map_cons, Value.ofJsonItems, Value.ofJsonItems, items, items, h, ih]

/-- **Lists are checked the same in both forms** if their units are. -/
theorem list_renewedUnits (h : ∀ unit, check (.ofJson (Json.renewedUnit unit)) = check (.ofJson unit))
    (j : Json) : list check (.ofJson j.renewedUnits) = list check (.ofJson j) := by
  cases j with
  | arr units => exact items_renewedUnits h units 0
  | _ => rfl

theorem forall₂_of_items {units : List Json} {i : Nat} {as : List α}
    (h : items check i (Value.ofJsonItems units) = .passed as) :
    List.Forall₂ (fun unit a => check (.ofJson unit) = .passed a) units as := by
  induction units generalizing i as with
  | nil =>
    cases h
    exact .nil
  | cons unit units ih =>
    obtain ⟨_, rest, hhead, hrest, rfl⟩ := Checked.seq_eq_passed_iff.mp h
    obtain ⟨a, ha, rfl⟩ := Checked.map_eq_passed_iff.mp hhead
    exact .cons (Checked.within_eq_passed_iff.mp ha) (ih hrest)

theorem forall₂_of_list {units : List Json} {as : List α}
    (h : list check (.ofJson (.arr units)) = .passed as) :
    List.Forall₂ (fun unit a => check (.ofJson unit) = .passed a) units as :=
  forall₂_of_items h

end Lists

namespace Contract

/-! ## Contracts -/

theorem get?_map_named (f : String → Json → Json) (fs : List (String × Json)) (k : String) :
    Entries.get? (fs.map fun e => (e.1, f e.1 e.2)) k = (Entries.get? fs k).map (f k) := by
  induction fs with
  | nil => rfl
  | cons e fs ih =>
    rw [List.map_cons, Entries.get?_cons, Entries.get?_cons, ih]
    by_cases hk : (k == e.1) = true
    · rw [if_pos hk, if_pos hk, beq_iff_eq.mp hk]
      rfl
    · rw [if_neg hk, if_neg hk]

/-- A field with a default, among fields that are changed. -/
theorem withDefault_map_named {α : Type} {f : String → Json → Json} {name : String} {default : α}
    {check : Check α} (h : ∀ j, check (.ofJson (f name j)) = check (.ofJson j))
    (fs : List (String × Json)) :
    withDefault (Value.ofJsonFields (fs.map fun e => (e.1, f e.1 e.2))) [name] default check
      = withDefault (Value.ofJsonFields fs) [name] default check := by
  simp only [withDefault, named?, get?_ofJsonFields, get?_map_named]
  cases Entries.get? fs name with
  | none => rfl
  | some j => exact congrArg (Checked.within _) (h j)

theorem required_map_named {α : Type} {f : String → Json → Json} {name : String} {check : Check α}
    (h : ∀ j, check (.ofJson (f name j)) = check (.ofJson j)) (fs : List (String × Json)) :
    required (Value.ofJsonFields (fs.map fun e => (e.1, f e.1 e.2))) [name] check
      = required (Value.ofJsonFields fs) [name] check := by
  simp only [required, named?, get?_ofJsonFields, get?_map_named]
  cases Entries.get? fs name with
  | none => rfl
  | some j => exact congrArg (Checked.within _) (h j)

/-- **A contract is checked the same in both forms.** -/
theorem check_renewed (j : Json) : check (.ofJson j.renewed) = check (.ofJson j) := by
  cases j with
  | obj fs =>
    show Contract.mk <$> required (Value.ofJsonFields (fs.map fun f => (f.1, _))) ["consumer"] _
        <*> required _ ["provider"] _ <*> withDefault _ ["interactions"] _ _
        <*> withDefault _ ["messages"] _ _ <*> withDefault _ ["metadata"] _ _
      = Contract.mk <$> required (Value.ofJsonFields fs) ["consumer"] Participant.check
        <*> required (Value.ofJsonFields fs) ["provider"] Participant.check
        <*> withDefault (Value.ofJsonFields fs) ["interactions"] [] (list Interaction.check)
        <*> withDefault (Value.ofJsonFields fs) ["messages"] [] (list Message.check)
        <*> withDefault (Value.ofJsonFields fs) ["metadata"] [] (dictionary anything)
    rw [required_map_named (f := fun k j => if k = "interactions" ∨ k = "messages" then
        j.renewedUnits else j) (fun _ => rfl),
      required_map_named (f := fun k j => if k = "interactions" ∨ k = "messages" then
        j.renewedUnits else j) (fun _ => rfl),
      withDefault_map_named (f := fun k j => if k = "interactions" ∨ k = "messages" then
        j.renewedUnits else j) (list_renewedUnits Interaction.check_renewedUnit),
      withDefault_map_named (f := fun k j => if k = "interactions" ∨ k = "messages" then
        j.renewedUnits else j) (list_renewedUnits Message.check_renewedUnit),
      withDefault_map_named (f := fun k j => if k = "interactions" ∨ k = "messages" then
        j.renewedUnits else j) (fun _ => rfl)]
  | _ => rfl

theorem parse_of_read? {t : String} {j : Json} (h : Json.read? t = some j) (location : String) :
    parse t location = match (check (.ofJson j)).report "ContractFile" .text with
      | .ok c => .ok c
      | .error r => .error (.loadFailed .parse location (.invalid r)) := by
  obtain ⟨raw, hraw, rfl⟩ := Option.map_eq_some_iff.mp h
  have htext : (Model.ofText t : Except Report Contract)
      = (check (.ofJson raw.merged)).report "ContractFile" .text := by
    show Validation.ofText "ContractFile" [] check t = _
    unfold Validation.ofText
    rw [hraw]
    dsimp only
    rw [Json.mergedBut_nil]
  unfold parse
  cases hreport : (check (.ofJson raw.merged)).report "ContractFile" .text with
  | ok c => rw [htext, hreport]
  | error r => rw [htext, hreport]

theorem check_of_parse {t : String} {j : Json} (h : Json.read? t = some j) {location : String}
    {c : Contract} (hparse : parse t location = .ok c) : check (.ofJson j) = .passed c := by
  rw [parse_of_read? h] at hparse
  cases hcheck : check (.ofJson j) with
  | passed c' =>
    rw [hcheck] at hparse
    exact congrArg Checked.passed (Except.ok.inj hparse)
  | refused fs =>
    rw [hcheck] at hparse
    cases hparse

/-- **The units of a contract, one by one**, as they are checked out of the lists of
its document. -/
theorem forall₂_of_check {j : Json} {c : Contract} (h : check (.ofJson j) = .passed c)
    {units : List Json} :
    (j.field? "interactions" = some (.arr units) →
        List.Forall₂ (fun unit i => Interaction.check (.ofJson unit) = .passed i) units
          c.interactions)
      ∧ (j.field? "messages" = some (.arr units) →
        List.Forall₂ (fun unit m => Message.check (.ofJson unit) = .passed m) units c.messages) := by
  cases j with
  | obj fs =>
    obtain ⟨_, metadata, hlists, -, rfl⟩ := Checked.seq_eq_passed_iff.mp h
    obtain ⟨_, messages, hlist, hmessages, rfl⟩ := Checked.seq_eq_passed_iff.mp hlists
    obtain ⟨_, interactions, hnames, hinteractions, rfl⟩ := Checked.seq_eq_passed_iff.mp hlist
    obtain ⟨_, provider, hname, -, rfl⟩ := Checked.seq_eq_passed_iff.mp hnames
    obtain ⟨consumer, -, rfl⟩ := Checked.map_eq_passed_iff.mp hname
    rw [withDefault, named?, get?_ofJsonFields] at hmessages hinteractions
    refine ⟨fun hunits => forall₂_of_list ?_, fun hunits => forall₂_of_list ?_⟩
    · rw [show Entries.get? fs "interactions" = _ from hunits] at hinteractions
      exact Checked.within_eq_passed_iff.mp hinteractions
    · rw [show Entries.get? fs "messages" = _ from hunits] at hmessages
      exact Checked.within_eq_passed_iff.mp hmessages
  | _ => constructor <;> rintro ⟨⟩

end Contract

/-! ## What is written -/

/-- **A unit in the present form**: it has its list of states, and no single one. -/
def Json.HasStates (unit : Json) : Prop :=
  ∃ fs, unit = .obj fs ∧ "providerState" ∉ Entries.keys fs ∧ "providerStates" ∈ Entries.keys fs

theorem Json.map_fst_mergedFields (fs : List (String × Json)) :
    (mergedFields fs).map Prod.fst = fs.map Prod.fst := by
  induction fs with
  | nil => rfl
  | cons f fs ih => rw [mergedFields, List.map_cons, ih, List.map_cons]

/-- Merging leaves a unit in the present form. -/
theorem Json.HasStates.merged {unit : Json} (h : unit.HasStates) : unit.merged.HasStates := by
  obtain ⟨fs, rfl, hstate, hstates⟩ := h
  have hkeys : ∀ k, k ∈ Entries.keys (Entries.ofPairs (mergedFields fs)) ↔ k ∈ Entries.keys fs := by
    intro k
    rw [Entries.ofPairs, Entries.mem_keys_putAll, map_fst_mergedFields]
    exact or_iff_right List.not_mem_nil
  exact ⟨_, rfl, fun hmem => hstate ((hkeys _).mp hmem), (hkeys _).mpr hstates⟩

theorem Json.forall_hasStates_mergedItems {units : List Json} (h : ∀ unit ∈ units, unit.HasStates) :
    ∀ unit ∈ mergedItems units, unit.HasStates := by
  induction units with
  | nil => exact h
  | cons unit units ih =>
    obtain ⟨hunit, hunits⟩ := List.forall_mem_cons.mp h
    exact List.forall_mem_cons.mpr ⟨hunit.merged, ih hunits⟩

theorem Interaction.hasStates_of_document {i : Interaction} {j : Json} (h : i.document = .ok j) :
    j.HasStates := by
  unfold document at h
  obtain ⟨states, -, h⟩ := exists_of_bind_eq_ok h
  obtain ⟨request, -, h⟩ := exists_of_bind_eq_ok h
  obtain ⟨response, -, h⟩ := exists_of_bind_eq_ok h
  cases h
  exact ⟨_, rfl, by simp [Entries.keys], by simp [Entries.keys]⟩

theorem Message.hasStates_of_document {m : Message} {j : Json} (h : m.document = .ok j) :
    j.HasStates := by
  unfold document at h
  obtain ⟨contents, -, h⟩ := exists_of_bind_eq_ok h
  obtain ⟨metadata, -, h⟩ := exists_of_bind_eq_ok h
  obtain ⟨states, -, h⟩ := exists_of_bind_eq_ok h
  cases h
  refine ⟨_, rfl, ?_, by simp [Entries.keys]⟩
  cases contents <;> cases metadata <;> simp [Entries.keys, fieldIfAny]

namespace Contract

/-- **All units that a file lists are in the present form.** -/
theorem hasStates_of_listed {c : Contract} {name : String} {units : Json}
    (h : c.listed = .ok (name, units)) :
    ∃ items, units = .arr items ∧ ∀ unit ∈ items, unit.HasStates := by
  unfold listed at h
  split at h
  · obtain ⟨js, hjs, hunits⟩ := exists_of_map_eq_ok h
    cases hunits
    refine ⟨_, rfl, Json.forall_hasStates_mergedItems fun unit hunit => ?_⟩
    obtain ⟨m, -, hdocument⟩ := (Model.exists_of_documents hjs).2 unit hunit
    exact Message.hasStates_of_document hdocument
  · obtain ⟨js, hjs, hunits⟩ := exists_of_map_eq_ok h
    cases hunits
    refine ⟨_, rfl, Json.forall_hasStates_mergedItems fun unit hunit => ?_⟩
    obtain ⟨i, -, hdocument⟩ := (Model.exists_of_documents hjs).2 unit hunit
    exact Interaction.hasStates_of_document hdocument

/-- **The text of a contract lists units in the present form only.** -/
theorem hasStates_of_text {c : Contract} {t : String} (h : c.text = .ok t) :
    ∃ name units metadata, t = (Json.obj [("consumer", c.consumer.document),
        ("provider", c.provider.document), (name, .arr units),
        ("metadata", metadata)]).text .indented ++ "\n"
      ∧ ∀ unit ∈ units, unit.HasStates := by
  obtain ⟨j, hdocument, -, rfl⟩ := text_eq_ok_iff.mp h
  obtain ⟨name, units, metadata, hlisted, rfl⟩ := exists_of_fileDocument hdocument
  obtain ⟨items, rfl, hitems⟩ := hasStates_of_listed hlisted
  exact ⟨name, items, metadata, rfl, hitems⟩

/-! ## Loading either form -/

/-- **The two forms mean the same.** Where the document of one text is the present
form of another's, the texts are loaded with the same result, be it a contract or an
error. What is loaded from either has, unit by unit, the states that are told in the
earlier form, is selected from alike by all selectors, and has one text, in the
present form. -/
theorem parse_renewed {t t' : String} {j : Json} (h : Json.read? t = some j)
    (h' : Json.read? t' = some j.renewed) (location : String) :
    parse t location = parse t' location
      ∧ ∀ c c', parse t location = .ok c → parse t' location = .ok c' →
        (∀ units, j.field? "interactions" = some (.arr units) →
          List.Forall₂ (fun unit (i : Interaction) => ∀ states, unit.statesTold? = some states →
            i.providerStates = states) units c.interactions)
        ∧ (∀ units, j.field? "messages" = some (.arr units) →
          List.Forall₂ (fun unit (m : Message) => ∀ states, unit.statesTold? = some states →
            m.providerStates = states) units c.messages)
        ∧ (∀ s : Selectors, s.select c.interactions = s.select c'.interactions
          ∧ s.select c.messages = s.select c'.messages)
        ∧ c.text = c'.text
        ∧ ∀ text, c.text = .ok text →
          ∃ name units metadata, text = (Json.obj [("consumer", c.consumer.document),
              ("provider", c.provider.document), (name, .arr units),
              ("metadata", metadata)]).text .indented ++ "\n"
            ∧ ∀ unit ∈ units, unit.HasStates := by
  have hsame : parse t location = parse t' location := by
    rw [parse_of_read? h, parse_of_read? h', check_renewed]
  refine ⟨hsame, fun c c' hc hc' => ?_⟩
  obtain rfl : c = c' := Except.ok.inj (hc.symm.trans (hsame.trans hc'))
  have hcheck := check_of_parse h hc
  refine ⟨fun units hunits => ?_, fun units hunits => ?_, fun s => ⟨rfl, rfl⟩, rfl,
    fun text htext => hasStates_of_text htext⟩
  · exact ((forall₂_of_check hcheck).1 hunits).imp fun unit i hunit states htold =>
      Interaction.providerStates_of_statesTold? hunit htold
  · exact ((forall₂_of_check hcheck).2 hunits).imp fun unit m hunit states htold =>
      Message.providerStates_of_statesTold? hunit htold

/-- A contract in which units of both forms are mixed: a state that is told as a
text, a list of states, a state that is null, and one that is empty. -/
def mixedForms : Json :=
  .obj [("consumer", .obj [("name", .str "shop")]), ("provider", .obj [("name", .str "stock")]),
    ("interactions", .arr [
      .obj [("description", .str "an item is looked up"), ("providerState", .str "an item exists")],
      .obj [("description", .str "items are listed"),
        ("providerStates", .arr [.obj [("name", .str "two items exist")]])],
      .obj [("providerState", .null), ("description", .str "a missing item is looked up")]]),
    ("messages", .arr [
      .obj [("description", .str "an item was sold"), ("providerState", .str "")]])]

/-- The same with every unit in the present form. -/
def presentForms : Json :=
  .obj [("consumer", .obj [("name", .str "shop")]), ("provider", .obj [("name", .str "stock")]),
    ("interactions", .arr [
      .obj [("description", .str "an item is looked up"),
        ("providerStates", .arr [.obj [("name", .str "an item exists")]])],
      .obj [("description", .str "items are listed"),
        ("providerStates", .arr [.obj [("name", .str "two items exist")]])],
      .obj [("providerStates", .arr []), ("description", .str "a missing item is looked up")]]),
    ("messages", .arr [
      .obj [("description", .str "an item was sold"), ("providerStates", .arr [])]])]

/-- Both are loaded, as one contract with the states that were told. -/
theorem parse_renewed_mixed :
    mixedForms.renewed = presentForms
      ∧ ∃ c, parse (mixedForms.text .indented) "shop-stock.json" = .ok c
        ∧ parse (presentForms.text .indented) "shop-stock.json" = .ok c
        ∧ c.interactions.map Interaction.stateNames = [["an item exists"], ["two items exist"], []]
        ∧ c.messages.map Message.stateNames = [[]] := by
  have hexact : mixedForms.Exact := by
    simp [mixedForms, Json.Exact, Json.ExactItems, Json.ExactFields]
  have hexact' : presentForms.Exact := by
    simp [presentForms, Json.Exact, Json.ExactItems, Json.ExactFields]
  have h := Json.read?_text Json.spaced_indented hexact (by decide) (by decide)
  have h' := Json.read?_text Json.spaced_indented hexact' (by decide) (by decide)
  obtain ⟨c, hcheck, hstates, hstates'⟩ : ∃ c, check (.ofJson mixedForms) = .passed c
      ∧ c.interactions.map Interaction.stateNames = [["an item exists"], ["two items exist"], []]
      ∧ c.messages.map Message.stateNames = [[]] := ⟨_, rfl, rfl, rfl⟩
  have hparse : parse (mixedForms.text .indented) "shop-stock.json" = .ok c := by
    rw [parse_of_read? h, hcheck]
    rfl
  have hrenewed : mixedForms.renewed = presentForms := rfl
  obtain ⟨hsame, -⟩ := parse_renewed h (h'.trans (congrArg some hrenewed.symm)) "shop-stock.json"
  exact ⟨hrenewed, c, hparse, hsame ▸ hparse, hstates, hstates'⟩

end Contract

end Covenant
