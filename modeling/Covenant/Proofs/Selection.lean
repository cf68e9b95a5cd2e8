import Covenant.Proofs.Contract.Codec
import Covenant.Proofs.Listing

/-!
# What selectors select

Which selector counts is told twice: `Selectors.active` lists the names of those
that are set, for the warning, and `Selectors.accepts` asks them one after the
other. That the first name of the list is the selector that decides is what
`Selectors.selected_of_active` says. What a selector asks by itself (`Asks`) is
said without either of the two.

The selector for what declares no state and those for the single states are meant
to cut a contract into parts, so that a provider can be verified part by part.
They do, but for what declares states and names none of them (`Unnamed`): it is in
no part (`Selectors.covered_iff`). The earlier form of contracts cannot hold it,
since a state without a name counts as none there; the present form can, and it
loads (`Selectors.unreachable_loaded`).
-/

namespace Covenant

namespace Selectors

variable {α : Type} [Selectable α] {s s' : Selectors} {items : List α} {item : α}

/-! ## The selector that decides -/

/-- **What the selector of a name asks of an item**, looked at by itself. -/
def Asks (s : Selectors) (name : String) (item : α) : Prop :=
  match name with
  | "description" => s.description = .exactly (Selectable.description item)
  | "provider_state" => ∃ state ∈ Selectable.states item, s.providerState = .exactly state.description
  | "no_state" => Selectable.states item = []
  | _ => False

/-- **An item is chosen** if the first active selector asks for it; where none is
active, every item is. -/
def Chosen (s : Selectors) (item : α) : Prop :=
  ∀ name ∈ s.active.head?, s.Asks name item

/-- What a selector is set to, by its name. The last one is only set or not. -/
def valueOf (s : Selectors) : String → Option Criterion
  | "description" => some s.description
  | "provider_state" => some s.providerState
  | _ => .none

/-- A criterion that is set is met by the text that it asks for, and no other. -/
theorem accepts_iff_of_isSet {c : Criterion} (h : c.isSet = true) (t : String) :
    c.accepts t = true ↔ c = .exactly t := by
  cases c with
  | anything => cases h
  | exactly s => simp [Criterion.accepts]
  | unmeetable => simp [Criterion.accepts]

/-- The first of the active selectors, in the order in which they are asked. -/
theorem head?_active (s : Selectors) : s.active.head?
    = if s.description.isSet then some "description"
      else if s.providerState.isSet then some "provider_state"
      else if s.noState then some "no_state"
      else .none := by
  unfold active
  cases s.description.isSet
  · cases s.providerState.isSet
    · cases s.noState <;> rfl
    · rfl
  · rfl

/-- **The selectors are asked in the order in which they are listed.** -/
theorem accepts_iff_chosen : s.accepts item = true ↔ s.Chosen item := by
  unfold accepts Chosen
  rw [head?_active]
  by_cases hdescription : s.description.isSet = true
  · simp [hdescription, Asks, accepts_iff_of_isSet]
  · by_cases hstate : s.providerState.isSet = true
    · simp [hdescription, hstate, Asks, declaresState, accepts_iff_of_isSet]
    · cases hno : s.noState <;> simp [hdescription, hstate, Asks]

instance (s : Selectors) : DecidablePred (s.Chosen (α := α)) :=
  fun _ => decidable_of_iff _ accepts_iff_chosen

/-- What a selector asks depends on its own value only. -/
theorem asks_congr {name : String} (h : s'.valueOf name = s.valueOf name) :
    s'.Asks name item ↔ s.Asks name item := by
  unfold valueOf at h
  split at h
  case h_1 =>
    show s'.description = _ ↔ s.description = _
    rw [Option.some.inj h]
  case h_2 =>
    show (∃ state ∈ _, s'.providerState = _) ↔ ∃ state ∈ _, s.providerState = _
    rw [Option.some.inj h]
  case h_3 hdescription hstate =>
    -- the other names ask nothing of texts
    unfold Asks
    split
    · exact absurd rfl hdescription
    · exact absurd rfl hstate
    · rfl
    · rfl

/-- **What is chosen depends on the first active selector only**, and on its
value. -/
theorem chosen_congr (hfirst : s'.active.head? = s.active.head?)
    (hvalue : ∀ name ∈ s.active.head?, s'.valueOf name = s.valueOf name) :
    s'.Chosen item ↔ s.Chosen item := by
  unfold Chosen
  rw [hfirst]
  exact forall₂_congr fun name hname => asks_congr (hvalue name hname)

theorem select_eq_filter (s : Selectors) (items : List α) :
    (s.select items).1 = items.filter (s.Chosen ·) := by
  refine List.filter_congr fun item _ => ?_
  rw [Bool.eq_iff_iff, accepts_iff_chosen, decide_eq_true_iff]

/-- **What selectors select.** The selected items are those that the first active
selector asks for, all of them if none is active, as often as they are there and in
their order; a filter for a whole run selects no others. Selectors with the same
first active one, set to the same, select the same, whatever the ones behind it are
set to. Selecting twice is selecting once, and a list may be selected from part by
part. -/
theorem selected_of_active (s : Selectors) :
    (∀ items : List α, (s.select items).1 = items.filter (s.Chosen ·)
        ∧ (s.selectForRun items).1 = items.filter (s.Chosen ·))
      ∧ (∀ s' : Selectors, s'.active.head? = s.active.head? →
        (∀ name ∈ s.active.head?, s'.valueOf name = s.valueOf name) →
          ∀ items : List α, (s'.select items).1 = (s.select items).1)
      ∧ (∀ items : List α, (s.select (s.select items).1).1 = (s.select items).1)
      ∧ ∀ xs ys : List α, (s.select (xs ++ ys)).1 = (s.select xs).1 ++ (s.select ys).1 := by
  refine ⟨fun items => ⟨select_eq_filter s items, select_eq_filter s items⟩,
    fun s' hfirst hvalue items => ?_, fun items => ?_, fun xs ys => List.filter_append xs ys⟩
  · rw [select_eq_filter, select_eq_filter]
    exact List.filter_congr fun item _ => decide_eq_decide.mpr (chosen_congr hfirst hvalue)
  · exact List.filter_eq_self.mpr fun item hitem => (List.mem_filter.mp hitem).2

/-- The description decides, whatever state is asked for besides. -/
example : (Selectors.select ⟨.exactly "paid", .exactly "s", true⟩
    [(⟨"paid", .null, .none, []⟩ : Message), ⟨"ordered", .null, .none, []⟩]).1.map Message.description
      = ["paid"] := by
  decide +kernel

/-! ## The parts of a contract -/

/-- The selector for what declares no state, and no other. -/
def stateless : Selectors := ⟨.anything, .anything, true⟩

/-- The selector for a state, and no other. -/
def ofState (name : String) : Selectors := ⟨.anything, .ofText (some name), false⟩

/-- **An item that declares states and names none of them.** -/
def Unnamed (item : α) : Prop :=
  Selectable.states item ≠ [] ∧ ∀ state ∈ Selectable.states item, state.description = ""

/-- The first part is what declares no state. -/
theorem accepts_stateless_iff : stateless.accepts item = true ↔ Selectable.states item = [] :=
  List.isEmpty_iff

/-- The part of a state is what declares it. -/
theorem accepts_ofState_iff {name : String} (h : name ≠ "") :
    (ofState name).accepts item = true
      ↔ ∃ state ∈ Selectable.states item, state.description = name := by
  have hselector : ofState name = ⟨.anything, .exactly name, false⟩ := by
    rw [ofState, Criterion.ofText, if_neg h]
  rw [hselector]
  show ((Selectable.states item).any fun state => name == state.description) = true ↔ _
  rw [List.any_eq_true]
  exact exists_congr fun state => and_congr_right fun _ => beq_iff_eq.trans eq_comm

/-- **An item is in no part** if it names none of the states that it declares. -/
theorem unnamed_iff : Unnamed item
    ↔ stateless.accepts item = false ∧ ∀ name, name ≠ "" → (ofState name).accepts item = false := by
  simp only [← Bool.not_eq_true, accepts_stateless_iff]
  refine and_congr_right fun _ => ⟨fun hunnamed name hname haccepts => ?_, fun hall state hstate => ?_⟩
  · obtain ⟨state, hstate, rfl⟩ := (accepts_ofState_iff hname).mp haccepts
    exact hname (hunnamed state hstate)
  · by_cases hname : state.description = ""
    · exact hname
    · exact absurd ((accepts_ofState_iff hname).mpr ⟨state, hstate, rfl⟩) (hall _ hname)

/-- The first part and those of the states are complementary on an item exactly if
it is not in neither. -/
theorem complementary_iff :
    (stateless.accepts item = true ↔ ¬ ∃ name, name ≠ "" ∧ (ofState name).accepts item = true)
      ↔ ¬ Unnamed item := by
  rw [unnamed_iff]
  constructor
  · rintro h ⟨hstateless, hstates⟩
    have hnone : ¬ ∃ name, name ≠ "" ∧ (ofState name).accepts item = true := by
      rintro ⟨name, hname, haccepts⟩
      rw [hstates name hname] at haccepts
      cases haccepts
    rw [h.mpr hnone] at hstateless
    cases hstateless
  · refine fun h => ⟨fun hstateless => ?_, fun hnone => ?_⟩
    · -- what declares no state declares none with a name
      rintro ⟨name, hname, haccepts⟩
      obtain ⟨state, hstate, -⟩ := (accepts_ofState_iff hname).mp haccepts
      rw [accepts_stateless_iff.mp hstateless] at hstate
      cases hstate
    · cases hstateless : stateless.accepts item with
      | true => rfl
      | false =>
        refine absurd ⟨hstateless, fun name hname => ?_⟩ h
        rw [← Bool.not_eq_true]
        exact fun haccepts => hnone ⟨name, hname, haccepts⟩

/-- The names of the states that items declare, as far as they have one. -/
def stateNames (items : List α) : List String :=
  (items.flatMap fun item => (Selectable.states item).map ProviderState.description).filter (· != "")

/-- **The runs that a verification is split into**: one for what declares no state
and one for each name of a state. -/
def runs (items : List α) : List Selectors := stateless :: (stateNames items).map ofState

theorem exists_run_iff (hitem : item ∈ items) :
    (∃ s ∈ runs items, item ∈ (s.selectForRun items).1) ↔ ¬ Unnamed item := by
  have hselected (s : Selectors) : item ∈ (s.selectForRun items).1 ↔ s.accepts item = true :=
    List.mem_filter.trans (and_iff_right hitem)
  simp only [hselected, unnamed_iff, runs, List.mem_cons, exists_eq_or_imp]
  constructor
  · rintro (hstateless | ⟨s, hs, haccepts⟩) ⟨hno, hnames⟩
    · rw [hno] at hstateless
      cases hstateless
    · obtain ⟨name, hname, rfl⟩ := List.mem_map.mp hs
      have hne : name ≠ "" := bne_iff_ne.mp (List.mem_filter.mp hname).2
      rw [hnames name hne] at haccepts
      cases haccepts
  · intro h
    by_cases hstateless : stateless.accepts item = true
    · exact .inl hstateless
    · -- some name is accepted, and it is among those declared
      have hsome : ¬ ∀ name, name ≠ "" → (ofState name).accepts item = false :=
        fun hnames => h ⟨Bool.not_eq_true _ ▸ hstateless, hnames⟩
      simp only [Classical.not_forall, Bool.not_eq_false] at hsome
      obtain ⟨name, hne, haccepts⟩ := hsome
      refine .inr ⟨ofState name, List.mem_map_of_mem (List.mem_filter.mpr ⟨?_, bne_iff_ne.mpr hne⟩),
        haccepts⟩
      obtain ⟨state, hstate, rfl⟩ := (accepts_ofState_iff hne).mp haccepts
      exact List.mem_flatMap.mpr ⟨item, hitem, List.mem_map_of_mem hstate⟩

end Selectors

/-! ## The earlier form -/

theorem Key.beq_str_iff {k : Key} {s : String} : (k == .str s) = true ↔ k = .str s := by
  show same k (.str s) = true ↔ _
  cases k <;> simp [same, int?]

theorem Key.str_beq_iff {k : Key} {s : String} : (.str s == k) = true ↔ k = .str s := by
  show same (.str s) k = true ↔ _
  cases k with
  | str t => exact beq_iff_eq.trans ⟨fun h => h ▸ rfl, fun h => by cases h; rfl⟩
  | _ => simp [same, int?]

theorem Entries.get?_put_str (es : List (Key × Value)) (name : String) (v : Value) :
    Entries.get? (Entries.put es (.str name) v) (.str name) = some v := by
  induction es with
  | nil => rw [Entries.put_nil, Entries.get?_cons, if_pos (Key.str_beq_iff.mpr rfl)]
  | cons e es ih =>
    rw [Entries.put]
    by_cases hk : e.1 = .str name
    · rw [if_pos (Key.beq_str_iff.mpr hk), Entries.get?_cons, hk, if_pos (Key.str_beq_iff.mpr rfl)]
    · rw [if_neg (hk ∘ Key.beq_str_iff.mp), Entries.get?_cons, if_neg (hk ∘ Key.str_beq_iff.mp)]
      exact ih

open Validation

namespace ProviderState

/-- The description of a state that is checked out of its name. -/
theorem description_of_check {name : Json} {state : ProviderState}
    (hcheck : ProviderState.check (.record [("name", .ofJson name)]) = .passed state) :
    name = .str state.description := by
  obtain ⟨_, _, hparts, -, rfl⟩ := Checked.seq_eq_passed_iff.mp hcheck
  obtain ⟨description, hdescription, rfl⟩ := Checked.map_eq_passed_iff.mp hparts
  have htext : text (.ofJson name) = .passed description := by
    simpa [required, named?, Entries.get?_cons, Key.str_beq_iff] using hdescription
  cases name with
  | str s =>
    cases htext
    rfl
  | _ => cases htext

end ProviderState

namespace Interaction

/-- The states of an interaction, where there is something under their key. -/
theorem states_of_check {v w : Value} {es : List (Key × Value)} {i : Interaction}
    (hcheck : check v = .passed i) (hupgrade : upgradeState v = .dict es)
    (hstates : Entries.get? es (.str "providerStates") = some w) :
    tuple ProviderState.check w = .passed i.providerStates := by
  rw [check, hupgrade, record] at hcheck
  obtain ⟨_, _, hrequest, -, rfl⟩ := Checked.seq_eq_passed_iff.mp hcheck
  obtain ⟨_, _, hparts, -, rfl⟩ := Checked.seq_eq_passed_iff.mp hrequest
  obtain ⟨_, states, hdescription, hpassed, rfl⟩ := Checked.seq_eq_passed_iff.mp hparts
  obtain ⟨_, -, rfl⟩ := Checked.map_eq_passed_iff.mp hdescription
  simpa [withDefault, named?, hstates] using hpassed

/-- **The earlier form names its states.** An interaction with a single state, in
place of a list of states, is in some part. -/
theorem not_unnamed_of_single {fs : List (String × Json)} {i : Interaction}
    (hcheck : check (.ofJson (.obj fs)) = .passed i)
    (hsingle : (Entries.get? fs "providerState").isSome = true)
    (hlist : Entries.get? fs "providerStates" = none) : ¬ Selectors.Unnamed i := by
  obtain ⟨single, hsingle⟩ := Option.isSome_iff_exists.mp hsingle
  have hupgrade : upgradeState (.ofJson (.obj fs)) = .dict (Entries.put
      (Entries.erase (Value.ofJsonFields fs) (.str "providerState")) (.str "providerStates")
      (.list (if (Value.ofJson single).isTruthy then [.record [("name", .ofJson single)]]
        else []))) := by
    simp [Value.ofJson, upgradeState, get?_ofJsonFields, hsingle, Entries.has, hlist]
  have hstates := states_of_check hcheck hupgrade (Entries.get?_put_str _ _ _)
  rintro ⟨hsome, hunnamed⟩
  by_cases htruthy : (Value.ofJson single).isTruthy = true
  · -- the only state has the text for its name, and that is not empty
    rw [if_pos htruthy] at hstates
    obtain ⟨_, _, hstates, hrest, hcons⟩ := Checked.seq_eq_passed_iff.mp hstates
    obtain ⟨state, hstate, rfl⟩ := Checked.map_eq_passed_iff.mp hstates
    rw [Checked.within_eq_passed_iff] at hstate
    have hmem : state ∈ i.providerStates := hcons ▸ List.mem_cons_self
    have hname := hunnamed state hmem
    rw [ProviderState.description_of_check hstate, hname] at htruthy
    cases htruthy
  · rw [if_neg htruthy] at hstates
    exact hsome (Checked.passed.inj hstates).symm

end Interaction

/-! ## What is in no part -/

namespace Selectors

/-- **What the parts of a contract leave out.** An interaction is selected as one
that declares no state exactly if it is selected for no name of a state, unless it
declares states and names none of them. So the runs for the names and the one for
no state together replay every interaction exactly if there is no such one among
them, and an interaction in the earlier form, with a single state, never is. -/
theorem covered_iff (interactions : List Interaction) :
    (∀ i ∈ interactions, ((i ∈ (stateless.select interactions).1
        ↔ ¬ ∃ name, name ≠ "" ∧ i ∈ ((ofState name).select interactions).1) ↔ ¬ Unnamed i))
      ∧ ((∀ i ∈ interactions, ∃ s ∈ runs interactions, i ∈ (s.selectForRun interactions).1)
        ↔ ∀ i ∈ interactions, ¬ Unnamed i)
      ∧ ∀ (fs : List (String × Json)) (i : Interaction),
        Interaction.check (.ofJson (.obj fs)) = .passed i →
        (Entries.get? fs "providerState").isSome = true →
        Entries.get? fs "providerStates" = .none → ¬ Unnamed i := by
  refine ⟨fun i hi => ?_, forall₂_congr fun i hi => exists_run_iff hi,
    fun fs i hcheck => Interaction.not_unnamed_of_single hcheck⟩
  have hselected (s : Selectors) : i ∈ (s.select interactions).1 ↔ s.accepts i = true :=
    List.mem_filter.trans (and_iff_right hi)
  simp only [hselected]
  exact complementary_iff

/-- A file with a contract whose interaction declares a state with an empty name. -/
def emptyName : FileSystem :=
  { nodes := [(["c.json"], .file (.text ("\x7b\"consumer\":\x7b\"name\":\"web\"\x7d,"
    ++ "\"provider\":\x7b\"name\":\"user-service\"\x7d,"
    ++ "\"interactions\":[\x7b\"description\":\"e\",\"providerStates\":[\x7b\"name\":\"\"\x7d]\x7d]\x7d")))] }

/-- **An interaction that is in no part.** The contract loads, and its interaction
is selected neither as one that declares no state nor for any name. -/
theorem unreachable_loaded : ∃ c i, Contract.load "c.json" emptyName [] = (.ok c, [])
    ∧ c.interactions = [i] ∧ (stateless.select c.interactions).1 = []
    ∧ ∀ name, name ≠ "" → ((ofState name).select c.interactions).1 = [] := by
  have hstates : (Contract.load "c.json" emptyName []).1.toOption.map
      (fun c => c.interactions.map Interaction.stateNames) = some [[""]] := by decide +kernel
  cases hload : (Contract.load "c.json" emptyName []).1 with
  | error e =>
    rw [hload] at hstates
    cases hstates
  | ok c =>
    rw [hload] at hstates
    obtain ⟨i, hi, hnames⟩ := List.map_eq_singleton_iff.mp (Option.some.inj hstates)
    obtain ⟨state, hstate, hname⟩ := List.map_eq_singleton_iff.mp hnames
    have hunnamed : Unnamed i := by
      show i.providerStates ≠ [] ∧ ∀ s ∈ i.providerStates, s.description = ""
      simp [hstate, hname]
    obtain ⟨hstateless, hstates⟩ := unnamed_iff.mp hunnamed
    refine ⟨c, i, Prod.ext hload (Contract.asked_load (by decide) _ _), hi, ?_, fun name hne => ?_⟩
    · rw [hi]
      simp [select, hstateless]
    · rw [hi]
      simp [select, hstates name hne]

end Selectors

end Covenant
