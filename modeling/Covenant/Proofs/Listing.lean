import Covenant.CommandLine

/-!
# The listing and the environment

The listing of a contract is meant to show what a verification would replay in
the same environment. Two functions read the selecting variables, though:
`CommandLine.selectors` for the listing, `Selectors.ofEnvironment` for a
verification. They differ on a text that is blank without being empty: for a
verification that is no text at all, for the listing it is the text to look for.

`CommandLine.listing_of_run` says when this shows. Where `ReadAlike` holds of the
environment, the listing shows what a verification selects, whatever the
contract; where it does not, there are interactions of which the two select
differently, and `CommandLine.interaction_lost` is such a listing.
-/

namespace Covenant

/-- For a file, the web is not asked. -/
theorem Contract.asked_load {location : String} (h : isUrl location = false) (fs : FileSystem)
    (web : Web) : (load location fs web).2 = [] := by
  unfold load
  rw [if_neg (by simp [h])]
  cases readText fs (filePath location) <;> rfl

namespace CommandLine

/-- The listing that is given no selector. -/
def bare : ListingOptions := ⟨none, none, none⟩

/-- Whether a text is there and has characters, but only blank ones. -/
def isOnlyBlanks : Option String → Bool
  | some s => s != "" && (nonBlank (some s)).isNone
  | none => false

/-- **What the listing and a verification read alike**: a description that has
something to it, or else neither a description nor a state of blanks. A state
does not count where there is a description. -/
def ReadAlike (env : Environment) : Prop :=
  isOnlyBlanks (env.get? Selectors.descriptionVariable) = false
    ∧ ((nonBlank (env.get? Selectors.descriptionVariable)).isSome = true
      ∨ isOnlyBlanks (env.get? Selectors.stateVariable) = false)

/-! ## One variable -/

/-- An empty variable switches nothing on, and so it may count as none. -/
@[simp] theorem isTruthyWord_given (o : Option String) :
    isTruthyWord (given o) = isTruthyWord o := by
  cases o with
  | none => rfl
  | some s =>
    unfold given
    dsimp only
    split
    case isTrue hempty =>
      subst hempty
      decide
    case isFalse => rfl

/-- The criterion of a variable that is only blanks is to be these blanks. -/
theorem ofText_given_of_onlyBlanks {o : Option String} (h : isOnlyBlanks o = true) :
    ∃ s, s ≠ "" ∧ Criterion.ofText (given o) = .exactly s
      ∧ Criterion.ofText (nonBlank o) = .anything := by
  cases o with
  | none => cases h
  | some s =>
    obtain ⟨hne, hblank⟩ := Bool.and_eq_true_iff.mp h
    have hne : s ≠ "" := by simpa using hne
    refine ⟨s, hne, ?_, ?_⟩
    · simp [given, Criterion.ofText, hne]
    · rw [Option.isNone_iff_eq_none.mp hblank]
      rfl

/-- Every other variable sets the same criterion for both. -/
theorem ofText_given {o : Option String} (h : isOnlyBlanks o = false) :
    Criterion.ofText (given o) = Criterion.ofText (nonBlank o) := by
  cases o with
  | none => rfl
  | some s =>
    by_cases hempty : s = ""
    · subst hempty
      decide
    · have hsome : nonBlank (some s) = some s := by
        unfold nonBlank
        dsimp only
        split
        case isTrue hblank => simp [isOnlyBlanks, nonBlank, hempty, hblank] at h
        case isFalse => rfl
      rw [hsome, given, if_neg hempty]

/-- A text that is not blank is a criterion. -/
theorem isSet_ofText_nonBlank (o : Option String) :
    (Criterion.ofText (nonBlank o)).isSet = (nonBlank o).isSome := by
  cases o with
  | none => rfl
  | some s =>
    unfold nonBlank
    dsimp only
    split
    case isTrue => rfl
    case isFalse hblank =>
      -- the empty text is blank
      have hne : s ≠ "" := fun hempty => hblank (by subst hempty; decide)
      rw [Criterion.ofText, if_neg hne]
      rfl

/-! ## Both readings -/

/-- The selectors of a listing without options, variable by variable. -/
theorem selectors_bare (env : Environment) :
    selectors bare env = ⟨.ofText (given (env.get? Selectors.descriptionVariable)),
      .ofText (given (env.get? Selectors.stateVariable)),
      isTruthyWord (env.get? Selectors.noStateVariable)⟩ := by
  rw [← isTruthyWord_given (env.get? Selectors.noStateVariable)]
  rfl

/-- **What is read alike selects alike.** -/
theorem accepts_of_readAlike {env : Environment} (h : ReadAlike env) :
    ((selectors bare env).accepts : Interaction → Bool)
      = (Selectors.ofEnvironment env).accepts := by
  obtain ⟨hdescription, hstate⟩ := h
  funext i
  rw [selectors_bare, ofText_given hdescription]
  obtain hset | hstate := hstate
  · -- the description decides before the state is looked at
    rw [← isSet_ofText_nonBlank] at hset
    simp only [Selectors.accepts, Selectors.ofEnvironment, hset, if_true]
  · rw [ofText_given hstate]
    rfl

/-- An interaction without a description, in some states. -/
def undescribed (states : List ProviderState) : Interaction :=
  ⟨"", states, .default, .default⟩

/-- Whatever else is asked for, something without a description meets it. -/
theorem exists_accepted (state : Option String) (noState : Bool) :
    ∃ states, Selectors.accepts ⟨.anything, .ofText state, noState⟩ (undescribed states)
      = true := by
  cases state with
  | none => exact ⟨[], by cases noState <;> rfl⟩
  | some s =>
    by_cases hempty : s = ""
    · subst hempty
      exact ⟨[], by cases noState <;> rfl⟩
    · refine ⟨[⟨s, .null⟩], ?_⟩
      simp [Selectors.accepts, Criterion.ofText, hempty, Criterion.isSet, declaresState,
        Criterion.accepts, undescribed, Selectable.states]

/-- **What is not read alike selects differently**: some interaction is accepted
for a verification and not listed. -/
theorem exists_lost {env : Environment} (h : ¬ ReadAlike env) :
    ∃ i : Interaction, (Selectors.ofEnvironment env).accepts i = true
      ∧ (selectors bare env).accepts i = false := by
  cases hdescription : isOnlyBlanks (env.get? Selectors.descriptionVariable) with
  | true =>
    obtain ⟨s, hne, hlisted, hreplayed⟩ := ofText_given_of_onlyBlanks hdescription
    obtain ⟨states, haccepted⟩ := exists_accepted
      (nonBlank (env.get? Selectors.stateVariable)) (isTruthyWord (env.get? Selectors.noStateVariable))
    refine ⟨undescribed states, ?_, ?_⟩
    · rw [Selectors.ofEnvironment, hreplayed]
      exact haccepted
    · rw [selectors_bare, hlisted]
      simp [Selectors.accepts, Criterion.isSet, Criterion.accepts, Selectable.description,
        undescribed, hne]
  | false =>
    -- the description is not set, and the state is only blanks
    have hparts : (nonBlank (env.get? Selectors.descriptionVariable)).isSome = false
        ∧ isOnlyBlanks (env.get? Selectors.stateVariable) = true := by
      simpa [ReadAlike, hdescription] using h
    obtain ⟨hunset, hstate⟩ := hparts
    rw [← isSet_ofText_nonBlank] at hunset
    obtain ⟨s, -, hlisted, hreplayed⟩ := ofText_given_of_onlyBlanks hstate
    refine ⟨undescribed [], ?_, ?_⟩
    · rw [Selectors.ofEnvironment, hreplayed, Selectors.accepts, hunset]
      cases isTruthyWord (env.get? Selectors.noStateVariable) <;> rfl
    · rw [selectors_bare, ofText_given hdescription, hlisted, Selectors.accepts, hunset]
      rfl

/-- **When the listing shows what a verification replays.** A command line that
asks for the listing of a contract that loads, and gives no selectors, ends well.
Where the environment is read alike, it writes the number and the lines of
exactly the interactions that a verification selects in that environment; and
the two select the same of all interactions only there. -/
theorem listing_of_run {args : List String} {location : String} {env : Environment}
    {fs : FileSystem} {web : Web} {c : Contract} {asked : List String}
    (hread : Command.read args = .list location bare)
    (hload : Contract.load location fs web = (.ok c, asked)) :
    (∃ output log, run (Command.read args) env fs web = ⟨0, output, "", log, asked, none⟩
      ∧ (ReadAlike env → output
        = written (listing c ((Selectors.ofEnvironment env).select c.interactions).1)))
      ∧ ((∀ items : List Interaction, ((selectors bare env).select items).1
          = ((Selectors.ofEnvironment env).select items).1) ↔ ReadAlike env) := by
  have hrun : run (Command.read args) env fs web
      = ⟨0, written (listing c ((selectors bare env).select c.interactions).1), "",
        ((selectors bare env).select c.interactions).2, asked, none⟩ := by
    rw [hread, run, hload]
  have hselect : ReadAlike env → ∀ items : List Interaction, ((selectors bare env).select items).1
      = ((Selectors.ofEnvironment env).select items).1 := fun halike items =>
    congrArg (items.filter ·) (accepts_of_readAlike halike)
  refine ⟨⟨_, _, hrun, fun halike => by rw [hselect halike]⟩, fun hall => ?_, hselect⟩
  by_cases halike : ReadAlike env
  · exact halike
  · obtain ⟨i, haccepted, hlost⟩ := exists_lost halike
    have hone := hall [i]
    simp [Selectors.select, haccepted, hlost] at hone

/-- A file with a contract of one interaction. -/
def oneInteraction : FileSystem :=
  { nodes := [(["c.json"], .file (.text ("\x7b\"consumer\":\x7b\"name\":\"web\"\x7d,"
    ++ "\"provider\":\x7b\"name\":\"user-service\"\x7d,"
    ++ "\"interactions\":[\x7b\"description\":\"e\"\x7d]\x7d")))] }

/-- An environment that selects a state and says nothing else. -/
def asksState : Environment := [(Selectors.stateVariable, "s"), (Selectors.noStateVariable, " ")]

/-- The listing of that contract in an environment that is read alike. -/
theorem listing_of_run_oneInteraction :
    Command.read ["interactions", "c.json"] = .list "c.json" bare
      ∧ ∃ c, Contract.load "c.json" oneInteraction [] = (.ok c, [])
        ∧ (run (Command.read ["interactions", "c.json"]) asksState oneInteraction []).output
          = written (listing c ((Selectors.ofEnvironment asksState).select c.interactions).1) := by
  have hread : Command.read ["interactions", "c.json"] = .list "c.json" bare := by rfl
  cases hload : (Contract.load "c.json" oneInteraction []).1 with
  | error e =>
    have hloads : (Contract.load "c.json" oneInteraction []).1.toBool = true := by decide +kernel
    rw [hload] at hloads
    cases hloads
  | ok c =>
    have hloaded : Contract.load "c.json" oneInteraction [] = (.ok c, []) :=
      Prod.ext hload (Contract.asked_load (by decide) _ _)
    obtain ⟨⟨output, log, hrun, houtput⟩, -⟩ := @listing_of_run _ _ asksState _ _ _ _ hread hloaded
    refine ⟨hread, c, hloaded, ?_⟩
    rw [hrun]
    exact houtput ⟨by decide +kernel, .inr (by decide +kernel)⟩

/-- **A listing that loses an interaction.** Where the description is a blank, a
verification selects the interaction of the contract, and the listing shows that
there is none. -/
theorem interaction_lost :
    (run (Command.read ["interactions", "c.json"]) [(Selectors.descriptionVariable, " ")]
      oneInteraction []).output = "web -> user-service: 0 of 1 interaction(s) selected\n"
      ∧ ∃ c, Contract.load "c.json" oneInteraction [] = (.ok c, [])
        ∧ written (listing c ((Selectors.ofEnvironment
            [(Selectors.descriptionVariable, " ")]).select c.interactions).1)
          = "web -> user-service: 1 of 1 interaction(s) selected\n  • e\n" := by
  have hselected : (Contract.load "c.json" oneInteraction []).1.toOption.map (fun c =>
      written (listing c ((Selectors.ofEnvironment
        [(Selectors.descriptionVariable, " ")]).select c.interactions).1))
      = some "web -> user-service: 1 of 1 interaction(s) selected\n  • e\n" := by decide +kernel
  refine ⟨by decide +kernel, ?_⟩
  cases hload : (Contract.load "c.json" oneInteraction []).1 with
  | error e =>
    rw [hload] at hselected
    cases hselected
  | ok c =>
    rw [hload] at hselected
    exact ⟨c, Prod.ext hload (Contract.asked_load (by decide) _ _), Option.some.inj hselected⟩

end CommandLine

end Covenant
