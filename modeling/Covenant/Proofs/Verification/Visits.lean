import Mathlib.Data.List.Forall2
import Covenant.Verification.Run

/-!
# What a verification visits

A verification is told what it does by its collaborators: handlers say whether
a state could be set up, and the replayer says what failed. So its course is a
list of **visits**, one for each interaction that was reached, and a visit is
the interaction with the answers of its handlers and of the replayer. What is
called, and what comes out, can both be read off the visits.

`Verifier.recorded` has handlers and replayer note every call, with its
arguments and its answer, in a list beside their state. Recording changes
nothing about a verification (`Verified.noted`), and the calls are those of the
visits.

The contracts are gone through one after the other, so the statement about
contracts is one about a list of them that loads, with any locations behind it
(`verifyContracts_append`). Both ends of a verification are cases of it: no
location is left, or the next one cannot be loaded (`visits_of_run`).
-/

namespace Covenant

/-- **A call in a verification**, with what is passed on and the answer. -/
inductive VerifyCall where
  /-- The handler of a state is called with parameters. -/
  | handled (name : String) (parameters : Value) (answer : Except Failure Unit)
  /-- The replayer is called with an interaction and an address. -/
  | replayed (i : Interaction) (baseUrl : String) (answer : Except Failure (List Value))

variable {σ α : Type}

/-- A part of a verification whose collaborators have noted calls beside their
state. -/
def Verified.noted (p : Verified σ α) (calls : List VerifyCall) :
    Verified (σ × List VerifyCall) α :=
  ⟨p.outcome, p.events, (p.state, calls)⟩

/-- A part of a verification that comes after some outcomes and events. -/
def Verified.after (outcomes : List ReplayOutcome) (events : List VerifyEvent)
    (p : Verified σ (List ReplayOutcome)) : Verified σ (List ReplayOutcome) :=
  ⟨p.outcome.map (outcomes ++ ·), events ++ p.events, p.state⟩

@[simp] theorem Verified.after_nil (p : Verified σ (List ReplayOutcome)) : p.after [] [] = p := by
  obtain ⟨outcome, events, st⟩ := p
  cases outcome <;> rfl

/-- Outcomes and events before others come before them. -/
theorem Verified.after_after (os os' : List ReplayOutcome) (es es' : List VerifyEvent)
    (p : Verified σ (List ReplayOutcome)) :
    (p.after os' es').after os es = p.after (os ++ os') (es ++ es') := by
  obtain ⟨outcome, events, st⟩ := p
  cases outcome <;> simp [Verified.after, Except.map]

namespace Verifier

/-- **A handler that notes the calls to it**, and does nothing else besides. -/
def recordedHandler (name : String) (handler : StateHandler σ) :
    StateHandler (σ × List VerifyCall) :=
  fun parameters st =>
    let called := handler parameters st.1
    (called.1, called.2, st.2 ++ [.handled name parameters called.1])

/-- **A verifier whose handlers and replayer note the calls to them.** -/
def recorded (v : Verifier σ) : Verifier (σ × List VerifyCall) where
  options := v.options
  handlers := v.handlers.map fun e => (e.1, recordedHandler e.1 e.2)
  replay i baseUrl st :=
    let called := v.replay i baseUrl st.1
    (called.1, called.2, st.2 ++ [.replayed i baseUrl called.1])

theorem get?_recordedHandlers (handlers : Entries String (StateHandler σ)) (name : String) :
    Entries.get? (handlers.map fun e => (e.1, recordedHandler e.1 e.2)) name
      = (handlers.get? name).map (recordedHandler name) := by
  induction handlers with
  | nil => rfl
  | cons e es ih =>
    rw [List.map_cons, Entries.get?_cons, Entries.get?_cons, ih]
    by_cases hname : name = e.1
    · simp [hname]
    · simp [hname]

/-- **Handlers and a replayer that end nothing from outside**: a handler
returns or fails in an ordinary way, and the replayer tells what failed. -/
structure Ordinary (v : Verifier σ) : Prop where
  /-- The failures of handlers are ordinary. -/
  handlers : ∀ name handler, v.handlers.get? name = some handler →
    ∀ parameters st e, (handler parameters st).1 = .error e → e.isOrdinary = true
  /-- The replayer returns. -/
  replay : ∀ i baseUrl st, ∃ failures, (v.replay i baseUrl st).1 = .ok failures

/-- The interactions of a contract that a verification selects. -/
def selected (v : Verifier σ) (c : Contract) : List Interaction :=
  (v.options.selectors.select c.interactions).1

end Verifier

/-! ## Visits -/

/-- **A visit of an interaction.** -/
structure Visit where
  /-- The location of the contract. -/
  url : String
  /-- The interaction. -/
  interaction : Interaction
  /-- The states that were set up, each with the answer of its handler. -/
  setup : List (ProviderState × Except Failure Unit)
  /-- What the replayer told, if it was asked. -/
  told : Option (List Value)

/-- What the failed handlers add to the failures of an interaction. -/
def setupFailures (setup : List (ProviderState × Except Failure Unit)) : List Value :=
  setup.filterMap fun
    | (_, .ok ()) => none
    | (s, .error e) => some (.str (Verifier.handlerFailure s.description e))

theorem setupFailures_cons (a : ProviderState × Except Failure Unit)
    (setup : List (ProviderState × Except Failure Unit)) :
    setupFailures (a :: setup) = setupFailures [a] ++ setupFailures setup := by
  unfold setupFailures
  rw [← List.filterMap_append, List.singleton_append]

/-- The calls that set up states. -/
def setupCalls (setup : List (ProviderState × Except Failure Unit)) : List VerifyCall :=
  setup.map fun a => .handled a.1.description a.1.parameters a.2

namespace Visit

/-- **What failed in a visit**: what the handlers failed with, or else what the
replayer told. -/
def failures (x : Visit) : List Value :=
  match setupFailures x.setup with
  | [] => x.told.getD []
  | fs => fs

/-- The outcome of a visit. -/
def outcome (x : Visit) : ReplayOutcome := ⟨x.url, x.interaction.description, x.failures⟩

/-- **The calls of a visit**: the handlers first, then the replayer if it was
asked. -/
def calls (v : Verifier σ) (x : Visit) : List VerifyCall :=
  setupCalls x.setup
    ++ (x.told.map fun fs => .replayed x.interaction v.options.baseUrl (.ok fs)).toList

/-- **A visit that leaves nothing out.** -/
structure Complete (v : Verifier σ) (x : Visit) : Prop where
  /-- The declared states with a handler were set up, in order, each once. -/
  setup : x.setup.map Prod.fst
    = x.interaction.providerStates.filter fun s => v.handlers.has s.description
  /-- The replayer was asked exactly if no handler failed. -/
  told : x.told.isSome = true ↔ ∀ a ∈ x.setup, a.2 = .ok ()

end Visit

/-- **The visits that contracts come to**: all selected interactions, contract
by contract, in the order of each. -/
structure Visited (v : Verifier σ) (contracts : List (String × Contract)) (visits : List Visit) :
    Prop where
  /-- The selected interactions are visited, in order. -/
  order : visits.map (fun x => (x.url, x.interaction))
    = contracts.flatMap fun c => (v.selected c.2).map fun i => (c.1, i)
  /-- Each visit is complete. -/
  complete : ∀ x ∈ visits, x.Complete v

theorem setupFailures_eq_nil_iff {setup : List (ProviderState × Except Failure Unit)} :
    setupFailures setup = [] ↔ ∀ a ∈ setup, a.2 = .ok () := by
  unfold setupFailures
  rw [List.filterMap_eq_nil_iff]
  refine forall₂_congr fun a _ => ?_
  obtain ⟨s, answer⟩ := a
  cases answer with
  | ok u => simp
  | error e => simp

namespace Verifier

section Course

variable {v : Verifier σ}

theorem setupStates_cons_of_none {s : ProviderState} (hget : v.handlers.get? s.description = none)
    (states : List ProviderState) (st : σ) :
    v.setupStates (s :: states) st
      = ⟨(v.setupStates states st).outcome,
        told .warning ("No state handler found for '" ++ s.description ++ "', ignoring")
          :: (v.setupStates states st).events,
        (v.setupStates states st).state⟩ := by
  rw [setupStates, setupState, hget]
  dsimp only
  cases (v.setupStates states st).outcome <;> rfl

/-- The words about a failed handler are not left out for being none. -/
theorem addFailure_handlerFailure (name : String) (e : Failure) (failures : List Value) :
    addFailure (some (handlerFailure name e)) failures
      = .str (handlerFailure name e) :: failures := by
  have hwords : handlerFailure name e ≠ "" := by
    unfold handlerFailure
    simp only [ne_eq, String.append_eq_empty_iff, not_and]
    intro h
    simp at h
  unfold addFailure
  dsimp only
  rw [if_neg hwords]

/-- **Setting up a state that has a handler.** The handler is called, and what its
answer adds comes before what the states behind it add. -/
theorem setupStates_cons_of_handler {s : ProviderState} {handler : StateHandler σ}
    (hget : v.handlers.get? s.description = some handler) (states : List ProviderState) (st : σ)
    (hordinary : ∀ e, (handler s.parameters st).1 = .error e → e.isOrdinary = true) :
    v.setupStates (s :: states) st
      = ⟨(v.setupStates states (handler s.parameters st).2).outcome.map
          (setupFailures [(s, (handler s.parameters st).1)] ++ ·),
        .stateCalled s.description s.parameters
          :: (v.setupStates states (handler s.parameters st).2).events,
        (v.setupStates states (handler s.parameters st).2).state⟩ := by
  rw [setupStates, setupState, hget]
  dsimp only
  cases hcalled : handler s.parameters st with
  | mk answer st' =>
    cases answer with
    | ok u =>
      dsimp only
      cases (v.setupStates states st').outcome <;> rfl
    | error e =>
      dsimp only
      rw [if_pos (hordinary e (by rw [hcalled]))]
      dsimp only
      rw [funext (addFailure_handlerFailure s.description e)]
      rfl

/-- **Setting up states.** Every registered handler is called in turn, and what
the failed ones add is listed. -/
theorem setupStates_recorded (hv : v.Ordinary) (states : List ProviderState) (st : σ)
    (calls : List VerifyCall) :
    ∃ setup, setup.map Prod.fst = states.filter (fun s => v.handlers.has s.description)
      ∧ (v.setupStates states st).outcome = .ok (setupFailures setup)
      ∧ v.recorded.setupStates states (st, calls)
        = (v.setupStates states st).noted (calls ++ setupCalls setup) := by
  induction states generalizing st calls with
  | nil => exact ⟨[], rfl, rfl, by simp [setupStates, Verified.noted, setupCalls]⟩
  | cons s ss ih =>
    have hfound : v.recorded.handlers.get? s.description
        = (v.handlers.get? s.description).map (recordedHandler s.description) :=
      get?_recordedHandlers v.handlers s.description
    cases hget : v.handlers.get? s.description with
    | none =>
      obtain ⟨setup, hstates, houtcome, hrecorded⟩ := ih st calls
      rw [hget] at hfound
      refine ⟨setup, ?_, ?_, ?_⟩
      · rw [hstates, List.filter_cons_of_neg (by simp [Entries.has, hget])]
      · rw [setupStates_cons_of_none hget]
        exact houtcome
      · rw [setupStates_cons_of_none hget, setupStates_cons_of_none hfound, hrecorded]
        rfl
    | some handler =>
      have hhas : v.handlers.has s.description = true := by simp [Entries.has, hget]
      have hordinary := hv.handlers _ _ hget s.parameters st
      rw [hget] at hfound
      rw [setupStates_cons_of_handler hget ss st hordinary,
        setupStates_cons_of_handler hfound ss (st, calls) hordinary]
      dsimp only [recordedHandler]
      obtain ⟨setup, hstates, houtcome, hrecorded⟩ := ih (handler s.parameters st).2
        (calls ++ [.handled s.description s.parameters (handler s.parameters st).1])
      refine ⟨(s, (handler s.parameters st).1) :: setup, ?_, ?_, ?_⟩
      · rw [List.map_cons, hstates, List.filter_cons_of_pos (by exact hhas)]
      · rw [houtcome]
        exact congrArg Except.ok (setupFailures_cons _ setup).symm
      · rw [hrecorded]
        simp [Verified.noted, setupCalls]

/-- **Verifying an interaction** is a visit of it. -/
theorem verifyInteraction_recorded (hv : v.Ordinary) (url : String) (i : Interaction) (st : σ)
    (calls : List VerifyCall) :
    ∃ x : Visit, x.url = url ∧ x.interaction = i ∧ x.Complete v
      ∧ (v.verifyInteraction url i st).outcome = .ok x.outcome
      ∧ v.recorded.verifyInteraction url i (st, calls)
        = (v.verifyInteraction url i st).noted (calls ++ x.calls v) := by
  obtain ⟨setup, hstates, houtcome, hrecorded⟩ :=
    setupStates_recorded hv i.providerStates st calls
  unfold verifyInteraction
  rw [hrecorded]
  dsimp only [Verified.noted]
  rw [houtcome]
  cases hfailures : setupFailures setup with
  | nil =>
    -- every state could be set up, so the replayer is asked
    obtain ⟨fs, hreplay⟩ := hv.replay i v.options.baseUrl (v.setupStates i.providerStates st).state
    refine ⟨⟨url, i, setup, some fs⟩, rfl, rfl, ⟨hstates, ?_⟩, ?_, ?_⟩
    · simpa using setupFailures_eq_nil_iff.mp hfailures
    · dsimp only
      rw [hreplay]
      simp [Visit.outcome, Visit.failures, hfailures, Except.map]
    · simp [recorded, Visit.calls, hreplay]
  | cons f fs =>
    refine ⟨⟨url, i, setup, none⟩, rfl, rfl, ⟨hstates, ?_⟩, ?_, ?_⟩
    · rw [← setupFailures_eq_nil_iff, hfailures]
      simp
    · simp [Visit.outcome, Visit.failures, hfailures]
    · simp [Visit.calls]

/-- Verifying interactions of a contract is a visit of each. -/
theorem verifyInteractions_recorded (hv : v.Ordinary) (url : String) (is : List Interaction)
    (st : σ) (calls : List VerifyCall) :
    ∃ visits : List Visit, visits.map (fun x => (x.url, x.interaction)) = is.map (fun i => (url, i))
      ∧ (∀ x ∈ visits, x.Complete v)
      ∧ (v.verifyInteractions url is st).outcome = .ok (visits.map Visit.outcome)
      ∧ v.recorded.verifyInteractions url is (st, calls)
        = (v.verifyInteractions url is st).noted (calls ++ visits.flatMap (Visit.calls v)) := by
  induction is generalizing st calls with
  | nil => exact ⟨[], rfl, by simp, rfl, by simp [verifyInteractions, Verified.noted]⟩
  | cons i is ih =>
    obtain ⟨x, hurl, hi, hcomplete, houtcome, hrecorded⟩ :=
      verifyInteraction_recorded hv url i st calls
    obtain ⟨visits, horder, hcompletes, houtcomes, hrecordeds⟩ :=
      ih (v.verifyInteraction url i st).state (calls ++ x.calls v)
    refine ⟨x :: visits, by rw [List.map_cons, List.map_cons, horder, hurl, hi], ?_, ?_, ?_⟩
    · exact List.forall_mem_cons.mpr ⟨hcomplete, hcompletes⟩
    · unfold verifyInteractions
      dsimp only
      rw [houtcome]
      dsimp only
      rw [houtcomes]
      rfl
    · unfold verifyInteractions
      rw [hrecorded]
      dsimp only [Verified.noted] at hrecordeds ⊢
      rw [houtcome]
      dsimp only
      rw [hrecordeds]
      simp [List.append_assoc]

/-! ## Contracts -/

/-- A contract is loaded from a location. -/
def Loads (fs : FileSystem) (web : Web) (url : String) (c : Contract) : Prop :=
  (Contract.load url fs web).1 = .ok c

/-- What is told of a contract that was loaded, before its interactions are
visited. -/
def contractEvents (v : Verifier σ) (fs : FileSystem) (web : Web) (url : String) (c : Contract) :
    List VerifyEvent :=
  (if Contract.isUrl url then [.fetched (Contract.load url fs web).2] else [])
    ++ v.contractRemarks url c
    ++ (v.options.selectors.selectForRun c.interactions).2.map .logged

theorem verifyContracts_cons (v : Verifier σ) {fs : FileSystem} {web : Web} {url : String}
    {c : Contract} (urls : List String) {st st' : σ} {outcomes : List ReplayOutcome}
    {events : List VerifyEvent} (hload : Loads fs web url c)
    (hverified : v.verifyInteractions url (v.selected c) st = ⟨.ok outcomes, events, st'⟩) :
    v.verifyContracts fs web (url :: urls) st
      = (v.verifyContracts fs web urls st').after outcomes
        (v.contractEvents fs web url c ++ events) := by
  have hselected : (v.options.selectors.selectForRun c.interactions).1 = v.selected c := rfl
  have hloaded : Contract.load url fs web = (.ok c, (Contract.load url fs web).2) :=
    Prod.ext hload rfl
  rw [verifyContracts, hloaded]
  dsimp only
  rw [hselected, hverified]
  rfl

/-- **Verifying contracts that load.** Their selected interactions are visited,
and the locations behind them are left for the state after that. -/
theorem verifyContracts_append (hv : v.Ordinary) {fs : FileSystem} {web : Web}
    {urls : List String} {contracts : List Contract}
    (hloads : List.Forall₂ (Loads fs web) urls contracts) (st : σ) (calls : List VerifyCall) :
    ∃ visits events st', Visited v (urls.zip contracts) visits
      ∧ (∀ more, v.verifyContracts fs web (urls ++ more) st
        = (v.verifyContracts fs web more st').after (visits.map Visit.outcome) events)
      ∧ ∀ more, v.recorded.verifyContracts fs web (urls ++ more) (st, calls)
        = (v.recorded.verifyContracts fs web more
          (st', calls ++ visits.flatMap (Visit.calls v))).after (visits.map Visit.outcome) events := by
  induction hloads generalizing st calls with
  | nil =>
    refine ⟨[], [], st, ⟨rfl, by simp⟩, fun more => ?_, fun more => ?_⟩
    · simp
    · simp
  | @cons url c urls contracts hload hloads ih =>
    obtain ⟨first, horder, hcomplete, houtcome, hrecorded⟩ :=
      verifyInteractions_recorded hv url (v.selected c) st calls
    cases hverified : v.verifyInteractions url (v.selected c) st with
    | mk outcome es st₁ =>
      rw [hverified] at houtcome hrecorded
      obtain rfl : outcome = .ok (first.map Visit.outcome) := houtcome
      obtain ⟨rest, events, st', hvisited, hrun, hrecordedRun⟩ :=
        ih st₁ (calls ++ first.flatMap (Visit.calls v))
      refine ⟨first ++ rest, v.contractEvents fs web url c ++ es ++ events, st', ⟨?_, ?_⟩,
        fun more => ?_, fun more => ?_⟩
      · rw [List.map_append, horder, hvisited.order]
        rfl
      · exact List.forall_mem_append.mpr ⟨hcomplete, hvisited.complete⟩
      · rw [List.cons_append, verifyContracts_cons v _ hload hverified, hrun,
          Verified.after_after, List.map_append]
      · rw [List.cons_append, verifyContracts_cons v.recorded _ hload hrecorded, hrecordedRun,
          Verified.after_after, List.map_append, List.flatMap_append, ← List.append_assoc calls]
        rfl

/-! ## The run -/

/-- The result that visits come to. -/
def resultOf (v : Verifier σ) (visits : List Visit) : VerificationResult :=
  ⟨v.options.provider, visits.map Visit.outcome⟩

/-- A result is one of success if nothing failed in any outcome. -/
theorem success_iff {r : VerificationResult} :
    r.success = true ↔ ∀ o ∈ r.outcomes, o.failures = [] := by
  unfold VerificationResult.success VerificationResult.failed
  simp [List.countP_eq_zero, ReplayOutcome.passed]

theorem success_resultOf (v : Verifier σ) (visits : List Visit) :
    (v.resultOf visits).success = true ↔ ∀ x ∈ visits, x.failures = [] := by
  rw [success_iff]
  exact List.forall_mem_map

theorem run_of_verified (v : Verifier σ) {fs : FileSystem} {web : Web} {st st' : σ}
    {events : List VerifyEvent} (visits : List Visit)
    (hall : v.verifyContracts fs web v.options.pactUrls st
      = ⟨.ok (visits.map Visit.outcome), events, st'⟩) :
    v.run fs web st
      = ⟨if (v.resultOf visits).success then .ok (v.resultOf visits)
          else .error (.verificationFailed (v.resultOf visits)),
        events ++ [closingEntry (v.resultOf visits)], st'⟩ := by
  unfold run
  rw [hall]
  rfl

theorem run_of_failed (v : Verifier σ) {fs : FileSystem} {web : Web} {st st' : σ}
    {events : List VerifyEvent} {e : Failure}
    (hall : v.verifyContracts fs web v.options.pactUrls st = ⟨.error e, events, st'⟩) :
    v.run fs web st = ⟨.error e, events, st'⟩ := by
  unfold run
  rw [hall]

/-- A contract that cannot be loaded ends the verification before anything
behind it is looked at. -/
theorem verifyContracts_of_error (v : Verifier σ) {fs : FileSystem} {web : Web} {url : String}
    (urls : List String) (st : σ) {e : Failure} (hload : (Contract.load url fs web).1 = .error e) :
    v.verifyContracts fs web (url :: urls) st
      = ⟨.error e,
        if Contract.isUrl url then [.fetched (Contract.load url fs web).2] else [], st⟩ := by
  have hfailed : Contract.load url fs web = (.error e, (Contract.load url fs web).2) :=
    Prod.ext hload rfl
  rw [verifyContracts, hfailed]

/-- **The visits of a verification.** With handlers and a replayer that note
their calls, a verification comes to what it comes to anyway.

* Where all contracts load, the selected interactions of all of them are
  visited, the calls are those of the visits, and the outcome is the result of
  the visits: returned if nothing failed in them, and raised otherwise. Every
  outcome counts as passed or as failed.
* Where a contract cannot be loaded, the same holds of the contracts before it,
  and the outcome is the failure to load it. -/
theorem visits_of_run (hv : v.Ordinary) (fs : FileSystem) (web : Web) (st : σ) :
    (∀ contracts, List.Forall₂ (Loads fs web) v.options.pactUrls contracts →
      ∃ visits, Visited v (v.options.pactUrls.zip contracts) visits
        ∧ v.recorded.run fs web (st, [])
          = (v.run fs web st).noted (visits.flatMap (Visit.calls v))
        ∧ ((∀ x ∈ visits, x.failures = []) → (v.run fs web st).outcome = .ok (v.resultOf visits))
        ∧ ((∃ x ∈ visits, x.failures ≠ []) →
          (v.run fs web st).outcome = .error (.verificationFailed (v.resultOf visits)))
        ∧ (v.resultOf visits).passed + (v.resultOf visits).failed
          = (v.resultOf visits).outcomes.length)
    ∧ ∀ before url after contracts e, v.options.pactUrls = before ++ url :: after →
      List.Forall₂ (Loads fs web) before contracts → (Contract.load url fs web).1 = .error e →
      ∃ visits, Visited v (before.zip contracts) visits
        ∧ v.recorded.run fs web (st, [])
          = (v.run fs web st).noted (visits.flatMap (Visit.calls v))
        ∧ (v.run fs web st).outcome = .error e := by
  refine ⟨fun contracts hloads => ?_, fun before url after contracts e hurls hloads hfailed => ?_⟩
  · obtain ⟨visits, events, st', hvisited, hall, hrecorded⟩ :=
      verifyContracts_append hv hloads st []
    -- no location is left
    have hall' : v.verifyContracts fs web v.options.pactUrls st
        = ⟨.ok (visits.map Visit.outcome), events, st'⟩ := by
      simpa [verifyContracts, Verified.after, Except.map] using hall []
    have hrecorded' : v.recorded.verifyContracts fs web v.options.pactUrls (st, [])
        = ⟨.ok (visits.map Visit.outcome), events, (st', visits.flatMap (Visit.calls v))⟩ := by
      simpa [verifyContracts, Verified.after, Except.map] using hrecorded []
    rw [run_of_verified v visits hall', run_of_verified v.recorded visits hrecorded']
    refine ⟨visits, hvisited, rfl, fun hnone => ?_, fun ⟨x, hx, hfailed⟩ => ?_,
      VerificationResult.passed_add_failed _⟩
    · exact if_pos ((success_resultOf v visits).mpr hnone)
    · exact if_neg fun hsuccess => hfailed ((success_resultOf v visits).mp hsuccess x hx)
  · obtain ⟨visits, events, st', hvisited, hall, hrecorded⟩ :=
      verifyContracts_append hv hloads st []
    -- the next location cannot be loaded
    have hall' := hall (url :: after)
    have hrecorded' := hrecorded (url :: after)
    rw [verifyContracts_of_error _ after _ hfailed, ← hurls] at hall' hrecorded'
    rw [run_of_failed v hall', run_of_failed v.recorded hrecorded']
    exact ⟨visits, hvisited, rfl, rfl⟩

end Course

/-- A contract with an interaction that needs a state. -/
def sampleText : String :=
  "\x7b\"consumer\":\x7b\"name\":\"c\"\x7d,\"provider\":\x7b\"name\":\"p\"\x7d,"
    ++ "\"interactions\":[\x7b\"description\":\"i\",\"providerStates\":[\x7b\"name\":\"s\"\x7d]\x7d]\x7d"

/-- The file of that contract. -/
def sampleFiles : FileSystem := { nodes := [(["f"], .file (.text sampleText))] }

/-- A verifier that cannot set up that state. -/
def sample : Verifier Unit where
  options := ⟨"p", "http://localhost", ["f"], .none, VerifyOptions.defaultTimeout⟩
  handlers := [("s", fun _ st => (.error (.raised (.mk "ValueError" true none none)), st))]
  replay := fun _ _ st => (.ok [], st)

/-- Nothing that the verifier calls ends a verification from outside. -/
theorem sample_ordinary : sample.Ordinary where
  handlers name handler hget parameters st e he := by
    obtain ⟨-, rfl⟩ : name = "s" ∧ _ = handler := by
      simpa [sample, Entries.get?_cons] using hget
    cases he
    decide
  replay _ _ _ := ⟨[], rfl⟩

/-- The verification of one contract whose state cannot be set up: its
interaction is visited and not replayed, and the verification fails. -/
theorem visits_of_run_sample :
    sample.Ordinary ∧ ∃ c, List.Forall₂ (Loads sampleFiles []) sample.options.pactUrls [c]
      ∧ ∃ visits, Visited sample (sample.options.pactUrls.zip [c]) visits
        ∧ (sample.recorded.run sampleFiles [] ((), [])).state.2 = visits.flatMap (Visit.calls sample)
        ∧ (sample.run sampleFiles [] ()).outcome
          = .error (.verificationFailed (sample.resultOf visits)) := by
  -- both at once, since the run loads the contract too
  obtain ⟨hloaded, hrun⟩ : (Contract.load "f" sampleFiles []).1.toBool = true
      ∧ (sample.run sampleFiles [] ()).outcome.toBool = false := by decide +kernel
  cases hload : (Contract.load "f" sampleFiles []).1 with
  | error e =>
    rw [hload] at hloaded
    cases hloaded
  | ok c =>
    have hloads : List.Forall₂ (Loads sampleFiles []) sample.options.pactUrls [c] :=
      .cons hload .nil
    obtain ⟨visits, hvisited, hrecorded, hsuccess, hfailure, -⟩ :=
      (visits_of_run sample_ordinary sampleFiles [] ()).1 [c] hloads
    refine ⟨sample_ordinary, c, hloads, visits, hvisited, ?_, ?_⟩
    · rw [hrecorded]
      rfl
    · by_cases hnone : ∀ x ∈ visits, x.failures = []
      · rw [hsuccess hnone] at hrun
        cases hrun
      · refine hfailure ?_
        simpa using hnone

end Verifier

end Covenant
