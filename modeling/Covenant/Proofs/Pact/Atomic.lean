import Covenant.Proofs.Pact.Steps

/-!
# Rejected calls leave a pact as it was

Whatever is asked of a pact can be refused at several points: an argument is
not what it should be, no interaction is open, a state has no name, the open
interaction cannot be closed, there is no engine, or the document cannot be
written. All of these points come before anything is changed, so that a pact
of which something was asked in vain is the pact it was before.

There is one point that comes after. A session closes the open interaction and
then asks its argument whether it is true. No text and no other value raises at
that, so `Step`, which is what can be asked by values, is atomic (`atomic_take`).
An object that is neither a text nor nothing may raise. A session that is asked
for by one is refused with the interaction closed, and that is all there is to
say against atomicity (`unchanged_of_rejected`).
-/

namespace Covenant

namespace Pact

open Building

/-! ## What is asked by values -/

/-- **What can be asked of a pact.** -/
inductive Step where
  /-- A call. -/
  | call (c : PactCall)
  /-- A session, which a pact with an engine opens. -/
  | session (hasEngine : Bool) (id : Value)
  /-- The document. -/
  | document

/-- What a step does to a pact, and the session that it opens. -/
def Step.take : Step → Building (Option Session)
  | .call c => do
    apply c
    pure none
  | .session hasEngine id => do
    pure (some (← Pact.session hasEngine (.ok id)))
  | .document => do
    let _ ← Building.ofExcept (← Building.current).document
    pure none

theorem atomic_apply (c : PactCall) : (apply c).Atomic :=
  match c with
  | .given state parameters => atomic_give (stateOf state parameters)
  | .uponReceiving description => atomic_openInteraction description
  | .request name method path query headers body =>
    atomic_describe name (requestOf method path query headers body)
  | .response name status headers body => atomic_respond name (responseOf status headers body)

theorem atomic_document :
    (do let _ ← Building.ofExcept (← Building.current).document
        pure none : Building (Option Session)).Atomic :=
  .after_reads reads_current fun p =>
    .after_reads (reads_ofExcept p.document) fun _ => (sure_pure none).atomic

theorem atomic_take (step : Step) : step.take.Atomic :=
  match step with
  | .call c => (atomic_apply c).then_sure fun _ => sure_pure none
  | .session hasEngine id => (atomic_session hasEngine id).then_sure fun s => sure_pure (some s)
  | .document => atomic_document

/-! ## What is asked by anything -/

/-- **What can be asked of a pact by whatever arguments.** A call that renders
its arguments is known by what they come to, which may be a failure. A
description and the name of a session are asked whether they are true. -/
inductive Demand where
  /-- Gives a state. -/
  | given (state : Except Failure ProviderState)
  /-- Opens an interaction. -/
  | uponReceiving (description : Argument)
  /-- Describes the request of the open interaction; `name` is the call's. -/
  | request (name : String) (request : Except Failure RequestSpec)
  /-- Describes the response and closes the open interaction. -/
  | response (name : String) (response : Except Failure ResponseSpec)
  /-- A session, by what it is asked for or by a name of its own. -/
  | session (hasEngine : Bool) (asked : Argument) (own : Value)
  /-- The document. -/
  | document

namespace Demand

/-- What a demand does to a pact, and the session that it opens. -/
def take : Demand → Building (Option Session)
  | .given state => do
    give state
    pure none
  | .uponReceiving description => do
    openBy description
    pure none
  | .request name r => do
    describe name r
    pure none
  | .response name r => do
    respond name r
    pure none
  | .session hasEngine asked own => do
    pure (some (← sessionBy hasEngine asked own))
  | .document => do
    let _ ← Building.ofExcept (← Building.current).document
    pure none

/-- The demand that a call makes with its values. -/
def ofCall : PactCall → Demand
  | .given state parameters => .given (stateOf state parameters)
  | .uponReceiving description => .uponReceiving (.value description)
  | .request name method path query headers body =>
    .request name (requestOf method path query headers body)
  | .response name status headers body => .response name (responseOf status headers body)

/-- **A call is what it demands.** -/
theorem take_ofCall (c : PactCall) : (ofCall c).take = (Step.call c).take := by
  cases c <;> rfl

/-- **The demands that are refused late**, over a pact whose open interaction
closes as `i`: sessions that are asked for by an object that raises. -/
def ClosesFirst (demand : Demand) (p : Pact) (i : Interaction) : Prop :=
  ∃ x own d, demand = .session true (.object x) own ∧ p.draft = some d ∧ d.close .default = .ok i

/-- A session that is asked for by an object that raises leaves the pact as
closing the open interaction leaves it. -/
theorem pact_take_session_object (x : Exception) (own : Value) (p : Pact) :
    ((Demand.session true (.object x) own).take p).pact = (closeDraft p).pact := by
  show ((Pact.session true (.error (.raised x)) >>= fun s => pure (some s)) p).pact = _
  unfold Pact.session
  rw [if_pos rfl]
  show (andThen (andThen closeDraft _) _ p).pact = _
  unfold andThen
  cases closeDraft p with
  | mk outcome q log =>
    cases outcome with
    | error e => rfl
    | ok u => rfl

theorem atomic_take {demand : Demand}
    (h : ∀ x own, demand ≠ .session true (.object x) own) : demand.take.Atomic := by
  cases demand with
  | given state => exact (atomic_give state).then_sure fun _ => sure_pure none
  | uponReceiving description =>
    refine Atomic.then_sure ?_ fun _ => sure_pure none
    exact .after_reads (reads_ofExcept description.settle) atomic_openInteraction
  | request name r => exact (atomic_describe name r).then_sure fun _ => sure_pure none
  | response name r => exact (atomic_respond name r).then_sure fun _ => sure_pure none
  | session hasEngine asked own =>
    refine Atomic.then_sure ?_ fun s => sure_pure (some s)
    cases asked with
    | value v => exact atomic_session hasEngine _
    | object x =>
      cases hasEngine with
      | false => exact (reads_fail _).atomic
      | true => exact absurd rfl (h x own)
  | document => exact atomic_document

end Demand

/-- **A demand that is rejected leaves the pact as it was**: the states given for
the next interaction, the open interaction with its request, and the closed
ones. A session alone can be refused late, with the open interaction closed. -/
theorem unchanged_of_rejected {p : Pact} {demand : Demand} {e : Failure}
    (h : (demand.take p).outcome = .error e) :
    ((∀ i, ¬ demand.ClosesFirst p i) →
        (demand.take p).pact.states = p.states ∧ (demand.take p).pact.draft = p.draft
          ∧ (demand.take p).pact.interactions = p.interactions ∧ (demand.take p).pact = p)
      ∧ ∀ i, demand.ClosesFirst p i →
        (demand.take p).pact = { p with interactions := p.interactions ++ [i], draft := none } := by
  constructor
  · intro hearly
    have hpact : (demand.take p).pact = p := by
      by_cases hlate : ∃ x own, demand = .session true (.object x) own
      · -- the closing itself was refused, or there was nothing to close
        obtain ⟨x, own, rfl⟩ := hlate
        rw [Demand.pact_take_session_object, pact_closeDraft]
        cases hdraft : p.draft with
        | none => rfl
        | some d =>
          cases hclose : d.close .default with
          | error e => simp only [hclose]
          | ok i => exact absurd ⟨x, own, d, rfl, hdraft, hclose⟩ (hearly i)
      · exact Demand.atomic_take (fun x own hdemand => hlate ⟨x, own, hdemand⟩) p e h
    rw [hpact]
    exact ⟨rfl, rfl, rfl, rfl⟩
  · rintro i ⟨x, own, d, rfl, hdraft, hclose⟩
    rw [Demand.pact_take_session_object, pact_closeDraft, hdraft]
    simp only [hclose]

/-- A pact whose open interaction cannot be closed, since its description is
not a text, and for which a state was given. -/
def stuck : Pact :=
  { new ⟨.ofText "pacts", "web-ui", "user-service", false, none, "3.0.0"⟩ ⟨false⟩ with
    states := [⟨"users exist", .null⟩]
    draft := some ⟨.int 5, [], .default⟩ }

/-- Another interaction cannot be opened on a stuck pact, whose open interaction
would have to be closed first. It stays open, and the state stays pending. -/
theorem unchanged_of_rejected_stuck :
    (∃ e, ((Demand.uponReceiving (.value (.str "get users"))).take stuck).outcome = .error e)
      ∧ (∀ i, ¬ (Demand.uponReceiving (.value (.str "get users"))).ClosesFirst stuck i)
      ∧ ((Demand.uponReceiving (.value (.str "get users"))).take stuck).pact.states
        = [⟨"users exist", .null⟩]
      ∧ ((Demand.uponReceiving (.value (.str "get users"))).take stuck).pact.draft
        = some ⟨.int 5, [], .default⟩ := by
  have hearly : ∀ i, ¬ (Demand.uponReceiving (.value (.str "get users"))).ClosesFirst stuck i := by
    rintro i ⟨x, own, d, hdemand, -⟩
    cases hdemand
  cases houtcome : ((Demand.uponReceiving (.value (.str "get users"))).take stuck).outcome with
  | ok _ => cases houtcome
  | error e =>
    obtain ⟨hstates, hdraft, -, -⟩ := (unchanged_of_rejected houtcome).1 hearly
    exact ⟨⟨e, rfl⟩, hearly, hstates, hdraft⟩

/-- A pact with an open interaction that has no response yet. -/
def answerable : Pact := { stuck with draft := some ⟨.str "get users", [], .default⟩ }

/-- An object that is asked whether it is true and raises instead. -/
def released : Argument :=
  .object (.mk "ValueError" true
    (some (.str "operation forbidden on released memoryview object")) none)

/-- **A session that is refused late.** It was asked for by an object that raises.
The interaction was open before and is recorded afterwards, although there is no
session. -/
theorem recorded_by_rejected_session :
    ((Demand.session true released (.str "auto-1")).take answerable).outcome
        = .error (.raised (.mk "ValueError" true
          (some (.str "operation forbidden on released memoryview object")) none))
      ∧ answerable.interactions = []
      ∧ ((Demand.session true released (.str "auto-1")).take answerable).pact.interactions
        = [⟨"get users", [], .default, .default⟩]
      ∧ ((Demand.session true released (.str "auto-1")).take answerable).pact.draft = none :=
  ⟨rfl, rfl, rfl, rfl⟩

end Pact

end Covenant
