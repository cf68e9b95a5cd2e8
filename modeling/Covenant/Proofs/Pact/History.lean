import Mathlib.Data.List.DropRight
import Covenant.Proofs.Pact.Atomic

/-!
# What a pact records

A pact keeps three things at a time: the interactions that are closed, the one
that is open, and the states given for the next one. What it ought to hold can
be told from the calls alone. Each accepted call says something (`Saying`): it
gives a state, opens an interaction, describes its request, responds to it or
opens a session. In the history of what was said, an opening tells an
interaction by what was said before and after it (`openingsFrom`):

* its states are those given before it, since the last opening or response;
* its request is the last one described after it, until it is closed;
* its response is that of the first saying after it that closes it, which
  another opening and a session do with the default response.

The history says nothing of the pact, and the pact remembers nothing of the
history. They are held together by an invariant (`Records`) which each accepted
call preserves; a rejected one leaves the pact as it was. What carries the
invariant is what one more saying does to the openings so far: it closes or
describes the open one and leaves the closed ones alone (`openings_concat`).
-/

namespace Covenant

namespace Pact

open Building

/-! ## Histories -/

/-- **What an accepted step says.** -/
inductive Saying where
  /-- It gives a state. -/
  | given (state : ProviderState)
  /-- It opens an interaction. -/
  | opened (description : String)
  /-- It describes a request. -/
  | described (request : RequestSpec)
  /-- It responds. -/
  | responded (response : ResponseSpec)
  /-- It opens a session. -/
  | flushed

namespace Saying

/-- The state that is given. -/
def given? : Saying → Option ProviderState
  | .given s => some s
  | _ => none

/-- Whether the states given before are used up or dropped. -/
def clears : Saying → Bool
  | .opened _ => true
  | .responded _ => true
  | _ => false

/-- The request that is described. -/
def described? : Saying → Option RequestSpec
  | .described r => some r
  | _ => none

/-- The response with which an open interaction is closed. -/
def closing? : Saying → Option ResponseSpec
  | .responded r => some r
  | .opened _ => some .default
  | .flushed => some .default
  | _ => none

end Saying

/-- What a step says, if it is accepted. The document is asked for and nothing
is said. -/
def Step.saying? : Step → Option Saying
  | .call (.given state parameters) => (stateOf state parameters).toOption.map .given
  | .call (.uponReceiving (.str description)) => some (.opened description)
  | .call (.uponReceiving _) => none
  | .call (.request _ method path query headers body) =>
    (requestOf method path query headers body).toOption.map .described
  | .call (.response _ status headers body) =>
    (responseOf status headers body).toOption.map .responded
  | .session _ _ => some .flushed
  | .document => none

/-- The description that is opened. -/
def Saying.opened? : Saying → Option String
  | .opened description => some description
  | _ => none

/-- The states given since the last opening or response. -/
def statesAfter (before : List Saying) : List ProviderState :=
  (before.rtakeWhile fun s => !s.clears).filterMap Saying.given?

/-- The request described last until the interaction is closed. -/
def requestIn (after : List Saying) : RequestSpec :=
  ((after.takeWhile fun s => s.closing?.isNone).filterMap Saying.described?).getLast?.getD .default

/-- The response with which the interaction is closed, if it is. -/
def responseIn (after : List Saying) : Option ResponseSpec :=
  after.findSome? Saying.closing?

/-- **An interaction as a history tells it.** -/
structure Opening where
  /-- Its description. -/
  description : String
  /-- Its states. -/
  providerStates : List ProviderState
  /-- Its request. -/
  request : RequestSpec
  /-- Its response, if it is closed. -/
  response : Option ResponseSpec

/-- What a saying opens, in view of what was said before and after it. -/
def Saying.opening? (before after : List Saying) : Saying → Option Opening
  | .opened description =>
    some ⟨description, statesAfter before, requestIn after, responseIn after⟩
  | _ => none

/-- The openings in what was said after a history. -/
def openingsFrom (before : List Saying) : List Saying → List Opening
  | [] => []
  | s :: after => (s.opening? before after).toList ++ openingsFrom (before ++ [s]) after

/-- **The openings of a history**, in order. -/
def openings (history : List Saying) : List Opening :=
  openingsFrom [] history

/-! ## One saying more -/

/-- A state more, or none. -/
theorem statesAfter_concat (before : List Saying) (s : Saying) :
    statesAfter (before ++ [s])
      = if s.clears then [] else statesAfter before ++ s.given?.toList := by
  unfold statesAfter
  rw [List.rtakeWhile_concat]
  cases s with
  | opened _ => rfl
  | responded _ => rfl
  | _ => simp [Saying.clears, Saying.given?]

/-- The request stays once the interaction is closed. -/
theorem requestIn_concat_of_closed {after : List Saying} {r : ResponseSpec}
    (h : responseIn after = some r) (s : Saying) : requestIn (after ++ [s]) = requestIn after := by
  unfold requestIn
  obtain ⟨x, hx, hclosing⟩ := List.exists_of_findSome?_eq_some h
  have hstops : (after.takeWhile fun s => s.closing?.isNone).length ≠ after.length := by
    intro hlength
    have hall := List.takeWhile_eq_self_iff.mp ((List.takeWhile_prefix _).eq_of_length hlength) x hx
    rw [hclosing] at hall
    cases hall
  rw [List.takeWhile_append, if_neg hstops]

/-- Until then it is the one described last. -/
theorem requestIn_concat_of_open {after : List Saying} (h : responseIn after = none) (s : Saying) :
    requestIn (after ++ [s]) = s.described?.getD (requestIn after) := by
  unfold requestIn
  have hopen : ∀ x ∈ after, (x.closing?).isNone = true := fun x hx =>
    Option.isNone_iff_eq_none.mpr (List.findSome?_eq_none_iff.mp h x hx)
  rw [List.takeWhile_append_of_pos hopen, List.takeWhile_eq_self_iff.mpr hopen]
  cases s with
  | described r => simp [Saying.closing?, Saying.described?]
  | _ => simp [Saying.closing?, Saying.described?]

/-- The response stays once there is one. -/
theorem responseIn_concat (after : List Saying) (s : Saying) :
    responseIn (after ++ [s]) = (responseIn after).or s.closing? := by
  unfold responseIn
  rw [List.findSome?_append, List.findSome?_singleton]

/-- **What one saying more does to an opening**: nothing if it is closed. -/
def Opening.hear (s : Saying) (o : Opening) : Opening :=
  match o.response with
  | some _ => o
  | none => { o with request := s.described?.getD o.request, response := s.closing? }

/-- What a saying opens hears what is said next. -/
theorem Saying.opening?_concat (before after : List Saying) (t s : Saying) :
    t.opening? before (after ++ [s]) = (t.opening? before after).map (Opening.hear s) := by
  cases t with
  | opened description =>
    unfold Saying.opening? Opening.hear
    rw [responseIn_concat]
    cases hresponse : responseIn after with
    | some r => simp [requestIn_concat_of_closed hresponse]
    | none => simp [requestIn_concat_of_open hresponse]
  | _ => rfl

/-- **All openings hear what is said next**, and it may open one more. -/
theorem openingsFrom_concat (before history : List Saying) (s : Saying) :
    openingsFrom before (history ++ [s])
      = (openingsFrom before history).map (Opening.hear s)
        ++ (s.opening? (before ++ history) []).toList := by
  induction history generalizing before with
  | nil => simp [openingsFrom]
  | cons t rest ih =>
    rw [List.cons_append, openingsFrom, openingsFrom, ih, Saying.opening?_concat,
      List.map_append, List.append_assoc, List.append_assoc, List.singleton_append]
    cases t.opening? before rest <;> rfl

/-- The openings of a longer history. -/
theorem openings_concat (history : List Saying) (s : Saying) :
    openings (history ++ [s])
      = (openings history).map (Opening.hear s) ++ (s.opening? history []).toList :=
  openingsFrom_concat [] history s

/-! ## The invariant -/

/-- A closed interaction, as a history tells it. -/
def Opening.ofInteraction (i : Interaction) : Opening :=
  ⟨i.description, i.providerStates, i.request, some i.response⟩

/-- An open interaction as a pact keeps it. -/
def Opening.draft (o : Opening) : Draft :=
  ⟨.str o.description, o.providerStates, o.request⟩

/-- **A pact records a history**: its closed interactions are the openings of
the history in order, up to a last one that is open and the pact's draft, and
its pending states are those given since. -/
structure Records (history : List Saying) (p : Pact) : Prop where
  /-- The pending states. -/
  states : p.states = statesAfter history
  /-- The interactions. -/
  openings : ∃ o : Option Opening,
    Pact.openings history = p.interactions.map .ofInteraction ++ o.toList
      ∧ (∀ x ∈ o, x.response = none) ∧ p.draft = o.map Opening.draft

variable {p q : Pact} {history : List Saying} {s : Saying}

/-- Closed interactions hear nothing. -/
theorem map_hear_ofInteraction (s : Saying) (is : List Interaction) :
    (is.map Opening.ofInteraction).map (Opening.hear s) = is.map .ofInteraction := by
  rw [List.map_map]
  rfl

/-- An open interaction is closed as it was described. -/
theorem Opening.close_draft (o : Opening) (r : ResponseSpec) :
    o.draft.close r = .ok ⟨o.description, o.providerStates, o.request, r⟩ := rfl

theorem Records.map_hear_of_none (h : Records history p) (hdraft : p.draft = none) :
    (Pact.openings history).map (Opening.hear s) = p.interactions.map .ofInteraction := by
  obtain ⟨o, hopenings, -, ho⟩ := h.openings
  obtain rfl : o = none := Option.map_eq_none_iff.mp (ho.symm.trans hdraft)
  rw [hopenings, Option.toList_none, List.append_nil, map_hear_ofInteraction]

/-- A saying that closes the open interaction adds it to the closed ones. -/
theorem Records.map_hear_of_close (h : Records history p) {d : Draft} {r : ResponseSpec}
    {i : Interaction} (hdraft : p.draft = some d) (hclose : d.close r = .ok i)
    (hs : s.closing? = some r) (hrequest : s.described? = none) :
    (Pact.openings history).map (Opening.hear s) = (p.interactions ++ [i]).map .ofInteraction := by
  obtain ⟨o, hopenings, hopen, ho⟩ := h.openings
  rw [hdraft] at ho
  obtain ⟨o, rfl, rfl⟩ := Option.map_eq_some_iff.mp ho.symm
  obtain rfl := Except.ok.inj ((Opening.close_draft o r).symm.trans hclose)
  have hheard : o.hear s = ⟨o.description, o.providerStates, o.request, some r⟩ := by
    unfold Opening.hear
    rw [hopen o rfl, hs, hrequest]
    rfl
  rw [hopenings, List.map_append, map_hear_ofInteraction, List.map_append, Option.toList_some,
    List.map_singleton, hheard]
  rfl

/-- **Closing the open interaction with the default response**, if there is
one, is what the history tells. -/
theorem Records.map_hear_of_closeDraft (h : Records history p) {u : Unit}
    (hq : closeDraft.Returns p u q) (hs : s.closing? = some .default)
    (hrequest : s.described? = none) :
    (Pact.openings history).map (Opening.hear s) = q.interactions.map .ofInteraction := by
  obtain ⟨hdraft, rfl⟩ | ⟨d, i, hdraft, hclose, rfl⟩ := returns_closeDraft.mp hq
  · exact h.map_hear_of_none hdraft
  · exact h.map_hear_of_close hdraft hclose hs hrequest

/-- Once the open interaction is closed, none is open. -/
theorem draft_of_closeDraft {u : Unit} (hq : closeDraft.Returns p u q) :
    q.draft = none ∧ q.states = p.states := by
  obtain ⟨hdraft, rfl⟩ | ⟨d, i, hdraft, hclose, rfl⟩ := returns_closeDraft.mp hq
  · exact ⟨hdraft, rfl⟩
  · exact ⟨rfl, rfl⟩

/-! ## What each call preserves -/

theorem Records.give (h : Records history p) {state : Except Failure ProviderState} {u : Unit}
    (hq : (Pact.give state).Returns p u q) :
    ∃ s, state = .ok s ∧ Records (history ++ [.given s]) q := by
  obtain ⟨s, hs, rfl⟩ := returns_give.mp hq
  refine ⟨s, hs, ⟨?_, ?_⟩⟩
  · rw [statesAfter_concat, h.states]
    rfl
  · obtain ⟨o, hopenings, hopen, ho⟩ := h.openings
    refine ⟨o, ?_, hopen, ho⟩
    -- an open interaction hears nothing of a request or a response
    have hheard : o.toList.map (Opening.hear (.given s)) = o.toList := by
      cases o with
      | none => rfl
      | some o =>
        rw [Option.toList_some, List.map_singleton, Opening.hear, hopen o rfl]
        exact congrArg (fun r => [Opening.mk o.description o.providerStates o.request r])
          (hopen o rfl).symm
    rw [openings_concat, hopenings, List.map_append, map_hear_ofInteraction, hheard]
    exact List.append_nil _

theorem Records.openInteraction (h : Records history p) {description : String} {u : Unit}
    (hq : (Pact.openInteraction (.str description)).Returns p u q) :
    Records (history ++ [.opened description]) q := by
  obtain ⟨-, -, r, hclose, rfl⟩ := returns_openInteraction.mp hq
  refine ⟨?_, some ⟨description, p.states, .default, none⟩, ?_, ?_, rfl⟩
  · rw [statesAfter_concat]
    rfl
  · rw [openings_concat, h.map_hear_of_closeDraft hclose rfl rfl, h.states]
    rfl
  · intro x hx
    obtain rfl := Option.mem_some.mp hx
    rfl

theorem Records.describe (h : Records history p) {name : String}
    {request : Except Failure RequestSpec} {u : Unit}
    (hq : (Pact.describe name request).Returns p u q) :
    ∃ r, request = .ok r ∧ Records (history ++ [.described r]) q := by
  obtain ⟨d, r, hdraft, hr, rfl⟩ := returns_describe.mp hq
  refine ⟨r, hr, ⟨?_, ?_⟩⟩
  · rw [statesAfter_concat]
    exact h.states.trans (List.append_nil _).symm
  · obtain ⟨o, hopenings, hopen, ho⟩ := h.openings
    rw [hdraft] at ho
    obtain ⟨o, rfl, rfl⟩ := Option.map_eq_some_iff.mp ho.symm
    refine ⟨some { o with request := r }, ?_, ?_, rfl⟩
    · rw [openings_concat, hopenings, List.map_append, map_hear_ofInteraction,
        Option.toList_some, List.map_singleton, Opening.hear, hopen o rfl]
      exact List.append_nil _
    · intro x hx
      obtain rfl := Option.mem_some.mp hx
      exact hopen o rfl

theorem Records.respond (h : Records history p) {name : String}
    {response : Except Failure ResponseSpec} {u : Unit}
    (hq : (Pact.respond name response).Returns p u q) :
    ∃ r, response = .ok r ∧ Records (history ++ [.responded r]) q := by
  obtain ⟨r, d, i, hr, hdraft, hclose, rfl⟩ := returns_respond.mp hq
  refine ⟨r, hr, ⟨?_, none, ?_, ?_, rfl⟩⟩
  · rw [statesAfter_concat]
    rfl
  · rw [openings_concat, h.map_hear_of_close hdraft hclose rfl rfl]
    rfl
  · rintro _ ⟨⟩

theorem Records.session (h : Records history p) {hasEngine : Bool} {id : Value} {s : Session}
    (hq : (Pact.session hasEngine (.ok id)).Returns p s q) :
    Records (history ++ [.flushed]) q ∧ s.interactions = q.interactions := by
  obtain ⟨-, hclose, rfl⟩ := returns_session.mp hq
  obtain ⟨hdraft, hstates⟩ := draft_of_closeDraft hclose
  refine ⟨⟨?_, none, ?_, ?_, hdraft⟩, rfl⟩
  · rw [statesAfter_concat, hstates]
    exact h.states.trans (List.append_nil _).symm
  · rw [openings_concat, h.map_hear_of_closeDraft hclose rfl rfl]
    rfl
  · rintro _ ⟨⟩

/-! ## Histories of steps -/

/-- A step that opens no interaction by anything but a text. -/
def Step.Textual (step : Step) : Prop :=
  ∀ description, step = .call (.uponReceiving description) → ∃ t, description = .str t

/-- What is said by a step, which is nothing if it is rejected. -/
def heard (p : Pact) (step : Step) : List Saying :=
  match (step.take p).outcome with
  | .ok _ => step.saying?.toList
  | .error _ => []

/-- The pact after steps. -/
def takeAll (p : Pact) (steps : List Step) : Pact :=
  steps.foldl (fun p step => (step.take p).pact) p

/-- **What is said by steps**, those left out that are rejected. -/
def said (p : Pact) : List Step → List Saying
  | [] => []
  | step :: rest => heard p step ++ said (step.take p).pact rest

theorem takeAll_append (p : Pact) (before after : List Step) :
    takeAll p (before ++ after) = takeAll (takeAll p before) after :=
  List.foldl_append

/-- What an accepted call comes to. -/
theorem returns_take_call {c : PactCall} {s : Option Session} :
    (Step.call c).take.Returns p s q ↔ (Pact.apply c).Returns p () q ∧ s = none := by
  unfold Step.take
  simp [returns_bind, Unique.exists_iff, and_comm, eq_comm]

theorem returns_take_session {hasEngine : Bool} {id : Value} {s : Option Session} :
    (Step.session hasEngine id).take.Returns p s q ↔
      ∃ t, (Pact.session hasEngine (.ok id)).Returns p t q ∧ s = some t := by
  unfold Step.take
  simp [returns_bind, and_comm, eq_comm]

theorem returns_take_document {s : Option Session} :
    Step.document.take.Returns p s q ↔ (∃ v, p.document = .ok v) ∧ s = none ∧ q = p := by
  unfold Step.take
  simp [returns_bind, and_assoc, eq_comm]

theorem heard_of_ok {step : Step} {s : Option Session} (h : (step.take p).outcome = .ok s) :
    heard p step = step.saying?.toList := by
  unfold heard
  rw [h]

theorem heard_of_error {step : Step} {e : Failure} (h : (step.take p).outcome = .error e) :
    heard p step = [] := by
  unfold heard
  rw [h]

/-- **A pact that records what was said before a call** records what was said
with it, if it is accepted. -/
theorem Records.apply (h : Records history p) {c : PactCall} (htext : (Step.call c).Textual)
    {u : Unit} (hq : (Pact.apply c).Returns p u q) :
    Records (history ++ (Step.call c).saying?.toList) q := by
  cases c with
  | given state parameters =>
    obtain ⟨s, hs, hrecords⟩ := h.give hq
    show Records (history ++ ((stateOf state parameters).toOption.map Saying.given).toList) q
    rw [hs]
    exact hrecords
  | uponReceiving description =>
    obtain ⟨t, rfl⟩ := htext description rfl
    exact h.openInteraction hq
  | request name method path query headers body =>
    obtain ⟨r, hr, hrecords⟩ := h.describe hq
    show Records (history
      ++ ((requestOf method path query headers body).toOption.map Saying.described).toList) q
    rw [hr]
    exact hrecords
  | response name status headers body =>
    obtain ⟨r, hr, hrecords⟩ := h.respond hq
    show Records (history
      ++ ((responseOf status headers body).toOption.map Saying.responded).toList) q
    rw [hr]
    exact hrecords

/-- **The step**: a pact that records what was said records what is heard of
the next step, and a session is about the interactions that the pact then
has. -/
theorem Records.take (h : Records history p) {step : Step} (htext : step.Textual) :
    Records (history ++ heard p step) (step.take p).pact
      ∧ ∀ s, (step.take p).outcome = .ok (some s) →
        s.interactions = (step.take p).pact.interactions := by
  cases houtcome : (step.take p).outcome with
  | error e =>
    rw [heard_of_error houtcome, List.append_nil, atomic_take step p e houtcome]
    exact ⟨h, fun s hs => nomatch hs⟩
  | ok s =>
    have hreturns : step.take.Returns p s (step.take p).pact := ⟨houtcome, rfl⟩
    rw [heard_of_ok houtcome]
    cases step with
    | call c =>
      obtain ⟨hcall, rfl⟩ := returns_take_call.mp hreturns
      exact ⟨h.apply htext hcall, fun t ht => nomatch ht⟩
    | session hasEngine id =>
      obtain ⟨t, hsession, rfl⟩ := returns_take_session.mp hreturns
      obtain ⟨hrecords, hinteractions⟩ := h.session hsession
      refine ⟨hrecords, fun s hs => ?_⟩
      obtain rfl : t = s := Option.some.inj (Except.ok.inj hs)
      exact hinteractions
    | document =>
      obtain ⟨-, rfl, hq⟩ := returns_take_document.mp hreturns
      rw [hq, show Step.document.saying?.toList = [] from rfl, List.append_nil]
      exact ⟨h, fun t ht => nomatch ht⟩

/-- **The run**: a pact that records what was said before steps records what
was said with them. -/
theorem Records.takeAll (h : Records history p) {steps : List Step}
    (htext : ∀ step ∈ steps, step.Textual) :
    Records (history ++ said p steps) (takeAll p steps) := by
  induction steps generalizing history p with
  | nil =>
    rw [said, List.append_nil]
    exact h
  | cons step rest ih =>
    rw [said, ← List.append_assoc]
    exact ih (h.take (htext step List.mem_cons_self)).1
      fun step hstep => htext step (List.mem_cons_of_mem _ hstep)

theorem records_new (options : PactOptions) (settings : SessionSettings) :
    Records [] (new options settings) :=
  ⟨rfl, none, rfl, fun _ hx => (nomatch hx), rfl⟩

/-! ## What stays -/

/-- Closing the open interaction keeps the closed ones. -/
theorem prefix_of_closeDraft {u : Unit} (h : closeDraft.Returns p u q) :
    p.interactions <+: q.interactions := by
  obtain ⟨-, rfl⟩ | ⟨d, i, -, -, rfl⟩ := returns_closeDraft.mp h
  · exact List.prefix_refl _
  · exact List.prefix_append _ _

theorem prefix_of_apply {c : PactCall} {u : Unit} (h : (Pact.apply c).Returns p u q) :
    p.interactions <+: q.interactions := by
  cases c with
  | given state parameters =>
    obtain ⟨s, -, rfl⟩ := returns_give.mp h
    exact List.prefix_refl _
  | uponReceiving description =>
    obtain ⟨-, -, r, hclose, rfl⟩ := returns_openInteraction.mp h
    show p.interactions <+: r.interactions
    exact prefix_of_closeDraft hclose
  | request name method path query headers body =>
    obtain ⟨d, r, -, -, rfl⟩ := returns_describe.mp h
    exact List.prefix_refl _
  | response name status headers body =>
    obtain ⟨r, d, i, -, -, -, rfl⟩ := returns_respond.mp h
    exact List.prefix_append _ _

/-- **A step keeps the closed interactions**, accepted or not. -/
theorem prefix_take (p : Pact) (step : Step) :
    p.interactions <+: (step.take p).pact.interactions := by
  cases houtcome : (step.take p).outcome with
  | error e =>
    have hsame : (step.take p).pact = p := atomic_take step p e houtcome
    exact hsame.symm ▸ List.prefix_refl _
  | ok s =>
    have hreturns : step.take.Returns p s (step.take p).pact := ⟨houtcome, rfl⟩
    cases step with
    | call c => exact prefix_of_apply (returns_take_call.mp hreturns).1
    | session hasEngine id =>
      obtain ⟨t, hsession, -⟩ := returns_take_session.mp hreturns
      exact prefix_of_closeDraft (returns_session.mp hsession).2.1
    | document =>
      obtain ⟨-, -, hq⟩ := returns_take_document.mp hreturns
      exact hq.symm ▸ List.prefix_refl _

theorem prefix_takeAll (p : Pact) (steps : List Step) :
    p.interactions <+: (takeAll p steps).interactions := by
  induction steps generalizing p with
  | nil => exact List.prefix_refl _
  | cons step rest ih => exact (prefix_take p step).trans (ih _)

/-- The openings of a history are what was opened in it. -/
theorem description_openings (history : List Saying) :
    (openings history).map Opening.description = history.filterMap Saying.opened? := by
  unfold openings
  suffices ∀ before, (openingsFrom before history).map Opening.description
      = history.filterMap Saying.opened? from this []
  induction history with
  | nil => exact fun _ => rfl
  | cons s rest ih =>
    intro before
    rw [openingsFrom, List.map_append, ih]
    cases s <;> rfl

/-- The descriptions that a pact records, the one that is still open last. -/
theorem Records.descriptions (h : Records history p) :
    (history.filterMap Saying.opened?).map Value.str
      = p.interactions.map (fun i => .str i.description)
        ++ p.draft.toList.map Draft.description := by
  obtain ⟨o, hopenings, -, ho⟩ := h.openings
  rw [← description_openings, hopenings, ho, List.map_append, List.map_append, List.map_map,
    List.map_map]
  cases o <;> rfl

/-! ## What a new pact records -/

/-- **What a pact holds after any steps.** It records what was said by them,
the rejected ones left out: each opening that was accepted is one interaction,
with the states, the request and the response that the history tells, and only
the last one may be open. Interactions that are closed stay as they are. A
session that was opened on the way is about the interactions that were closed
when it was opened, its own closing included. -/
theorem records_of_steps {options : PactOptions} {settings : SessionSettings} {steps : List Step}
    (htext : ∀ step ∈ steps, step.Textual) :
    Records (said (new options settings) steps) (takeAll (new options settings) steps)
      ∧ ((said (new options settings) steps).filterMap Saying.opened?).map Value.str
        = (takeAll (new options settings) steps).interactions.map (fun i => .str i.description)
          ++ (takeAll (new options settings) steps).draft.toList.map Draft.description
      ∧ (∀ before after, steps = before ++ after →
        (takeAll (new options settings) before).interactions
          <+: (takeAll (new options settings) steps).interactions)
      ∧ ∀ before step after s, steps = before ++ step :: after →
        (step.take (takeAll (new options settings) before)).outcome = .ok (some s) →
          s.interactions = (takeAll (new options settings) (before ++ [step])).interactions
            ∧ s.interactions <+: (takeAll (new options settings) steps).interactions := by
  have hrecords : ∀ steps : List Step, (∀ step ∈ steps, step.Textual) →
      Records (said (new options settings) steps) (takeAll (new options settings) steps) :=
    fun steps h => (records_new options settings).takeAll h
  refine ⟨hrecords steps htext, (hrecords steps htext).descriptions, ?_, ?_⟩
  · rintro before after rfl
    rw [takeAll_append]
    exact prefix_takeAll _ after
  · rintro before step after s rfl hs
    have hbefore := hrecords before fun t ht => htext t (List.mem_append_left _ ht)
    have hstep := htext step (List.mem_append_right _ List.mem_cons_self)
    have hinteractions := (hbefore.take hstep).2 s hs
    rw [takeAll_append, takeAll_append]
    refine ⟨hinteractions, ?_⟩
    rw [hinteractions]
    exact prefix_takeAll _ after

/-- Steps on a pact: a state and an interaction, another that is refused for
want of a name, one with a request that is closed by a response, and a last
one that stays open. -/
def sampleSteps : List Step :=
  [.call (.given (.str "users exist") .null), .call (.uponReceiving (.str "get users")),
    .call (.uponReceiving (.str "")), .session true (.str "s1"),
    .call (.uponReceiving (.str "add a user")),
    .call (.request "with_request" (.str "POST") (.str "/users") .null .null (.inline .null)),
    .call (.response "will_respond_with" (.int 201) .null (.inline .null)),
    .call (.uponReceiving (.str "delete a user"))]

/-- A new pact for the sample. -/
def blank : Pact := new ⟨.ofText "pacts", "web-ui", "user-service", false, none, "3.0.0"⟩ ⟨false⟩

/-- The sample records two interactions and keeps a third open. The state went
to the first, which the session closed. -/
theorem records_of_steps_sample :
    (∀ step ∈ sampleSteps, step.Textual)
      ∧ openings (said blank sampleSteps)
        = [⟨"get users", [⟨"users exist", .null⟩], .default, some .default⟩,
          ⟨"add a user", [], { RequestSpec.default with method := "POST", path := .exactly "/users" },
            some { ResponseSpec.default with status := 201 }⟩,
          ⟨"delete a user", [], .default, none⟩]
      ∧ Records (said blank sampleSteps) (takeAll blank sampleSteps) := by
  have htext : ∀ step ∈ sampleSteps, step.Textual := by
    intro step hstep description hdescription
    obtain rfl := hdescription
    simp only [sampleSteps, List.mem_cons, Step.call.injEq, PactCall.uponReceiving.injEq,
      reduceCtorEq, List.not_mem_nil, false_or, or_false] at hstep
    obtain h | h | h | h := hstep <;> exact ⟨_, h⟩
  exact ⟨htext, rfl, (records_of_steps htext).1⟩

end Pact

end Covenant
