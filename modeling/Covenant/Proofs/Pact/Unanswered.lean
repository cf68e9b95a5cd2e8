import Covenant.Pact.Arguments
import Covenant.Proofs.Pact.History

/-!
# Interactions without a response

An interaction that another one or a session overtakes is closed as if the default
response had been asked for. The two ways differ in one thing: a response drops the
states given since the interaction was opened, and what overtakes it leaves them for
the next one.

What this comes to is told by comparing two pacts that hear the same steps, one with
some states more for the next interaction (`Alike`). They stay alike until it is
opened, while it is open, and once it is closed: each step is accepted by both or by
neither, and they differ in the states of that one interaction
(`interactions_of_unanswered`). Without states given meanwhile, they do not differ at
all.

All of this is about states that have names. One without a name, given before a
session, is never used up where no response was asked for, and no interaction can be
opened any more.
-/

namespace Covenant

open Building

/-! ## States in front -/

/-- A draft with some states in front of its own. -/
def Draft.preceded (states : List ProviderState) (d : Draft) : Draft :=
  { d with providerStates := states ++ d.providerStates }

/-- An interaction with some states in front of its own. -/
def Interaction.preceded (states : List ProviderState) (i : Interaction) : Interaction :=
  { i with providerStates := states ++ i.providerStates }

/-- **A draft with states in front** is closed as the interaction with them. -/
theorem Draft.close_preceded (states : List ProviderState) (d : Draft) (response : ResponseSpec) :
    (d.preceded states).close response = (d.close response).map (Interaction.preceded states) := by
  unfold close preceded
  dsimp only
  cases (Validation.record "Interaction" (fun es => Validation.required es ["description"] Validation.text)
    (.record [("description", d.description)])).report "Interaction" .value <;> rfl

namespace Pact

/-! ## Pacts that differ in the states of one interaction -/

/-- **Two pacts that are alike** but for the states in front of one interaction, which
is or will be the one behind the first `n`. -/
inductive Alike (n : Nat) (a b : List ProviderState) : Pact → Pact → Prop where
  /-- It will be opened next. -/
  | pending (p : Pact) (hdraft : p.draft = none) (hn : p.interactions.length = n) :
      Alike n a b { p with states := a ++ p.states } { p with states := b ++ p.states }
  /-- It is open. -/
  | opened (p : Pact) (d : Draft) (hn : p.interactions.length = n) :
      Alike n a b { p with draft := some (d.preceded a) } { p with draft := some (d.preceded b) }
  /-- It is closed. -/
  | closed (p : Pact) (before : List Interaction) (i : Interaction) (after : List Interaction)
      (hn : before.length = n) :
      Alike n a b { p with interactions := before ++ i.preceded a :: after }
        { p with interactions := before ++ i.preceded b :: after }

/-- States that have names. -/
def Named (states : List ProviderState) : Prop := ∀ s ∈ states, s.description ≠ ""

variable {n : Nat} {a b : List ProviderState} {p q r : Pact}

theorem all_append_iff {states : List ProviderState} (h : Named a) :
    ((a ++ states).all fun s => s.description != "") = true
      ↔ (states.all fun s => s.description != "") = true := by
  have ha : (a.all fun s => s.description != "") = true :=
    List.all_eq_true.mpr fun s hs => bne_iff_ne.mpr (h s hs)
  rw [List.all_append, ha, Bool.true_and]

theorem Alike.symm (h : Alike n a b p q) : Alike n b a q p := by
  cases h with
  | pending p hdraft hn => exact .pending p hdraft hn
  | opened p d hn => exact .opened p d hn
  | closed p before i after hn => exact .closed p before i after hn

theorem Alike.eq (h : Alike n a a p q) : p = q := by
  cases h <;> rfl

/-- **The interactions differ in the states in front of one.** -/
theorem Alike.interactions (h : Alike n a [] p q) :
    p.interactions = q.interactions.modify n (Interaction.preceded a) := by
  cases h with
  | pending p hdraft hn => exact (List.modify_eq_self (Nat.le_of_eq hn)).symm
  | opened p d hn => exact (List.modify_eq_self (Nat.le_of_eq hn)).symm
  | closed p before i after hn =>
    subst hn
    have hlt : before.length < (before ++ i.preceded [] :: after).length := by simp
    rw [List.modify_eq_take_cons_drop hlt]
    simp [Interaction.preceded]

/-! ## What calls do to both -/

theorem Alike.give (h : Alike n a b p q) (s : ProviderState) :
    Alike n a b { p with states := p.states ++ [s] } { q with states := q.states ++ [s] } := by
  cases h with
  | pending p hdraft hn =>
    have hmore := Alike.pending (a := a) (b := b) { p with states := p.states ++ [s] } hdraft hn
    simpa using hmore
  | opened p d hn => exact .opened { p with states := p.states ++ [s] } d hn
  | closed p before i after hn => exact .closed { p with states := p.states ++ [s] } before i after hn

theorem Alike.describe (h : Alike n a b p q) {d : Draft} (hdraft : p.draft = some d)
    (request : RequestSpec) : ∃ e, q.draft = some e
      ∧ Alike n a b { p with draft := some { d with request := request } }
        { q with draft := some { e with request := request } } := by
  cases h with
  | pending p hnone hn => cases hnone.symm.trans hdraft
  | opened p d hn =>
    obtain rfl := Option.some.inj hdraft
    exact ⟨_, rfl, .opened p { d with request := request } hn⟩
  | closed p before i after hn =>
    exact ⟨d, hdraft, .closed { p with draft := some { d with request := request } } before i after hn⟩

/-- **A response to both**; the states given for the next interaction are the same
then, whatever becomes of them. -/
theorem Alike.close (h : Alike n a b p q) {d : Draft} {response : ResponseSpec} {i : Interaction}
    (hdraft : p.draft = some d) (hclose : d.close response = .ok i) :
    p.states = q.states ∧ ∃ e j, q.draft = some e ∧ e.close response = .ok j
      ∧ ∀ states, Alike n a b
        { p with interactions := p.interactions ++ [i], draft := none, states := states }
        { q with interactions := q.interactions ++ [j], draft := none, states := states } := by
  cases h with
  | pending p hnone hn => cases hnone.symm.trans hdraft
  | opened p d hn =>
    obtain rfl := Option.some.inj hdraft
    rw [Draft.close_preceded] at hclose
    cases hplain : d.close response with
    | error e =>
      rw [hplain] at hclose
      cases hclose
    | ok i =>
      rw [hplain] at hclose
      obtain rfl := Except.ok.inj hclose
      refine ⟨rfl, _, i.preceded b, rfl, ?_, fun states => ?_⟩
      · rw [Draft.close_preceded, hplain]
        rfl
      · exact .closed { p with draft := none, states := states } p.interactions i [] hn
  | closed p before j after hn =>
    refine ⟨rfl, d, i, hdraft, hclose, fun states => ?_⟩
    have hmore := Alike.closed (a := a) (b := b) { p with draft := none, states := states } before j
      (after ++ [i]) hn
    simpa using hmore

/-- Alike pacts close their open interaction alike, if they have one. -/
theorem Alike.closeDraft (h : Alike n a b p q) {u : Unit} (hp : Pact.closeDraft.Returns p u r) :
    ∃ t, Pact.closeDraft.Returns q u t ∧ Alike n a b r t := by
  obtain ⟨hdraft, rfl⟩ | ⟨d, i, hdraft, hclose, rfl⟩ := returns_closeDraft.mp hp
  · refine ⟨q, returns_closeDraft.mpr (.inl ⟨?_, rfl⟩), h⟩
    cases h with
    | pending p hnone hn => exact hdraft
    | opened p d hn => cases hdraft
    | closed p before i after hn => exact hdraft
  · obtain ⟨hstates, e, j, he, hj, halike⟩ := h.close hdraft hclose
    refine ⟨_, returns_closeDraft.mpr (.inr ⟨e, j, he, hj, rfl⟩), ?_⟩
    have hkept := halike p.states
    rw [hstates] at hkept
    cases p
    cases hstates
    exact hkept

/-- An interaction that is opened in both, with the states given for it. -/
theorem Alike.openInteraction (h : Alike n a b p q) (hdraft : p.draft = none) (description : Value) :
    Alike n a b { p with draft := some ⟨description, p.states, .default⟩, states := [] }
      { q with draft := some ⟨description, q.states, .default⟩, states := [] } := by
  cases h with
  | pending p hnone hn => exact .opened { p with states := [] } ⟨description, p.states, .default⟩ hn
  | opened p d hn => cases hdraft
  | closed p before i after hn =>
    exact .closed { p with draft := some ⟨description, p.states, .default⟩, states := [] } before i
      after hn

/-- The states given for the next interaction have names in both or in neither. -/
theorem Alike.all_iff (h : Alike n a b p q) (ha : Named a) (hb : Named b) :
    (p.states.all fun s => s.description != "") = true
      ↔ (q.states.all fun s => s.description != "") = true := by
  cases h with
  | pending p hdraft hn => rw [all_append_iff ha, all_append_iff hb]
  | opened p d hn => exact Iff.rfl
  | closed p before i after hn => exact Iff.rfl

/-! ## Steps on both -/

/-- **What a call is accepted for in the one, it is accepted for in the other.** -/
theorem Alike.apply (h : Alike n a b p q) (ha : Named a) (hb : Named b) {c : PactCall} {u : Unit}
    (hp : (Pact.apply c).Returns p u r) :
    ∃ t, (Pact.apply c).Returns q u t ∧ Alike n a b r t := by
  cases c with
  | given state parameters =>
    obtain ⟨s, hs, rfl⟩ := returns_give.mp hp
    exact ⟨_, returns_give.mpr ⟨s, hs, rfl⟩, h.give s⟩
  | uponReceiving description =>
    obtain ⟨hdescription, hnamed, r, hclose, rfl⟩ := returns_openInteraction.mp hp
    obtain ⟨t, hclose', halike⟩ := h.closeDraft hclose
    refine ⟨_, returns_openInteraction.mpr
      ⟨hdescription, (h.all_iff ha hb).mp hnamed, t, hclose', rfl⟩, ?_⟩
    obtain ⟨hdraft, hstates⟩ := draft_of_closeDraft hclose
    rw [← hstates, ← (draft_of_closeDraft hclose').2]
    exact halike.openInteraction hdraft description
  | request name method path query headers body =>
    obtain ⟨d, request, hdraft, hrequest, rfl⟩ := returns_describe.mp hp
    obtain ⟨e, he, halike⟩ := h.describe hdraft request
    exact ⟨_, returns_describe.mpr ⟨e, request, he, hrequest, rfl⟩, halike⟩
  | response name status headers body =>
    obtain ⟨response, d, i, hresponse, hdraft, hclose, rfl⟩ := returns_respond.mp hp
    obtain ⟨-, e, j, he, hj, halike⟩ := h.close hdraft hclose
    exact ⟨_, returns_respond.mpr ⟨response, e, j, hresponse, he, hj, rfl⟩, halike []⟩

/-- The same for any step but the document, which may be written for the one only. -/
theorem Alike.returns (h : Alike n a b p q) (ha : Named a) (hb : Named b) {step : Step}
    (hstep : step ≠ .document) {s : Option Session} (hp : step.take.Returns p s r) :
    ∃ s' t, step.take.Returns q s' t ∧ Alike n a b r t := by
  cases step with
  | call c =>
    obtain ⟨hcall, rfl⟩ := returns_take_call.mp hp
    obtain ⟨t, hcall', halike⟩ := h.apply ha hb hcall
    exact ⟨none, t, returns_take_call.mpr ⟨hcall', rfl⟩, halike⟩
  | session hasEngine id =>
    obtain ⟨_, hsession, rfl⟩ := returns_take_session.mp hp
    obtain ⟨hengine, hclose, rfl⟩ := returns_session.mp hsession
    obtain ⟨t, hclose', halike⟩ := h.closeDraft hclose
    exact ⟨_, t, returns_take_session.mpr ⟨_, returns_session.mpr ⟨hengine, hclose', rfl⟩, rfl⟩, halike⟩
  | document => exact absurd rfl hstep

theorem pact_document (p : Pact) : (Step.document.take p).pact = p := by
  cases houtcome : (Step.document.take p).outcome with
  | error e => exact atomic_take .document p e houtcome
  | ok s => exact (returns_take_document.mp ⟨houtcome, rfl⟩).2.2

/-- **The step**: pacts that are alike stay so, whether it is accepted or not. -/
theorem Alike.take (h : Alike n a b p q) (ha : Named a) (hb : Named b) (step : Step) :
    Alike n a b (step.take p).pact (step.take q).pact := by
  by_cases hstep : step = .document
  · subst hstep
    rw [pact_document, pact_document]
    exact h
  cases hp : (step.take p).outcome with
  | ok s =>
    obtain ⟨s', t, ⟨-, rfl⟩, halike⟩ := h.returns ha hb hstep ⟨hp, rfl⟩
    exact halike
  | error e =>
    cases hq : (step.take q).outcome with
    | error e' =>
      rw [atomic_take step p e hp, atomic_take step q e' hq]
      exact h
    | ok s =>
      -- what is accepted there is accepted here
      obtain ⟨s', t, ⟨hok, -⟩, -⟩ := h.symm.returns hb ha hstep ⟨hq, rfl⟩
      cases hp.symm.trans hok

/-- **The run**: pacts that are alike stay so over all steps. -/
theorem Alike.takeAll (h : Alike n a b p q) (ha : Named a) (hb : Named b) (steps : List Step) :
    Alike n a b (Pact.takeAll p steps) (Pact.takeAll q steps) := by
  induction steps generalizing p q with
  | nil => exact h
  | cons step rest ih => exact ih (h.take ha hb step)

/-! ## States without a name -/

/-- A pact on which no interaction can be opened any more: none is open, and a state
that was given for the next one has no name. -/
def Blocked (p : Pact) : Prop := p.draft = none ∧ ∃ s ∈ p.states, s.description = ""

/-- **Such a pact stays as it is**, but for states that are given. -/
theorem Blocked.take (h : Blocked p) (step : Step) :
    Blocked (step.take p).pact ∧ (step.take p).pact.interactions = p.interactions := by
  cases houtcome : (step.take p).outcome with
  | error e =>
    rw [atomic_take step p e houtcome]
    exact ⟨h, rfl⟩
  | ok s =>
    have hreturns : step.take.Returns p s (step.take p).pact := ⟨houtcome, rfl⟩
    obtain ⟨hdraft, state, hstate, hname⟩ := h
    cases step with
    | document =>
      rw [pact_document]
      exact ⟨⟨hdraft, state, hstate, hname⟩, rfl⟩
    | session hasEngine id =>
      obtain ⟨_, hsession, -⟩ := returns_take_session.mp hreturns
      obtain ⟨-, hclose, -⟩ := returns_session.mp hsession
      rw [(returns_closeDraft_of_none hdraft).mp hclose]
      exact ⟨⟨hdraft, state, hstate, hname⟩, rfl⟩
    | call c =>
      obtain ⟨hcall, -⟩ := returns_take_call.mp hreturns
      cases c with
      | given name parameters =>
        obtain ⟨more, -, hpact⟩ := returns_give.mp hcall
        rw [hpact]
        exact ⟨⟨hdraft, state, List.mem_append_left _ hstate, hname⟩, rfl⟩
      | uponReceiving description =>
        obtain ⟨-, hnamed, -⟩ := returns_openInteraction.mp hcall
        have hsome := List.all_eq_true.mp hnamed state hstate
        rw [hname] at hsome
        cases hsome
      | request name method path query headers body =>
        obtain ⟨d, _, hsome, -⟩ := returns_describe.mp hcall
        cases hdraft.symm.trans hsome
      | response name status headers body =>
        obtain ⟨_, d, _, -, hsome, -⟩ := returns_respond.mp hcall
        cases hdraft.symm.trans hsome

/-- No step adds an interaction to such a pact. -/
theorem Blocked.takeAll (h : Blocked p) (steps : List Step) :
    (Pact.takeAll p steps).interactions = p.interactions := by
  induction steps generalizing p with
  | nil => rfl
  | cons step rest ih =>
    obtain ⟨hblocked, hsame⟩ := h.take step
    exact (ih hblocked).trans hsame

/-! ## The default response, asked for or not -/

/-- The step that asks for the default response. -/
def answer : Step := .call (.response "will_respond_with" (.int 200) .null (.inline .null))

/-- It is the response without arguments. -/
example : PactCall.ofName? "will_respond_with" []
    = some (.response "will_respond_with" (.int 200) .null (.inline .null)) := by rfl

/-- Steps that close the open interaction without a response. -/
def Step.Overtakes : Step → Prop
  | .call (.uponReceiving _) => True
  | .session _ _ => True
  | _ => False

/-- What the answer comes to: the open interaction is closed as if it were overtaken,
and the states given meanwhile are dropped. -/
theorem returns_answer {d : Draft} {i : Interaction} (hdraft : p.draft = some d)
    (hclose : d.close .default = .ok i) :
    answer.take.Returns p none
      { p with interactions := p.interactions ++ [i], draft := none, states := [] } :=
  returns_take_call.mpr
    ⟨returns_respond.mpr ⟨.default, d, i, by rfl, hdraft, hclose, rfl⟩, rfl⟩

/-- **What overtakes an open interaction** is accepted after an answer too, with the
same session if it opens one. The pacts are alike then: the states given meanwhile are
left for the next interaction, or opened with it, on the one side only. -/
theorem alike_of_overtaken {d : Draft} {first : Step} {s : Option Session}
    (hdraft : p.draft = some d) (hovertakes : first.Overtakes)
    (hfirst : first.take.Returns p s r) :
    ∃ i q t, d.close .default = .ok i ∧ answer.take.Returns p none q ∧ q.draft = none
      ∧ first.take.Returns q s t ∧ Alike (p.interactions.length + 1) p.states [] r t
      ∧ (Named p.states ∨ Blocked r) := by
  have hlength (i : Interaction) : (p.interactions ++ [i]).length = p.interactions.length + 1 :=
    List.length_append
  match first, hovertakes with
  | .call (.uponReceiving description), _ =>
    obtain ⟨hcall, rfl⟩ := returns_take_call.mp hfirst
    obtain ⟨hdescription, hnamed, _, hclosed, rfl⟩ := returns_openInteraction.mp hcall
    obtain ⟨i, hclose, rfl⟩ := (returns_closeDraft_of_some hdraft).mp hclosed
    refine ⟨i, _, _, hclose, returns_answer hdraft hclose, rfl, returns_take_call.mpr
      ⟨returns_openInteraction.mpr ⟨hdescription, rfl, _, returns_closeDraft.mpr (.inl ⟨rfl, rfl⟩),
        rfl⟩, rfl⟩, ?_, .inl fun s hs => bne_iff_ne.mp (List.all_eq_true.mp hnamed s hs)⟩
    have halike := Alike.opened (a := p.states) (b := [])
      { p with interactions := p.interactions ++ [i], states := [] } ⟨description, [], .default⟩
      (hlength i)
    rwa [Draft.preceded, Draft.preceded, List.append_nil] at halike
  | .session hasEngine id, _ =>
    obtain ⟨_, hsession, rfl⟩ := returns_take_session.mp hfirst
    obtain ⟨hengine, hclosed, rfl⟩ := returns_session.mp hsession
    obtain ⟨i, hclose, rfl⟩ := (returns_closeDraft_of_some hdraft).mp hclosed
    refine ⟨i, _, _, hclose, returns_answer hdraft hclose, rfl, returns_take_session.mpr
      ⟨_, returns_session.mpr ⟨hengine, returns_closeDraft.mpr (.inl ⟨rfl, rfl⟩), rfl⟩, rfl⟩, ?_, ?_⟩
    · have halike := Alike.pending (a := p.states) (b := [])
        { p with interactions := p.interactions ++ [i], draft := none, states := [] } rfl (hlength i)
      rwa [List.append_nil] at halike
    · by_cases hnamed : Named p.states
      · exact .inl hnamed
      · obtain ⟨s, hs⟩ := Classical.not_forall.mp hnamed
        obtain ⟨hmem, hname⟩ := Classical.not_imp.mp hs
        exact .inr ⟨rfl, s, hmem, Classical.not_not.mp hname⟩

/-! ## What is logged -/

theorem log_bind {α β : Type} {x : Building α} {f : α → Building β} {c : α} (h : x.Returns p c q) :
    ((x >>= f) p).log = (x p).log ++ (f c q).log := by
  obtain ⟨hok, rfl⟩ := h
  show (andThen x f p).log = _
  unfold andThen
  cases hx : x p with
  | mk outcome t log =>
    rw [hx] at hok
    obtain rfl := hok
    rfl

/-- **Closing the open interaction logs a warning**, if there is one. -/
theorem log_closeDraft {u : Unit} (h : Pact.closeDraft.Returns p u q) :
    (Pact.closeDraft p).log = (p.draft.map unansweredEntry).toList := by
  unfold Pact.closeDraft
  rw [log_bind (returns_current.mpr ⟨rfl, rfl⟩)]
  obtain ⟨hdraft, -⟩ | ⟨d, i, hdraft, hclose, -⟩ := returns_closeDraft.mp h
  · rw [hdraft]
    rfl
  · rw [hdraft]
    show [] ++ ((tell (unansweredEntry d) >>= _) p).log = [unansweredEntry d]
    have htold : (tell (unansweredEntry d)).Returns p () p := returns_tell.mpr rfl
    rw [log_bind htold, log_bind (returns_ofExcept.mpr ⟨hclose, rfl⟩)]
    rfl

/-- **What overtakes an interaction logs that warning only.** -/
theorem log_of_overtakes {first : Step} {s : Option Session} (hovertakes : first.Overtakes)
    (h : first.take.Returns p s q) :
    (first.take p).log = (p.draft.map unansweredEntry).toList := by
  match first, hovertakes with
  | .call (.uponReceiving description), _ =>
    have hcall : (Pact.openInteraction description).Returns p () q := (returns_take_call.mp h).1
    obtain ⟨hdescription, hnamed, r, hclosed, -⟩ := returns_openInteraction.mp hcall
    show ((Pact.openInteraction description >>= fun _ => pure none) p).log = _
    rw [log_bind hcall, Pact.openInteraction, if_pos hdescription,
      log_bind (returns_current.mpr ⟨rfl, rfl⟩),
      log_bind (returns_ofExcept.mpr ⟨flushStates_eq_ok_iff.mpr ⟨hnamed, rfl⟩, rfl⟩),
      log_bind hclosed, log_closeDraft hclosed]
    exact (List.append_nil _).trans (List.append_nil _)
  | .session hasEngine id, _ =>
    obtain ⟨t, hsession, -⟩ := returns_take_session.mp h
    obtain ⟨rfl, hclosed, -⟩ := returns_session.mp hsession
    show ((Pact.session true (.ok id) >>= fun s => pure (some s)) p).log = _
    rw [log_bind hsession, Pact.session, if_pos rfl, log_bind hclosed, log_closeDraft hclosed]
    exact (List.append_nil _).trans (List.append_nil _)

theorem log_answer {d : Draft} {i : Interaction} (hdraft : p.draft = some d)
    (hclose : d.close .default = .ok i) : (answer.take p).log = [] := by
  show ((Pact.respond "will_respond_with" (.ok .default) >>= fun _ => pure none) p).log = []
  have hanswered : (Pact.respond "will_respond_with" (.ok .default)).Returns p () _ :=
    returns_respond.mpr ⟨.default, d, i, rfl, hdraft, hclose, rfl⟩
  rw [log_bind hanswered, Pact.respond, log_bind (returns_ofExcept.mpr ⟨rfl, rfl⟩),
    log_bind (returns_openDraft.mpr ⟨hdraft, rfl⟩),
    log_bind (returns_ofExcept.mpr ⟨hclose, rfl⟩), Pact.openDraft,
    log_bind (returns_current.mpr ⟨rfl, rfl⟩), hdraft]
  rfl

/-! ## What is recorded -/

/-- **Leaving out the response is asking for the default one, but for the states given
meanwhile.** Where an open interaction is overtaken, a response without arguments just
before that is accepted, and so is what overtakes it after that; only the warning is
missing. Without states given meanwhile, the pact is the same after any steps. With
states that have names, the interactions are the same after any steps, but that the
one behind the overtaken one has these states in front. With one that has no name, no
interaction is opened any more where the response was left out. -/
theorem interactions_of_unanswered {d : Draft} {first : Step} {s : Option Session}
    (hdraft : p.draft = some d) (hovertakes : first.Overtakes)
    (haccepted : (first.take p).outcome = .ok s) :
    (answer.take p).outcome = .ok none
      ∧ (first.take (answer.take p).pact).outcome = .ok s
      ∧ (first.take p).log = [unansweredEntry d]
      ∧ (answer.take p).log ++ (first.take (answer.take p).pact).log = []
      ∧ (p.states = [] → ∀ rest,
        Pact.takeAll p (first :: rest) = Pact.takeAll p (answer :: first :: rest))
      ∧ (Named p.states → ∀ rest, (Pact.takeAll p (first :: rest)).interactions
        = (Pact.takeAll p (answer :: first :: rest)).interactions.modify
          (p.interactions.length + 1) (Interaction.preceded p.states))
      ∧ (¬ Named p.states → ∀ rest, (Pact.takeAll p (first :: rest)).interactions
        = (first.take p).pact.interactions) := by
  have hfirst : first.take.Returns p s (first.take p).pact := ⟨haccepted, rfl⟩
  obtain ⟨i, q, t, hclose, ⟨hanswered, rfl⟩, hnone, hsecond, halike, hstates⟩ :=
    alike_of_overtaken hdraft hovertakes hfirst
  have hnil : Named [] := fun s hs => nomatch hs
  refine ⟨hanswered, hsecond.1, ?_, ?_, fun hempty rest => ?_, fun hnamed rest => ?_,
    fun hunnamed rest => ?_⟩
  · rw [log_of_overtakes hovertakes hfirst, hdraft]
    rfl
  · rw [log_answer hdraft hclose, log_of_overtakes hovertakes hsecond, hnone]
    rfl
  · obtain ⟨-, rfl⟩ := hsecond
    rw [hempty] at halike
    exact (halike.takeAll hnil hnil rest).eq
  · obtain ⟨-, rfl⟩ := hsecond
    exact (halike.takeAll hnamed hnil rest).interactions
  · exact (hstates.resolve_left hunnamed).takeAll rest

/-- A pact with an open interaction for which a state was given too late. -/
def overtaken : Pact :=
  Pact.takeAll blank [.call (.uponReceiving (.str "a")), .call (.given (.str "late") .null)]

/-- Opening another interaction takes the state, which a response would have dropped. -/
theorem interactions_of_unanswered_overtaken :
    (overtaken.draft = some ⟨.str "a", [], .default⟩
        ∧ (Step.call (.uponReceiving (.str "b"))).Overtakes
        ∧ ((Step.call (.uponReceiving (.str "b"))).take overtaken).outcome = .ok none)
      ∧ (Pact.takeAll overtaken [.call (.uponReceiving (.str "b")), answer]).interactions
        = (Pact.takeAll overtaken [answer, .call (.uponReceiving (.str "b")), answer]).interactions.modify
          1 (Interaction.preceded [⟨"late", .null⟩]) := by
  have hdraft : overtaken.draft = some ⟨.str "a", [], .default⟩ := by rfl
  have hovertakes : (Step.call (.uponReceiving (.str "b"))).Overtakes := trivial
  have haccepted : ((Step.call (.uponReceiving (.str "b"))).take overtaken).outcome = .ok none := by
    rfl
  obtain ⟨-, -, -, -, -, hnamed, -⟩ := interactions_of_unanswered hdraft hovertakes haccepted
  refine ⟨⟨hdraft, hovertakes, haccepted⟩, hnamed (fun s hs => ?_) _⟩
  obtain rfl := List.mem_singleton.mp hs
  decide

/-- **A response that matters.** The interaction opened next has the state where the
response was left out, and not where it was asked for. -/
theorem states_of_overtaken :
    overtaken.draft.isSome = true
      ∧ ((Step.call (.uponReceiving (.str "b"))).take overtaken).outcome = .ok none
      ∧ (Pact.takeAll overtaken [.call (.uponReceiving (.str "b")), answer]).interactions.map
        Interaction.stateNames = [[], ["late"]]
      ∧ (Pact.takeAll overtaken [answer, .call (.uponReceiving (.str "b")), answer]).interactions.map
        Interaction.stateNames = [[], []] :=
  ⟨rfl, rfl, rfl, rfl⟩

end Pact

end Covenant
