import Covenant.Pact.Basic

/-!
# What steps on a pact return and keep

Calls are sequences of steps, so there are two questions to ask about a call:
what the pact is when it returns, and what it is when it fails.

The first is answered step by step: a sequence returns if each step does
(`returns_bind`), and each of the simple steps returns in one way.

The second is answered by the order of the steps. A step may look at the pact
and fail (`Reads`), or change it and not fail (`Sure`). A sequence that does
all of the former before any of the latter changes nothing when it fails
(`Atomic.after_reads`, `Atomic.then_sure`).
-/

namespace Covenant

namespace Building

variable {α β : Type} {x : Building α} {f : α → Building β} {p q : Pact}

/-- **Steps that return**: a value, with the pact as it is then. -/
def Returns (x : Building α) (p : Pact) (a : α) (q : Pact) : Prop :=
  (x p).outcome = .ok a ∧ (x p).pact = q

/-! ## Returning -/

/-- Steps that follow others return if both do. -/
theorem returns_bind {b : β} :
    (x >>= f).Returns p b q ↔ ∃ a r, x.Returns p a r ∧ (f a).Returns r b q := by
  show (andThen x f p).outcome = .ok b ∧ (andThen x f p).pact = q ↔ _
  unfold andThen Returns
  cases x p with
  | mk outcome r log =>
    cases outcome with
    | error e => simp
    | ok a =>
      constructor
      · exact fun h => ⟨a, r, ⟨rfl, rfl⟩, h⟩
      · rintro ⟨a', r', ⟨ha, hr⟩, h⟩
        cases ha
        cases hr
        exact h

@[simp] theorem returns_ofExcept {r : Except Failure α} {a : α} :
    (ofExcept r).Returns p a q ↔ r = .ok a ∧ p = q := Iff.rfl

@[simp] theorem not_returns_fail {e : Failure} {a : α} : ¬ (fail e).Returns p a q :=
  fun h => nomatch h.1

@[simp] theorem returns_pure {a b : α} : (pure a : Building α).Returns p b q ↔ a = b ∧ p = q := by
  show Except.ok a = Except.ok b ∧ p = q ↔ _
  rw [Except.ok.injEq]

@[simp] theorem returns_current {r : Pact} : current.Returns p r q ↔ p = r ∧ p = q := by
  show Except.ok p = Except.ok r ∧ p = q ↔ _
  rw [Except.ok.injEq]

@[simp] theorem returns_change {g : Pact → Pact} {u : Unit} :
    (change g).Returns p u q ↔ g p = q := by
  show Except.ok () = Except.ok u ∧ g p = q ↔ _
  simp

@[simp] theorem returns_tell {e : LogEntry} {u : Unit} : (tell e).Returns p u q ↔ p = q := by
  show Except.ok () = Except.ok u ∧ p = q ↔ _
  simp

/-! ## Failing -/

/-- **Steps that leave the pact as it was** when they fail. -/
def Atomic (x : Building α) : Prop :=
  ∀ p e, (x p).outcome = .error e → (x p).pact = p

/-- Steps that leave the pact as it was. -/
def Reads (x : Building α) : Prop :=
  ∀ p, (x p).pact = p

/-- Steps that do not fail. -/
def Sure (x : Building α) : Prop :=
  ∀ p e, (x p).outcome ≠ .error e

theorem reads_current : Reads current := fun _ => rfl

theorem reads_ofExcept (r : Except Failure α) : Reads (ofExcept r) := fun _ => rfl

theorem reads_fail (e : Failure) : Reads (fail e : Building α) := fun _ => rfl

theorem reads_tell (e : LogEntry) : Reads (tell e) := fun _ => rfl

theorem reads_pure (a : α) : Reads (pure a : Building α) := fun _ => rfl

theorem sure_change (g : Pact → Pact) : Sure (change g) := fun _ _ h => nomatch h

theorem sure_pure (a : α) : Sure (pure a : Building α) := fun _ _ h => nomatch h

theorem sure_ok (a : α) : Sure (ofExcept (.ok a)) := fun _ _ h => nomatch h

theorem sure_current : Sure current := fun _ _ h => nomatch h

/-- Steps that change nothing are atomic. -/
theorem Reads.atomic (h : x.Reads) : x.Atomic := fun p _ _ => h p

/-- Steps that do not fail are atomic. -/
theorem Sure.atomic (h : x.Sure) : x.Atomic := fun p e he => absurd he (h p e)

theorem Reads.bind (hx : x.Reads) (hf : ∀ a, (f a).Reads) : (x >>= f).Reads := by
  intro p
  show (andThen x f p).pact = p
  have h := hx p
  unfold andThen
  cases hp : x p with
  | mk outcome q log =>
    rw [hp] at h
    cases outcome with
    | error e => exact h
    | ok a => exact (hf a q).trans h

theorem Sure.bind (hx : x.Sure) (hf : ∀ a, (f a).Sure) : (x >>= f).Sure := by
  intro p e
  show (andThen x f p).outcome ≠ .error e
  unfold andThen
  cases hp : x p with
  | mk outcome q log =>
    cases outcome with
    | error e' => exact absurd (congrArg Built.outcome hp) (hx p e')
    | ok a => exact hf a q e

/-- **Atomic steps after steps that change nothing** are atomic. -/
theorem Atomic.after_reads (hx : x.Reads) (hf : ∀ a, (f a).Atomic) : (x >>= f).Atomic := by
  intro p e
  show (andThen x f p).outcome = .error e → (andThen x f p).pact = p
  have h := hx p
  unfold andThen
  cases hp : x p with
  | mk outcome q log =>
    rw [hp] at h
    obtain rfl : q = p := h
    cases outcome with
    | error e' => exact fun _ => rfl
    | ok a => exact hf a q e

/-- **Atomic steps before steps that do not fail** are atomic. -/
theorem Atomic.then_sure (hx : x.Atomic) (hf : ∀ a, (f a).Sure) : (x >>= f).Atomic := by
  intro p e
  show (andThen x f p).outcome = .error e → (andThen x f p).pact = p
  unfold andThen
  cases hp : x p with
  | mk outcome q log =>
    cases outcome with
    | error e' =>
      have h := hx p e'
      rw [hp] at h
      exact fun _ => h rfl
    | ok a => exact fun he => absurd he (hf a q e)

end Building

namespace Pact

open Building

variable {p q : Pact}

/-! ## Closing the open interaction -/

/-- **What closing the open interaction comes to**: where none is open,
nothing; where one is, it is closed with the default response and recorded. -/
theorem returns_closeDraft {u : Unit} : closeDraft.Returns p u q ↔
    (p.draft = none ∧ q = p)
      ∨ ∃ d i, p.draft = some d ∧ d.close .default = .ok i
        ∧ q = { p with interactions := p.interactions ++ [i], draft := none } := by
  unfold closeDraft
  rw [returns_bind]
  cases hdraft : p.draft with
  | none => simp [hdraft, and_assoc, eq_comm]
  | some d => simp [hdraft, returns_bind, record, dropDraft, and_assoc, eq_comm]

theorem returns_closeDraft_of_none {u : Unit} (hdraft : p.draft = none) :
    closeDraft.Returns p u q ↔ q = p := by
  rw [returns_closeDraft, hdraft]
  simp

theorem returns_closeDraft_of_some {u : Unit} {d : Draft} (hdraft : p.draft = some d) :
    closeDraft.Returns p u q ↔ ∃ i, d.close .default = .ok i
      ∧ q = { p with interactions := p.interactions ++ [i], draft := none } := by
  rw [returns_closeDraft, hdraft]
  simp

/-- Closing the open interaction fails, if at all, before it is recorded. -/
theorem atomic_closeDraft : closeDraft.Atomic := by
  unfold closeDraft
  refine .after_reads reads_current fun p => ?_
  cases p.draft with
  | none => exact (sure_pure ()).atomic
  | some d =>
    refine .after_reads (reads_tell _) fun _ => .after_reads (reads_ofExcept _) fun i => ?_
    exact ((sure_change _).bind fun _ => sure_change _).atomic

/-- **The pact after closing the open interaction**, however that ended. -/
theorem pact_closeDraft (p : Pact) : (closeDraft p).pact =
    match p.draft with
    | none => p
    | some d =>
      match d.close .default with
      | .ok i => { p with interactions := p.interactions ++ [i], draft := none }
      | .error _ => p := by
  unfold closeDraft
  show (andThen current _ p).pact = _
  unfold andThen current
  dsimp only
  cases p.draft with
  | none => rfl
  | some d =>
    show (andThen (Building.tell _) _ p).pact = _
    unfold andThen Building.tell
    dsimp only
    cases d.close .default <;> rfl

@[simp] theorem returns_openDraft {call : String} {d : Draft} :
    (openDraft call).Returns p d q ↔ p.draft = some d ∧ p = q := by
  unfold openDraft
  rw [returns_bind]
  cases hdraft : p.draft with
  | none => simp [hdraft, and_assoc]
  | some d' => simp [hdraft, and_assoc]

theorem reads_openDraft (call : String) : (openDraft call).Reads := by
  unfold openDraft
  refine reads_current.bind fun p => ?_
  cases p.draft with
  | none => exact reads_fail _
  | some d => exact reads_pure d

/-! ## Calls -/

/-- What giving a state comes to. -/
theorem returns_give {state : Except Failure ProviderState} {u : Unit} :
    (give state).Returns p u q ↔
      ∃ s, state = .ok s ∧ q = { p with states := p.states ++ [s] } := by
  unfold give
  simp [returns_bind, and_assoc, eq_comm]

/-- A state is checked before it is given. -/
theorem atomic_give (state : Except Failure ProviderState) : (give state).Atomic := by
  unfold give
  exact .after_reads (reads_ofExcept _) fun s => (sure_change _).atomic

/-- States are handed over as they are, if each has a name. -/
theorem flushStates_eq_ok_iff {states r : List ProviderState} :
    flushStates states = .ok r ↔ (states.all fun s => s.description != "") = true ∧ r = states := by
  unfold flushStates
  by_cases hstates : (states.all fun s => s.description != "") = true
  · rw [if_pos hstates, Except.ok.injEq, and_iff_right hstates, eq_comm]
  · rw [if_neg hstates]
    exact iff_of_false (fun h => nomatch h) fun h => hstates h.1

/-- **What opening an interaction comes to**: the open one is closed, and the
new one takes the states given so far. -/
theorem returns_openInteraction {description : Value} {u : Unit} :
    (openInteraction description).Returns p u q ↔
      description.isTruthy = true ∧ (p.states.all fun s => s.description != "") = true
        ∧ ∃ r, closeDraft.Returns p () r
          ∧ q = { r with draft := some ⟨description, p.states, .default⟩, states := [] } := by
  unfold openInteraction
  by_cases hname : description.isTruthy = true
  · simp only [hname, if_true, returns_bind, returns_current, returns_ofExcept,
      flushStates_eq_ok_iff, returns_change, dropStates]
    constructor
    · rintro ⟨_, _, ⟨rfl, rfl⟩, states, _, ⟨⟨hstates, rfl⟩, rfl⟩, ⟨⟩, r, hclose, ⟨⟩, _, rfl, rfl⟩
      exact ⟨trivial, hstates, r, hclose, rfl⟩
    · rintro ⟨-, hstates, r, hclose, rfl⟩
      exact ⟨p, p, ⟨rfl, rfl⟩, p.states, p, ⟨⟨hstates, rfl⟩, rfl⟩, (), r, hclose, (), _, rfl, rfl⟩
  · simp [hname]

/-- Opening an interaction checks the states before it closes the open one. -/
theorem atomic_openInteraction (description : Value) : (openInteraction description).Atomic := by
  unfold openInteraction
  split
  · refine .after_reads reads_current fun p => .after_reads (reads_ofExcept _) fun states => ?_
    exact atomic_closeDraft.then_sure fun _ => (sure_change _).bind fun _ => sure_change _
  · exact (reads_fail _).atomic

theorem returns_describe {name : String} {request : Except Failure RequestSpec} {u : Unit} :
    (describe name request).Returns p u q ↔
      ∃ d r, p.draft = some d ∧ request = .ok r
        ∧ q = { p with draft := some { d with request := r } } := by
  unfold describe
  simp [returns_bind, and_assoc, eq_comm]

theorem atomic_describe (name : String) (request : Except Failure RequestSpec) :
    (describe name request).Atomic := by
  unfold describe
  refine .after_reads (reads_openDraft _) fun d => .after_reads (reads_ofExcept _) fun r => ?_
  exact (sure_change _).atomic

/-- **What a response comes to**: the open interaction is closed with it, and
the states given meanwhile are dropped. -/
theorem returns_respond {name : String} {response : Except Failure ResponseSpec} {u : Unit} :
    (respond name response).Returns p u q ↔
      ∃ r d i, response = .ok r ∧ p.draft = some d ∧ d.close r = .ok i
        ∧ q = { p with interactions := p.interactions ++ [i], draft := none, states := [] } := by
  unfold respond
  simp [returns_bind, record, dropDraft, dropStates, and_assoc, eq_comm]

/-- A response and the interaction are checked before anything is recorded. -/
theorem atomic_respond (name : String) (response : Except Failure ResponseSpec) :
    (respond name response).Atomic := by
  unfold respond
  refine .after_reads (reads_ofExcept _) fun r => .after_reads (reads_openDraft _) fun d => ?_
  refine .after_reads (reads_ofExcept _) fun i => Sure.atomic ?_
  exact (sure_change _).bind fun _ => (sure_change _).bind fun _ => sure_change _

/-- **What opening a session comes to**: the open interaction is closed, and
the session is about the interactions that the pact then has. -/
theorem returns_session {hasEngine : Bool} {id : Value} {s : Session} :
    (session hasEngine (.ok id)).Returns p s q ↔
      hasEngine = true ∧ closeDraft.Returns p () q
        ∧ s = .new id q.interactions q.options q.settings := by
  unfold session
  cases hasEngine with
  | false => simp
  | true =>
    simp only [if_true, returns_bind, returns_current, returns_ofExcept, returns_pure]
    constructor
    · rintro ⟨⟨⟩, r, hclose, _, _, ⟨rfl, rfl⟩, _, _, ⟨⟨⟩, rfl⟩, rfl, rfl⟩
      exact ⟨trivial, hclose, rfl⟩
    · rintro ⟨-, hclose, rfl⟩
      exact ⟨(), q, hclose, q, q, ⟨rfl, rfl⟩, id, q, ⟨rfl, rfl⟩, rfl, rfl⟩

/-- A session that is not opened leaves the open interaction open, as long as
there is something for it to go by. -/
theorem atomic_session (hasEngine : Bool) (id : Value) : (session hasEngine (.ok id)).Atomic := by
  unfold session
  split
  · refine atomic_closeDraft.then_sure fun _ => sure_current.bind fun p => ?_
    exact (sure_ok id).bind fun id => sure_pure _
  · exact (reads_fail _).atomic

end Pact

end Covenant
