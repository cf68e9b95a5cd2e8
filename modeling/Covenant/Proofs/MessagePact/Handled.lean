import Covenant.Proofs.Engine.Recording
import Covenant.Proofs.MessagePact.Calls
import Covenant.Proofs.Value.Reified

/-!
# What a handler gets and what is recorded

The scripted engine creates the message that was specified with the example value
of its contents, and nothing checks what it created. So what a handler gets is free
of matchers only because the example value is (`Value.isSettled_reify`).

That a handler gets nothing else is said with the calls that collaborators note, as
in `MessagePact.Course`, but here for every handler, however often it was adapted:
an adapter that does not fit may fail after the body has run, or not run it at all
(`Handler.receive_recorded`).
-/

namespace Covenant

variable {σ : Type}

/-! ## Handlers however adapted -/

namespace Handler

/-- Noting the calls does not change the adapters. -/
theorem effective_recorded (h : Handler σ) : h.recorded.effective = h.effective := by
  have hgo : ∀ (rest soFar : List Adapter),
      effective.go h.recorded soFar rest = effective.go h soFar rest := by
    intro rest
    induction rest with
    | nil => exact fun _ => rfl
    | cons a rest ih =>
      intro soFar
      cases a with
      | choosing => exact ih _
      | forPlain => exact ih _
      | forAwaitable => exact ih _
  exact hgo _ _

/-- **A body runs at most once, on the contents that the handler is given**, and
noting that changes nothing. -/
theorem receive_recorded (h : Handler σ) (contents : Value) (st : σ)
    (calls : List CollaboratorCall) : ∃ noted, (noted = [] ∨ noted = [.body contents])
      ∧ h.recorded.receive contents (st, calls)
        = (h.receive contents st).beside (calls ++ noted) := by
  unfold receive
  rw [effective_recorded]
  split
  · refine ⟨[.body contents], .inr rfl, ?_⟩
    by_cases hawaited : h.shape.isAwaited = true
    · rw [await_call h contents st hawaited]
      exact await_call h.recorded contents (st, calls) hawaited
    · -- the body has run by the time that nothing is found to be awaited
      have hcall : ∀ {τ : Type} (g : Handler τ) (x : τ), ¬ g.shape.isAwaited = true →
          (g.call contents x).await
            = (g.body contents x).andThen fun _ x => ⟨.error .mistyped, [], x⟩ := by
        intro τ g x hg
        unfold call
        rw [if_neg hg]
        unfold Answer.await Answer.map Answer.andThen
        cases (g.body contents x).outcome <;> rfl
      rw [hcall h st hawaited, hcall h.recorded (st, calls) hawaited]
      show ((h.body contents st).beside (calls ++ [.body contents])).andThen _ = _
      unfold Answer.andThen Answer.beside
      dsimp only
      cases (h.body contents st).outcome <;> rfl
  · refine ⟨[.body contents], .inr rfl, ?_⟩
    rw [settle_call, settle_call]
    rfl
  · refine ⟨[], .inl rfl, ?_⟩
    rw [List.append_nil]
    rfl

end Handler

namespace MessagePact

/-! ## The calls of any verification -/

variable (factory : MessageFactory σ) (p : MessagePact) (h : Handler σ)

/-- **The handler's part of a verification** calls the body at most with the contents
that were created, and has at most the specified message recorded. -/
theorem handle_recorded (spec : Message) (concrete : Option Message) (st : σ)
    (calls : List CollaboratorCall) : ∃ noted,
      (∀ c ∈ noted, c = .body (concrete.getD spec).contents ∨ c = .record spec p.options)
      ∧ p.handle factory.recorded h.recorded spec concrete (st, calls)
        = (p.handle factory h spec concrete st).beside (calls ++ noted) := by
  obtain ⟨ran, hran, hreceive⟩ := h.receive_recorded (concrete.getD spec).contents st calls
  have hbody : ∀ c ∈ ran,
      c = .body (concrete.getD spec).contents ∨ c = .record spec p.options := by
    obtain rfl | rfl := hran
    · exact fun c hc => nomatch hc
    · exact fun c hc => .inl (List.mem_singleton.mp hc)
  unfold handle
  rw [hreceive]
  generalize h.receive (concrete.getD spec).contents st = handled
  cases haccepted : handled.outcome with
  | error e =>
    refine ⟨ran, hbody, ?_⟩
    rw [Answer.andThen_of_error (by exact haccepted), Answer.andThen_of_error (by exact haccepted)]
    rfl
  | ok v =>
    have hrecord : (factory.recorded.record spec p.options (handled.state, calls ++ ran)).settle
        = (factory.record spec p.options handled.state).settle.beside
          (calls ++ (ran ++ [.record spec p.options])) := by
      rw [← List.append_assoc]
      exact Answer.settle_beside _ _
    refine ⟨ran ++ [.record spec p.options], fun c hc => ?_, ?_⟩
    · obtain hc | hc := List.mem_append.mp hc
      · exact hbody c hc
      · exact .inr (List.mem_singleton.mp hc)
    · rw [Answer.andThen_of_ok (by exact haccepted), Answer.andThen_of_ok (by exact haccepted)]
      rw [show (Answer.beside _ _).state = (handled.state, _) from rfl, hrecord]
      rfl

/-- **A verification that goes well ends with recording** the specified message. -/
theorem exists_record_of_verify {factory : MessageFactory σ} {p : MessagePact} {h : Handler σ}
    {spec : Message} {st : σ} (hspec : p.message? = .ok spec)
    (hdone : (p.verify (some factory) h st).outcome = .ok ()) :
    ∃ st', (factory.record spec p.options st').settle.outcome = .ok ()
      ∧ (p.verify (some factory) h st).state = (factory.record spec p.options st').settle.state := by
  rw [verify_some h st hspec] at hdone ⊢
  generalize (factory.create spec p.options st).settle = created at hdone ⊢
  cases hmade : created.outcome with
  | error e =>
    rw [Answer.andThen_of_error hmade] at hdone
    cases hdone
  | ok concrete =>
    rw [Answer.andThen_of_ok hmade] at hdone ⊢
    unfold handle at hdone ⊢
    dsimp only at hdone ⊢
    generalize h.receive (concrete.getD spec).contents created.state = handled at hdone ⊢
    cases haccepted : handled.outcome with
    | error e =>
      rw [Answer.andThen_of_error (by exact haccepted)] at hdone
      cases hdone
    | ok v =>
      rw [Answer.andThen_of_ok (by exact haccepted)] at hdone
      rw [Answer.andThen_of_ok (x := v) (by rfl)]
      exact ⟨handled.state, hdone, rfl⟩

/-! ## With the scripted engine -/

variable {s : Script} {l : Ledger}

/-- **What the scripted engine creates** is the specified message with the example
value of its contents, if anything. -/
theorem contents_of_create (hmessage : s.createsOther = false) (hown : s.createContents = none)
    {spec : Message} {options : PactOptions} {concrete : Option Message}
    (hmade : (s.create spec options l).outcome = .ok concrete) :
    (concrete.getD spec).contents = spec.contents.reify := by
  unfold Script.create at hmade
  rw [hmessage, hown] at hmade
  cases hraised : s.createError with
  | some e =>
    rw [hraised] at hmade
    cases hmade
  | none =>
    rw [hraised] at hmade
    obtain rfl := Except.ok.inj hmade
    rfl

/-- **The calls of a verification with the scripted engine.** -/
theorem verify_recorded (hmessage : s.createsOther = false) (hown : s.createContents = none)
    (p : MessagePact) (h : Handler Ledger) {spec : Message} (hspec : p.message? = .ok spec) :
    ∃ calls, p.verify (some s.factory.recorded) h.recorded (l, [])
        = (p.verify (some s.factory) h l).beside calls
      ∧ ∀ c ∈ calls, c = .create spec p.options ∨ c = .body spec.contents.reify
        ∨ c = .record spec p.options := by
  have hplain : (s.factory.create spec p.options l).settle = s.create spec p.options l :=
    Answer.settle_map_result _
  have hcreate : (s.factory.recorded.create spec p.options (l, [])).settle
      = (s.create spec p.options l).beside [.create spec p.options] := by
    rw [← hplain]
    exact Answer.settle_beside _ _
  rw [verify_some _ _ hspec, verify_some _ _ hspec, hcreate, hplain]
  cases hmade : (s.create spec p.options l).outcome with
  | error e =>
    refine ⟨[.create spec p.options], ?_, fun c hc => .inl (List.mem_singleton.mp hc)⟩
    rw [Answer.andThen_of_error hmade, Answer.andThen_of_error (by exact hmade)]
    rfl
  | ok concrete =>
    obtain ⟨noted, hnoted, hhandle⟩ := handle_recorded s.factory p h spec concrete
      (s.create spec p.options l).state [.create spec p.options]
    rw [contents_of_create hmessage hown hmade] at hnoted
    refine ⟨[.create spec p.options] ++ noted, ?_, fun c hc => ?_⟩
    · rw [Answer.andThen_of_ok hmade, Answer.andThen_of_ok (by exact hmade)]
      rw [show (Answer.beside _ _).state = ((s.create spec p.options l).state, _) from rfl, hhandle]
      rfl
    · obtain hc | hc := List.mem_append.mp hc
      · exact .inl (List.mem_singleton.mp hc)
      · exact .inr (hnoted c hc)

/-- The message of a pact has the contents that were set. -/
theorem contents_of_message? {p : MessagePact} {spec : Message} (h : p.message? = .ok spec) :
    p.contents = some spec.contents := by
  unfold message? at h
  cases hcontents : p.contents with
  | none =>
    rw [hcontents] at h
    cases h
  | some contents =>
    rw [hcontents] at h
    dsimp only at h
    split at h
    · obtain rfl := Except.ok.inj h
      rfl
    · cases h

/-- **What the example value of a value is, and where it is seen.** In the example
value there is neither a matcher nor a tuple. Nothing of a matcher but its example
matters for it. At every place it has the example value of what was there, with the
same keys in the same order, or of the same length. Its own example value it is
itself, and of values just those are in which there is neither a matcher nor a tuple.

If the value is the contents of a pact's message, a handler that is verified with a
scripted engine gets the example value and nothing else, whatever the handler is; and
what is recorded has the value itself, matchers and all. -/
theorem example_handled_value_recorded (v : Value) :
    v.reify.isSettled = true
      ∧ (∀ w : Value, w.bare = v.bare → w.reify = v.reify)
      ∧ (∀ place, v.reify.at? place = (v.at? place).map Value.reify)
      ∧ (∀ place, (v.reify.at? place).map Value.shape = (v.at? place).map Value.shape)
      ∧ v.reify.reify = v.reify
      ∧ (v.reify = v ↔ v.isSettled = true)
      ∧ ∀ (s : Script) (p : MessagePact) (h : Handler Ledger) (l : Ledger),
        s.createsOther = false → s.createContents = none → p.contents = some v →
        ∃ calls, p.verify (some s.factory.recorded) h.recorded (l, [])
            = (p.verify (some s.factory) h l).beside calls
          ∧ (∀ contents, .body contents ∈ calls → contents = v.reify)
          ∧ (∀ m options, .record m options ∈ calls → m.contents = v)
          ∧ ((p.verify (some s.factory) h l).outcome = .ok () → ∃ before m,
            (p.verify (some s.factory) h l).state.messages = before ++ [m] ∧ m.contents = v) := by
  refine ⟨v.isSettled_reify, fun w hw => ?_, v.at?_reify, v.shape_at?_reify, v.reify_reify,
    v.reify_eq_self_iff, fun s p h l hmessage hown hcontents => ?_⟩
  · rw [← w.reify_bare, hw, v.reify_bare]
  cases hspec : p.message? with
  | error e =>
    have hverify := verify_of_error h l hspec (some s.factory)
    refine ⟨[], ?_, fun _ hmem => (nomatch hmem), fun _ _ hmem => (nomatch hmem), fun hdone => ?_⟩
    · rw [hverify, verify_of_error _ _ hspec]
      rfl
    · rw [hverify] at hdone
      cases hdone
  | ok spec =>
    obtain rfl : v = spec.contents :=
      Option.some.inj (hcontents.symm.trans (contents_of_message? hspec))
    obtain ⟨calls, hrecorded, hcalls⟩ := verify_recorded hmessage hown p h (l := l) hspec
    refine ⟨calls, hrecorded, fun contents hmem => ?_, fun m options hmem => ?_, fun hdone => ?_⟩
    · simpa using hcalls _ hmem
    · obtain ⟨rfl, -⟩ : m = spec ∧ options = p.options := by simpa using hcalls _ hmem
      rfl
    · obtain ⟨l', hrecord, hstate⟩ := exists_record_of_verify hspec hdone
      rw [show (s.factory.record spec p.options l').settle = s.record spec p.options l' from
        Answer.settle_map_result _] at hrecord hstate
      exact ⟨l'.messages, spec, hstate ▸ (Script.record_frame hrecord).1, rfl⟩

/-- A handler that takes everything and has not to be awaited. -/
def acceptingHandler : Handler Ledger := ⟨.plainFunction, fun v l => ⟨.ok v, [], l⟩, []⟩

/-- With contents that are a matcher, the example is handled and the matcher is
recorded. -/
theorem example_handled_value_recorded_order :
    orderPact.contents = some orderMessage.contents
      ∧ (∀ contents, .body contents ∈ (orderPact.verify (some Script.faultless.factory.recorded)
          acceptingHandler.recorded (.new .empty, [])).state.2 → contents = .str "o-1")
      ∧ ∃ before m, (orderPact.verify (some Script.faultless.factory) acceptingHandler
          (.new .empty)).state.messages = before ++ [m]
        ∧ m.contents = .matcher (.like (.str "o-1")) := by
  obtain ⟨-, -, -, -, -, -, hverified⟩ := example_handled_value_recorded orderMessage.contents
  obtain ⟨calls, hrecorded, hbody, -, hmessages⟩ :=
    hverified Script.faultless orderPact acceptingHandler (.new .empty) rfl rfl rfl
  refine ⟨rfl, fun contents hmem => ?_, hmessages (Script.ok_of_toBool (by decide +kernel))⟩
  rw [hrecorded] at hmem
  exact hbody contents hmem

end MessagePact

end Covenant
