import Covenant.MessagePact.Basic

/-!
# Verifying a message handler

A handler is verified with one concrete message: the factory creates it, the
handler receives its contents, and if both went well the specified message,
matchers and all, is recorded. The first failure ends the verification and
is passed on as it is. Whatever has to be awaited is awaited before the next
step, so a failure is not lost on the way.
-/

namespace Covenant

namespace MessagePact

variable {σ : Type}

/-- The entry about a verification. -/
def verifyingEntry (p : MessagePact) (spec : Message) : LogEntry :=
  ⟨.debug, "pactum.message",
    "Verifying message '" ++ spec.description ++ "' for " ++ p.options.consumer⟩

/-- Verifies a handler with a concrete message, and has the specified one
recorded. A factory that created no message has the specified one handled. -/
def handle (factory : MessageFactory σ) (p : MessagePact) (handler : Handler σ) (spec : Message)
    (concrete : Option Message) (st : σ) : Answer σ Unit :=
  let handled := handler.receive (concrete.getD spec).contents st
  { handled with log := p.verifyingEntry spec :: handled.log }.andThen fun _ st =>
    (factory.record spec p.options st).settle

/-- **Verifies a handler.** -/
def verify (factory : Option (MessageFactory σ)) (p : MessagePact) (handler : Handler σ) (st : σ) :
    Answer σ Unit :=
  match p.message? with
  | .error e => ⟨.error e, [], st⟩
  | .ok spec =>
    match factory with
    | none => ⟨.error (.unequipped .factory), [], st⟩
    | some factory =>
      (factory.create spec p.options st).settle.andThen (p.handle factory handler spec)

section Cases

variable {p : MessagePact} {spec : Message} (handler : Handler σ) (st : σ)

/-- A pact without a message is not verified. -/
theorem verify_of_error {e : Failure} (h : p.message? = .error e)
    (factory : Option (MessageFactory σ)) :
    p.verify factory handler st = ⟨.error e, [], st⟩ := by
  unfold verify
  rw [h]

/-- Otherwise a message is created and handled. -/
theorem verify_some (h : p.message? = .ok spec) (factory : MessageFactory σ) :
    p.verify (some factory) handler st
      = (factory.create spec p.options st).settle.andThen (p.handle factory handler spec) := by
  unfold verify
  rw [h]

end Cases

end MessagePact

end Covenant
