import Covenant.Failure
import Covenant.Engine.Basic
import Covenant.Log.Entry
import Covenant.Contract.Interaction

/-!
# Engines

The library drives a matching engine through few operations and knows
nothing else about it: the engine is any record of functions over a state of
its own. Each operation answers with an outcome, the log entries it wrote,
and the next state; it may fail in any way, and its state moves on even then.

Messages are made and recorded by operations that may also be asynchronous: such
a call gives back something that does its work only when it is awaited.
-/

namespace Covenant

/-- **What an operation answers.** -/
structure Answer (σ α : Type) where
  /-- What it returned or how it ended. -/
  outcome : Except Failure α
  /-- What it logged. -/
  log : List LogEntry
  /-- The state it left. -/
  state : σ

namespace Answer

variable {σ τ α β : Type}

/-- The answer with what it returned changed. -/
def map (f : α → β) (a : Answer σ α) : Answer σ β := ⟨a.outcome.map f, a.log, a.state⟩

/-- **Carries on** with what an operation returned. -/
def andThen (a : Answer σ α) (next : α → σ → Answer σ β) : Answer σ β :=
  match a.outcome with
  | .error e => ⟨.error e, a.log, a.state⟩
  | .ok x =>
    let b := next x a.state
    ⟨b.outcome, a.log ++ b.log, b.state⟩

/-- Nothing comes after a failure. -/
theorem andThen_of_error {a : Answer σ α} {next : α → σ → Answer σ β} {e : Failure}
    (h : a.outcome = .error e) : a.andThen next = ⟨.error e, a.log, a.state⟩ := by
  unfold andThen
  rw [h]

/-- What comes after something that returned. -/
theorem andThen_of_ok {a : Answer σ α} {next : α → σ → Answer σ β} {x : α} (h : a.outcome = .ok x) :
    a.andThen next = ⟨(next x a.state).outcome, a.log ++ (next x a.state).log,
      (next x a.state).state⟩ := by
  unfold andThen
  rw [h]

/-- The answer over a state with something beside it. -/
def beside (a : Answer σ α) (t : τ) : Answer (σ × τ) α := ⟨a.outcome, a.log, (a.state, t)⟩

end Answer

/-- **What a call gives back**: its result, or something to be awaited for it,
which does its work only then. -/
inductive Returned (σ α : Type) where
  /-- The result. -/
  | result (a : α)
  /-- Something to be awaited. -/
  | awaitable (run : σ → Answer σ α)

namespace Answer

variable {σ α : Type}

/-- **Settles a call**: what it gave back is awaited if it can be. -/
def settle (a : Answer σ (Returned σ α)) : Answer σ α :=
  a.andThen fun returned st =>
    match returned with
    | .result x => ⟨.ok x, [], st⟩
    | .awaitable run => run st

/-- **Awaits what a call gave back**; a result cannot be awaited. -/
def await (a : Answer σ (Returned σ α)) : Answer σ α :=
  a.andThen fun returned st =>
    match returned with
    | .result _ => ⟨.error .mistyped, [], st⟩
    | .awaitable run => run st

end Answer

/-- What a call gave back, over a state with something beside it. -/
def Returned.beside {σ τ α : Type} : Returned σ α → Returned (σ × τ) α
  | .result x => .result x
  | .awaitable run => .awaitable fun (st, t) => (run st).beside t

/-- A call that gives its result back is settled as it is. -/
@[simp] theorem Answer.settle_map_result {σ α : Type} (a : Answer σ α) :
    (a.map .result).settle = a := by
  obtain ⟨outcome, log, st⟩ := a
  cases outcome with
  | error e => rfl
  | ok x => exact congrArg (Answer.mk _ · _) (List.append_nil log)

/-- **What stands beside the state does not matter for settling.** -/
theorem Answer.settle_beside {σ τ α : Type} (a : Answer σ (Returned σ α)) (t : τ) :
    ((a.map .beside).beside t).settle = a.settle.beside t := by
  obtain ⟨outcome, log, st⟩ := a
  match outcome with
  | .error e => rfl
  | .ok (.result x) => rfl
  | .ok (.awaitable run) => rfl

/-- **A matching engine** over states of type `σ`. -/
structure Engine (σ : Type) where
  /-- Starts a mock service for the interactions of a session. -/
  start : (session : Value) → List Interaction → PactOptions → σ → Answer σ ServerHandle
  /-- Reports what the service of a session saw. -/
  report : (session : Value) → σ → Answer σ EngineReport
  /-- Writes the contract of a session. -/
  write : (session : Value) → PactOptions → σ → Answer σ Unit
  /-- Stops the service of a session. -/
  shutdown : (session : Value) → σ → Answer σ Unit

/-- **What makes and records messages**, over states of type `σ`. -/
structure MessageFactory (σ : Type) where
  /-- Makes a concrete message for a specified one; a factory may hand out
  something that is no message. -/
  create : Message → PactOptions → σ → Answer σ (Returned σ (Option Message))
  /-- Records a specified message. -/
  record : Message → PactOptions → σ → Answer σ (Returned σ Unit)

namespace MessageFactory

variable {σ τ : Type}

/-- The factory whose operations do their work when they are awaited. -/
def deferred (f : MessageFactory σ) : MessageFactory σ where
  create m options st := ⟨.ok (.awaitable fun st => (f.create m options st).settle), [], st⟩
  record m options st := ⟨.ok (.awaitable fun st => (f.record m options st).settle), [], st⟩

/-- The factory over a state with something beside it, which it leaves alone. -/
def beside (f : MessageFactory σ) : MessageFactory (σ × τ) where
  create m options st := ((f.create m options st.1).map .beside).beside st.2
  record m options st := ((f.record m options st.1).map .beside).beside st.2

end MessageFactory

/-! ## Capabilities by method -/

/-- The methods of a message factory. -/
def factoryMethods : List String := ["create_message", "record_message"]

/-- The methods of a matching engine, which is a message factory too. -/
def engineMethods : List String :=
  factoryMethods ++ ["start_mock_server", "get_test_result", "write_pact_file", "shutdown_test"]

/-- **Whether an object with some methods has a capability.** -/
def hasMethods (required methods : List String) : Bool := required.all methods.contains

end Covenant
