import Covenant.Engine.Protocol

/-!
# Message handlers

A consumer's handler takes the contents of a message and comes in several
shapes: it may return its result, or something that has to be awaited for
it. An **adapter** turns either into a handler of whole messages.

* The adapter for awaitable bodies awaits whatever the body returns, and so
  fails on a body that returns its result, after it has run.
* The adapter for plain bodies awaits what the body returns if it can be
  awaited.
* The choosing adapter takes the one that fits, and leaves a handler that is
  adapted already as it is.

An adapted handler takes messages. To adapt it once more by name is to hand
it the contents of a message in place of the message, which it cannot take.
-/

namespace Covenant

/-- **The shapes of handlers.** -/
inductive HandlerShape where
  /-- A function that returns its result. -/
  | plainFunction
  /-- A function declared to be awaited. -/
  | asyncFunction
  /-- A function that returns something to be awaited. -/
  | awaitableFunction
  /-- An object that is called and returns its result. -/
  | plainObject
  /-- An object whose call is declared to be awaited. -/
  | asyncObject
deriving DecidableEq

namespace HandlerShape

/-- The shape of a name. -/
def ofName : String → HandlerShape
  | "async" => .asyncFunction
  | "lambda_async" => .awaitableFunction
  | "callable" => .plainObject
  | "async_callable" => .asyncObject
  | _ => .plainFunction

/-- Whether the result has to be awaited. -/
def isAwaited : HandlerShape → Bool
  | .asyncFunction | .awaitableFunction | .asyncObject => true
  | .plainFunction | .plainObject => false

/-- Whether the shape is declared to be awaited, so that it can be told
before the call. -/
def isDeclaredAsync : HandlerShape → Bool
  | .asyncFunction | .asyncObject => true
  | _ => false

end HandlerShape

/-- **The adapters.** -/
inductive Adapter where
  /-- For bodies that have to be awaited. -/
  | forAwaitable
  /-- For bodies of any kind. -/
  | forPlain
  /-- Whichever fits. -/
  | choosing
deriving DecidableEq

/-- The adapter of a name. -/
def Adapter.ofName : String → Adapter
  | "asynchronous_body_handler" => .forAwaitable
  | "synchronous_body_handler" => .forPlain
  | _ => .choosing

/-- **A handler** over states of type `σ`: its shape, what it does with contents,
and the adapters put around it, the innermost first. -/
structure Handler (σ : Type) where
  /-- The shape. -/
  shape : HandlerShape
  /-- What it does. -/
  body : Value → σ → Answer σ Value
  /-- The adapters around it. -/
  adapters : List Adapter

namespace Handler

variable {σ : Type}

/-- Whether the handler takes messages. -/
def isAdapted (h : Handler σ) : Bool := !h.adapters.isEmpty

/-- The adapter that fits a shape. -/
def chosenFor (shape : HandlerShape) : Adapter :=
  if shape.isDeclaredAsync then .forAwaitable else .forPlain

/-- The adapters that are really around the body of a handler that is asked
to take messages: the choosing adapter counts only for a body that has none
yet. -/
def effective (h : Handler σ) : List Adapter :=
  go [] (h.adapters ++ [.choosing])
where
  /-- The adapters so far, followed by the given ones. -/
  go (soFar : List Adapter) : List Adapter → List Adapter
    | [] => soFar
    | .choosing :: rest => go (if soFar.isEmpty then [chosenFor h.shape] else soFar) rest
    | a :: rest => go (soFar ++ [a]) rest

/-- **Calls the handler** without its adapters. A body that has to be awaited
does not run yet. -/
def call (h : Handler σ) (contents : Value) (st : σ) : Answer σ (Returned σ Value) :=
  if h.shape.isAwaited then ⟨.ok (.awaitable (h.body contents)), [], st⟩
  else (h.body contents st).map .result

/-- **Hands contents to the handler** as a handler of messages. -/
def receive (h : Handler σ) (contents : Value) (st : σ) : Answer σ Value :=
  match h.effective with
  | [.forAwaitable] => (h.call contents st).await
  | [.forPlain] => (h.call contents st).settle
  | _ => ⟨.error .partMissing, [], st⟩

end Handler

end Covenant
