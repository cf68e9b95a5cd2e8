import Covenant.Session.Verdict
import Covenant.Engine.Protocol
import Covenant.Settings

/-!
# Contract sessions

A session runs one test against one mock service. It goes from idle through
starting, running and reconciling to success or failure, and is terminated at
the end of every run, however the run ends.

Three things fail independently: the test, the matching, and the writing of
the contract. Ordinary failures of the start, the test, the engine's report
and the writing are reported in the result; whatever else happens is passed
on, after the service has been shut down.

A run leaves a trace of `Event`s: every change of state, every call to the
engine and the test, and every log entry in between. The log of a run is a
reading of its trace.
-/

namespace Covenant

/-- **The states of a session.** -/
inductive SessionState where
  /-- Not yet run. -/
  | idle
  /-- The mock service is being started. -/
  | starting
  /-- The test is running. -/
  | running
  /-- The test has ended and the engine is asked. -/
  | reconciling
  /-- The session succeeded. -/
  | succeeded
  /-- The session failed. -/
  | failed
  /-- The session is over. -/
  | terminated
deriving DecidableEq

/-- The name of a state. -/
def SessionState.text : SessionState → String
  | .idle => "idle"
  | .starting => "starting"
  | .running => "running"
  | .reconciling => "reconciling"
  | .succeeded => "succeeded"
  | .failed => "failed"
  | .terminated => "terminated"

/-- **What happens in a run.** -/
inductive Event where
  /-- The session changed its state. -/
  | moved (before after : SessionState)
  /-- The engine was told to start a service. -/
  | startCalled
  /-- The test was called: with a handle, in a state, while the session held
  a handle. -/
  | testCalled (handle : ServerHandle) (state : SessionState) (held : Option ServerHandle)
  /-- The engine was asked for its report. -/
  | reportCalled
  /-- The engine was told to write the contract. -/
  | writeCalled
  /-- The engine was told to shut the service down. -/
  | shutdownCalled
  /-- Something was logged. -/
  | logged (e : LogEntry)

/-- The log entry of an event in a session. -/
def Event.entry? (session : String) : Event → Option LogEntry
  | .moved before after =>
    some ⟨.debug, "pactum.session", "Session " ++ session ++ ": " ++ before.text ++ " -> " ++ after.text⟩
  | .logged e => some e
  | _ => none

/-- **A session.** -/
structure Session where
  /-- What it goes by; an engine wants a text. -/
  id : Value
  /-- The interactions under test. -/
  interactions : List Interaction
  /-- The options of the contract. -/
  options : PactOptions
  /-- Its settings. -/
  settings : SessionSettings
  /-- Its state. -/
  state : SessionState
  /-- The handle on its mock service, while it has one. -/
  handle : Option ServerHandle
  /-- How a failure of its test is traced through the code. -/
  traceOf : Failure → String := Failure.trace

/-- A session that has not run. -/
def Session.new (id : Value) (interactions : List Interaction) (options : PactOptions)
    (settings : SessionSettings) : Session :=
  { id, interactions, options, settings, state := .idle, handle := none }

/-- The session in another state. -/
def Session.enter (s : Session) (state : SessionState) : Session := { s with state := state }

/-- The session with a handle on its mock service. -/
def Session.hold (s : Session) (handle : ServerHandle) : Session :=
  { s with handle := some handle }

/-- The session's change to another state, as an event. -/
def Session.moveTo (s : Session) (state : SessionState) : Event := .moved s.state state

/-- The call of the test as an event, with what the test can see of the
session. -/
def Session.callTest (s : Session) (handle : ServerHandle) : Event :=
  .testCalled handle s.state s.handle

/-- How the session is told in words. -/
def Session.label (s : Session) : String := s.id.display

/-- **An argument that is asked whether it is true.** A value can tell. An
object of another kind is known here by what it raises instead. -/
inductive Argument where
  /-- A value. -/
  | value (v : Value)
  /-- An object that raises when it is asked. -/
  | object (raised : Exception)

/-- The value of an argument, once it was asked. -/
def Argument.settle : Argument → Except Failure Value
  | .value v => .ok v
  | .object e => .error (.raised e)

/-- **What a session goes by**: what was asked for, or a name of its own where
that is not true. -/
def Argument.orOwn (asked : Argument) (own : Value) : Except Failure Value :=
  asked.settle.map fun v => if v.isTruthy then v else own

/-- What a session goes by: what was asked for, or a name of its own out of the
number of sessions that have one; and that number after it. -/
def Session.idFor (asked : Value) (count : Nat) : Value × Nat :=
  if asked.isTruthy then (asked, count) else (.str ("auto-" ++ natText (count + 1)), count + 1)

/-- **The result of a run.** -/
structure SessionResult where
  /-- Whether the session succeeded. -/
  succeeded : Bool
  /-- What the test returned, if the session succeeded. -/
  value : Value
  /-- Why the session failed. -/
  error : Option Failure
  /-- What is told about it. -/
  diagnostics : Option String
  /-- The mismatches that count. -/
  mismatches : List Mismatch
  /-- Whether the contract was written. -/
  contractWritten : Bool

/-- The name of the outcome. -/
def SessionResult.outcome (r : SessionResult) : SessionState :=
  if r.succeeded then .succeeded else .failed

/-- What the test returned, or why the session failed. -/
def SessionResult.unwrap (r : SessionResult) : Except Failure Value :=
  match r.error with
  | some e => .error e
  | none => .ok r.value

/-- **A test**: it is given a handle on the mock service, may change the
engine's state through it, and returns a value or fails. -/
abbrev TestFunction (σ : Type) := ServerHandle → σ → Except Failure Value × σ

/-- **What came of a part of a run**: its outcome, its events, and the
engine's state after it. -/
structure Progress (σ α : Type) where
  /-- What was returned, or how it ended. -/
  outcome : Except Failure α
  /-- What happened, in order. -/
  events : List Event
  /-- The engine's state. -/
  engine : σ

/-- A part of a run after some events. -/
def Progress.after {σ α : Type} (events : List Event) (p : Progress σ α) : Progress σ α :=
  { p with events := events ++ p.events }

end Covenant
