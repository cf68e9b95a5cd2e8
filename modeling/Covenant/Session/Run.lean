import Covenant.Session.Basic

/-!
# Running a session

`Session.run` is composed from its stages, each a function of the engine's
state: `start`, then the test, then `settle`, which asks the engine, folds
everything into a verdict and writes the contract on success. Whatever the
stages came to, the service is shut down at the end and the session is
terminated.
-/

namespace Covenant

namespace Session

variable {σ : Type}

/-- The part of the library that tells about sessions. -/
def logger : String := "pactum.session"

/-- Log entries as events. -/
def logEvents (log : List LogEntry) : List Event := log.map .logged

/-- A log entry about the session as an event. -/
def told (level : Level) (message : String) : Event := .logged ⟨level, logger, message⟩

/-! ## Starting -/

/-- The result of a session whose service did not start. -/
def startFailure (cause : Failure) : SessionResult :=
  ⟨false, .null, some (.startFailed cause), some (Failure.startFailed cause).text, [], false⟩

/-- The entry about a service that started. -/
def startedEntry (s : Session) (handle : ServerHandle) : Event :=
  told .info ("Mock server for " ++ s.options.consumer ++ " -> " ++ s.options.provider
    ++ " started at " ++ handle.url)

/-- The entry about a service that did not start. -/
def startFailureEntry (s : Session) (cause : Failure) : Event :=
  told .warning ("Session " ++ s.label ++ ": " ++ (Failure.startFailed cause).text)

/-! ## Asking the engine -/

/-- **What the engine found**: the fault of its service and the mismatches.
A report that cannot be had, or whose mismatches cannot be read, counts as a
fault of the service. -/
structure Findings where
  /-- The fault of the service. -/
  serverError : Option String
  /-- The mismatches. -/
  mismatches : List Mismatch

/-- The findings where the engine's report is of no use. -/
def Findings.unavailable (cause : Failure) : Findings :=
  ⟨some ("Could not get the result from the mock server - " ++ cause.text), []⟩

/-- The entry about a report that is of no use. -/
def unavailableEntry : Event := told .error "Could not get the result from the mock server"

/-- Asks the engine for its findings. -/
def query (engine : Engine σ) (s : Session) (st : σ) : Progress σ Findings :=
  let a := engine.report s.id st
  let unavailable (cause : Failure) : Progress σ Findings :=
    ⟨.ok (.unavailable cause), .reportCalled :: (logEvents a.log ++ [unavailableEntry]), a.state⟩
  match a.outcome with
  | .error e =>
    if e.isOrdinary then unavailable e
    else ⟨.error e, .reportCalled :: logEvents a.log, a.state⟩
  | .ok r =>
    match r.mismatches with
    | .error report => unavailable (.invalid report)
    | .ok ms => ⟨.ok ⟨r.serverError, ms⟩, .reportCalled :: logEvents a.log, a.state⟩

/-! ## Writing the contract -/

/-- Has the contract written: `none` if it was, otherwise why it was not. -/
def writeContract (engine : Engine σ) (s : Session) (st : σ) : Progress σ (Option Failure) :=
  let a := engine.write s.id s.options st
  let events := .writeCalled :: logEvents a.log
  match a.outcome with
  | .ok () => ⟨.ok none, events, a.state⟩
  | .error e =>
    if e.isOrdinary then
      ⟨.ok (some (if e.isWriteFailure then e else .writeFailed e)), events, a.state⟩
    else ⟨.error e, events, a.state⟩

/-! ## Settling -/

/-- The entry about a failed session. -/
def failedEntry (s : Session) (error : Option Failure) : Event :=
  told .warning ("Session " ++ s.label ++ " failed: " ++ ((error.map Failure.text).getD "None"))

/-- The end of a session with a verdict: the result, and what is told. -/
def conclude (s : Session) (value : Value) (v : Verdict) (written : Bool) (st : σ) :
    Progress σ SessionResult :=
  if v.succeeded then
    ⟨.ok ⟨true, value, v.error, v.diagnostics, v.mismatches, written⟩,
      [s.moveTo .succeeded], st⟩
  else
    ⟨.ok ⟨false, .null, v.error, v.diagnostics, v.mismatches, written⟩,
      [failedEntry s v.error, s.moveTo .failed], st⟩

/-- The verdict on a session whose contract was not written. -/
def writeVerdict (e : Failure) : Verdict := ⟨false, some e, some e.text, []⟩

/-- What the test returned, as the value of a successful session. -/
def testValue : Except Failure Value → Value
  | .ok v => v
  | .error _ => .null

/-- Why the test failed, if it did. -/
def testError? : Except Failure Value → Option Failure
  | .ok _ => none
  | .error e => some e

/-- **From the end of the test to the end of the session.** -/
def settle (engine : Engine σ) (s : Session) (tested : Except Failure Value) (st : σ) :
    Progress σ SessionResult :=
  let q := query engine s st
  match q.outcome with
  | .error e => ⟨.error e, q.events, q.engine⟩
  | .ok findings =>
    let v := reconcile s.traceOf (testError? tested) findings.serverError findings.mismatches
      s.settings.allowMissing
    if v.succeeded then
      let w := writeContract engine s q.engine
      match w.outcome with
      | .error e => ⟨.error e, q.events ++ w.events, w.engine⟩
      | .ok none =>
        (conclude s (testValue tested) v true w.engine).after (q.events ++ w.events)
      | .ok (some e) =>
        (conclude s (testValue tested) (writeVerdict e) false w.engine).after (q.events ++ w.events)
    else (conclude s (testValue tested) v false q.engine).after q.events

/-- **Everything a run does before the service is shut down.** -/
def body (engine : Engine σ) (s : Session) (test : TestFunction σ) (st : σ) :
    Progress σ SessionResult :=
  let starting := s.enter .starting
  let a := engine.start s.id s.interactions s.options st
  let begun := s.moveTo .starting :: .startCalled :: logEvents a.log
  match a.outcome with
  | .error e =>
    if e.isOrdinary then
      ⟨.ok (startFailure e), begun ++ [startFailureEntry s e, starting.moveTo .failed], a.state⟩
    else ⟨.error e, begun, a.state⟩
  | .ok handle =>
    let held := starting.hold handle
    let running := held.enter .running
    let (tested, st) := test handle a.state
    let called := begun
      ++ [startedEntry s handle, held.moveTo .running, running.callTest handle]
    let reconciling := running.enter .reconciling
    match tested with
    | .error e =>
      if e.isOrdinary then
        (settle engine reconciling tested st).after (called ++ [running.moveTo .reconciling])
      else ⟨.error e, called, st⟩
    | .ok _ =>
      (settle engine reconciling tested st).after (called ++ [running.moveTo .reconciling])

/-- The state that a list of events leads to. -/
def stateAfter (before : SessionState) (events : List Event) : SessionState :=
  events.foldl (fun s e => match e with | .moved _ after => after | _ => s) before

/-- The entry about a service that was shut down. -/
def shutdownEntry (s : Session) : Event :=
  told .debug ("Session " ++ s.label ++ ": mock server shut down")

/-- **What came of a run**: its outcome and events, the session after it, and
the engine's state. -/
structure Finished (σ : Type) where
  /-- The result, or how the run ended. -/
  outcome : Except Failure SessionResult
  /-- What happened, in order. -/
  events : List Event
  /-- The session after the run. -/
  session : Session
  /-- The engine's state. -/
  engine : σ

/-- **Runs a session**, which can be done once. -/
def run (engine : Engine σ) (s : Session) (test : TestFunction σ) (st : σ) : Finished σ :=
  if s.state ≠ .idle then ⟨.error (.alreadyRun s.label), [], s, st⟩
  else
    let b := body engine s test st
    let a := engine.shutdown s.id b.engine
    let events := b.events ++ .shutdownCalled :: logEvents a.log
    let last := .moved (stateAfter s.state b.events) .terminated
    let ended := { s with state := .terminated, handle := none }
    match a.outcome with
    | .error e => ⟨.error e, events ++ [last], ended, a.state⟩
    | .ok () => ⟨b.outcome, events ++ [shutdownEntry s, last], ended, a.state⟩

/-- The log of a finished run. -/
def Finished.log (f : Finished σ) : List LogEntry := f.events.filterMap (Event.entry? f.session.label)

/-- Runs a session and returns what the test returned, or fails with the
session's error. -/
def Finished.value (f : Finished σ) : Except Failure Value :=
  match f.outcome with
  | .ok r => r.unwrap
  | .error e => .error e

end Session

end Covenant
