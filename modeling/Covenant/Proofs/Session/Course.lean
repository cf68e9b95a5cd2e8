import Covenant.Proofs.Session.Reconcile
import Covenant.Session.Run

/-!
# The course of a run

A run asks for up to four answers before the service is shut down: the
engine's to being told to start, the test's, the engine's report, and the
engine's to being told to write. An answer is a return, an ordinary failure,
or a failure that ends the run from outside, and what the run does next
depends on nothing else – but for the write, which is asked for only where the
verdict is one of success.

`Course` says this once. It lists the ways up to the shutdown, a constructor
for each, with the four things that are asked of a run afterwards: its outcome,
its trace, the state that the session is in, and the state that the engine is
in. `course_body` says that there is no other way. What holds of every run is
then a matter of going through the constructors, and no proof has to open the
stages of a run again.

A **trace** is the list of events without the log entries. It keeps the
changes of state and the calls, in order.
-/

namespace Covenant

/-- Whether an event is a log entry. -/
def Event.isLogged : Event → Bool
  | .logged _ => true
  | _ => false

namespace Session

variable {σ : Type}

/-! ## Traces -/

/-- **The trace of events**: everything but the log entries. -/
def trace (events : List Event) : List Event := events.filter fun e => !e.isLogged

@[simp] theorem trace_nil : trace [] = [] := rfl

@[simp] theorem trace_append (es fs : List Event) : trace (es ++ fs) = trace es ++ trace fs :=
  List.filter_append _ _

@[simp] theorem trace_moved (before after : SessionState) (es : List Event) :
    trace (.moved before after :: es) = .moved before after :: trace es := rfl

@[simp] theorem trace_startCalled (es : List Event) :
    trace (.startCalled :: es) = .startCalled :: trace es := rfl

@[simp] theorem trace_testCalled (h : ServerHandle) (state : SessionState)
    (held : Option ServerHandle) (es : List Event) :
    trace (.testCalled h state held :: es) = .testCalled h state held :: trace es := rfl

@[simp] theorem trace_reportCalled (es : List Event) :
    trace (.reportCalled :: es) = .reportCalled :: trace es := rfl

@[simp] theorem trace_writeCalled (es : List Event) :
    trace (.writeCalled :: es) = .writeCalled :: trace es := rfl

@[simp] theorem trace_shutdownCalled (es : List Event) :
    trace (.shutdownCalled :: es) = .shutdownCalled :: trace es := rfl

@[simp] theorem trace_logged (e : LogEntry) (es : List Event) :
    trace (.logged e :: es) = trace es := rfl

@[simp] theorem trace_told (level : Level) (message : String) (es : List Event) :
    trace (told level message :: es) = trace es := rfl

@[simp] theorem trace_logEvents (log : List LogEntry) : trace (logEvents log) = [] := by
  unfold logEvents trace
  rw [List.filter_eq_nil_iff]
  intro e he
  obtain ⟨entry, -, rfl⟩ := List.mem_map.mp he
  simp [Event.isLogged]

/-- **What log entries say nothing about can be read off the trace.** -/
theorem filterMap_trace {β : Type} {f : Event → Option β} (hf : ∀ e, f (.logged e) = none)
    (events : List Event) : (trace events).filterMap f = events.filterMap f := by
  unfold trace
  rw [List.filterMap_filter]
  congr 1
  funext e
  cases e with
  | logged entry => exact (hf entry).symm
  | _ => rfl

/-- The state that events lead to can be read off their trace. -/
theorem stateAfter_trace (before : SessionState) (events : List Event) :
    stateAfter before (trace events) = stateAfter before events := by
  induction events generalizing before with
  | nil => rfl
  | cons e es ih =>
    cases e with
    | logged entry => exact ih before
    | moved b a => exact ih a
    | startCalled => exact ih before
    | testCalled h state held => exact ih before
    | reportCalled => exact ih before
    | writeCalled => exact ih before
    | shutdownCalled => exact ih before

/-! ## The answers that a run asks for -/

/-- Whether a run goes on after an answer: it returned, or failed in an
ordinary way. -/
def goesOn {α : Type} : Except Failure α → Bool
  | .ok _ => true
  | .error e => e.isOrdinary

/-- An answer lets the run go on, or ends it from outside. -/
theorem goesOn_or_ended {α : Type} (answer : Except Failure α) :
    goesOn answer = true ∨ ∃ e, answer = .error e ∧ e.isOrdinary = false := by
  cases answer with
  | ok a => exact .inl rfl
  | error e =>
    cases he : e.isOrdinary with
    | true => exact .inl he
    | false => exact .inr ⟨e, rfl, he⟩

section Answers

variable (engine : Engine σ) (s : Session) (test : TestFunction σ) (st : σ)

/-- What the engine answers when it is told to start. -/
def started : Answer σ ServerHandle := engine.start s.id s.interactions s.options st

/-- What the test comes to with a handle, and the engine's state then. -/
def tested (h : ServerHandle) : Except Failure Value × σ := test h (started engine s st).state

/-- What the engine answers when it is asked for its report. -/
def reported (h : ServerHandle) : Answer σ EngineReport :=
  engine.report s.id (tested engine s test st h).2

/-- What the engine answers when it is told to write. -/
def written (h : ServerHandle) : Answer σ Unit :=
  engine.write s.id s.options (reported engine s test st h).state

end Answers

/-- **What an answer to the question for a report counts as.** One that
cannot be had, or whose mismatches cannot be read, counts as a fault of the
service without mismatches. -/
def findings : Except Failure EngineReport → Findings
  | .error e => .unavailable e
  | .ok r =>
    match r.mismatches with
    | .error bad => .unavailable (.invalid bad)
    | .ok ms => ⟨r.serverError, ms⟩

section Verdict

variable (engine : Engine σ) (s : Session) (test : TestFunction σ) (st : σ)

/-- What the engine found. -/
def found (h : ServerHandle) : Findings := findings (reported engine s test st h).outcome

/-- The verdict on the test and the findings. -/
def verdict (h : ServerHandle) : Verdict :=
  reconcile s.traceOf (testError? (tested engine s test st h).1)
    (found engine s test st h).serverError (found engine s test st h).mismatches
    s.settings.allowMissing

end Verdict

/-- The failure of a session whose contract was not written. -/
def writeFailure (e : Failure) : Failure := if e.isWriteFailure then e else .writeFailed e

/-! ## The ways that a run can go -/

/-- The trace of a run whose test was called. -/
def runningTrace (h : ServerHandle) : List Event :=
  [.moved .idle .starting, .startCalled, .moved .starting .running,
    .testCalled h .running (some h)]

/-- The trace of a run whose engine was asked for its report. -/
def reconcilingTrace (h : ServerHandle) : List Event :=
  runningTrace h ++ [.moved .running .reconciling, .reportCalled]

section Course

variable (engine : Engine σ) (s : Session) (test : TestFunction σ) (st : σ)

/-- **The ways that a run can go before the service is shut down**: with its
outcome, its trace, and the states in which it leaves the session and the
engine. -/
inductive Course : Except Failure SessionResult → List Event → SessionState → σ → Prop where
  /-- The start was ended from outside. -/
  | startEnded {e : Failure} (hstart : (started engine s st).outcome = .error e)
      (he : e.isOrdinary = false) :
      Course (.error e) [.moved .idle .starting, .startCalled] .starting
        (started engine s st).state
  /-- The service did not start. -/
  | startFailed {e : Failure} (hstart : (started engine s st).outcome = .error e)
      (he : e.isOrdinary = true) :
      Course (.ok (startFailure e))
        [.moved .idle .starting, .startCalled, .moved .starting .failed] .failed
        (started engine s st).state
  /-- The test was ended from outside. -/
  | testEnded {h : ServerHandle} {e : Failure} (hstart : (started engine s st).outcome = .ok h)
      (htest : (tested engine s test st h).1 = .error e) (he : e.isOrdinary = false) :
      Course (.error e) (runningTrace h) .running (tested engine s test st h).2
  /-- The question for the report was ended from outside. -/
  | reportEnded {h : ServerHandle} {e : Failure} (hstart : (started engine s st).outcome = .ok h)
      (htest : goesOn (tested engine s test st h).1 = true)
      (hreport : (reported engine s test st h).outcome = .error e) (he : e.isOrdinary = false) :
      Course (.error e) (reconcilingTrace h) .reconciling (reported engine s test st h).state
  /-- The verdict was not one of success. -/
  | ruled {h : ServerHandle} (hstart : (started engine s st).outcome = .ok h)
      (htest : goesOn (tested engine s test st h).1 = true)
      (hreport : goesOn (reported engine s test st h).outcome = true)
      (hverdict : (verdict engine s test st h).succeeded = false) :
      Course
        (.ok ⟨false, .null, (verdict engine s test st h).error,
          (verdict engine s test st h).diagnostics, (verdict engine s test st h).mismatches, false⟩)
        (reconcilingTrace h ++ [.moved .reconciling .failed]) .failed
        (reported engine s test st h).state
  /-- The writing was ended from outside. -/
  | writeEnded {h : ServerHandle} {e : Failure} (hstart : (started engine s st).outcome = .ok h)
      (htest : goesOn (tested engine s test st h).1 = true)
      (hreport : goesOn (reported engine s test st h).outcome = true)
      (hverdict : (verdict engine s test st h).succeeded = true)
      (hwrite : (written engine s test st h).outcome = .error e) (he : e.isOrdinary = false) :
      Course (.error e) (reconcilingTrace h ++ [.writeCalled]) .reconciling
        (written engine s test st h).state
  /-- The contract was not written. -/
  | writeFailed {h : ServerHandle} {e : Failure} (hstart : (started engine s st).outcome = .ok h)
      (htest : goesOn (tested engine s test st h).1 = true)
      (hreport : goesOn (reported engine s test st h).outcome = true)
      (hverdict : (verdict engine s test st h).succeeded = true)
      (hwrite : (written engine s test st h).outcome = .error e) (he : e.isOrdinary = true) :
      Course (.ok ⟨false, .null, some (writeFailure e), some (writeFailure e).text, [], false⟩)
        (reconcilingTrace h ++ [.writeCalled, .moved .reconciling .failed]) .failed
        (written engine s test st h).state
  /-- Everything went well. -/
  | clean {h : ServerHandle} {v : Value} (hstart : (started engine s st).outcome = .ok h)
      (htest : (tested engine s test st h).1 = .ok v)
      (hreport : goesOn (reported engine s test st h).outcome = true)
      (hverdict : (verdict engine s test st h).succeeded = true)
      (hwrite : (written engine s test st h).outcome = .ok ()) :
      Course (.ok ⟨true, v, none, none, [], true⟩)
        (reconcilingTrace h ++ [.writeCalled, .moved .reconciling .succeeded]) .succeeded
        (written engine s test st h).state

end Course

/-! ## There is no other way

Each stage is opened once. A stage that asks for an answer has a lemma for each
kind of answer, which says what the stage comes to and, of its events, what
their trace is. -/

section Stages

variable {engine : Engine σ} {s : Session} {test : TestFunction σ} {st : σ} {h : ServerHandle}

/-- The session once the test has ended. -/
def reconciling (s : Session) (h : ServerHandle) : Session :=
  { s with state := .reconciling, handle := some h }

/-- What the stages after the test come to. -/
def settled (engine : Engine σ) (s : Session) (test : TestFunction σ) (st : σ) (h : ServerHandle) :
    Progress σ SessionResult :=
  settle engine (s.reconciling h) (tested engine s test st h).1 (tested engine s test st h).2

/-- A report that was given, or was not given for an ordinary reason, counts
as findings. -/
theorem query_of_goesOn (hreport : goesOn (reported engine s test st h).outcome = true) :
    ∃ es, query engine (s.reconciling h) (tested engine s test st h).2
        = ⟨.ok (found engine s test st h), es, (reported engine s test st h).state⟩
      ∧ trace es = [.reportCalled] := by
  unfold query found findings reconciling
  dsimp only
  rw [← reported]
  cases hr : (reported engine s test st h).outcome with
  | error e =>
    rw [hr] at hreport
    dsimp only
    rw [if_pos (show e.isOrdinary = true from hreport)]
    exact ⟨_, rfl, by simp [unavailableEntry]⟩
  | ok r =>
    dsimp only
    cases hm : r.mismatches with
    | error bad => exact ⟨_, rfl, by simp [unavailableEntry]⟩
    | ok ms => exact ⟨_, rfl, by simp⟩

/-- A question for the report that is ended from outside ends the stage. -/
theorem query_of_ended {e : Failure} (hreport : (reported engine s test st h).outcome = .error e)
    (he : e.isOrdinary = false) :
    ∃ es, query engine (s.reconciling h) (tested engine s test st h).2
        = ⟨.error e, es, (reported engine s test st h).state⟩
      ∧ trace es = [.reportCalled] := by
  unfold query reconciling
  dsimp only
  rw [← reported, hreport]
  dsimp only
  rw [if_neg (Bool.eq_false_iff.mp he)]
  exact ⟨_, rfl, by simp⟩

theorem writeContract_of_ok (hwrite : (written engine s test st h).outcome = .ok ()) :
    ∃ es, writeContract engine (s.reconciling h) (reported engine s test st h).state
        = ⟨.ok none, es, (written engine s test st h).state⟩
      ∧ trace es = [.writeCalled] := by
  unfold writeContract reconciling
  dsimp only
  rw [← written, hwrite]
  exact ⟨_, rfl, by simp⟩

theorem writeContract_of_failed {e : Failure}
    (hwrite : (written engine s test st h).outcome = .error e) (he : e.isOrdinary = true) :
    ∃ es, writeContract engine (s.reconciling h) (reported engine s test st h).state
        = ⟨.ok (some (writeFailure e)), es, (written engine s test st h).state⟩
      ∧ trace es = [.writeCalled] := by
  unfold writeContract reconciling
  dsimp only
  rw [← written, hwrite]
  dsimp only
  rw [if_pos he]
  exact ⟨_, rfl, by simp⟩

/-- A writing that is ended from outside ends the stage. -/
theorem writeContract_of_ended {e : Failure}
    (hwrite : (written engine s test st h).outcome = .error e) (he : e.isOrdinary = false) :
    ∃ es, writeContract engine (s.reconciling h) (reported engine s test st h).state
        = ⟨.error e, es, (written engine s test st h).state⟩
      ∧ trace es = [.writeCalled] := by
  unfold writeContract reconciling
  dsimp only
  rw [← written, hwrite]
  dsimp only
  rw [if_neg (Bool.eq_false_iff.mp he)]
  exact ⟨_, rfl, by simp⟩

theorem conclude_of_failed {v : Verdict} (hv : v.succeeded = false) (value : Value)
    (wrote : Bool) (x : σ) :
    ∃ es, conclude (s.reconciling h) value v wrote x
        = ⟨.ok ⟨false, .null, v.error, v.diagnostics, v.mismatches, wrote⟩, es, x⟩
      ∧ trace es = [.moved .reconciling .failed] := by
  unfold conclude
  rw [if_neg (Bool.eq_false_iff.mp hv)]
  exact ⟨_, rfl, rfl⟩

theorem conclude_success (value : Value) (wrote : Bool) (x : σ) :
    conclude (s.reconciling h) value .success wrote x
      = ⟨.ok ⟨true, value, none, none, [], wrote⟩, [.moved .reconciling .succeeded], x⟩ := rfl

theorem settled_eq {es : List Event}
    (hq : query engine (s.reconciling h) (tested engine s test st h).2
      = ⟨.ok (found engine s test st h), es, (reported engine s test st h).state⟩) :
    settled engine s test st h
      = if (verdict engine s test st h).succeeded then
          let w := writeContract engine (s.reconciling h) (reported engine s test st h).state
          match w.outcome with
          | .error e => ⟨.error e, es ++ w.events, w.engine⟩
          | .ok none =>
            (conclude (s.reconciling h) (testValue (tested engine s test st h).1)
              (verdict engine s test st h) true w.engine).after (es ++ w.events)
          | .ok (some e) =>
            (conclude (s.reconciling h) (testValue (tested engine s test st h).1)
              (writeVerdict e) false w.engine).after (es ++ w.events)
        else
          (conclude (s.reconciling h) (testValue (tested engine s test st h).1)
            (verdict engine s test st h) false (reported engine s test st h).state).after es := by
  unfold settled settle
  rw [hq]
  rfl

/-- A session with a verdict of success has the value of its test. -/
theorem exists_value_of_succeeded (hv : (verdict engine s test st h).succeeded = true) :
    ∃ v, (tested engine s test st h).1 = .ok v := by
  obtain ⟨htest, -, -⟩ := reconcile_succeeded_iff.mp hv
  cases ht : (tested engine s test st h).1 with
  | ok v => exact ⟨v, rfl⟩
  | error e =>
    rw [ht] at htest
    simp [testError?] at htest

/-- **The stages after a verdict of success** are a course. -/
theorem course_of_succeeded (hstart : (started engine s st).outcome = .ok h)
    (htest : goesOn (tested engine s test st h).1 = true)
    (hreport : goesOn (reported engine s test st h).outcome = true)
    (hv : (verdict engine s test st h).succeeded = true) :
    let p := settled engine s test st h
    let t := runningTrace h ++ .moved .running .reconciling :: trace p.events
    Course engine s test st p.outcome t (stateAfter .idle t) p.engine := by
  obtain ⟨es, hq, hes⟩ := query_of_goesOn hreport
  rw [settled_eq hq, if_pos hv]
  -- the writing decides
  cases hwrite : (written engine s test st h).outcome with
  | ok u =>
    obtain ⟨fs, hw, hfs⟩ := writeContract_of_ok hwrite
    obtain ⟨v, hvalue⟩ := exists_value_of_succeeded hv
    rw [hw, show verdict engine s test st h = .success from reconcile_eq_success hv]
    simp only [conclude_success, Progress.after, trace_append, hes, hfs, hvalue, testValue]
    exact .clean hstart hvalue hreport hv hwrite
  | error e =>
    cases he : e.isOrdinary with
    | true =>
      obtain ⟨fs, hw, hfs⟩ := writeContract_of_failed hwrite he
      obtain ⟨gs, hc, hgs⟩ := conclude_of_failed (s := s) (h := h)
        (v := writeVerdict (writeFailure e)) rfl (testValue (tested engine s test st h).1) false
        (written engine s test st h).state
      rw [hw]
      simp only [hc, Progress.after, trace_append, hes, hfs, hgs]
      exact .writeFailed hstart htest hreport hv hwrite he
    | false =>
      obtain ⟨fs, hw, hfs⟩ := writeContract_of_ended hwrite he
      rw [hw]
      simp only [trace_append, hes, hfs]
      exact .writeEnded hstart htest hreport hv hwrite he

/-- **The stages after the test** are a course, whose trace goes on from the
call to the test. -/
theorem course_settled (hstart : (started engine s st).outcome = .ok h)
    (htest : goesOn (tested engine s test st h).1 = true) :
    let p := settled engine s test st h
    let t := runningTrace h ++ .moved .running .reconciling :: trace p.events
    Course engine s test st p.outcome t (stateAfter .idle t) p.engine := by
  obtain hreport | ⟨e, hreport, he⟩ := goesOn_or_ended (reported engine s test st h).outcome
  · -- the report counts as findings, and the verdict decides
    cases hv : (verdict engine s test st h).succeeded with
    | true => exact course_of_succeeded hstart htest hreport hv
    | false =>
      obtain ⟨es, hq, hes⟩ := query_of_goesOn hreport
      obtain ⟨fs, hc, hfs⟩ := conclude_of_failed (s := s) (h := h) hv
        (testValue (tested engine s test st h).1) false (reported engine s test st h).state
      rw [settled_eq hq, if_neg (Bool.eq_false_iff.mp hv), hc]
      simp only [Progress.after, trace_append, hes, hfs]
      exact .ruled hstart htest hreport hv
  · obtain ⟨es, hq, hes⟩ := query_of_ended hreport he
    unfold settled settle
    rw [hq]
    simp only [hes]
    exact .reportEnded hstart htest hreport he

theorem body_of_startFailed (hs : s.state = .idle) (test : TestFunction σ) {e : Failure}
    (hstart : (started engine s st).outcome = .error e) (he : e.isOrdinary = true) :
    ∃ es, body engine s test st = ⟨.ok (startFailure e), es, (started engine s st).state⟩
      ∧ trace es = [.moved .idle .starting, .startCalled, .moved .starting .failed] := by
  unfold body
  dsimp only
  rw [← started, hstart]
  dsimp only
  rw [if_pos he]
  exact ⟨_, rfl, by simp [startFailureEntry, Session.moveTo, Session.enter, hs]⟩

theorem body_of_startEnded (hs : s.state = .idle) (test : TestFunction σ) {e : Failure}
    (hstart : (started engine s st).outcome = .error e) (he : e.isOrdinary = false) :
    ∃ es, body engine s test st = ⟨.error e, es, (started engine s st).state⟩
      ∧ trace es = [.moved .idle .starting, .startCalled] := by
  unfold body
  dsimp only
  rw [← started, hstart]
  dsimp only
  rw [if_neg (Bool.eq_false_iff.mp he)]
  exact ⟨_, rfl, by simp [Session.moveTo, hs]⟩

theorem body_of_testEnded (hs : s.state = .idle) {e : Failure}
    (hstart : (started engine s st).outcome = .ok h)
    (htest : (tested engine s test st h).1 = .error e) (he : e.isOrdinary = false) :
    ∃ es, body engine s test st = ⟨.error e, es, (tested engine s test st h).2⟩
      ∧ trace es = runningTrace h := by
  have hcall : test h (started engine s st).state = (.error e, (tested engine s test st h).2) :=
    Prod.ext htest rfl
  unfold body
  dsimp only
  rw [← started, hstart]
  dsimp only
  rw [hcall]
  dsimp only
  rw [if_neg (Bool.eq_false_iff.mp he)]
  exact ⟨_, rfl, by simp [startedEntry, runningTrace, callTest, moveTo, enter, hold, hs]⟩

theorem body_of_goesOn (hs : s.state = .idle) (hstart : (started engine s st).outcome = .ok h)
    (htest : goesOn (tested engine s test st h).1 = true) :
    ∃ es, body engine s test st = (settled engine s test st h).after es
      ∧ trace es = runningTrace h ++ [.moved .running .reconciling] := by
  unfold body settled
  dsimp only
  rw [← started, hstart]
  dsimp only
  rw [show test h (started engine s st).state
    = ((tested engine s test st h).1, (tested engine s test st h).2) from rfl]
  cases ht : (tested engine s test st h).1 with
  | ok v => exact ⟨_, rfl, by simp [startedEntry, runningTrace, callTest, moveTo, enter, hold, hs]⟩
  | error e =>
    rw [ht] at htest
    dsimp only
    rw [if_pos (show e.isOrdinary = true from htest)]
    exact ⟨_, rfl, by simp [startedEntry, runningTrace, callTest, moveTo, enter, hold, hs]⟩

/-- **A run whose contract is not written** ends with the failure to write it. -/
theorem body_of_writeFailed (hs : s.state = .idle) {e : Failure}
    (hstart : (started engine s st).outcome = .ok h)
    (htest : goesOn (tested engine s test st h).1 = true)
    (hreport : goesOn (reported engine s test st h).outcome = true)
    (hv : (verdict engine s test st h).succeeded = true)
    (hwrite : (written engine s test st h).outcome = .error e) (he : e.isOrdinary = true) :
    (body engine s test st).outcome
        = .ok ⟨false, .null, some (writeFailure e), some (writeFailure e).text, [], false⟩
      ∧ (body engine s test st).engine = (written engine s test st h).state := by
  obtain ⟨es, hbody, -⟩ := body_of_goesOn hs hstart htest
  obtain ⟨fs, hq, -⟩ := query_of_goesOn hreport
  obtain ⟨gs, hw, -⟩ := writeContract_of_failed hwrite he
  rw [hbody, settled_eq hq, if_pos hv, hw]
  exact ⟨rfl, rfl⟩

end Stages

/-- **Every run goes one of the ways of `Course`** before the service is shut
down. -/
theorem course_body (engine : Engine σ) {s : Session} (hs : s.state = .idle)
    (test : TestFunction σ) (st : σ) :
    Course engine s test st (body engine s test st).outcome
      (trace (body engine s test st).events) (stateAfter .idle (body engine s test st).events)
      (body engine s test st).engine := by
  rw [← stateAfter_trace]
  cases hstart : (started engine s st).outcome with
  | error e =>
    cases he : e.isOrdinary with
    | true =>
      obtain ⟨es, hbody, hes⟩ := body_of_startFailed hs test hstart he
      rw [hbody, hes]
      exact .startFailed hstart he
    | false =>
      obtain ⟨es, hbody, hes⟩ := body_of_startEnded hs test hstart he
      rw [hbody, hes]
      exact .startEnded hstart he
  | ok h =>
    obtain htest | ⟨e, htest, he⟩ := goesOn_or_ended (tested engine s test st h).1
    · obtain ⟨es, hbody, hes⟩ := body_of_goesOn hs hstart htest
      rw [hbody]
      simp only [Progress.after, trace_append, hes, List.append_assoc, List.singleton_append]
      exact course_settled hstart htest
    · obtain ⟨es, hbody, hes⟩ := body_of_testEnded hs hstart htest he
      rw [hbody, hes]
      exact .testEnded hstart htest he

/-! ## The whole run -/

section Run

variable (engine : Engine σ) (s : Session) (test : TestFunction σ) (st : σ)

/-- What the engine answers when it is told to shut the service down. -/
def ended : Answer σ Unit := engine.shutdown s.id (body engine s test st).engine

/-- **A run is its course and the shutdown.** The shutdown comes last, whatever
the course was; the outcome of the course stands if the shutdown returned, and
is replaced by its failure otherwise. -/
theorem run_of_idle (hs : s.state = .idle) :
    ∃ es, run engine s test st
        = ⟨(ended engine s test st).outcome.bind fun _ => (body engine s test st).outcome, es,
          { s with state := .terminated, handle := none }, (ended engine s test st).state⟩
      ∧ trace es = trace (body engine s test st).events
          ++ [.shutdownCalled,
            .moved (stateAfter .idle (body engine s test st).events) .terminated] := by
  unfold run
  rw [if_neg (not_not_intro hs)]
  dsimp only
  rw [← ended, hs]
  cases hshutdown : (ended engine s test st).outcome with
  | error e => exact ⟨_, rfl, by simp⟩
  | ok u => exact ⟨_, rfl, by simp [shutdownEntry]⟩

/-- A session that is not idle is not run: nothing is called, and neither the
session nor the engine changes. -/
theorem run_of_not_idle (hs : s.state ≠ .idle) :
    run engine s test st = ⟨.error (.alreadyRun s.label), [], s, st⟩ := by
  unfold run
  rw [if_pos hs]

variable {engine s test st}

/-- A result of a run is the outcome of its course. -/
theorem body_of_run {r : SessionResult} (hs : s.state = .idle)
    (hr : (run engine s test st).outcome = .ok r) :
    (body engine s test st).outcome = .ok r ∧ (ended engine s test st).outcome = .ok () := by
  obtain ⟨es, hrun, -⟩ := run_of_idle engine s test st hs
  rw [hrun] at hr
  cases hshutdown : (ended engine s test st).outcome with
  | error e =>
    rw [hshutdown] at hr
    cases hr
  | ok u =>
    rw [hshutdown] at hr
    exact ⟨hr, rfl⟩

end Run

/-! ## A session to run -/

/-- A session without interactions. -/
def sample : Session :=
  .new (.str "s1") [] ⟨.ofText "pacts", "web-ui", "user-service", false, none, "3.0.0"⟩ ⟨false⟩

/-- What a test of that session raises. -/
def sampleFailure : Failure := .raised (.mk "ValueError" true (some (.str "boom")) none)

/-- A test that fails. -/
def failingTest : TestFunction σ := fun _ st => (.error sampleFailure, st)

end Session

end Covenant
