import Covenant.Engine.Scripted
import Covenant.Proofs.Session.Course

/-!
# The calls of a run

A run has events for the calls that it makes, but an event is only what the
run says about itself. What is called is what an engine and a test notice.
`Engine.recorded` and `recorded` have them note every call, with its
arguments, in a list beside the engine's state.

Recording changes nothing about a run, and what is recorded is what the events
say (`run_recorded`, stage by stage). So the calls of a run are the calls in
its trace, which `Course` lists, and they have one shape: a start, and a
shutdown at the end, and between them the test, the question for the report
and the writing, each at most once and only if the ones before it let the run
go on (`callPlan`). The states that the session passes through follow the same
way (`statePath`).
-/

namespace Covenant

/-- **A call**, with what is passed on. -/
inductive Call where
  /-- The engine is told to start a service. -/
  | start (id : Value) (interactions : List Interaction) (options : PactOptions)
  /-- The test is called. -/
  | test (handle : ServerHandle)
  /-- The engine is asked for its report. -/
  | report (id : Value)
  /-- The engine is told to write the contract. -/
  | write (id : Value) (options : PactOptions)
  /-- The engine is told to shut the service down. -/
  | shutdown (id : Value)

variable {σ α : Type}

/-- An answer of an engine that keeps a list of calls beside its state. -/
def Answer.noted (a : Answer σ α) (calls : List Call) : Answer (σ × List Call) α :=
  ⟨a.outcome, a.log, (a.state, calls)⟩

/-- **An engine that notes the calls to it**, and does nothing else besides. -/
def Engine.recorded (engine : Engine σ) : Engine (σ × List Call) where
  start id is options st :=
    (engine.start id is options st.1).noted (st.2 ++ [.start id is options])
  report id st := (engine.report id st.1).noted (st.2 ++ [.report id])
  write id options st := (engine.write id options st.1).noted (st.2 ++ [.write id options])
  shutdown id st := (engine.shutdown id st.1).noted (st.2 ++ [.shutdown id])

namespace Session

/-- **A test that notes when it is called**, and does nothing else besides. -/
def recorded (test : TestFunction σ) : TestFunction (σ × List Call) :=
  fun h st => ((test h st.1).1, (test h st.1).2, st.2 ++ [.test h])

/-- The call that an event of a session is about, if it is about one. -/
def callOf? (s : Session) : Event → Option Call
  | .startCalled => some (.start s.id s.interactions s.options)
  | .testCalled h _ _ => some (.test h)
  | .reportCalled => some (.report s.id)
  | .writeCalled => some (.write s.id s.options)
  | .shutdownCalled => some (.shutdown s.id)
  | .moved _ _ | .logged _ => none

/-- The calls that events of a session are about, in order. -/
def callsOf (s : Session) (events : List Event) : List Call := events.filterMap (callOf? s)

theorem filterMap_cons_toList {β : Type} (f : Event → Option β) (e : Event) (es : List Event) :
    (e :: es).filterMap f = (f e).toList ++ es.filterMap f := by
  rw [List.filterMap_cons]
  cases f e <;> rfl

@[simp] theorem callsOf_nil (s : Session) : callsOf s [] = [] := rfl

@[simp] theorem callsOf_cons (s : Session) (e : Event) (es : List Event) :
    callsOf s (e :: es) = (callOf? s e).toList ++ callsOf s es :=
  filterMap_cons_toList _ e es

@[simp] theorem callsOf_append (s : Session) (es fs : List Event) :
    callsOf s (es ++ fs) = callsOf s es ++ callsOf s fs :=
  List.filterMap_append

/-- The calls can be read off the trace. -/
theorem callsOf_trace (s : Session) (events : List Event) :
    callsOf s (trace events) = callsOf s events :=
  filterMap_trace (fun _ => rfl) events

@[simp] theorem callsOf_logEvents (s : Session) (log : List LogEntry) :
    callsOf s (logEvents log) = [] := by
  rw [← callsOf_trace, trace_logEvents]
  rfl

/-- The calls of a session are about nothing that a run changes of it. -/
@[simp] theorem callsOf_enter (s : Session) (state : SessionState) :
    callsOf (s.enter state) = callsOf s := rfl

@[simp] theorem callsOf_hold (s : Session) (h : ServerHandle) :
    callsOf (s.hold h) = callsOf s := rfl

/-! ## Recording changes nothing -/

/-- What a part of a run comes to where calls are recorded: the calls in its
events are added. -/
def Progress.recorded (s : Session) (calls : List Call) (p : Progress σ α) :
    Progress (σ × List Call) α :=
  ⟨p.outcome, p.events, (p.engine, calls ++ callsOf s p.events)⟩

/-- Events before a part of a run have their calls recorded before. -/
theorem after_recorded (s : Session) (calls : List Call) (es : List Event) (p : Progress σ α) :
    (Progress.recorded s (calls ++ callsOf s es) p).after es
      = Progress.recorded s calls (p.after es) := by
  unfold Progress.recorded Progress.after
  simp [List.append_assoc]

section Recorded

variable (engine : Engine σ) (s : Session) (test : TestFunction σ) (st : σ) (calls : List Call)

theorem query_recorded :
    query engine.recorded s (st, calls) = Progress.recorded s calls (query engine s st) := by
  unfold query Progress.recorded Engine.recorded Answer.noted
  dsimp only
  cases (engine.report s.id st).outcome with
  | ok r =>
    dsimp only
    cases r.mismatches with
    | ok ms => simp [callOf?]
    | error bad => simp [callOf?, unavailableEntry, told]
  | error e =>
    dsimp only
    by_cases he : e.isOrdinary = true
    · rw [if_pos he, if_pos he]
      simp [callOf?, unavailableEntry, told]
    · rw [if_neg he, if_neg he]
      simp [callOf?]

theorem writeContract_recorded :
    writeContract engine.recorded s (st, calls)
      = Progress.recorded s calls (writeContract engine s st) := by
  unfold writeContract Progress.recorded Engine.recorded Answer.noted
  dsimp only
  cases (engine.write s.id s.options st).outcome with
  | ok u => simp [callOf?]
  | error e =>
    dsimp only
    by_cases he : e.isOrdinary = true
    · rw [if_pos he, if_pos he]
      simp [callOf?]
    · rw [if_neg he, if_neg he]
      simp [callOf?]

theorem conclude_recorded (value : Value) (v : Verdict) (wrote : Bool) :
    conclude s value v wrote (st, calls)
      = Progress.recorded s calls (conclude s value v wrote st) := by
  unfold conclude Progress.recorded
  by_cases hv : v.succeeded = true
  · rw [if_pos hv, if_pos hv]
    simp [callOf?, moveTo]
  · rw [if_neg hv, if_neg hv]
    simp [callOf?, failedEntry, told, moveTo]

theorem settle_recorded (answer : Except Failure Value) :
    settle engine.recorded s answer (st, calls)
      = Progress.recorded s calls (settle engine s answer st) := by
  unfold settle
  rw [query_recorded]
  dsimp only [Progress.recorded]
  cases (query engine s st).outcome with
  | error e => rfl
  | ok findings =>
    dsimp only
    split
    · rw [writeContract_recorded]
      dsimp only [Progress.recorded]
      cases (writeContract engine s (query engine s st).engine).outcome with
      | error e => simp [List.append_assoc]
      | ok failure =>
        cases failure with
        | none =>
          dsimp only
          rw [conclude_recorded, List.append_assoc, ← callsOf_append]
          exact after_recorded s calls _ _
        | some e =>
          dsimp only
          rw [conclude_recorded, List.append_assoc, ← callsOf_append]
          exact after_recorded s calls _ _
    · rw [conclude_recorded]
      exact after_recorded s calls _ _

theorem body_recorded :
    body engine.recorded s (recorded test) (st, calls)
      = Progress.recorded s calls (body engine s test st) := by
  have hstart : engine.recorded.start s.id s.interactions s.options (st, calls)
      = (engine.start s.id s.interactions s.options st).noted
        (calls ++ [.start s.id s.interactions s.options]) := rfl
  unfold body
  rw [hstart]
  dsimp only [Answer.noted]
  cases (engine.start s.id s.interactions s.options st).outcome with
  | error e =>
    dsimp only
    by_cases he : e.isOrdinary = true
    · rw [if_pos he, if_pos he]
      simp [Progress.recorded, callOf?, moveTo, startFailureEntry, told]
    · rw [if_neg he, if_neg he]
      simp [Progress.recorded, callOf?, moveTo]
  | ok h =>
    dsimp only [recorded]
    cases (test h (engine.start s.id s.interactions s.options st).state).1 with
    | ok v =>
      dsimp only
      rw [settle_recorded, ← after_recorded]
      simp [Progress.recorded, callOf?, moveTo, callTest, startedEntry, told]
    | error e =>
      dsimp only
      by_cases he : e.isOrdinary = true
      · rw [if_pos he, if_pos he, settle_recorded, ← after_recorded]
        simp [Progress.recorded, callOf?, moveTo, callTest, startedEntry, told]
      · rw [if_neg he, if_neg he]
        simp [Progress.recorded, callOf?, moveTo, callTest, startedEntry, told]

/-- **Recording changes nothing about a run**, and what is recorded is the
calls in its events. -/
theorem run_recorded :
    run engine.recorded s (recorded test) (st, calls)
      = ⟨(run engine s test st).outcome, (run engine s test st).events,
        (run engine s test st).session,
        ((run engine s test st).engine, calls ++ callsOf s (run engine s test st).events)⟩ := by
  unfold run
  by_cases hs : s.state ≠ .idle
  · rw [if_pos hs, if_pos hs]
    simp
  · rw [if_neg hs, if_neg hs, body_recorded]
    dsimp only [Progress.recorded, Engine.recorded, Answer.noted]
    cases (engine.shutdown s.id (body engine s test st).engine).outcome with
    | error e => simp [callOf?]
    | ok u => simp [callOf?, shutdownEntry, told]

end Recorded

/-! ## The shape of a run -/

section Shape

variable (engine : Engine σ) (s : Session) (test : TestFunction σ) (st : σ)

/-- The calls of a session that got a handle. -/
def callsWith (h : ServerHandle) : List Call :=
  .test h ::
    if goesOn (tested engine s test st h).1 then
      .report s.id ::
        if goesOn (reported engine s test st h).outcome && (verdict engine s test st h).succeeded then
          [.write s.id s.options]
        else []
    else []

/-- **The calls of a run**: the start, what the handle allows for, and the
shutdown. -/
def callPlan : List Call :=
  .start s.id s.interactions s.options ::
    ((match (started engine s st).outcome with
      | .error _ => []
      | .ok h => callsWith engine s test st h) ++ [.shutdown s.id])

/-- The states of a session that got a handle. -/
def statesWith (h : ServerHandle) : List SessionState :=
  .running ::
    if goesOn (tested engine s test st h).1 then
      .reconciling ::
        if goesOn (reported engine s test st h).outcome then
          if (verdict engine s test st h).succeeded then
            match (written engine s test st h).outcome with
            | .ok () => [.succeeded]
            | .error e => if e.isOrdinary then [.failed] else []
          else [.failed]
        else []
    else []

/-- **The states of a run**: each is passed through at most once, and an end
from outside leaves out the rest up to the last. -/
def statePath : List SessionState :=
  .idle :: .starting ::
    ((match (started engine s st).outcome with
      | .error e => if e.isOrdinary then [.failed] else []
      | .ok h => statesWith engine s test st h) ++ [.terminated])

end Shape

/-- The change of state that an event is, if it is one. -/
def move? : Event → Option (SessionState × SessionState)
  | .moved before after => some (before, after)
  | _ => none

/-- The changes of state in events, in order. -/
def moves (events : List Event) : List (SessionState × SessionState) := events.filterMap move?

@[simp] theorem moves_nil : moves [] = [] := rfl

@[simp] theorem moves_cons (e : Event) (es : List Event) :
    moves (e :: es) = (move? e).toList ++ moves es :=
  filterMap_cons_toList _ e es

@[simp] theorem moves_append (es fs : List Event) : moves (es ++ fs) = moves es ++ moves fs :=
  List.filterMap_append

/-- The changes of state can be read off the trace. -/
theorem moves_trace (events : List Event) : moves (trace events) = moves events :=
  filterMap_trace (fun _ => rfl) events

section Course

variable {engine : Engine σ} {s : Session} {test : TestFunction σ} {st : σ}
  {o : Except Failure SessionResult} {t : List Event} {q : SessionState} {b : σ}

@[simp] theorem callsOf_runningTrace (s : Session) (h : ServerHandle) :
    callsOf s (runningTrace h) = [.start s.id s.interactions s.options, .test h] := rfl

@[simp] theorem callsOf_reconcilingTrace (s : Session) (h : ServerHandle) :
    callsOf s (reconcilingTrace h)
      = [.start s.id s.interactions s.options, .test h, .report s.id] := rfl

@[simp] theorem moves_runningTrace (h : ServerHandle) :
    moves (runningTrace h) = [(.idle, .starting), (.starting, .running)] := rfl

@[simp] theorem moves_reconcilingTrace (h : ServerHandle) :
    moves (reconcilingTrace h)
      = [(.idle, .starting), (.starting, .running), (.running, .reconciling)] := rfl

theorem goesOn_of_ended {answer : Except Failure α} {e : Failure} (h : answer = .error e)
    (he : e.isOrdinary = false) : goesOn answer = false := by
  rw [h]
  exact he

theorem goesOn_of_ok {answer : Except Failure α} {a : α} (h : answer = .ok a) :
    goesOn answer = true := by
  rw [h]
  rfl

theorem Course.calls (hcourse : Course engine s test st o t q b) :
    callsOf s t ++ [.shutdown s.id] = callPlan engine s test st := by
  unfold callPlan callsWith
  cases hcourse with
  | startEnded hstart => simp [hstart, callOf?]
  | startFailed hstart => simp [hstart, callOf?]
  | testEnded hstart htest he => simp [hstart, goesOn_of_ended htest he]
  | reportEnded hstart htest hreport he =>
    simp [hstart, htest, goesOn_of_ended hreport he]
  | ruled hstart htest hreport hverdict => simp [hstart, htest, hreport, hverdict, callOf?]
  | writeEnded hstart htest hreport hverdict => simp [hstart, htest, hreport, hverdict, callOf?]
  | writeFailed hstart htest hreport hverdict => simp [hstart, htest, hreport, hverdict, callOf?]
  | clean hstart htest hreport hverdict =>
    simp [hstart, goesOn_of_ok htest, hreport, hverdict, callOf?]

/-- The states in a course: each change leads from the state that the one
before led to. -/
theorem Course.states (hcourse : Course engine s test st o t q b) :
    moves t ++ [(q, .terminated)]
      = (statePath engine s test st).zip (statePath engine s test st).tail := by
  unfold statePath statesWith
  cases hcourse with
  | startEnded hstart he => simp [hstart, he, move?]
  | startFailed hstart he => simp [hstart, he, move?]
  | testEnded hstart htest he => simp [hstart, goesOn_of_ended htest he]
  | reportEnded hstart htest hreport he =>
    simp [hstart, htest, goesOn_of_ended hreport he]
  | ruled hstart htest hreport hverdict => simp [hstart, htest, hreport, hverdict, move?]
  | writeEnded hstart htest hreport hverdict hwrite he =>
    simp [hstart, htest, hreport, hverdict, hwrite, he, move?]
  | writeFailed hstart htest hreport hverdict hwrite he =>
    simp [hstart, htest, hreport, hverdict, hwrite, he, move?]
  | clean hstart htest hreport hverdict hwrite =>
    simp [hstart, goesOn_of_ok htest, hreport, hverdict, hwrite, move?]

/-- The test is called in the running state, with the handle that the session
holds. -/
theorem seen_runningTrace {h h' : ServerHandle} {state : SessionState} {held : Option ServerHandle}
    (ht : .testCalled h state held ∈ runningTrace h') : state = .running ∧ held = some h := by
  obtain ⟨rfl, rfl, rfl⟩ : h = h' ∧ state = .running ∧ held = some h' := by
    simpa [runningTrace] using ht
  exact ⟨rfl, rfl⟩

/-- The test is called in no other state in a course, and with no other
handle. -/
theorem Course.seen (hcourse : Course engine s test st o t q b) {h : ServerHandle}
    {state : SessionState} {held : Option ServerHandle} (ht : .testCalled h state held ∈ t) :
    state = .running ∧ held = some h := by
  cases hcourse with
  | startEnded | startFailed => simp at ht
  | testEnded => exact seen_runningTrace ht
  | reportEnded | ruled | writeEnded | writeFailed | clean =>
    -- what follows the running trace is about other calls
    rw [reconcilingTrace] at ht
    simp only [List.append_assoc, List.mem_append] at ht
    obtain ht | ht := ht
    · exact seen_runningTrace ht
    · simp at ht

end Course

section Run

variable (engine : Engine σ) (s : Session) (test : TestFunction σ) (st : σ)

/-- A run whose calls are recorded. -/
def recordedRun : Finished (σ × List Call) := run engine.recorded s (recorded test) (st, [])

/-- **The shape of a run.** With an engine and a test that note their calls, a
run comes to what it comes to anyway, and:

* the calls are those of the plan, so that the shutdown comes once, after every
  other call;
* the test is called in the running state, while the session holds the handle
  that the test is given;
* the session passes through the states of the path, and ends terminated,
  without a handle;
* after that, no run of the session makes a call, or changes anything. -/
theorem calls_of_run (hs : s.state = .idle) :
    recordedRun engine s test st
        = ⟨(run engine s test st).outcome, (run engine s test st).events,
          (run engine s test st).session,
          ((run engine s test st).engine, callPlan engine s test st)⟩
      ∧ (∀ h state held, .testCalled h state held ∈ (run engine s test st).events →
        state = .running ∧ held = some h)
      ∧ moves (run engine s test st).events
        = (statePath engine s test st).zip (statePath engine s test st).tail
      ∧ (run engine s test st).session = { s with state := .terminated, handle := none }
      ∧ ∀ (τ : Type) (engine' : Engine τ) (test' : TestFunction τ) (st' : τ),
        run engine' (run engine s test st).session test' st'
            = ⟨.error (.alreadyRun s.label), [], (run engine s test st).session, st'⟩
          ∧ (run engine' (run engine s test st).session test' st').value
            = .error (.alreadyRun s.label)
          ∧ (Failure.alreadyRun s.label).kind = "RuntimeError" := by
  obtain ⟨es, hrun, htrace⟩ := run_of_idle engine s test st hs
  have hcourse := course_body engine hs test st
  have hcalls : callsOf s es = callPlan engine s test st := by
    rw [← callsOf_trace, htrace, callsOf_append, ← hcourse.calls]
    rfl
  unfold recordedRun
  rw [run_recorded, hrun]
  refine ⟨?_, ?_, ?_, rfl, ?_⟩
  · show (⟨_, es, _, _, [] ++ callsOf s es⟩ : Finished (σ × List Call)) = _
    rw [List.nil_append, hcalls]
  · intro h state held hmem
    have hmem' : .testCalled h state held ∈ trace es := List.mem_filter.mpr ⟨hmem, rfl⟩
    rw [htrace, List.mem_append] at hmem'
    obtain hbody | hlast := hmem'
    · exact hcourse.seen hbody
    · simp at hlast
  · show moves es = _
    rw [← moves_trace, htrace, moves_append, ← hcourse.states]
    rfl
  · intro τ engine' test' st'
    have hnot := run_of_not_idle engine' { s with state := .terminated, handle := none } test' st'
      SessionState.noConfusion
    refine ⟨hnot, ?_, rfl⟩
    show (run engine' { s with state := .terminated, handle := none } test' st').value = _
    rw [hnot]
    rfl

end Run

/-- The shape of the run of a failing test on a scripted engine: there is
nothing to write. -/
theorem calls_of_run_failing :
    sample.state = .idle
      ∧ (recordedRun Script.faultless.engine sample failingTest (.new .empty)).engine.2
        = callPlan Script.faultless.engine sample failingTest (.new .empty)
      ∧ (callPlan Script.faultless.engine sample failingTest (.new .empty)).length = 4 := by
  obtain ⟨hrecorded, -⟩ := calls_of_run Script.faultless.engine sample failingTest (.new .empty) rfl
  refine ⟨rfl, ?_, rfl⟩
  rw [hrecorded]

end Session

end Covenant
