import Covenant.Proofs.Engine.Scripted
import Covenant.Proofs.Session.Course

/-!
# What becomes of ordinary failures

Where the engine and the test fail in ordinary ways only, a run always comes
to a result before the service is shut down: `Course` ends without one only
where something ended it from outside.

The shutdown is the one stage that is not guarded. It runs after the result
has been made, and a failure of it takes the place of that result, an ordinary
failure like any other. So the result reaches the caller exactly if the
shutdown returned (`outcome_of_ordinary`).
-/

namespace Covenant

namespace Session

variable {σ : Type}

/-- **A test whose failures are all ordinary**, whatever it is given. -/
def TestFailsOrdinarily (test : TestFunction σ) : Prop :=
  ∀ h st e, (test h st).1 = .error e → e.isOrdinary = true

section Ordinary

variable {engine : Engine σ} {s : Session} {test : TestFunction σ} {st : σ}

/-- **A course of ordinary failures comes to a result.** -/
theorem Course.returns {o : Except Failure SessionResult} {t : List Event} {q : SessionState}
    {b : σ} (hengine : engine.FailsOrdinarily) (htest : TestFailsOrdinarily test)
    (hcourse : Course engine s test st o t q b) : ∃ r, o = .ok r := by
  -- an end from outside needs an answer that is not ordinary
  have hnever : ∀ {e : Failure}, e.isOrdinary = false → e.isOrdinary = true → False := by
    intro e hfalse htrue
    rw [hfalse] at htrue
    cases htrue
  cases hcourse with
  | startEnded hstart he => exact (hnever he (hengine.start _ _ _ _ _ hstart)).elim
  | testEnded _ hended he => exact (hnever he (htest _ _ _ hended)).elim
  | reportEnded _ _ hreport he => exact (hnever he (hengine.report _ _ _ hreport)).elim
  | writeEnded _ _ _ _ hwrite he => exact (hnever he (hengine.write _ _ _ _ hwrite)).elim
  | startFailed => exact ⟨_, rfl⟩
  | ruled => exact ⟨_, rfl⟩
  | writeFailed => exact ⟨_, rfl⟩
  | clean => exact ⟨_, rfl⟩

variable (engine s test st)

/-- **What a run of ordinary failures comes to.** There is always a result,
and it is the outcome of the run exactly if the service could be shut down.
Otherwise the failure of the shutdown stands in its place. -/
theorem outcome_of_ordinary (hs : s.state = .idle) (hengine : engine.FailsOrdinarily)
    (htest : TestFailsOrdinarily test) :
    ∃ r, (body engine s test st).outcome = .ok r
      ∧ ((ended engine s test st).outcome = .ok () ↔ (run engine s test st).outcome = .ok r)
      ∧ ((∃ r', (run engine s test st).outcome = .ok r')
        ↔ (ended engine s test st).outcome = .ok ())
      ∧ ∀ e, (ended engine s test st).outcome = .error e →
        (run engine s test st).outcome = .error e := by
  obtain ⟨r, hbody⟩ := (course_body engine hs test st).returns hengine htest
  obtain ⟨es, hrun, -⟩ := run_of_idle engine s test st hs
  have houtcome : (run engine s test st).outcome
      = (ended engine s test st).outcome.bind fun _ => .ok r := by
    rw [hrun, hbody]
  refine ⟨r, hbody, ?_⟩
  -- the shutdown's answer decides, the result being there
  rw [houtcome]
  cases (ended engine s test st).outcome with
  | ok u => simp [Except.bind]
  | error e => simp [Except.bind]

end Ordinary

theorem failingTest_failsOrdinarily : TestFailsOrdinarily (failingTest : TestFunction σ) := by
  intro h st e he
  cases he
  decide

theorem faultless_failsOrdinarily : Script.faultless.engine.FailsOrdinarily :=
  Script.failsOrdinarily (by decide)

/-- The result of a failing test on an engine that raises nothing reaches the
caller. -/
theorem outcome_of_ordinary_faultless :
    sample.state = .idle ∧ Script.faultless.engine.FailsOrdinarily
      ∧ TestFailsOrdinarily (failingTest : TestFunction Ledger)
      ∧ ∃ r, (run Script.faultless.engine sample failingTest (.new .empty)).outcome = .ok r := by
  obtain ⟨r, -, hreturned, -, -⟩ := outcome_of_ordinary Script.faultless.engine sample failingTest
    (.new .empty) rfl faultless_failsOrdinarily failingTest_failsOrdinarily
  exact ⟨rfl, faultless_failsOrdinarily, failingTest_failsOrdinarily, r,
    hreturned.mp rfl⟩

/-- An engine whose shutdown raises an ordinary exception. -/
def leaky : Script :=
  { Script.faultless with
    shutdownError := some (.mk "OSError" true (some (.str "connection reset")) none) }

/-- **A verdict that is lost.** The test failed and its error was in the result,
but the run ends with what the shutdown raised, and without a result. -/
theorem verdict_lost_on_shutdown :
    leaky.engine.FailsOrdinarily ∧ TestFailsOrdinarily (failingTest : TestFunction Ledger)
      ∧ sample.state = .idle
      ∧ (body leaky.engine sample failingTest (.new .empty)).outcome
        = .ok ⟨false, .null, some sampleFailure, none, [], false⟩
      ∧ (run leaky.engine sample failingTest (.new .empty)).outcome
        = .error (.raised (.mk "OSError" true (some (.str "connection reset")) none)) := by
  refine ⟨Script.failsOrdinarily (by decide), failingTest_failsOrdinarily, rfl, ?_, ?_⟩
  · rfl
  · rfl

end Session

end Covenant
