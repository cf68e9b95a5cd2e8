import Covenant.Failure
import Covenant.Engine.Basic

/-!
# The verdict on a session

Two things are known once a test has run: whether it failed, and what the
engine reports. `reconcile` folds them into one verdict. The verdict has an
error exactly if the session did not succeed (`reconcile_error_iff`).

A failed test is told with a trace. How a failure is traced through the code is
no business of a session, so it is a parameter.
-/

namespace Covenant

/-- **A verdict**: whether the session succeeded, and if not, why. -/
structure Verdict where
  /-- Whether the session succeeded. -/
  succeeded : Bool
  /-- Why it did not. -/
  error : Option Failure
  /-- What is told about it. -/
  diagnostics : Option String
  /-- The mismatches that count. -/
  mismatches : List Mismatch

/-- The verdict of success. -/
def Verdict.success : Verdict := ⟨true, none, none, []⟩

/-- The words of a test failure that comes with faults of the service or
mismatches: the test's own words and trace, then the rest. -/
def combinedMessage (traceOf : Failure → String) (testError : Failure)
    (serverError : Option String) (ms : List Mismatch) : String :=
  let stack := traceOf testError
  "Test failed for the following reasons:" ++ "\n\n  Test code failed with an error: "
    ++ testError.text
    ++ (if stack = "" then "" else "\n" ++ stack ++ "\n")
    ++ (match serverError with
        | some e => if e = "" then "" else "\n\n  " ++ e
        | none => "")
    ++ (if ms.isEmpty then "" else "\n\n  " ++ Mismatch.report ms "    ")

/-- Whether a service fault was reported. -/
def hasFault (serverError : Option String) : Bool := serverError.getD "" != ""

/-- **Folds the outcome of a test and the engine's report into a verdict.** A
failed test stays its own error unless the service has something to add; a
fault of the service counts before mismatches. -/
def reconcile (traceOf : Failure → String) (testError : Option Failure)
    (serverError : Option String) (reported : List Mismatch) (allowMissing : Bool) : Verdict :=
  let ms := Mismatch.counted allowMissing reported
  match testError with
  | some e =>
    if !hasFault serverError && ms.isEmpty then ⟨false, some e, none, []⟩
    else
      let message := combinedMessage traceOf e serverError ms
      ⟨false, some (.combined message e), some message, ms⟩
  | none =>
    if hasFault serverError then
      let fault := serverError.getD ""
      ⟨false, some (.serverFault fault), some fault, []⟩
    else if !ms.isEmpty then
      let report := Mismatch.report ms "  "
      ⟨false, some (.mismatched report ms), some report, ms⟩
    else .success

/-- A verdict has an error exactly if it is not the verdict of success. -/
theorem reconcile_error_iff (traceOf : Failure → String) (testError : Option Failure)
    (serverError : Option String) (reported : List Mismatch) (allowMissing : Bool) :
    (reconcile traceOf testError serverError reported allowMissing).error.isSome
      = !(reconcile traceOf testError serverError reported allowMissing).succeeded := by
  simp only [reconcile]
  repeat' split
  all_goals rfl

end Covenant
