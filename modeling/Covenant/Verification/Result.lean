import Covenant.Value.Literal

/-!
# Results of verifications

A verification has one outcome per replayed interaction, in replay order. An
interaction passed if nothing failed in it, and the verification succeeded
if every interaction passed.
-/

namespace Covenant

/-- **The outcome of one interaction.** What failed is told by the replayer
or by the state setup, in any values. -/
structure ReplayOutcome where
  /-- The contract that the interaction is from. -/
  pactUrl : String
  /-- The interaction's description. -/
  description : String
  /-- What failed. -/
  failures : List Value

/-- Whether nothing failed. -/
def ReplayOutcome.passed (o : ReplayOutcome) : Bool := o.failures.isEmpty

/-- **The result of a verification.** -/
structure VerificationResult where
  /-- The provider verified. -/
  provider : String
  /-- The outcomes in replay order. -/
  outcomes : List ReplayOutcome

namespace VerificationResult

/-- How many interactions passed. -/
def passed (r : VerificationResult) : Nat := r.outcomes.countP (·.passed)

/-- How many interactions failed. -/
def failed (r : VerificationResult) : Nat := r.outcomes.countP fun o => !o.passed

/-- Whether no interaction failed. -/
def success (r : VerificationResult) : Bool := r.failed == 0

/-- The lines of an outcome: its description and verdict, then what failed. -/
def outcomeLines (o : ReplayOutcome) : List String :=
  ("  " ++ o.description ++ " ... " ++ (if o.passed then "OK" else "FAILED")) ::
    o.failures.map fun f => "    - " ++ f.display

/-- **The summary**: how much was verified, then every outcome. -/
def summary (r : VerificationResult) : String :=
  "\n".intercalate (("Verified " ++ String.ofList (natDigits r.outcomes.length)
    ++ " interaction(s) for " ++ r.provider) :: r.outcomes.flatMap outcomeLines)

/-- Every outcome either passed or failed. -/
theorem passed_add_failed (r : VerificationResult) : r.passed + r.failed = r.outcomes.length := by
  simpa [passed, failed] using (List.length_eq_countP_add_countP ReplayOutcome.passed).symm

end VerificationResult

end Covenant
