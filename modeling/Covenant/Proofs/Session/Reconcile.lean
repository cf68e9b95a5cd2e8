import Covenant.Session.Verdict

/-!
# What a verdict says

`reconcile` succeeds in one case only: the test passed, the service had no
fault, and no mismatch counts (`reconcile_succeeded_iff`). Then it is the
verdict of success and nothing else (`reconcile_eq_success`).

In the other cases its words have to tell everything that was found. The words
about a failed test contain the words of the service's fault and the report on
the mismatches, and the report contains an entry for every mismatch, under its
own number. The words are texts built from left to right, so that *containing*
is one list of characters being a stretch of another.
-/

namespace Covenant

/-- A service fault counts unless it is absent or empty. -/
theorem hasFault_eq_false_iff {serverError : Option String} :
    hasFault serverError = false ↔ serverError = none ∨ serverError = some "" := by
  cases serverError with
  | none => simp [hasFault]
  | some t => simp [hasFault]

theorem hasFault_eq_true_iff {serverError : Option String} :
    hasFault serverError = true ↔ ∃ t, serverError = some t ∧ t ≠ "" := by
  cases serverError with
  | none => simp [hasFault]
  | some t => simp [hasFault]

section Success

variable {traceOf : Failure → String} {testError : Option Failure} {serverError : Option String}
  {reported : List Mismatch} {allowMissing : Bool}

/-- **When a verdict is one of success**: the test passed, no fault was
reported, and no mismatch counts. -/
theorem reconcile_succeeded_iff :
    (reconcile traceOf testError serverError reported allowMissing).succeeded = true
      ↔ testError = none ∧ hasFault serverError = false
        ∧ Mismatch.counted allowMissing reported = [] := by
  unfold reconcile
  cases testError with
  | some e =>
    dsimp only
    split <;> simp
  | none =>
    dsimp only
    by_cases hf : hasFault serverError = true
    · rw [if_pos hf]
      simp [hf]
    · rw [if_neg hf]
      by_cases hm : Mismatch.counted allowMissing reported = []
      · simp [hm, hf, Verdict.success]
      · simp [hm]

/-- A verdict of success carries no error, no words and no mismatches. -/
theorem reconcile_eq_success
    (h : (reconcile traceOf testError serverError reported allowMissing).succeeded = true) :
    reconcile traceOf testError serverError reported allowMissing = .success := by
  obtain ⟨rfl, hf, hm⟩ := reconcile_succeeded_iff.mp h
  unfold reconcile
  simp [hf, hm]

end Success

/-! ## The numbered report -/

namespace Mismatch

/-- The entries of a report, from any number on, contain the entry of each
mismatch under the number of its place. -/
theorem entry_infix_entriesFrom (indent : String) {ms : List Mismatch} {i : Nat} {m : Mismatch}
    (n : Nat) (h : ms[i]? = some m) :
    (m.entry (n + i) indent).toList <:+: (entriesFrom indent n ms).toList := by
  induction ms generalizing n i with
  | nil => simp at h
  | cons m' ms ih =>
    rw [entriesFrom, String.toList_append]
    cases i with
    | zero =>
      obtain rfl : m' = m := by simpa using h
      exact (List.prefix_append _ _).isInfix
    | succ i =>
      have hrest : (m.entry (n + 1 + i) indent).toList <:+: (entriesFrom indent (n + 1) ms).toList :=
        ih (n + 1) (by simpa using h)
      rw [show n + (i + 1) = n + 1 + i from by omega]
      exact hrest.trans (List.suffix_append _ _).isInfix

/-- **The report tells of every mismatch**, under the number of its place
counted from one. -/
theorem entry_infix_report (indent : String) {ms : List Mismatch} {i : Nat} {m : Mismatch}
    (h : ms[i]? = some m) :
    (m.entry (i + 1) indent).toList <:+: (report ms indent).toList := by
  rw [report, String.toList_append, Nat.add_comm]
  exact (entry_infix_entriesFrom indent 1 h).trans (List.suffix_append _ _).isInfix

end Mismatch

/-! ## The words about a failed test -/

/-- The words about a failed test contain the words of the service's fault. -/
theorem fault_infix_combinedMessage (traceOf : Failure → String) (testError : Failure)
    (fault : String) (ms : List Mismatch) :
    fault.toList <:+: (combinedMessage traceOf testError (some fault) ms).toList := by
  unfold combinedMessage
  by_cases hf : fault = ""
  · rw [hf]
    exact List.nil_infix
  · dsimp only
    rw [if_neg hf, String.toList_append]
    refine List.IsInfix.trans ?_ (List.prefix_append _ _).isInfix
    rw [String.toList_append]
    refine List.IsInfix.trans ?_ (List.suffix_append _ _).isInfix
    rw [String.toList_append]
    exact (List.suffix_append _ _).isInfix

/-- The words about a failed test end with the report on the mismatches, if
there are any. -/
theorem report_infix_combinedMessage (traceOf : Failure → String) (testError : Failure)
    (serverError : Option String) {ms : List Mismatch} (h : ms ≠ []) :
    (Mismatch.report ms "    ").toList
      <:+: (combinedMessage traceOf testError serverError ms).toList := by
  unfold combinedMessage
  have hms : ms.isEmpty = false := by simpa using h
  dsimp only
  rw [hms, if_neg Bool.false_ne_true, String.toList_append]
  refine List.IsInfix.trans ?_ (List.suffix_append _ _).isInfix
  rw [String.toList_append]
  exact (List.suffix_append _ _).isInfix

end Covenant
