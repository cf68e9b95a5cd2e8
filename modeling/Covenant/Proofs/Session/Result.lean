import Covenant.Engine.Scripted
import Covenant.Proofs.Session.Course

/-!
# What the result of a run says

A run that returns a result says one of two things with it. Either everything
went well: the service started, the test returned, the engine reported neither
a fault nor a mismatch that counts, and the contract was written. Or something
went wrong, and then the result names the first thing that did, in a fixed
order of precedence.

`Clean` is the first of these, as a condition on what was answered, and
`Ruling` is the second: a row for each kind of failure, with the conditions
under which it applies. `result_of_run` says that a result follows them, in
both directions and with every field of it.

A report that could not be had takes part in this like any other, as what the
engine `found`: a fault of the service, without mismatches.
-/

namespace Covenant

namespace Session

variable {σ : Type}

/-! ## Success -/

section Clean

variable (engine : Engine σ) (s : Session) (test : TestFunction σ) (st : σ)

/-- The mismatches that count in a session, of those that the engine found. -/
def counting (h : ServerHandle) : List Mismatch :=
  Mismatch.counted s.settings.allowMissing (found engine s test st h).mismatches

/-- **What success takes**, on all sides: with the handle, the value of the
test, the report, and the mismatches in it. -/
structure Clean (h : ServerHandle) (v : Value) (report : EngineReport) (ms : List Mismatch) :
    Prop where
  /-- The service started. -/
  started : (started engine s st).outcome = .ok h
  /-- The test returned. -/
  tested : (tested engine s test st h).1 = .ok v
  /-- The engine gave its report. -/
  reported : (reported engine s test st h).outcome = .ok report
  /-- The mismatches could be read. -/
  parsed : report.mismatches = .ok ms
  /-- The service had no fault. -/
  faultless : report.serverError = none ∨ report.serverError = some ""
  /-- No mismatch counts. -/
  matched : Mismatch.counted s.settings.allowMissing ms = []
  /-- The contract was written. -/
  written : (written engine s test st h).outcome = .ok ()

end Clean

/-- A report that is of no use is a fault of the service. -/
theorem hasFault_unavailable (cause : Failure) :
    hasFault (Findings.unavailable cause).serverError = true := by
  refine hasFault_eq_true_iff.mpr ⟨_, rfl, ?_⟩
  intro h
  have hlength := congrArg (fun t : String => t.toList.length) h
  rw [String.toList_append, List.length_append] at hlength
  have hpos : 0 < "Could not get the result from the mock server - ".toList.length := by decide
  simp only [String.toList_empty, List.length_nil] at hlength
  omega

/-- Findings without a fault come from a report that was given and could be
read. -/
theorem findings_of_faultless {answer : Except Failure EngineReport}
    (hf : hasFault (findings answer).serverError = false) :
    ∃ report ms, answer = .ok report ∧ report.mismatches = .ok ms
      ∧ findings answer = ⟨report.serverError, ms⟩ := by
  cases answer with
  | error e =>
    rw [show (findings (.error e)).serverError = (Findings.unavailable e).serverError from rfl,
      hasFault_unavailable] at hf
    cases hf
  | ok report =>
    unfold findings at hf ⊢
    dsimp only at hf ⊢
    cases hm : report.mismatches with
    | error bad =>
      rw [hm] at hf
      dsimp only at hf
      rw [hasFault_unavailable] at hf
      cases hf
    | ok ms => exact ⟨report, ms, rfl, hm, rfl⟩

section Success

variable {engine : Engine σ} {s : Session} {test : TestFunction σ} {st : σ} {h : ServerHandle}

/-- A verdict of success on the test and the findings, spelt out. -/
theorem verdict_succeeded_iff :
    (verdict engine s test st h).succeeded = true
      ↔ testError? (tested engine s test st h).1 = none
        ∧ hasFault (found engine s test st h).serverError = false
        ∧ counting engine s test st h = [] :=
  reconcile_succeeded_iff

/-- A run with a verdict of success and a written contract is clean. -/
theorem clean_of_succeeded {v : Value} (hstart : (started engine s st).outcome = .ok h)
    (htest : (tested engine s test st h).1 = .ok v)
    (hverdict : (verdict engine s test st h).succeeded = true)
    (hwrite : (written engine s test st h).outcome = .ok ()) :
    ∃ report ms, Clean engine s test st h v report ms := by
  obtain ⟨-, hfault, hcount⟩ := verdict_succeeded_iff.mp hverdict
  -- no fault was found, so the findings are the report's own
  obtain ⟨report, ms, hreport, hparsed, hfound⟩ := findings_of_faultless hfault
  rw [found, hfound] at hfault
  rw [counting, found, hfound] at hcount
  exact ⟨report, ms, hstart, htest, hreport, hparsed, hasFault_eq_false_iff.mp hfault, hcount,
    hwrite⟩

theorem Clean.succeeded {v : Value} {report : EngineReport} {ms : List Mismatch}
    (c : Clean engine s test st h v report ms) : (verdict engine s test st h).succeeded = true := by
  have hfound : found engine s test st h = ⟨report.serverError, ms⟩ := by
    rw [found, c.reported, findings, c.parsed]
  rw [verdict_succeeded_iff, counting, hfound]
  refine ⟨?_, hasFault_eq_false_iff.mpr c.faultless, c.matched⟩
  rw [c.tested, testError?]

end Success

/-! ## Failure -/

section Ruling

variable (engine : Engine σ) (s : Session) (test : TestFunction σ) (st : σ)

/-- **The rulings on a run that failed**: its error, what is told about it, and
the mismatches that are passed on. The rows stand in their order of
precedence, and each requires that none above it applies. -/
inductive Ruling : Failure → Option String → List Mismatch → Prop where
  /-- The service did not start. -/
  | startFailed {cause : Failure} (hstart : (started engine s st).outcome = .error cause) :
      Ruling (.startFailed cause) (some (Failure.startFailed cause).text) []
  /-- The test failed, and there is more to tell than that. The message tells
  it all: the fault, and the report with an entry for each mismatch under its
  number. -/
  | combined {h : ServerHandle} {cause : Failure} {message : String}
      (hstart : (started engine s st).outcome = .ok h)
      (htest : (tested engine s test st h).1 = .error cause)
      (hproblem : hasFault (found engine s test st h).serverError = true
        ∨ counting engine s test st h ≠ [])
      (hmessage : message = combinedMessage s.traceOf cause (found engine s test st h).serverError
        (counting engine s test st h))
      (hfault : ∀ fault, (found engine s test st h).serverError = some fault →
        fault.toList <:+: message.toList)
      (hreport : counting engine s test st h ≠ [] →
        (Mismatch.report (counting engine s test st h) "    ").toList <:+: message.toList)
      (hentry : ∀ (i : Nat) (m : Mismatch), (counting engine s test st h)[i]? = some m →
        (m.entry (i + 1) "    ").toList <:+: message.toList) :
      Ruling (.combined message cause) (some message) (counting engine s test st h)
  /-- The test failed, and that is all. -/
  | testFailed {h : ServerHandle} {cause : Failure}
      (hstart : (started engine s st).outcome = .ok h)
      (htest : (tested engine s test st h).1 = .error cause)
      (hfault : hasFault (found engine s test st h).serverError = false)
      (hcount : counting engine s test st h = []) :
      Ruling cause none []
  /-- The service had a fault. -/
  | serverFault {h : ServerHandle} {v : Value} {fault : String}
      (hstart : (started engine s st).outcome = .ok h)
      (htest : (tested engine s test st h).1 = .ok v)
      (hfault : (found engine s test st h).serverError = some fault) (hne : fault ≠ "") :
      Ruling (.serverFault fault) (some fault) []
  /-- The traffic did not match. -/
  | mismatched {h : ServerHandle} {v : Value}
      (hstart : (started engine s st).outcome = .ok h)
      (htest : (tested engine s test st h).1 = .ok v)
      (hfault : hasFault (found engine s test st h).serverError = false)
      (hcount : counting engine s test st h ≠ []) :
      Ruling
        (.mismatched (Mismatch.report (counting engine s test st h) "  ")
          (counting engine s test st h))
        (some (Mismatch.report (counting engine s test st h) "  "))
        (counting engine s test st h)
  /-- The contract was not written. -/
  | notWritten {h : ServerHandle} {v : Value} {cause : Failure}
      (hstart : (started engine s st).outcome = .ok h)
      (htest : (tested engine s test st h).1 = .ok v)
      (hfault : hasFault (found engine s test st h).serverError = false)
      (hcount : counting engine s test st h = [])
      (hwrite : (written engine s test st h).outcome = .error cause)
      (hkind : (writeFailure cause).kind = "ContractWriteError") :
      Ruling (writeFailure cause) (some (writeFailure cause).text) []

end Ruling

/-- Whatever was raised by the writing, it is told as a failure to write the
contract. -/
theorem writeFailure_kind (e : Failure) : (writeFailure e).kind = "ContractWriteError" := by
  unfold writeFailure
  cases h : e.isWriteFailure with
  | false => rfl
  | true =>
    rw [if_pos rfl]
    cases e with
    | writeFailed cause => rfl
    | raised x => exact eq_of_beq h
    | _ => cases h

section Failure

variable {engine : Engine σ} {s : Session} {test : TestFunction σ} {st : σ} {h : ServerHandle}

theorem ruling_of_testError {cause : Failure} (hstart : (started engine s st).outcome = .ok h)
    (htest : (tested engine s test st h).1 = .error cause) :
    ∃ e, (verdict engine s test st h).error = some e
      ∧ Ruling engine s test st e (verdict engine s test st h).diagnostics
        (verdict engine s test st h).mismatches := by
  unfold verdict reconcile
  rw [htest, testError?]
  dsimp only
  rw [← counting]
  -- whether the service has anything to add
  by_cases hnone : (!hasFault (found engine s test st h).serverError
      && (counting engine s test st h).isEmpty) = true
  · rw [if_pos hnone]
    rw [Bool.and_eq_true, Bool.not_eq_true', List.isEmpty_iff] at hnone
    exact ⟨cause, rfl, .testFailed hstart htest hnone.1 hnone.2⟩
  · rw [if_neg hnone]
    rw [Bool.and_eq_true, Bool.not_eq_true', List.isEmpty_iff, Classical.not_and_iff_not_or_not,
      Bool.not_eq_false]
      at hnone
    refine ⟨_, rfl, .combined hstart htest hnone rfl ?_ ?_ ?_⟩
    · intro fault hfault
      rw [hfault]
      exact fault_infix_combinedMessage s.traceOf cause fault _
    · exact report_infix_combinedMessage s.traceOf cause _
    · intro i m hm
      have hne : counting engine s test st h ≠ [] := by
        intro hnil
        rw [hnil] at hm
        simp at hm
      exact (Mismatch.entry_infix_report "    " hm).trans
        (report_infix_combinedMessage s.traceOf cause _ hne)

theorem ruling_of_value {v : Value} (hstart : (started engine s st).outcome = .ok h)
    (htest : (tested engine s test st h).1 = .ok v)
    (hverdict : (verdict engine s test st h).succeeded = false) :
    ∃ e, (verdict engine s test st h).error = some e
      ∧ Ruling engine s test st e (verdict engine s test st h).diagnostics
        (verdict engine s test st h).mismatches := by
  unfold verdict reconcile at hverdict ⊢
  rw [htest, testError?] at hverdict ⊢
  dsimp only at hverdict ⊢
  rw [← counting] at hverdict ⊢
  by_cases hfault : hasFault (found engine s test st h).serverError = true
  · rw [if_pos hfault]
    obtain ⟨fault, hsome, hne⟩ := hasFault_eq_true_iff.mp hfault
    rw [hsome]
    exact ⟨_, rfl, .serverFault hstart htest hsome hne⟩
  · rw [if_neg hfault] at hverdict ⊢
    by_cases hcount : counting engine s test st h = []
    · rw [hcount] at hverdict
      cases hverdict
    · rw [if_pos (by simpa using hcount)]
      exact ⟨_, rfl, .mismatched hstart htest (Bool.eq_false_iff.mpr hfault) hcount⟩

end Failure

/-! ## The result -/

section Result

variable {engine : Engine σ} {s : Session} {test : TestFunction σ} {st : σ}

theorem Clean.outcome {h : ServerHandle} {v : Value} {report : EngineReport} {ms : List Mismatch}
    {o : Except Failure SessionResult} {t : List Event} {q : SessionState} {b : σ}
    (c : Clean engine s test st h v report ms) (hcourse : Course engine s test st o t q b) :
    o = .ok ⟨true, v, none, none, [], true⟩ := by
  have hsucceeded := c.succeeded
  have htested := c.tested
  have hwritten := c.written
  -- every other course has an answer that a clean run does not have
  cases hcourse with
  | startEnded hstart | startFailed hstart =>
    rw [c.started] at hstart
    cases hstart
  | testEnded hstart htest =>
    obtain rfl := Except.ok.inj (c.started.symm.trans hstart)
    rw [htested] at htest
    cases htest
  | reportEnded hstart _ hreport =>
    obtain rfl := Except.ok.inj (c.started.symm.trans hstart)
    rw [c.reported] at hreport
    cases hreport
  | ruled hstart _ _ hverdict =>
    obtain rfl := Except.ok.inj (c.started.symm.trans hstart)
    rw [hsucceeded] at hverdict
    cases hverdict
  | writeEnded hstart _ _ _ hwrite | writeFailed hstart _ _ _ hwrite =>
    obtain rfl := Except.ok.inj (c.started.symm.trans hstart)
    rw [hwritten] at hwrite
    cases hwrite
  | clean hstart htest =>
    obtain rfl := Except.ok.inj (c.started.symm.trans hstart)
    obtain rfl := Except.ok.inj (htested.symm.trans htest)
    rfl

/-- **A course with a result is clean, or there is a ruling on it.** -/
theorem Course.clean_or_ruled {r : SessionResult} {t : List Event} {q : SessionState} {b : σ}
    (hcourse : Course engine s test st (.ok r) t q b) :
    (r.succeeded = true ∧ ∃ h v report ms, Clean engine s test st h v report ms)
      ∨ r.succeeded = false ∧ r.value = .null ∧ r.contractWritten = false
        ∧ ∃ e, r.error = some e ∧ Ruling engine s test st e r.diagnostics r.mismatches := by
  cases hcourse with
  | startFailed hstart => exact .inr ⟨rfl, rfl, rfl, _, rfl, .startFailed hstart⟩
  | @ruled h hstart _ _ hverdict =>
    cases htest : (tested engine s test st h).1 with
    | error cause => exact .inr ⟨rfl, rfl, rfl, ruling_of_testError hstart htest⟩
    | ok v => exact .inr ⟨rfl, rfl, rfl, ruling_of_value hstart htest hverdict⟩
  | writeFailed hstart _ _ hverdict hwrite =>
    obtain ⟨v, htest⟩ := exists_value_of_succeeded hverdict
    obtain ⟨-, hfault, hcount⟩ := verdict_succeeded_iff.mp hverdict
    exact .inr ⟨rfl, rfl, rfl, _, rfl,
      .notWritten hstart htest hfault hcount hwrite (writeFailure_kind _)⟩
  | @clean h v hstart htest _ hverdict hwrite =>
    exact .inl ⟨rfl, h, v, clean_of_succeeded hstart htest hverdict hwrite⟩

variable (engine s test st)

/-- **The result of a run.** It is one of success exactly if the run was clean.
Then it has the value of the test, says that the contract was written, and
tells of nothing else. Otherwise it has no value, the contract was not
written, and its error follows from a ruling. -/
theorem result_of_run (r : SessionResult) (hs : s.state = .idle)
    (hr : (run engine s test st).outcome = .ok r) :
    (r.succeeded = true ↔ ∃ h v report ms, Clean engine s test st h v report ms)
      ∧ (∀ h v report ms, Clean engine s test st h v report ms →
        r = ⟨true, v, none, none, [], true⟩)
      ∧ (r.succeeded = false → r.value = .null ∧ r.contractWritten = false
        ∧ ∃ e, r.error = some e ∧ Ruling engine s test st e r.diagnostics r.mismatches) := by
  obtain ⟨hbody, -⟩ := body_of_run hs hr
  have hcourse := course_body engine hs test st
  rw [hbody] at hcourse
  have hclean : ∀ h v report ms, Clean engine s test st h v report ms →
      r = ⟨true, v, none, none, [], true⟩ := by
    intro h v report ms c
    exact Except.ok.inj (c.outcome hcourse)
  refine ⟨⟨?_, ?_⟩, hclean, ?_⟩
  · intro hsucceeded
    obtain ⟨-, h⟩ | ⟨hfailed, -⟩ := hcourse.clean_or_ruled
    · exact h
    · rw [hsucceeded] at hfailed
      cases hfailed
  · rintro ⟨h, v, report, ms, c⟩
    rw [hclean h v report ms c]
  · intro hfailed
    obtain ⟨hsucceeded, -⟩ | ⟨-, h⟩ := hcourse.clean_or_ruled
    · rw [hsucceeded] at hfailed
      cases hfailed
    · exact h

end Result

/-- The result of a test that failed on a service with a fault of its own: the
ruling is the combined one. -/
theorem result_of_run_faulty :
    let faulty : Script := { Script.faultless with serverError := .str "out of sockets" }
    ∃ r, (run faulty.engine sample failingTest (.new .empty)).outcome = .ok r
      ∧ r.succeeded = false ∧ r.value = .null ∧ r.contractWritten = false
      ∧ ∃ e, r.error = some e
        ∧ Ruling faulty.engine sample failingTest (.new .empty) e r.diagnostics r.mismatches := by
  intro faulty
  have hok : (run faulty.engine sample failingTest (.new .empty)).outcome.toOption.map
      SessionResult.succeeded = some false := by decide +kernel
  cases hr : (run faulty.engine sample failingTest (.new .empty)).outcome with
  | error e =>
    rw [hr] at hok
    cases hok
  | ok r =>
    rw [hr] at hok
    have hfailed : r.succeeded = false := Option.some.inj hok
    exact ⟨r, rfl, hfailed,
      (result_of_run faulty.engine sample failingTest (.new .empty) r rfl hr).2.2 hfailed⟩

end Session

end Covenant
