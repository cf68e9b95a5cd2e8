import Covenant.Proofs.Session.Course

/-!
# What the tolerance for missing requests does

A session may tolerate requests that were expected and never came. The tolerance is
a filter: the verdict of a tolerant session on a report is that of a strict session
on the report without its missing requests (`EngineReport.withoutMissing`), which
`EngineReport.verdict_of_tolerance` says of the whole verdict. What is deleted are
texts, before they are read, so the entries that are left are numbered as if the
others had never been there.

The same holds of whole runs, where reports may also be of no use
(`Session.run_withoutMissing`): the first text that cannot be read is no missing
request, and stays the first one.
-/

namespace Covenant

open Validation

/-! ## Reports without their missing requests -/

namespace Mismatch

/-- Whether a text is left where missing requests are tolerated: it does not read as
one. -/
def isLeft (text : String) : Bool :=
  match (Model.ofText text : Except Report Mismatch) with
  | .ok m => m.kind != .missingRequest
  | .error _ => true

/-- **Deleting texts and deleting mismatches is one thing**, also where a text cannot
be read. -/
theorem ofTexts_filter (texts : List String) :
    ofTexts (texts.filter isLeft) = (ofTexts texts).map (counted true) := by
  induction texts with
  | nil => rfl
  | cons text texts ih =>
    rw [ofTexts]
    cases hread : (Model.ofText text : Except Report Mismatch) with
    | error e =>
      have hleft : isLeft text = true := by rw [isLeft, hread]
      rw [List.filter_cons_of_pos hleft, ofTexts, hread]
      rfl
    | ok m =>
      have hleft : isLeft text = (m.kind != .missingRequest) := by rw [isLeft, hread]
      cases hkind : m.kind != .missingRequest with
      | false =>
        rw [List.filter_cons_of_neg (by simp [hleft, hkind]), ih]
        cases ofTexts texts with
        | error e => rfl
        | ok ms => simp [Except.map, counted, hkind]
      | true =>
        rw [List.filter_cons_of_pos (by rw [hleft, hkind]), ofTexts, hread, ih]
        cases ofTexts texts with
        | error e => rfl
        | ok ms => simp [Except.map, counted, hkind]

/-- **The entries of a report are numbered without gaps.** -/
theorem entriesFrom_eq_join (indent : String) (n : Nat) (ms : List Mismatch) :
    entriesFrom indent n ms = String.join ((ms.zipIdx n).map fun p => p.1.entry p.2 indent) := by
  induction ms generalizing n with
  | nil => rfl
  | cons m ms ih =>
    rw [entriesFrom, ih, List.zipIdx_cons, List.map_cons, String.join_cons]

end Mismatch

namespace EngineReport

/-- **The report without its missing requests.** -/
def withoutMissing (r : EngineReport) : EngineReport :=
  { r with mismatchTexts := r.mismatchTexts.map (·.filter Mismatch.isLeft) }

/-- The verdict on a test and a report; none if the report cannot be read. -/
def verdict (r : EngineReport) (traceOf : Failure → String) (testError : Option Failure)
    (allowMissing : Bool) : Except Report Verdict :=
  r.mismatches.map fun ms => reconcile traceOf testError r.serverError ms allowMissing

theorem mismatches_withoutMissing (r : EngineReport) :
    r.withoutMissing.mismatches = r.mismatches.map (Mismatch.counted true) := by
  unfold mismatches withoutMissing
  cases r.mismatchTexts with
  | none => rfl
  | some texts => exact Mismatch.ofTexts_filter texts

end EngineReport

/-- What succeeds strictly is tolerated with the same verdict. -/
theorem reconcile_tolerant_of_succeeded {traceOf : Failure → String} {testError : Option Failure}
    {serverError : Option String} {ms : List Mismatch}
    (h : (reconcile traceOf testError serverError ms false).succeeded = true) :
    reconcile traceOf testError serverError ms true
      = reconcile traceOf testError serverError ms false := by
  obtain ⟨-, -, hnone⟩ := reconcile_succeeded_iff.mp h
  obtain rfl : ms = [] := hnone
  rfl

theorem exists_combinedMessage_eq (traceOf : Failure → String) (e : Failure)
    (serverError : Option String) {ms : List Mismatch} (h : ms ≠ []) :
    ∃ opening, combinedMessage traceOf e serverError ms
      = opening ++ Mismatch.report ms "    " := by
  have hms : ms.isEmpty = false := by simpa using h
  unfold combinedMessage
  rw [hms, if_neg Bool.false_ne_true, ← String.append_assoc]
  exact ⟨_, rfl⟩

/-- A verdict with mismatches ends with the report on them. -/
theorem exists_diagnostics_eq {traceOf : Failure → String} {testError : Option Failure}
    {serverError : Option String} {reported : List Mismatch} {allowMissing : Bool} {v : Verdict}
    (hv : reconcile traceOf testError serverError reported allowMissing = v) (h : v.mismatches ≠ []) :
    ∃ opening indent, v.diagnostics = some (opening ++ Mismatch.report v.mismatches indent) := by
  subst hv
  unfold reconcile at h ⊢
  dsimp only at h ⊢
  cases testError with
  | some e =>
    dsimp only at h ⊢
    split at h
    case isTrue => exact absurd rfl h
    case isFalse hsome =>
      rw [if_neg hsome]
      obtain ⟨opening, heq⟩ := exists_combinedMessage_eq traceOf e serverError h
      exact ⟨opening, "    ", congrArg some heq⟩
  | none =>
    dsimp only at h ⊢
    split at h
    case isTrue => exact absurd rfl h
    case isFalse hfault =>
      rw [if_neg hfault]
      split at h
      case isTrue hsome =>
        rw [if_pos hsome]
        exact ⟨"", "  ", congrArg some (String.empty_append).symm⟩
      case isFalse => exact absurd rfl h

/-! ## Whole runs -/

/-- The engine whose reports come without their missing requests. -/
def Engine.withoutMissing {σ : Type} (engine : Engine σ) : Engine σ :=
  { engine with report := fun session st => (engine.report session st).map EngineReport.withoutMissing }

namespace Session

variable {σ : Type} {engine : Engine σ} {s : Session} {test : TestFunction σ} {st : σ}

/-- The session with the tolerance for missing requests switched on or off. -/
def tolerating (s : Session) (allowMissing : Bool) : Session :=
  { s with settings := { s.settings with allowMissing := allowMissing } }

@[simp] theorem enter_tolerating (s : Session) (allowMissing : Bool) (state : SessionState) :
    (s.tolerating allowMissing).enter state = (s.enter state).tolerating allowMissing := rfl

@[simp] theorem hold_tolerating (s : Session) (allowMissing : Bool) (h : ServerHandle) :
    (s.tolerating allowMissing).hold h = (s.hold h).tolerating allowMissing := rfl

/-- **What is found without missing requests.** A report that is of no use stays so. -/
theorem query_withoutMissing : query engine.withoutMissing s st
    = ⟨(query engine s st).outcome.map fun f => ⟨f.serverError, Mismatch.counted true f.mismatches⟩,
      (query engine s st).events, (query engine s st).engine⟩ := by
  unfold query Engine.withoutMissing
  dsimp only [Answer.map]
  cases (engine.report s.id st).outcome with
  | error e =>
    dsimp only [Except.map]
    cases e.isOrdinary <;> rfl
  | ok r =>
    dsimp only [Except.map]
    rw [EngineReport.mismatches_withoutMissing]
    cases r.mismatches <;> rfl

/-- Settling tolerantly is settling strictly without missing requests. -/
theorem settle_withoutMissing (tested : Except Failure Value) :
    settle engine.withoutMissing (s.tolerating false) tested st
      = settle engine (s.tolerating true) tested st := by
  have hquery : query engine (s.tolerating false) st = query engine (s.tolerating true) st := rfl
  unfold settle
  rw [query_withoutMissing, hquery]
  dsimp only
  cases (query engine (s.tolerating true) st).outcome <;> rfl

/-- **What is settled well strictly is settled the same tolerantly.** -/
theorem settle_tolerating {tested : Except Failure Value} {result : SessionResult}
    (h : (settle engine (s.tolerating false) tested st).outcome = .ok result)
    (hsucceeded : result.succeeded = true) :
    settle engine (s.tolerating true) tested st = settle engine (s.tolerating false) tested st := by
  have hquery : query engine (s.tolerating false) st = query engine (s.tolerating true) st := rfl
  unfold settle at h ⊢
  rw [hquery] at h ⊢
  dsimp only at h ⊢
  cases hq : (query engine (s.tolerating true) st).outcome with
  | error e => rfl
  | ok findings =>
    rw [hq] at h
    dsimp only at h ⊢
    by_cases hverdict : (reconcile (s.tolerating false).traceOf (testError? tested)
        findings.serverError findings.mismatches
        (s.tolerating false).settings.allowMissing).succeeded = true
    · have hsame : reconcile (s.tolerating true).traceOf (testError? tested) findings.serverError
          findings.mismatches (s.tolerating true).settings.allowMissing
            = reconcile (s.tolerating false).traceOf (testError? tested) findings.serverError
              findings.mismatches (s.tolerating false).settings.allowMissing :=
        reconcile_tolerant_of_succeeded hverdict
      rw [hsame]
      rfl
    · -- a verdict of failure gives no result of success
      rw [if_neg hverdict, conclude, if_neg hverdict] at h
      cases h
      cases hsucceeded

/-- **Two runs agree** in what came of them, what happened, and the state in which
they left the engine. -/
def Finished.Agrees (f g : Finished σ) : Prop :=
  f.outcome = g.outcome ∧ f.events = g.events ∧ f.engine = g.engine

/-- Runs agree if they do up to the shutdown, and shut down in the same way. -/
theorem run_congr {engine' : Engine σ} {s' : Session} (hid : s'.id = s.id) (hstate : s'.state = s.state)
    (hshutdown : engine'.shutdown = engine.shutdown)
    (hbody : body engine' s' test st = body engine s test st) :
    (run engine' s' test st).Agrees (run engine s test st) := by
  have hlabel : s'.label = s.label := congrArg Value.display hid
  have hentry : shutdownEntry s' = shutdownEntry s := by rw [shutdownEntry, shutdownEntry, hlabel]
  unfold run
  rw [hid, hstate, hshutdown, hbody, hlabel, hentry]
  by_cases hidle : s.state ≠ .idle
  · rw [if_pos hidle, if_pos hidle]
    exact ⟨rfl, rfl, rfl⟩
  · rw [if_neg hidle, if_neg hidle]
    dsimp only
    cases (engine.shutdown s.id (body engine s test st).engine).outcome <;> exact ⟨rfl, rfl, rfl⟩

/-- Up to the shutdown, running tolerantly is running strictly without missing
requests. -/
theorem body_withoutMissing :
    body engine.withoutMissing (s.tolerating false) test st
      = body engine (s.tolerating true) test st := by
  unfold body
  simp only [enter_tolerating, hold_tolerating, settle_withoutMissing]
  rfl

/-- A session that has a result was idle before. -/
theorem idle_of_run {result : SessionResult} (h : (run engine s test st).outcome = .ok result) :
    s.state = .idle := by
  by_cases hidle : s.state = .idle
  · exact hidle
  · rw [run_of_not_idle _ _ _ _ hidle] at h
    cases h

/-- Up to the shutdown, what succeeds strictly goes the same way tolerantly. -/
theorem body_tolerating {result : SessionResult}
    (h : (body engine (s.tolerating false) test st).outcome = .ok result)
    (hsucceeded : result.succeeded = true) :
    body engine (s.tolerating true) test st = body engine (s.tolerating false) test st := by
  have hstart : engine.start (s.tolerating true).id (s.tolerating true).interactions
      (s.tolerating true).options st = engine.start (s.tolerating false).id
        (s.tolerating false).interactions (s.tolerating false).options st := rfl
  unfold body at h ⊢
  rw [hstart]
  simp only [enter_tolerating, hold_tolerating] at h ⊢
  cases ho : (engine.start (s.tolerating false).id (s.tolerating false).interactions
      (s.tolerating false).options st).outcome with
  | error e => rfl
  | ok handle =>
    rw [ho] at h
    dsimp only at h ⊢
    generalize test handle _ = tested at h ⊢
    obtain ⟨tested, st'⟩ := tested
    dsimp only at h ⊢
    cases tested with
    | ok v =>
      dsimp only at h ⊢
      rw [settle_tolerating h hsucceeded]
      rfl
    | error e =>
      dsimp only at h ⊢
      by_cases he : e.isOrdinary = true
      · rw [if_pos he] at h
        rw [if_pos he, if_pos he, settle_tolerating h hsucceeded]
        rfl
      · rw [if_neg he, if_neg he]
        rfl

end Session

/-! ## The tolerance as a filter -/

namespace EngineReport

/-- Reports with the same fault and the same mismatches left get one verdict where
missing requests are tolerated. -/
theorem verdict_congr {r r' : EngineReport} (traceOf : Failure → String)
    (testError : Option Failure) (hfault : r'.serverError = r.serverError)
    (hleft : r'.withoutMissing.mismatches = r.withoutMissing.mismatches) :
    r'.verdict traceOf testError true = r.verdict traceOf testError true := by
  have hverdict (r : EngineReport) : r.verdict traceOf testError true
      = r.withoutMissing.mismatches.map fun ms =>
        reconcile traceOf testError r.serverError ms false := by
    rw [verdict, mismatches_withoutMissing]
    cases r.mismatches <;> rfl
  rw [hverdict, hverdict, hleft, hfault]

/-- **The tolerance only deletes missing requests.** Whatever the test came to, a
tolerant verdict on a report that can be read is the strict verdict on the report
without its missing requests; what it tells of mismatches is numbered from one on
without gaps. It is the strict verdict on the report itself if that is one of
success, and any report with the same fault and the same mismatches left gets it too.
A tolerant run is a strict run without missing requests, and one that succeeds
strictly goes the same way tolerantly. -/
theorem verdict_of_tolerance {r : EngineReport} {ms : List Mismatch} (hread : r.mismatches = .ok ms)
    (traceOf : Failure → String) (testError : Option Failure) :
    r.withoutMissing.mismatches = .ok (ms.filter fun m => m.kind != .missingRequest)
      ∧ (∃ v, r.verdict traceOf testError true = .ok v
        ∧ r.withoutMissing.verdict traceOf testError false = .ok v
        ∧ (v.mismatches ≠ [] → ∃ opening indent, v.diagnostics = some (opening ++ reportHeader
          ++ String.join ((v.mismatches.zipIdx 1).map fun p => p.1.entry p.2 indent)))
        ∧ (∀ v', r.verdict traceOf testError false = .ok v' → v'.succeeded = true → v = v')
        ∧ ∀ r' : EngineReport, r'.serverError = r.serverError →
          r'.withoutMissing.mismatches = r.withoutMissing.mismatches →
            r'.verdict traceOf testError true = .ok v)
      ∧ ∀ (σ : Type) (engine : Engine σ) (s : Session) (test : TestFunction σ) (st : σ),
        ((s.tolerating true).run engine test st).Agrees
            ((s.tolerating false).run engine.withoutMissing test st)
          ∧ ∀ result, ((s.tolerating false).run engine test st).outcome = .ok result →
            result.succeeded = true → ((s.tolerating true).run engine test st).Agrees
              ((s.tolerating false).run engine test st) := by
  have hleft := mismatches_withoutMissing r
  rw [hread] at hleft
  have hverdict : r.verdict traceOf testError true
      = .ok (reconcile traceOf testError r.serverError ms true) := by
    rw [verdict, hread]
    rfl
  refine ⟨hleft, ⟨_, hverdict, ?_, fun hsome => ?_, fun v' hstrict hsucceeded => ?_,
    fun r' hfault hsame => ?_⟩, fun σ engine s test st => ⟨?_, fun result hresult hsucceeded => ?_⟩⟩
  · rw [verdict, hleft]
    rfl
  · obtain ⟨opening, indent, hwords⟩ := exists_diagnostics_eq rfl hsome
    refine ⟨opening, indent, ?_⟩
    rw [hwords, Mismatch.report, Mismatch.entriesFrom_eq_join, String.append_assoc]
  · rw [verdict, hread] at hstrict
    obtain rfl : reconcile traceOf testError r.serverError ms false = v' := Except.ok.inj hstrict
    exact reconcile_tolerant_of_succeeded hsucceeded
  · rw [verdict_congr traceOf testError hfault hsame, hverdict]
  · exact Session.run_congr rfl rfl rfl Session.body_withoutMissing.symm
  · obtain ⟨hbody, -⟩ := Session.body_of_run (Session.idle_of_run hresult) hresult
    exact Session.run_congr rfl rfl rfl (Session.body_tolerating hbody hsucceeded)

/-- A report with missing requests before, between and behind other mismatches. -/
def interleaved : EngineReport :=
  ⟨none, some ["\x7b\"type\":\"missing-request\"\x7d", "\x7b\"type\":\"body\",\"path\":\"$.id\"\x7d",
    "\x7b\"type\":\"missing-request\"\x7d", "\x7b\"type\":\"request-not-found\"\x7d",
    "\x7b\"type\":\"missing-request\"\x7d"]⟩

/-- Its other mismatches are told as the first and the second. -/
theorem verdict_of_tolerance_interleaved :
    ∃ ms, interleaved.mismatches = .ok ms ∧ ∃ v, interleaved.verdict Failure.trace none true = .ok v
      ∧ interleaved.withoutMissing.verdict Failure.trace none false = .ok v
      ∧ v.diagnostics = some ("Mock server failed with the following mismatches:"
        ++ "\n  1) body (at $.id) \x7b\"type\":\"body\",\"path\":\"$.id\"\x7d"
        ++ "\n\n  2) The following request was not expected:") := by
  have hwords : (interleaved.verdict Failure.trace none true).toOption.bind Verdict.diagnostics
      = some ("Mock server failed with the following mismatches:"
        ++ "\n  1) body (at $.id) \x7b\"type\":\"body\",\"path\":\"$.id\"\x7d"
        ++ "\n\n  2) The following request was not expected:") := by decide +kernel
  cases hread : interleaved.mismatches with
  | error e =>
    rw [verdict, hread] at hwords
    cases hwords
  | ok ms =>
    obtain ⟨-, ⟨v, hverdict, hstrict, -⟩, -⟩ := verdict_of_tolerance hread Failure.trace none
    rw [hverdict] at hwords
    exact ⟨ms, rfl, v, hverdict, hstrict, hwords⟩

end EngineReport

end Covenant
