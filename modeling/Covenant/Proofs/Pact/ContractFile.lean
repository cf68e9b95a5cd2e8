import Covenant.Pact.Run
import Covenant.Proofs.Engine.Ledger
import Covenant.Proofs.Pact.Steps
import Covenant.Proofs.Session.Course

/-!
# The contract file of a pact

A pact and the engine make the contract independently of each other. The pact
makes it of its closed interactions, whenever it is asked for it; the engine
makes it of the interactions that it was told to serve when the session
started, and writes it only if the verdict on the session is one of success.

What holds them together is the session. Opening it closes the interaction
that is still open, so that the pact's interactions are the session's
(`flushed_of_session`); starting it has them served, and neither the report
nor a test that leaves the contracts alone changes that
(`interactions_of_served`). So what is written is what the pact tells
(`contractFile_of_runTest`). In every other course of a run the files are the
same files as before, but for one: where the text to be written has no bytes, the
file was opened for it and is empty (`contract_lost`).
-/

namespace Covenant

namespace Session

/-- **A test that leaves the contract of a session alone**: the files, the
notes on what was written, and the interactions that are served in it. -/
structure LeavesContract (id : Value) (test : TestFunction Ledger) : Prop where
  /-- The files stay. -/
  files : ∀ h l, (test h l).2.files = l.files
  /-- The notes stay. -/
  written : ∀ h l, (test h l).2.written = l.written
  /-- The interactions stay. -/
  served : ∀ h l, (Script.served? (test h l).2 id).map ServedSession.interactions
    = (Script.served? l id).map ServedSession.interactions

/-! ## The contract of a session -/

section Contracts

variable {script : Script} {s : Session} {test : TestFunction Ledger} {l : Ledger}

theorem sameContracts_reported (htest : LeavesContract s.id test) (h : ServerHandle) :
    l.SameContracts (reported script.engine s test l h).state := by
  have hstart : l.SameContracts (started script.engine s l).state :=
    Script.sameContracts_start script s.id s.interactions s.options l
  have hreport : (reported script.engine s test l h).state = (tested script.engine s test l h).2 :=
    Script.state_report script s.id _
  -- between the start and the report there is the test only
  rw [hreport]
  refine hstart.trans ⟨?_, htest.written h _⟩
  rw [show (tested script.engine s test l h).2.files = _ from htest.files h _]
  exact .refl _

/-- **What the engine serves at the end is what the session is about.** -/
theorem interactions_of_served {h : ServerHandle} {served : ServedSession}
    (htest : LeavesContract s.id test) (hstart : (started script.engine s l).outcome = .ok h)
    (hserved : Script.served? (reported script.engine s test l h).state s.id = some served) :
    served.interactions = s.interactions := by
  rw [show (reported script.engine s test l h).state = (tested script.engine s test l h).2
    from Script.state_report script s.id _] at hserved
  -- only a session with a text for a name is served
  cases hid : s.id with
  | str name =>
    have hkept := htest.served h (started script.engine s l).state
    unfold started at hstart hkept
    rw [hid] at hstart hkept
    have hfirst : Script.served? (script.engine.start (.str name) s.interactions s.options l).state
        (.str name) = some ⟨h, s.interactions, s.options, true⟩ :=
      Script.served?_of_start hstart
    unfold tested started at hserved
    rw [hid] at hserved
    rw [hserved, hfirst] at hkept
    exact Option.some.inj hkept
  | _ =>
    rw [hid] at hserved
    cases hserved

/-- The contract of a session, written: it is read under its path, and the path
is the last one noted. -/
structure Written (s : Session) (l l' : Ledger) (t : String) : Prop where
  /-- It is the text of the contract. -/
  text : (Script.contractOf s.options s.interactions).text = .ok t
  /-- The text has bytes. -/
  bytes : Text.unencodable? l.files.halves t = none
  /-- It is what the file holds. -/
  contents : l'.files.contents ((Script.contractOf s.options s.interactions).pathIn s.options.dir)
    = .ok (.text t)
  /-- Its path is noted. -/
  noted : l'.written
    = l.written ++ [(Script.contractOf s.options s.interactions).pathIn s.options.dir]

/-- What was written stays where nothing else is. -/
theorem Written.trans {l' l'' : Ledger} {t : String} (h : Written s l l' t)
    (h' : l'.SameContracts l'') : Written s l l'' t :=
  ⟨h.text, h.bytes, h'.files.contents h.contents, h'.written.trans h.noted⟩

/-- **The contract of a session, lost on writing.** Its text has no bytes, which
the result says; the file under its path is empty, and the path is not noted. -/
structure Spoiled (s : Session) (l l' : Ledger) (r : SessionResult) : Prop where
  /-- The text has no bytes. -/
  text : ∃ t u, (Script.contractOf s.options s.interactions).text = .ok t
    ∧ Text.unencodable? l.files.halves t = some u
    ∧ r.error = some (.writeFailed (.file ⟨.unencodable u,
      ((Script.contractOf s.options s.interactions).pathIn s.options.dir).text⟩))
  /-- The file is empty. -/
  emptied : FileSystem.Emptied l.files l'.files
    ((Script.contractOf s.options s.interactions).pathIn s.options.dir)
  /-- The notes are the same. -/
  written : l'.written = l.written

/-- What was lost stays lost where nothing else is written. -/
theorem Spoiled.trans {l' l'' : Ledger} {r : SessionResult} (h : Spoiled s l l' r)
    (h' : l'.SameContracts l'') : Spoiled s l l'' r :=
  ⟨h.text, h.emptied.sameFiles h'.files, h'.written.trans h.written⟩

/-- **What becomes of the contract before the shutdown**, in every course with
a result: it is written, or nothing is, or it is lost on writing. -/
theorem Course.written_or_same {r : SessionResult} {t : List Event} {q : SessionState}
    {b : Ledger} (htest : LeavesContract s.id test)
    (hcourse : Course script.engine s test l (.ok r) t q b) :
    (r.succeeded = true ∧ ∃ text, Written s l b text)
      ∨ (r.succeeded = false ∧ (l.SameContracts b ∨ Spoiled s l b r)) := by
  cases hcourse with
  | startFailed => exact .inr ⟨rfl, .inl (Script.sameContracts_start script s.id _ _ l)⟩
  | ruled => exact .inr ⟨rfl, .inl (sameContracts_reported htest _)⟩
  | @writeFailed h e hstart _ _ _ hwrite =>
    have hreported : l.SameContracts (reported script.engine s test l h).state :=
      sameContracts_reported htest h
    obtain ⟨_, -, hsame⟩ | ⟨e', served, he', hserved, hspoiled⟩ | ⟨hdone, -⟩ :=
      script.write_cases s.id s.options (reported script.engine s test l h).state
    · exact .inr ⟨rfl, .inl (hreported.trans hsame)⟩
    · obtain rfl : e = e' := Except.error.inj (hwrite.symm.trans he')
      rw [interactions_of_served htest hstart hserved] at hspoiled
      obtain ⟨t, u, htext, hnone, rfl⟩ := hspoiled.files.text
      rw [hreported.files.halves] at hnone
      exact .inr ⟨rfl, .inr ⟨⟨t, u, htext, hnone, rfl⟩,
        hreported.files.emptied hspoiled.files.emptied,
        hspoiled.written.trans hreported.written⟩⟩
    · cases hdone.symm.trans hwrite
  | @clean h v hstart _ _ _ hwrite =>
    obtain ⟨_, hfailed, -⟩ | ⟨_, _, hfailed, -⟩ |
        ⟨-, served, text, hserved, htext, hbytes, hcontents, hnoted⟩ :=
      script.write_cases s.id s.options (reported script.engine s test l h).state
    · cases hfailed.symm.trans hwrite
    · cases hfailed.symm.trans hwrite
    · rw [interactions_of_served htest hstart hserved] at htext hcontents hnoted
      have hreported : l.SameContracts (reported script.engine s test l h).state :=
        sameContracts_reported htest h
      rw [hreported.files.halves] at hbytes
      rw [hreported.written] at hnoted
      exact .inl ⟨rfl, text, htext, hbytes, hcontents, hnoted⟩

/-- **What becomes of the contract in a run.** A run with a result of success
leaves the contract of the session written; a run with any other result leaves
the contracts as they were, unless this one was lost on writing. -/
theorem contract_of_run {r : SessionResult} (htest : LeavesContract s.id test)
    (hs : s.state = .idle) (hr : (run script.engine s test l).outcome = .ok r) :
    (r.succeeded = true → ∃ text, Written s l (run script.engine s test l).engine text)
      ∧ (r.succeeded = false → l.SameContracts (run script.engine s test l).engine
        ∨ Spoiled s l (run script.engine s test l).engine r) := by
  obtain ⟨hbody, -⟩ := body_of_run hs hr
  obtain ⟨es, hrun, -⟩ := run_of_idle script.engine s test l hs
  have hshutdown : (body script.engine s test l).engine.SameContracts
      (run script.engine s test l).engine := by
    rw [hrun]
    exact Script.sameContracts_shutdown script s.id _
  have hcourse := course_body script.engine hs test l
  rw [hbody] at hcourse
  obtain ⟨hsucceeded, text, hwritten⟩ | ⟨hfailed, hsame | hspoiled⟩ :=
    hcourse.written_or_same htest
  · rw [hsucceeded]
    exact ⟨fun _ => ⟨text, hwritten.trans hshutdown⟩, Bool.noConfusion⟩
  · rw [hfailed]
    exact ⟨Bool.noConfusion, fun _ => .inl (hsame.trans hshutdown)⟩
  · rw [hfailed]
    exact ⟨Bool.noConfusion, fun _ => .inr (hspoiled.trans hshutdown)⟩

end Contracts

end Session

namespace Pact

/-! ## The contract of a pact -/

/-- **A pact whose open interaction was closed**, with the default response. -/
structure Flushed (p p' : Pact) : Prop where
  /-- The options stay. -/
  options : p'.options = p.options
  /-- No interaction is open. -/
  draft : p'.draft = none
  /-- Where none was, there is nothing more. -/
  closed : p.draft = none → p'.interactions = p.interactions
  /-- An interaction that was open is the last one. -/
  last : ∀ d, p.draft = some d →
    ∃ i, d.close .default = .ok i ∧ p'.interactions = p.interactions ++ [i]

theorem flushed_of_closeDraft {p p' : Pact} {u : Unit} (h : closeDraft.Returns p u p') :
    Flushed p p' := by
  obtain ⟨hdraft, rfl⟩ | ⟨d, i, hdraft, hclose, rfl⟩ := returns_closeDraft.mp h
  · exact ⟨rfl, hdraft, fun _ => rfl, fun d hd => by rw [hdraft] at hd; cases hd⟩
  · refine ⟨rfl, rfl, fun hnone => ?_, fun d' hd => ?_⟩
    · rw [hdraft] at hnone
      cases hnone
    · obtain rfl : d = d' := Option.some.inj (hdraft.symm.trans hd)
      exact ⟨i, hclose, rfl⟩

/-- **A session of a pact** is about the interactions of the pact, the one
that was still open included. -/
theorem flushed_of_session {p p' : Pact} {hasEngine : Bool} {id : Value} {s : Session}
    (h : (session hasEngine (.ok id)).Returns p s p') :
    Flushed p p' ∧ s = .new id p'.interactions p'.options p'.settings := by
  obtain ⟨-, hclose, rfl⟩ := returns_session.mp h
  exact ⟨flushed_of_closeDraft hclose, rfl⟩

theorem run_of_runTest {σ : Type} {p p' : Pact} {engine : Engine σ} {id : Value}
    {test : TestFunction σ} {st : σ} {f : Session.Finished σ}
    (h : (p.runTest (some engine) id test st).1 = .ok (p', f)) :
    Flushed p p'
      ∧ f = (Session.new id p'.interactions p'.options p'.settings).run engine test st := by
  unfold runTest at h
  dsimp only at h
  cases hsession : session true (.ok id) p with
  | mk outcome q log =>
    rw [hsession] at h
    cases outcome with
    | error e => cases h
    | ok s =>
      cases h
      have hreturns : (session true (.ok id)).Returns p s p' :=
        ⟨congrArg Built.outcome hsession, congrArg Built.pact hsession⟩
      obtain ⟨hflushed, hs⟩ := flushed_of_session hreturns
      exact ⟨hflushed, congrArg (fun s => Session.run engine s test st) hs⟩

/-- The path of the contract file of a pact. -/
def contractPath (p : Pact) : Path :=
  p.options.dir ++ Path.ofText (p.options.consumer ++ "-" ++ p.options.provider ++ ".json")

/-- **The contract file after a test of a pact.** Where the result is one of
success, the file holds the text of what the pact then tells, indented and with
a line break, and its path was noted. Where the result is any other, nothing was
noted, and no file has appeared, changed or disappeared, the one that the path
leads to included – unless the text of what the pact then tells has no bytes and
the run got as far as to write it. Then the file is empty, and the others are as
they were. -/
theorem contractFile_of_runTest {p p' : Pact} {script : Script} {id : Value}
    {test : TestFunction Ledger} {l : Ledger} {f : Session.Finished Ledger} {r : SessionResult}
    (htest : Session.LeavesContract id test)
    (hrun : (p.runTest (some script.engine) id test l).1 = .ok (p', f)) (hr : f.outcome = .ok r) :
    Flushed p p'
      ∧ (r.succeeded = true → ∃ v j, p'.document = .ok v ∧ v.strict? = some j
        ∧ Text.unencodable? l.files.halves (j.text .indented ++ "\n") = none
        ∧ f.engine.files.contents p.contractPath = .ok (.text (j.text .indented ++ "\n"))
        ∧ f.engine.written = l.written ++ [p.contractPath])
      ∧ (r.succeeded = false → f.engine.written = l.written
        ∧ (((∀ at_, f.engine.files.file? at_ = l.files.file? at_)
            ∧ (∀ c, l.files.contents p.contractPath = .ok c →
              f.engine.files.contents p.contractPath = .ok c)
            ∧ ∀ c, f.engine.files.contents p.contractPath = .ok c →
              ∃ at_, f.engine.files.resolve p.contractPath = .ok at_ ∧ l.files.file? at_ = some c)
          ∨ ∃ t u, p'.contract.text = .ok t ∧ Text.unencodable? l.files.halves t = some u
            ∧ r.error = some (.writeFailed (.file ⟨.unencodable u, p.contractPath.text⟩))
            ∧ f.engine.files.contents p.contractPath = .ok (.text "")
            ∧ ∀ at_, f.engine.files.resolve p.contractPath ≠ .ok at_ →
              f.engine.files.file? at_ = l.files.file? at_)) := by
  obtain ⟨hflushed, rfl⟩ := run_of_runTest hrun
  obtain ⟨hsuccess, hfailure⟩ := Session.contract_of_run htest rfl hr
  have hpath : p.contractPath = p'.contractPath := by
    unfold contractPath
    rw [hflushed.options]
  refine ⟨hflushed, ?_, ?_⟩
  · intro hsucceeded
    obtain ⟨t, hwritten⟩ := hsuccess hsucceeded
    obtain ⟨v, j, hvalue, hstrict, ht⟩ := Contract.fileValue_of_text hwritten.text
    refine ⟨v, j, ?_, hstrict, ?_, ?_, ?_⟩
    · unfold document
      rw [show p'.contract.fileValue = .ok v from hvalue]
    · rw [← ht]
      exact hwritten.bytes
    · rw [← ht, hpath]
      exact hwritten.contents
    · rw [hpath]
      exact hwritten.noted
  · intro hfailed
    obtain hsame | hspoiled := hfailure hfailed
    · refine ⟨hsame.written, .inl ⟨hsame.files.files, fun c hc => hsame.files.contents hc, ?_⟩⟩
      intro c hc
      obtain ⟨at_, hresolve, hfile⟩ := FileSystem.contents_eq_ok_iff.mp hc
      rw [hsame.files.files at_] at hfile
      exact ⟨at_, hresolve, hfile⟩
    · rw [hpath]
      obtain ⟨t, u, htext, hnone, herror⟩ := hspoiled.text
      exact ⟨hspoiled.written, .inr ⟨t, u, htext, hnone, herror, hspoiled.emptied.contents,
        hspoiled.emptied.others⟩⟩

/-- A pact with an open interaction. -/
def sample : Pact :=
  { Pact.new ⟨.ofText "pacts", "web-ui", "user-service", false, none, "3.0.0"⟩ ⟨false⟩ with
    draft := some ⟨.str "get users", [], .default⟩ }

/-- A test that returns. -/
def quietTest : TestFunction Ledger := fun _ l => (.ok .null, l)

/-- The contract file of a pact whose test succeeded: it was absent before, and
holds the interaction that was still open. -/
theorem contractFile_of_runTest_sample :
    Session.LeavesContract (.str "s1") quietTest
      ∧ ∃ p' f r, (sample.runTest (some Script.faultless.engine) (.str "s1") quietTest
            (.new .empty)).1 = .ok (p', f)
        ∧ f.outcome = .ok r ∧ r.succeeded = true ∧ p'.interactions.length = 1
        ∧ ∃ v j, p'.document = .ok v ∧ v.strict? = some j
          ∧ f.engine.files.contents sample.contractPath = .ok (.text (j.text .indented ++ "\n"))
          ∧ f.engine.written = [sample.contractPath] := by
  have htest : Session.LeavesContract (.str "s1") quietTest :=
    ⟨fun _ _ => rfl, fun _ _ => rfl, fun _ _ => rfl⟩
  have heval : ((sample.runTest (some Script.faultless.engine) (.str "s1") quietTest
        (.new .empty)).1.toOption.bind fun x =>
      x.2.outcome.toOption.map fun r => (r.succeeded, x.1.interactions.length))
      = some (true, 1) := by decide +kernel
  cases hrun : (sample.runTest (some Script.faultless.engine) (.str "s1") quietTest
      (.new .empty)).1 with
  | error e =>
    rw [hrun] at heval
    cases heval
  | ok x =>
    obtain ⟨p', f⟩ := x
    rw [hrun] at heval
    cases hr : f.outcome with
    | error e =>
      simp [Except.toOption, hr] at heval
    | ok r =>
      obtain ⟨hsucceeded, hlength⟩ : r.succeeded = true ∧ p'.interactions.length = 1 := by
        simpa [Except.toOption, hr] using heval
      obtain ⟨-, hsuccess, -⟩ := contractFile_of_runTest htest hrun hr
      obtain ⟨v, j, hvalue, hstrict, -, hcontents⟩ := hsuccess hsucceeded
      exact ⟨htest, p', f, r, rfl, hr, hsucceeded, hlength, v, j, hvalue, hstrict, hcontents⟩

/-- A pact whose interaction is described by a character that stands for half a
surrogate pair. -/
def halved : Pact :=
  { sample with draft := none, interactions := [⟨"\ue000", [], .default, .default⟩] }

/-- A file system with a contract of that pact from before. -/
def keptFiles : FileSystem :=
  { nodes := [(["pacts"], .directory),
      (["pacts", "web-ui-user-service.json"], .file (.text "kept"))]
    halves := [('\ue000', 0xd800)] }

/-- Its contract has a text, and the text has no bytes. -/
theorem exists_text_halved : ∃ t u, halved.contract.text = .ok t
    ∧ Text.unencodable? keptFiles.halves t = some u := by
  -- among the characters, since a text is slow to take apart again
  have heval : (halved.contract.fileDocument.toOption.bind fun j =>
      if j.integersWithin Json.integerDigitLimit then
        Text.unencodableFrom keptFiles.halves 0 (Json.render .indented 0 j ++ ['\n'])
      else none) = some ⟨140, 1, 0xd800⟩ := by decide +kernel
  cases hdocument : halved.contract.fileDocument with
  | error e =>
    rw [hdocument] at heval
    cases heval
  | ok j =>
    rw [hdocument] at heval
    by_cases hintegers : j.integersWithin Json.integerDigitLimit = true
    · refine ⟨j.text .indented ++ "\n", ⟨140, 1, 0xd800⟩,
        Contract.text_eq_ok_iff.mpr ⟨j, hdocument, hintegers, rfl⟩, ?_⟩
      have hchars : (j.text .indented ++ "\n").toList = Json.render .indented 0 j ++ ['\n'] := by
        simp [Json.text]
      show Text.unencodableFrom keptFiles.halves 0 (j.text .indented ++ "\n").toList = _
      rw [hchars, ← heval]
      exact (if_pos hintegers).symm
    · simp [Except.toOption, hintegers] at heval

/-- The session of that pact. -/
def halvedSession : Session := .new (.str "s1") halved.interactions halved.options halved.settings

/-- Its handle. -/
def halvedHandle : ServerHandle := ⟨19201, "http://127.0.0.1:19201", "s1"⟩

/-- What the engine knows when it is told to write. -/
def halvedLedger : Ledger :=
  { Ledger.new keptFiles with
    sessions := [("s1", ⟨halvedHandle, halved.interactions, halved.options, true⟩)] }

/-- What the engine answers when it is told to write the contract of that pact. -/
theorem written_halved :
    Session.written Script.faultless.engine halvedSession quietTest (.new keptFiles) halvedHandle
      = Script.writeNoted halved.contract halved.options.dir halvedLedger := by
  have hreported : (Session.reported Script.faultless.engine halvedSession quietTest
      (.new keptFiles) halvedHandle).state = halvedLedger := rfl
  have hengine : Script.faultless.engine.write = Script.faultless.write := rfl
  have hserved : Script.served? halvedLedger halvedSession.id
      = some ⟨halvedHandle, halved.interactions, halved.options, true⟩ := rfl
  have hwrite := Script.write_of_served (s := Script.faultless) halved.options rfl hserved
  have hcontract : halved.contract = Script.contractOf halved.options halved.interactions := rfl
  rw [Session.written, hreported, hengine, hcontract]
  exact hwrite

/-- **A contract that is lost.** The test is quiet and the run fails on writing,
for the text has no bytes. The contract from before was read under the path, and
now there is nothing in its file. -/
theorem contract_lost :
    Session.LeavesContract (.str "s1") quietTest
      ∧ keptFiles.contents halved.contractPath = .ok (.text "kept")
      ∧ ∃ f r, (halved.runTest (some Script.faultless.engine) (.str "s1") quietTest
            (.new keptFiles)).1 = .ok (halved, f)
        ∧ f.outcome = .ok r ∧ r.succeeded = false
        ∧ f.engine.files.contents halved.contractPath = .ok (.text "") := by
  have htest : Session.LeavesContract (.str "s1") quietTest :=
    ⟨fun _ _ => rfl, fun _ _ => rfl, fun _ _ => rfl⟩
  -- the engine empties the file and finds that the text has no bytes
  obtain ⟨t, u, htext, hnone⟩ := exists_text_halved
  obtain ⟨emptied, hreplace⟩ : ∃ fs, keptFiles.replace halved.contractPath (.text "") = .ok fs :=
    ⟨_, rfl⟩
  have hwrite : halved.contract.write halved.options.dir halvedLedger.files
      = (.error (.file ⟨.unencodable u, halved.contractPath.text⟩), emptied, []) :=
    Contract.write_of_unencodable rfl htext (by decide +kernel) hnone hreplace
  have hwritten := written_halved
  rw [Script.writeNoted, hwrite] at hwritten
  -- so the run fails with that
  have houtcome := congrArg Answer.outcome hwritten
  obtain ⟨hbody, hengine⟩ := Session.body_of_writeFailed rfl rfl rfl rfl rfl houtcome rfl
  obtain ⟨es, hrun, -⟩ := Session.run_of_idle Script.faultless.engine halvedSession quietTest
    (.new keptFiles) rfl
  have hended : (Session.ended Script.faultless.engine halvedSession quietTest
      (.new keptFiles)).outcome = .ok () := rfl
  rw [hbody, hended] at hrun
  refine ⟨htest, rfl, halvedSession.run Script.faultless.engine quietTest (.new keptFiles),
    _, rfl, congrArg Session.Finished.outcome hrun, rfl, ?_⟩
  -- and the shutdown leaves it at that
  rw [hrun]
  refine (Script.sameContracts_shutdown _ _ _).files.contents ?_
  rw [hengine, hwritten]
  exact FileSystem.contents_of_replace hreplace

end Pact

end Covenant
