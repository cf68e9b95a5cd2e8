import Covenant.Engine.Scripted
import Covenant.Proofs.Contract.Written

/-!
# What the scripted engine does to its files

Of everything that a scripted engine is asked to do for a session, only the
writing touches the files and the notes on what was written
(`Ledger.SameContracts`), and it touches them only where it succeeds
(`Script.write_cases`). Then it writes the contract of the interactions that
it was told to serve when the session was started (`Script.served?_of_start`).

There is one exception: a contract whose text has no bytes is not written, but
its file is empty then (`Ledger.Spoiled`).
-/

namespace Covenant

open Validation

/-- **The same contracts**: no file has changed, and none was noted as
written. -/
structure Ledger.SameContracts (l l' : Ledger) : Prop where
  /-- The files are the same. -/
  files : FileSystem.SameFiles l.files l'.files
  /-- The notes are the same. -/
  written : l'.written = l.written

theorem Ledger.SameContracts.refl (l : Ledger) : l.SameContracts l := ⟨.refl _, rfl⟩

theorem Ledger.SameContracts.trans {l l' l'' : Ledger} (h : l.SameContracts l')
    (h' : l'.SameContracts l'') : l.SameContracts l'' :=
  ⟨h.files.trans h'.files, h'.written.trans h.written⟩

/-- **A contract without bytes was to be written**: its file is empty, and it is
not noted. -/
structure Ledger.Spoiled (l l' : Ledger) (c : Contract) (dir : Path) (e : Failure) : Prop where
  /-- The file is empty. -/
  files : c.Spoiled dir l.files l'.files e
  /-- The notes are the same. -/
  written : l'.written = l.written

namespace Script

variable {s : Script} {l : Ledger}

/-! ## Starting -/

/-- **Starting a service** fails and changes nothing, or hands out a handle on the next
port and puts the session in under the name in it. -/
theorem start_cases (s : Script) (id : Value) (is : List Interaction) (options : PactOptions)
    (l : Ledger) :
    (∃ e, (s.start id is options l).outcome = .error e ∧ (s.start id is options l).state = l)
      ∨ ∃ port h, s.nextPort options l = .ok port ∧ handleOf id port = .ok h
        ∧ (s.start id is options l).outcome = .ok h
        ∧ (s.start id is options l).state
          = { l with sessions := l.sessions.put h.id ⟨h, is, options, true⟩ } := by
  unfold start
  cases s.startError with
  | some x => exact .inl ⟨_, rfl, rfl⟩
  | none =>
    dsimp only
    cases s.nextPort options l with
    | error e => exact .inl ⟨e, rfl, rfl⟩
    | ok port =>
      rw [show (Except.ok port >>= handleOf id) = handleOf id port from rfl]
      cases hhandle : handleOf id port with
      | error e => exact .inl ⟨e, rfl, rfl⟩
      | ok h => exact .inr ⟨port, h, rfl, hhandle, rfl, rfl⟩

/-! ## Operations that write nothing -/

theorem sameContracts_start (s : Script) (id : Value) (is : List Interaction)
    (options : PactOptions) (l : Ledger) : l.SameContracts (s.start id is options l).state := by
  obtain ⟨e, -, hstate⟩ | ⟨port, h, -, -, -, hstate⟩ := s.start_cases id is options l
  · rw [hstate]
    exact .refl l
  · rw [hstate]
    exact ⟨.refl _, rfl⟩

theorem state_report (s : Script) (id : Value) (l : Ledger) : (s.report id l).state = l := by
  unfold report
  split
  · rfl
  · split
    · split <;> rfl
    · rfl

theorem sameContracts_shutdown (s : Script) (id : Value) (l : Ledger) :
    l.SameContracts (s.shutdown id l).state := by
  unfold shutdown
  dsimp only
  split
  · exact ⟨.refl _, rfl⟩
  · split <;> exact ⟨.refl _, rfl⟩

/-! ## Serving -/

/-- A handle carries the name of the session that it is handed out for. -/
theorem id_of_handleOf {name : String} {port : Value} {h : ServerHandle}
    (hh : handleOf (.str name) port = .ok h) : h.id = name := by
  have hcheck : ServerHandle.check (.record [("port", port),
        ("url", .str ("http://127.0.0.1:" ++ port.display)), ("id", .str name)])
      = ServerHandle.mk <$> (integer port).within (.field "port")
        <*> .passed ("http://127.0.0.1:" ++ port.display) <*> .passed name := rfl
  change Failure.ofCheck ((ServerHandle.check _).report _ _) = _ at hh
  rw [hcheck] at hh
  cases hport : integer port with
  | refused fs =>
    rw [hport] at hh
    cases hh
  | passed n =>
    rw [hport] at hh
    cases hh
    rfl

/-- **A session that was started is served its interactions.** -/
theorem served?_of_start {name : String} {is : List Interaction} {options : PactOptions}
    {h : ServerHandle} (hstart : (s.start (.str name) is options l).outcome = .ok h) :
    served? (s.start (.str name) is options l).state (.str name)
      = some ⟨h, is, options, true⟩ := by
  obtain ⟨e, herror, -⟩ | ⟨port, h', -, hhandle, hstarted, hstate⟩ :=
    s.start_cases (.str name) is options l
  · exact nomatch hstart.symm.trans herror
  · obtain rfl : h = h' := Except.ok.inj (hstart.symm.trans hstarted)
    rw [hstate, served?, id_of_handleOf hhandle]
    exact Entries.get?_put_self _ _ _

/-! ## Writing -/

/-- The contract that is written for a session. -/
def contractOf (options : PactOptions) (is : List Interaction) : Contract :=
  .ofInteractions options.consumer options.provider is (.str options.specVersion)
    installedVersion

/-- **Writing and noting a contract** has three outcomes: it fails, and nothing
was written; its text has no bytes; or the contract is read under its path, and
the path is noted. -/
theorem writeNoted_cases (c : Contract) (dir : Path) (l : Ledger) :
    (∃ e, (writeNoted c dir l).outcome = .error e ∧ l.SameContracts (writeNoted c dir l).state)
      ∨ (∃ e, (writeNoted c dir l).outcome = .error e
        ∧ l.Spoiled (writeNoted c dir l).state c dir e)
      ∨ (writeNoted c dir l).outcome = .ok () ∧ ∃ t, c.text = .ok t
        ∧ Text.unencodable? l.files.halves t = none
        ∧ (writeNoted c dir l).state.files.contents (c.pathIn dir) = .ok (.text t)
        ∧ (writeNoted c dir l).state.written = l.written ++ [c.pathIn dir] := by
  have hcases := c.write_cases dir l.files
  unfold writeNoted
  cases hwrite : c.write dir l.files with
  | mk outcome rest =>
    rw [hwrite] at hcases
    obtain ⟨e, he, hsame⟩ | ⟨e, he, hspoiled⟩ | ⟨t, hpath, htext, hbytes, hcontents⟩ := hcases
    · rw [show outcome = .error e from he]
      exact .inl ⟨e, rfl, hsame, rfl⟩
    · rw [show outcome = .error e from he]
      exact .inr (.inl ⟨e, rfl, hspoiled, rfl⟩)
    · rw [show outcome = .ok (c.pathIn dir) from hpath]
      exact .inr (.inr ⟨rfl, t, htext, hbytes, hcontents, rfl⟩)

/-- The contract of a session that is served is what is written for it. -/
theorem write_of_served {id : Value} (options : PactOptions) {served : ServedSession}
    (hnone : s.writeError = none) (hserved : served? l id = some served) :
    s.write id options l = writeNoted (contractOf options served.interactions) options.dir l := by
  unfold write
  rw [hnone]
  dsimp only
  rw [hserved]
  rfl

/-- **Writing the contract of a session** has three outcomes. It fails, and
nothing was written; or the session is served, and the contract of what is
served has no bytes; or it is read under its path, and the path is noted. -/
theorem write_cases (s : Script) (id : Value) (options : PactOptions) (l : Ledger) :
    (∃ e, (s.write id options l).outcome = .error e ∧ l.SameContracts (s.write id options l).state)
      ∨ (∃ e served, (s.write id options l).outcome = .error e ∧ served? l id = some served
        ∧ l.Spoiled (s.write id options l).state (contractOf options served.interactions)
          options.dir e)
      ∨ (s.write id options l).outcome = .ok () ∧ ∃ served t, served? l id = some served
        ∧ (contractOf options served.interactions).text = .ok t
        ∧ Text.unencodable? l.files.halves t = none
        ∧ (s.write id options l).state.files.contents
          ((contractOf options served.interactions).pathIn options.dir) = .ok (.text t)
        ∧ (s.write id options l).state.written
          = l.written ++ [(contractOf options served.interactions).pathIn options.dir] := by
  unfold write
  cases s.writeError with
  | some x => exact .inl ⟨_, rfl, .refl l⟩
  | none =>
    dsimp only
    cases served? l id with
    | none => exact .inl ⟨_, rfl, .refl l⟩
    | some served =>
      dsimp only
      rw [← contractOf]
      obtain hfailed | ⟨e, hfailed, hspoiled⟩ | ⟨hdone, t, hrest⟩ :=
        writeNoted_cases (contractOf options served.interactions) options.dir l
      · exact .inl hfailed
      · exact .inr (.inl ⟨e, served, hfailed, rfl, hspoiled⟩)
      · exact .inr (.inr ⟨hdone, served, t, rfl, hrest⟩)

end Script

end Covenant
