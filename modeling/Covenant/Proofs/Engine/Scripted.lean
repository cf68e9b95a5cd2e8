import Covenant.Engine.Scripted

/-!
# What the scripted engine fails with

The failures that a scripted engine answers with are of two kinds. Some are
exceptions of its script, passed on as they are; the others are its own –
refused handles and reports, sessions that it does not know, files that cannot
be written. Those of its own are ordinary, so that the script alone decides
whether anything else can happen (`Script.failsOrdinarily`).
-/

namespace Covenant

/-- **An engine whose failures are all ordinary**, whatever it is asked in
whatever state. -/
structure Engine.FailsOrdinarily {σ : Type} (engine : Engine σ) : Prop where
  /-- When it is told to start. -/
  start : ∀ id is options st e, (engine.start id is options st).outcome = .error e →
    e.isOrdinary = true
  /-- When it is asked for its report. -/
  report : ∀ id st e, (engine.report id st).outcome = .error e → e.isOrdinary = true
  /-- When it is told to write. -/
  write : ∀ id options st e, (engine.write id options st).outcome = .error e →
    e.isOrdinary = true
  /-- When it is told to shut a service down. -/
  shutdown : ∀ id st e, (engine.shutdown id st).outcome = .error e → e.isOrdinary = true

namespace Contract

/-- Failures while a contract is written are ordinary. -/
theorem isOrdinary_of_write {c : Contract} {dir : Path} {fs : FileSystem} {e : Failure}
    (h : (c.write dir fs).1 = .error e) : e.isOrdinary = true := by
  have hfile : ∀ x : FileError, (Contract.writeFailure x).isOrdinary = true := by
    intro x
    unfold Contract.writeFailure
    split <;> rfl
  have htext : ∀ x : TextError, (Failure.ofTextError x).isOrdinary = true := by
    intro x
    cases x with
    | notDocument => rfl
    | integerTooLong => rfl
    | unwritable u => cases u <;> rfl
  unfold write at h
  dsimp only at h
  split at h
  · cases h
    exact hfile _
  · split at h
    · cases h
      exact htext _
    · split at h
      · cases h
        exact hfile _
      · cases h

end Contract

namespace Script

/-- The exceptions of a script that a session meets. -/
def raised (s : Script) : List Exception :=
  s.startError.toList ++ s.reportError.toList ++ s.writeError.toList ++ s.shutdownError.toList

theorem isOrdinary_of_plus {v : Value} {n : Nat} {e : Failure} (h : plus v n = .error e) :
    e.isOrdinary = true := by
  cases v <;> cases h <;> decide

theorem isOrdinary_of_nextPort {s : Script} {options : PactOptions} {l : Ledger} {e : Failure}
    (h : s.nextPort options l = .error e) : e.isOrdinary = true := by
  unfold nextPort at h
  cases hp : options.port with
  | none =>
    rw [hp] at h
    exact isOrdinary_of_plus h
  | some p =>
    rw [hp] at h
    dsimp only at h
    by_cases hzero : p = 0
    · rw [if_pos hzero] at h
      exact isOrdinary_of_plus h
    · rw [if_neg hzero] at h
      cases h

/-- A record that is refused is an ordinary failure. -/
theorem isOrdinary_of_make {α : Type} [Model α] {v : Value} {e : Failure}
    (h : (Model.make v : Except Failure α) = .error e) : e.isOrdinary = true := by
  unfold Model.make Failure.ofCheck at h
  split at h
  · cases h
  · cases h
    rfl

/-- A report of its own that an engine cannot give is an ordinary failure. -/
theorem isOrdinary_of_ownReport {s : Script} {e : Failure} (h : s.ownReport = .error e) :
    e.isOrdinary = true := by
  unfold ownReport at h
  split at h
  · cases h
    rfl
  · split at h
    · cases h
    · cases h
      rfl

theorem isOrdinary_of_writeNoted {c : Contract} {dir : Path} {l : Ledger} {e : Failure}
    (h : (writeNoted c dir l).outcome = .error e) : e.isOrdinary = true := by
  unfold writeNoted at h
  split at h
  · cases h
  · rename_i hw
    cases h
    exact Contract.isOrdinary_of_write (congrArg Prod.fst hw)

theorem isOrdinary_of_handle {s : Script} {options : PactOptions} {l : Ledger} {id : Value}
    {e : Failure} (h : (s.nextPort options l >>= handleOf id) = .error e) :
    e.isOrdinary = true := by
  cases hport : s.nextPort options l with
  | error f =>
    rw [hport] at h
    cases h
    exact isOrdinary_of_nextPort hport
  | ok port =>
    rw [hport] at h
    exact isOrdinary_of_make h

/-- **A script of ordinary exceptions makes an engine whose failures are all
ordinary.** -/
theorem failsOrdinarily {s : Script} (h : ∀ x ∈ s.raised, x.isOrdinary = true) :
    s.engine.FailsOrdinarily where
  start id is options l e he := by
    change (s.start id is options l).outcome = .error e at he
    unfold start at he
    split at he
    · rename_i x hx
      cases he
      exact h x (by simp [raised, hx])
    · split at he
      · rename_i hhandle
        cases he
        exact isOrdinary_of_handle hhandle
      · cases he
  report id l e he := by
    change (s.report id l).outcome = .error e at he
    unfold report at he
    split at he
    · rename_i x hx
      cases he
      exact h x (by simp [raised, hx])
    · split at he
      · split at he
        · cases he
        · cases he
          rfl
      · exact isOrdinary_of_ownReport he
  write id options l e he := by
    change (s.write id options l).outcome = .error e at he
    unfold write at he
    split at he
    · rename_i x hx
      cases he
      exact h x (by simp [raised, hx])
    · split at he
      · cases he
        rfl
      · exact isOrdinary_of_writeNoted he
  shutdown id l e he := by
    change (s.shutdown id l).outcome = .error e at he
    unfold shutdown at he
    dsimp only at he
    split at he
    · cases he
      rfl
    · split at he
      · rename_i x hx
        cases he
        exact h x (by simp [raised, hx])
      · cases he

end Script

end Covenant
