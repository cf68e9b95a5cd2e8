import Covenant.Pact.Basic
import Covenant.Session.Run

/-!
# Running a test of a pact

A test of a pact is run in a session of its own, over the interactions that
the pact then has. Opening the session closes the interaction that is still
open, and the pact is kept as it is after that, whatever becomes of the run.
-/

namespace Covenant

/-- **Runs a test in a new session of a pact**: the pact after that, and what
came of the run. A pact without an engine has no sessions. -/
def Pact.runTest {σ : Type} (p : Pact) (engine : Option (Engine σ)) (id : Value)
    (test : TestFunction σ) (st : σ) : Told (Pact × Session.Finished σ) :=
  match engine with
  | none => (.error (.unequipped .engine), [])
  | some engine =>
    match Pact.session true (.ok id) p with
    | ⟨.error e, _, log⟩ => (.error e, log)
    | ⟨.ok s, p, log⟩ =>
      let f := s.run engine test st
      (.ok (p, f), log ++ f.log)

end Covenant
