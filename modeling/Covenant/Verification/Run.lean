import Covenant.Contract.Store
import Covenant.Selection
import Covenant.Verification.Options

/-!
# Verifying a provider

A verification goes through the contracts in order, and through the selected
interactions of each in contract order. Before an interaction is replayed,
every provider state it declares is set up by the handler of its name; if a
handler fails, the others still run, but the interaction is not replayed.
Whether traffic matches is the replayer's business alone.

A contract that cannot be loaded ends the verification. Otherwise the
verification ends with its result, as a failure if any interaction failed.
Handlers and replayer may change a state of their own.
-/

namespace Covenant

/-- **What happens in a verification.** -/
inductive VerifyEvent where
  /-- A contract was fetched from the web: the addresses asked for. -/
  | fetched (asked : List String)
  /-- The handler of a state was called with its parameters. -/
  | stateCalled (name : String) (parameters : Value)
  /-- An interaction was replayed against an address. -/
  | replayCalled (description baseUrl : String)
  /-- Something was logged. -/
  | logged (e : LogEntry)

/-- The log entry of an event. -/
def VerifyEvent.entry? : VerifyEvent → Option LogEntry
  | .logged e => some e
  | _ => none

/-- **What sets up a state**, given its parameters. -/
abbrev StateHandler (σ : Type) := Value → σ → Except Failure Unit × σ

/-- **What replays an interaction** against an address and tells what failed. -/
abbrev Replayer (σ : Type) := Interaction → String → σ → Except Failure (List Value) × σ

/-- **What a verification works with.** -/
structure Verifier (σ : Type) where
  /-- Its options. -/
  options : VerifyOptions
  /-- The handlers of states, by name. -/
  handlers : Entries String (StateHandler σ)
  /-- What replays interactions. -/
  replay : Replayer σ

/-- **What came of a part of a verification.** -/
structure Verified (σ α : Type) where
  /-- What was returned, or how it ended. -/
  outcome : Except Failure α
  /-- What happened, in order. -/
  events : List VerifyEvent
  /-- The state of handlers and replayer. -/
  state : σ

namespace Verifier

variable {σ : Type}

/-- The part of the library that tells about verifications. -/
def logger : String := "pactum.verification.verifier"

/-- A log entry as an event. -/
def told (level : Level) (message : String) : VerifyEvent := .logged ⟨level, logger, message⟩

/-- The words about a failed handler. -/
def handlerFailure (name : String) (e : Failure) : String :=
  "State handler for '" ++ name ++ "' failed: " ++ e.text

/-- **Sets up a state**, and tells what failed, if its handler did. A state
without a handler is passed over. -/
def setupState (v : Verifier σ) (s : ProviderState) (st : σ) : Verified σ (Option String) :=
  match v.handlers.get? s.description with
  | none =>
    let remark := told .warning ("No state handler found for '" ++ s.description ++ "', ignoring")
    ⟨.ok none, [remark], st⟩
  | some handler =>
    let called := VerifyEvent.stateCalled s.description s.parameters
    match handler s.parameters st with
    | (.ok (), st) => ⟨.ok none, [called], st⟩
    | (.error e, st) =>
      if e.isOrdinary then ⟨.ok (some (handlerFailure s.description e)), [called], st⟩
      else ⟨.error e, [called], st⟩

/-- The failures of an interaction, with that of a state in front if there is
one and it has words. -/
def addFailure (failure : Option String) (failures : List Value) : List Value :=
  match failure with
  | some words => if words = "" then failures else .str words :: failures
  | none => failures

/-- **Sets up states**, one after the other, and lists the failures. -/
def setupStates (v : Verifier σ) : List ProviderState → σ → Verified σ (List Value)
  | [], st => ⟨.ok [], [], st⟩
  | s :: ss, st =>
    let first := v.setupState s st
    match first.outcome with
    | .error e => ⟨.error e, first.events, first.state⟩
    | .ok failure =>
      let rest := setupStates v ss first.state
      ⟨rest.outcome.map (addFailure failure), first.events ++ rest.events, rest.state⟩

/-- **Verifies one interaction** of a contract. -/
def verifyInteraction (v : Verifier σ) (pactUrl : String) (i : Interaction) (st : σ) :
    Verified σ ReplayOutcome :=
  let setup := v.setupStates i.providerStates st
  match setup.outcome with
  | .error e => ⟨.error e, setup.events, setup.state⟩
  | .ok [] =>
    let (outcome, st) := v.replay i v.options.baseUrl setup.state
    ⟨outcome.map fun failures => ⟨pactUrl, i.description, failures⟩,
      setup.events ++ [.replayCalled i.description v.options.baseUrl], st⟩
  | .ok failures => ⟨.ok ⟨pactUrl, i.description, failures⟩, setup.events, setup.state⟩

/-- Verifies interactions of a contract, in order. -/
def verifyInteractions (v : Verifier σ) (pactUrl : String) :
    List Interaction → σ → Verified σ (List ReplayOutcome)
  | [], st => ⟨.ok [], [], st⟩
  | i :: is, st =>
    let first := v.verifyInteraction pactUrl i st
    match first.outcome with
    | .error e => ⟨.error e, first.events, first.state⟩
    | .ok o =>
      let rest := verifyInteractions v pactUrl is first.state
      ⟨rest.outcome.map (o :: ·), first.events ++ rest.events, rest.state⟩

/-- What is told about a loaded contract: that it is for another provider, and
that its messages are not verified. -/
def contractRemarks (v : Verifier σ) (pactUrl : String) (c : Contract) : List VerifyEvent :=
  (if c.provider.name = v.options.provider then []
   else [told .warning ("Contract " ++ pactUrl ++ " is for provider '" ++ c.provider.name
      ++ "', not '" ++ v.options.provider ++ "'")])
  ++ (if c.messages.isEmpty then []
      else [told .warning ("Contract " ++ pactUrl ++ " holds " ++ natText c.messages.length
        ++ " message(s); message verification is not "
        ++ "supported, only HTTP interactions are replayed")])

/-- **Verifies contracts**, in order. -/
def verifyContracts (v : Verifier σ) (fs : FileSystem) (web : Web) :
    List String → σ → Verified σ (List ReplayOutcome)
  | [], st => ⟨.ok [], [], st⟩
  | url :: urls, st =>
    let (loaded, asked) := Contract.load url fs web
    let fetched := if Contract.isUrl url then [VerifyEvent.fetched asked] else []
    match loaded with
    | .error e => ⟨.error e, fetched, st⟩
    | .ok c =>
      let (selected, log) := v.options.selectors.selectForRun c.interactions
      let first := v.verifyInteractions url selected st
      let events := fetched ++ v.contractRemarks url c ++ log.map .logged ++ first.events
      match first.outcome with
      | .error e => ⟨.error e, events, first.state⟩
      | .ok os =>
        let rest := verifyContracts v fs web urls first.state
        ⟨rest.outcome.map (os ++ ·), events ++ rest.events, rest.state⟩

/-- What is told at the end. -/
def closingEntry (r : VerificationResult) : VerifyEvent :=
  told .info ("Verification of " ++ r.provider ++ ": " ++ natText r.passed ++ " passed, "
    ++ natText r.failed ++ " failed")

/-- **Verifies the provider.** -/
def run (v : Verifier σ) (fs : FileSystem) (web : Web) (st : σ) : Verified σ VerificationResult :=
  let all := v.verifyContracts fs web v.options.pactUrls st
  match all.outcome with
  | .error e => ⟨.error e, all.events, all.state⟩
  | .ok outcomes =>
    let r : VerificationResult := ⟨v.options.provider, outcomes⟩
    ⟨if r.success then .ok r else .error (.verificationFailed r),
      all.events ++ [closingEntry r], all.state⟩

end Verifier

end Covenant
