import Covenant.Session.Basic
import Covenant.Contract.Document

/-!
# Building a contract of interactions

A pact is built by calls: provider states are given, an interaction is
opened, its request is described, and a response closes it. The states
belong to the next interaction only. An open interaction that another one or
a session overtakes is closed with the default response.

A call is a value (`PactCall`), with its arguments as they were given:
whether they are what they should be is found out on the way. So calls are
written as sequences of steps on a pact (`Building`), each of which may change
it or fail. A step that fails ends the call and takes nothing back: the pact is
then as the steps before left it.
-/

namespace Covenant

open Validation

/-- **An interaction that is still open.** -/
structure Draft where
  /-- Its description, checked when it is closed. -/
  description : Value
  /-- The provider states given for it. -/
  providerStates : List ProviderState
  /-- The request described last. -/
  request : RequestSpec

/-- The interaction that a draft and a response make. -/
def Draft.close (d : Draft) (response : ResponseSpec) : Except Failure Interaction :=
  match (record "Interaction" (fun es => required es ["description"] text)
      (.record [("description", d.description)])).report "Interaction" .value with
  | .ok description => .ok ⟨description, d.providerStates, d.request, response⟩
  | .error r => .error (.invalid r)

/-- **A pact being built.** -/
structure Pact where
  /-- The options of the contract. -/
  options : PactOptions
  /-- The settings of its sessions. -/
  settings : SessionSettings
  /-- The provider states given for the next interaction. -/
  states : List ProviderState
  /-- The interaction that is open. -/
  draft : Option Draft
  /-- The interactions that are closed. -/
  interactions : List Interaction

/-- A pact to which nothing has been said. -/
def Pact.new (options : PactOptions) (settings : SessionSettings) : Pact :=
  ⟨options, settings, [], none, []⟩

/-- **A body that a call describes.** -/
inductive BodyArgument where
  /-- The body itself. -/
  | inline (body : Value)
  /-- A file of a media type, as the whole body or as a named part of it. -/
  | file (contentType file : Value) (part : Option Value)

/-- **A call to a pact.** -/
inductive PactCall where
  /-- Gives a provider state. -/
  | given (state parameters : Value)
  /-- Opens an interaction. -/
  | uponReceiving (description : Value)
  /-- Describes the request of the open interaction; `name` is the call's. -/
  | request (name : String) (method path query headers : Value) (body : BodyArgument)
  /-- Describes the response and closes the open interaction. -/
  | response (name : String) (status headers : Value) (body : BodyArgument)

/-- What calls end with: a result, and what was logged. -/
abbrev Told (α : Type) := Except Failure α × List LogEntry

/-! ## Steps -/

/-- **What came of steps on a pact**: how they ended, the pact then, and what
was logged. What was changed before a failure stays changed. -/
structure Built (α : Type) where
  /-- What was returned, or how it ended. -/
  outcome : Except Failure α
  /-- The pact then. -/
  pact : Pact
  /-- What was logged, in order. -/
  log : List LogEntry

/-- **Steps on a pact.** -/
def Building (α : Type) := Pact → Built α

namespace Building

variable {α β : Type}

/-- Steps, and then others that go by what the former return. A failure leaves
the others out. -/
def andThen (x : Building α) (f : α → Building β) : Building β := fun p =>
  match x p with
  | ⟨.error e, p, log⟩ => ⟨.error e, p, log⟩
  | ⟨.ok a, p, log⟩ => ⟨(f a p).outcome, (f a p).pact, log ++ (f a p).log⟩

instance : Monad Building where
  pure a := fun p => ⟨.ok a, p, []⟩
  bind := andThen

/-- The pact as it is. -/
def current : Building Pact := fun p => ⟨.ok p, p, []⟩

/-- Changes the pact. -/
def change (f : Pact → Pact) : Building Unit := fun p => ⟨.ok (), f p, []⟩

/-- Goes on with a value, or fails. -/
def ofExcept (r : Except Failure α) : Building α := fun p => ⟨r, p, []⟩

/-- Fails. -/
def fail (e : Failure) : Building α := ofExcept (.error e)

/-- Logs an entry. -/
def tell (e : LogEntry) : Building Unit := fun p => ⟨.ok (), p, [e]⟩

end Building

namespace Pact

/-! ## Checking arguments -/

/-- A provider state from the arguments of a call. -/
def stateOf (state parameters : Value) : Except Failure ProviderState :=
  Model.make (.record [("description", state), ("parameters", parameters)])

/-- The text of a body and the file that holds it, whichever a call gives. -/
def bodyOf : BodyArgument → Except Failure (Value × Option FileReference)
  | .inline body =>
    match body.canonicalBody with
    | .ok (some s) => .ok (.str s, none)
    | .ok none => .ok (.null, none)
    | .error e => .error (.ofTextError e)
  | .file contentType file part =>
    (Model.make (.record ([("content_type", contentType), ("file", .str file.display)]
      ++ (match part with | some p => [("part", p)] | none => [])))).map fun f => (.null, some f)

/-- A request from the arguments of a call. -/
def requestOf (method path query headers : Value) (body : BodyArgument) :
    Except Failure RequestSpec := do
  let (text, file) ← bodyOf body
  let r : RequestSpec ← Model.make (.record [("method", method), ("path", path),
    ("query", query), ("headers", headers), ("body", text)])
  return { r with file := file }

/-- A response from the arguments of a call. -/
def responseOf (status headers : Value) (body : BodyArgument) : Except Failure ResponseSpec := do
  let (text, file) ← bodyOf body
  let r : ResponseSpec ← Model.make (.record [("status", status),
    ("headers", headers), ("body", text)])
  return { r with file := file }

/-- Pending provider states that can be handed over: each has a name. -/
def flushStates (states : List ProviderState) : Except Failure (List ProviderState) :=
  if states.all fun s => s.description != "" then .ok states else .error (.misused .emptyState)

/-! ## Closing interactions -/

/-- The warning that an interaction is closed without a response. -/
def unansweredEntry (d : Draft) : LogEntry :=
  ⟨.warning, "pactum.builder",
    "Interaction '" ++ d.description.display ++ "' has no response; recording it with status 200"⟩

/-- Appends an interaction to the closed ones. -/
def record (i : Interaction) : Building Unit :=
  .change fun p => { p with interactions := p.interactions ++ [i] }

/-- Leaves no interaction open. -/
def dropDraft : Building Unit := .change fun p => { p with draft := none }

/-- Leaves no states for the next interaction. -/
def dropStates : Building Unit := .change fun p => { p with states := [] }

/-- Closes the open interaction, if there is one, with the default
response. -/
def closeDraft : Building Unit := do
  match (← Building.current).draft with
  | none => pure ()
  | some d =>
    Building.tell (unansweredEntry d)
    record (← Building.ofExcept (d.close .default))
    dropDraft

/-- The open interaction, which a call needs. -/
def openDraft (call : String) : Building Draft := do
  match (← Building.current).draft with
  | some d => pure d
  | none => Building.fail (.misused (.noInteraction call))

/-! ## Calls -/

/-- Gives a state for the next interaction. -/
def give (state : Except Failure ProviderState) : Building Unit := do
  let s ← Building.ofExcept state
  Building.change fun p => { p with states := p.states ++ [s] }

/-- Opens an interaction with the pending states. -/
def openInteraction (description : Value) : Building Unit := do
  if description.isTruthy then
    let states ← Building.ofExcept (flushStates (← Building.current).states)
    closeDraft
    Building.change fun p => { p with draft := some ⟨description, states, .default⟩ }
    dropStates
  else Building.fail (.misused .emptyInteraction)

/-- Opens an interaction by whatever was given for a description. -/
def openBy (description : Argument) : Building Unit := do
  openInteraction (← Building.ofExcept description.settle)

/-- Describes the request of the open interaction. -/
def describe (name : String) (request : Except Failure RequestSpec) : Building Unit := do
  let d ← openDraft name
  let r ← Building.ofExcept request
  Building.change fun p => { p with draft := some { d with request := r } }

/-- Closes the open interaction with a response. -/
def respond (name : String) (response : Except Failure ResponseSpec) : Building Unit := do
  let r ← Building.ofExcept response
  let d ← openDraft name
  record (← Building.ofExcept (d.close r))
  dropDraft
  dropStates

/-- **Applies a call.** -/
def apply : PactCall → Building Unit
  | .given state parameters => give (stateOf state parameters)
  | .uponReceiving description => openInteraction description
  | .request name method path query headers body =>
    describe name (requestOf method path query headers body)
  | .response name status headers body => respond name (responseOf status headers body)

/-! ## What is made of a pact -/

/-- The contract of the closed interactions. -/
def contract (p : Pact) : Contract :=
  .ofInteractions p.options.consumer p.options.provider p.interactions
    (.str p.options.specVersion) installedVersion

/-- What a file of the contract would hold. -/
def document (p : Pact) : Except Failure Value :=
  match p.contract.fileValue with
  | .ok v => .ok v
  | .error e => .error (.ofUnwritable e)

/-- **Opens a session** over the interactions so far, the open one being closed
first. What the session goes by is found out last, and that may fail. Without an
engine there is no session. -/
def session (hasEngine : Bool) (id : Except Failure Value) : Building Session := do
  if hasEngine then
    closeDraft
    let p ← Building.current
    pure (.new (← Building.ofExcept id) p.interactions p.options p.settings)
  else Building.fail (.unequipped .engine)

/-- Opens a session by whatever was given for a name. -/
def sessionBy (hasEngine : Bool) (asked : Argument) (own : Value) : Building Session :=
  session hasEngine (asked.orOwn own)

end Pact

end Covenant
