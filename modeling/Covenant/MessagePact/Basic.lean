import Covenant.Pact.Arguments
import Covenant.MessagePact.Handler

/-!
# Building a contract of one message

A message pact is built by calls that give provider states, name the message,
and set its contents and metadata. Naming the message hands the pending
states over to it. Contents may be anything that is not empty, and whether
they have been set at all is kept apart from what they are. A call is a
sequence of steps; one that fails ends it and takes nothing back.

`MessagePact.document` is the message as built so far, `MessagePact.message?`
the message itself, which needs contents.
-/

namespace Covenant

open Validation

/-- **A message pact being built.** -/
structure MessagePact where
  /-- The options of the contract. -/
  options : PactOptions
  /-- The provider states given for the message. -/
  pending : List ProviderState
  /-- The description, once the message is named. -/
  description : Option Value
  /-- The provider states of the named message. -/
  states : List ProviderState
  /-- The contents, once set. -/
  contents : Option Value
  /-- The metadata, once set. -/
  metadata : Option (List (Key × Value))

/-- **A call to a message pact.** -/
inductive MessageCall where
  /-- Gives a provider state. -/
  | given (state parameters : Value)
  /-- Names the message. -/
  | expectsToReceive (description : Value)
  /-- Sets the contents. -/
  | withContent (contents : Value)
  /-- Sets the metadata. -/
  | withMetadata (metadata : Value)

/-- The two parts that make an entry, if a value consists of two values. -/
def Value.pair? (v : Value) : Except Failure (Value × Value) :=
  match v.elements? with
  | none => .error .mistyped
  | some [a, b] => .ok (a, b)
  | some _ => .error .misvalued

/-- Entries made of values that consist of two values each. -/
def entriesOfPairs : List Value → Except Failure (List (Key × Value))
  | [] => .ok []
  | v :: vs =>
    match v.pair? with
    | .error e => .error e
    | .ok (k, v) =>
      match k.key? with
      | none => .error .mistyped
      | some k => (entriesOfPairs vs).map ((k, v) :: ·)

/-- **The dictionary that a value is or consists of.** -/
def Value.toDictionary (v : Value) : Except Failure (List (Key × Value)) :=
  match v with
  | .dict es => .ok es
  | v =>
    match v.elements? with
    | none => .error .mistyped
    | some vs => (entriesOfPairs vs).map Entries.ofPairs

namespace MessagePact

/-- A message pact to which nothing has been said. -/
def new (options : PactOptions) : MessagePact := ⟨options, [], none, [], none, none⟩

/-- **Steps on a message pact.** What was changed before a failure stays
changed. -/
abbrev Building (α : Type) := ExceptT Failure (StateM MessagePact) α

/-- Goes on with a value, or fails. -/
def Building.ofExcept {α : Type} (r : Except Failure α) : Building α := .mk (pure r)

/-- Gives a state for the message. -/
def give (state parameters : Value) : Building Unit := do
  let s ← Building.ofExcept (Pact.stateOf state parameters)
  modify fun p => { p with pending := p.pending ++ [s] }

/-- Names the message, which takes the pending states. -/
def nameMessage (description : Value) : Building Unit := do
  if description.isTruthy then
    let states ← Building.ofExcept (Pact.flushStates (← get).pending)
    modify fun p => { p with states := states }
    modify fun p => { p with pending := [] }
    modify fun p => { p with description := some description }
  else throw (.misused .emptyMessage)

/-- Sets the contents. -/
def setContents (contents : Value) : Building Unit := do
  if contents.isEmpty then throw (.misused .emptyContent)
  else modify fun p => { p with contents := some contents }

/-- Sets the metadata. -/
def setMetadata (metadata : Value) : Building Unit := do
  if metadata.isEmpty then throw (.misused .emptyMetadata)
  else
    let es ← Building.ofExcept metadata.toDictionary
    modify fun p => { p with metadata := some es }

/-- **Applies a call.** -/
def apply : MessageCall → Building Unit
  | .given state parameters => give state parameters
  | .expectsToReceive description => nameMessage description
  | .withContent contents => setContents contents
  | .withMetadata metadata => setMetadata metadata

/-- What a call comes to, and the pact then. -/
def take (p : MessagePact) (call : MessageCall) : Except Failure Unit × MessagePact :=
  (apply call).run.run p

/-- **The message as built so far**, under the names of contract files; what
has not been set is left out. -/
def document (p : MessagePact) : Value :=
  .record (
    (match p.description with
      | some d => [("description", d)]
      | none => [])
    ++ (if p.states.isEmpty then []
        else [("providerStates", .list (p.states.map ProviderState.openedDocument))])
    ++ (match p.contents with
      | some c => [("contents", c)]
      | none => [])
    ++ (match p.metadata with
      | some es => if es.isEmpty then [] else [("metadata", .dict es)]
      | none => []))

/-- The parts of a message that are checked when it is made. -/
def messageCheck (description metadata : Value) : Checked (String × Option (Entries String Value)) :=
  Prod.mk <$> (text description).within (.field "description")
    <*> (nullable (dictionary anything) metadata).within (.field "metadata")

/-- **The message**, which needs contents. -/
def message? (p : MessagePact) : Except Failure Message :=
  match p.contents with
  | none => .error (.misused .unfinishedMessage)
  | some contents =>
    match (messageCheck (p.description.getD (.str ""))
        ((p.metadata.map Value.dict).getD .null)).report "Message" .value with
    | .ok (description, metadata) => .ok ⟨description, contents, metadata, p.states⟩
    | .error r => .error (.invalid r)

/-- The call of a name with named arguments, if there is one. -/
def callOfName? (name : String) (args : Arguments) : Option MessageCall :=
  match name with
  | "given" =>
    match args.bind? ["provider_state"] ["parameters"] with
    | some [state] => some (.given state (args.getOr "parameters" .null))
    | _ => none
  | "expects_to_receive" =>
    match args.bind? ["description"] [] with
    | some [description] => some (.expectsToReceive description)
    | _ => none
  | "with_content" =>
    match args.bind? ["contents"] [] with
    | some [contents] => some (.withContent contents)
    | _ => none
  | "with_metadata" =>
    match args.bind? ["metadata"] [] with
    | some [metadata] => some (.withMetadata metadata)
    | _ => none
  | _ => none

/-- A new message pact from named arguments. -/
def ofArguments (args : Arguments) : Except Failure MessagePact :=
  match args.bind? ["consumer", "provider"] ["dir", "spec_version"] with
  | some [consumer, provider] =>
    match args.getOr "dir" (.str "pacts") with
    | .str dir =>
      (Model.make (.record [("dir", .str dir), ("consumer", consumer), ("provider", provider),
        ("spec_version", args.getOr "spec_version" (.str "3.0.0"))])).map new
    | _ => .error .mistyped
  | _ => .error .mistyped

end MessagePact

end Covenant
