import Covenant.Contract.Interaction
import Covenant.Version

/-!
# Contracts

A contract names a consumer and a provider and holds what they agreed on:
interactions, or messages. Its text is deterministic, so that the same
contract always gives the same file.
-/

namespace Covenant

open Validation

/-- **A consumer or provider.** -/
structure Participant where
  /-- Its name. -/
  name : String
deriving DecidableEq

namespace Participant

/-- A participant out of a value. -/
def check : Check Participant :=
  record "Pacticipant" fun es => Participant.mk <$> required es ["name"] text

/-- The document of a participant. -/
def document (p : Participant) : Json := .obj [("name", .str p.name)]

instance : Model Participant where
  name := "Pacticipant"
  check := check
  document p := .ok p.document
  opened p := .record [("name", .str p.name)]

end Participant

/-- **A contract.** -/
structure Contract where
  /-- Who consumes. -/
  consumer : Participant
  /-- Who provides. -/
  provider : Participant
  /-- The interactions in order. -/
  interactions : List Interaction
  /-- The messages in order. -/
  messages : List Message
  /-- What the contract says about itself. -/
  metadata : Entries String Value

namespace Contract

/-- The metadata of a contract written by this library, in a version of the
specification. -/
def ownMetadata (specVersion version : Value) : Entries String Value :=
  [("pactSpecification", .record [("version", specVersion)]),
    (distribution, .record [("version", version)])]

/-- A contract of interactions. -/
def ofInteractions (consumer provider : String) (interactions : List Interaction)
    (specVersion : Value) (version : String) : Contract :=
  ⟨⟨consumer⟩, ⟨provider⟩, interactions, [], ownMetadata specVersion (.str version)⟩

/-- A contract of messages. -/
def ofMessages (consumer provider : String) (messages : List Message) (specVersion : Value)
    (version : String) : Contract :=
  ⟨⟨consumer⟩, ⟨provider⟩, [], messages, ownMetadata specVersion (.str version)⟩

/-- A contract out of a value. -/
def check : Check Contract :=
  record "ContractFile" fun es =>
    Contract.mk <$> required es ["consumer"] Participant.check
      <*> required es ["provider"] Participant.check
      <*> withDefault es ["interactions"] [] (list Interaction.check)
      <*> withDefault es ["messages"] [] (list Message.check)
      <*> withDefault es ["metadata"] [] (dictionary anything)

/-- The document of everything a contract holds. -/
def document (c : Contract) : Except Unwritable Json := do
  let interactions ← Model.documents c.interactions
  let messages ← Model.documents c.messages
  let metadata ← plainFields Value.plain c.metadata
  return .obj [("consumer", c.consumer.document), ("provider", c.provider.document),
    ("interactions", .arr interactions), ("messages", .arr messages),
    ("metadata", .obj metadata)]

/-- The contract laid open. -/
def opened (c : Contract) : Value :=
  .record [("consumer", Model.opened c.consumer), ("provider", Model.opened c.provider),
    ("interactions", .list (c.interactions.map Interaction.opened)),
    ("messages", .list (c.messages.map Message.opened)), ("metadata", openedFields c.metadata)]

instance : Model Contract where
  name := "ContractFile"
  check := check
  document := document
  opened := opened
  assignment field :=
    if ["consumer", "provider", "interactions", "messages", "metadata"].contains field then .taken
    else if ("spec_version" :: derivedNames).contains field then .derived
    else .unknown

/-- The documents of the units that a file of the contract lists, with the
name of the list: the messages if there are messages only, else the
interactions. -/
def listed (c : Contract) : Except Unwritable (String × Json) :=
  if c.interactions.isEmpty && !c.messages.isEmpty then
    (Model.documents c.messages).map fun js => ("messages", (Json.arr js).merged)
  else (Model.documents c.interactions).map fun js => ("interactions", (Json.arr js).merged)

/-- **What a file of the contract holds**, with the metadata as they are. -/
def fileValue (c : Contract) : Except Unwritable Value :=
  (c.listed).map fun (name, units) =>
    .record [("consumer", .ofJson c.consumer.document), ("provider", .ofJson c.provider.document),
      (name, .ofJson units), ("metadata", .record c.metadata)]

/-- The document of a contract's file. -/
def fileDocument (c : Contract) : Except TextError Json :=
  match c.listed with
  | .error e => .error (.unwritable e)
  | .ok (name, units) =>
    match (Value.record c.metadata).strict? with
    | none => .error .notDocument
    | some metadata =>
      .ok (.obj [("consumer", c.consumer.document), ("provider", c.provider.document),
        (name, units), ("metadata", metadata)])

/-- **The text of a contract's file**: its document, indented, and a line
break. -/
def text (c : Contract) : Except TextError String :=
  match c.fileDocument with
  | .error e => .error e
  | .ok j =>
    if j.integersWithin Json.integerDigitLimit then .ok (j.text .indented ++ "\n")
    else .error .integerTooLong

/-- The version of the specification that the metadata name: none if they do
not, and an error if the entry that should hold it is no dictionary. -/
def specVersion? (c : Contract) : Option Value :=
  match c.metadata.get? "pactSpecification" with
  | none => some .null
  | some (.dict es) => some ((Entries.get? es (.str "version")).getD .null)
  | some _ => none

/-- **The name of a contract's file.** -/
def fileName (c : Contract) : String := c.consumer.name ++ "-" ++ c.provider.name ++ ".json"

end Contract

end Covenant
