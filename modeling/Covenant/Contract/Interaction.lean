import Covenant.Contract.State
import Covenant.Contract.Traffic

/-!
# Interactions and messages

The two units of a contract: an **interaction** is a request with the
response to it, a **message** travels on its own. Both have a description and
the provider states under which they hold.

Earlier contract files give a unit at most one provider state, as a text.
`upgradeState` turns that form into the present one before anything is
checked, so that the checks below know only the present form.
-/

namespace Covenant

open Validation

/-- **The present form of a unit's provider states**: a single state given as
`providerState` becomes a list of one, or of none if it counts as not given. -/
def upgradeState : Value → Value
  | .dict es =>
    match Entries.get? es (.str "providerState") with
    | some state =>
      if Entries.has es (.str "providerStates") then .dict es
      else
        .dict (Entries.put (Entries.erase es (.str "providerState")) (.str "providerStates")
          (.list (if state.isTruthy then [.record [("name", state)]] else [])))
    | none => .dict es
  | v => v

/-- The documents of provider states. -/
def statesDocument (states : List ProviderState) : Except Unwritable Json :=
  (Model.documents states).map .arr

/-- The provider states laid open. -/
def statesOpened (states : List ProviderState) : Value := .tuple (states.map ProviderState.opened)

/-- **A request and the response to it.** -/
structure Interaction where
  /-- What the interaction is for. -/
  description : String
  /-- The provider states under which it holds. -/
  providerStates : List ProviderState
  /-- The request. -/
  request : RequestSpec
  /-- The response. -/
  response : ResponseSpec

namespace Interaction

/-- The names of the provider states. -/
def stateNames (i : Interaction) : List String := i.providerStates.map (·.description)

/-- An interaction out of a value. -/
def check : Check Interaction := fun v =>
  record "Interaction" (fun es =>
    Interaction.mk <$> required es ["description"] text
      <*> withDefault es ["providerStates", "provider_states"] [] (tuple ProviderState.check)
      <*> withDefault es ["request"] .default RequestSpec.check
      <*> withDefault es ["response"] .default ResponseSpec.check) (upgradeState v)

/-- The document of an interaction. -/
def document (i : Interaction) : Except Unwritable Json := do
  let states ← statesDocument i.providerStates
  let request ← i.request.document
  let response ← i.response.document
  return .obj [("description", .str i.description), ("providerStates", states),
    ("request", request), ("response", response)]

/-- The interaction laid open. -/
def opened (i : Interaction) : Value :=
  .record [("description", .str i.description), ("provider_states", statesOpened i.providerStates),
    ("request", i.request.opened), ("response", i.response.opened)]

instance : Model Interaction where
  name := "Interaction"
  check := check
  document := document
  opened := opened

end Interaction

/-- **A message.** -/
structure Message where
  /-- What the message is for; may be empty. -/
  description : String
  /-- What the message holds. -/
  contents : Value
  /-- What comes with the message, if anything does. -/
  metadata : Option (Entries String Value)
  /-- The provider states under which it is sent. -/
  providerStates : List ProviderState

namespace Message

/-- The names of the provider states. -/
def stateNames (m : Message) : List String := m.providerStates.map (·.description)

/-- A message out of a value. -/
def check : Check Message := fun v =>
  record "Message" (fun es =>
    Message.mk <$> withDefault es ["description"] "" text
      <*> withDefault es ["contents"] .null anything
      <*> withDefault es ["metadata"] none (nullable (dictionary anything))
      <*> withDefault es ["providerStates", "provider_states"] [] (tuple ProviderState.check))
    (upgradeState v)

/-- The document of a message. -/
def document (m : Message) : Except Unwritable Json := do
  let contents ← plainIfAny m.contents
  let metadata ← documentIfAny (fun fs => (plainFields Value.plain fs).map .obj) m.metadata
  let states ← statesDocument m.providerStates
  return .obj ([("description", .str m.description)] ++ fieldIfAny "contents" contents
    ++ fieldIfAny "metadata" metadata ++ [("providerStates", states)])

/-- The message laid open. -/
def opened (m : Message) : Value :=
  .record [("description", .str m.description), ("contents", openedValue m.contents),
    ("metadata", openedOrNull openedFields m.metadata),
    ("provider_states", statesOpened m.providerStates)]

instance : Model Message where
  name := "Message"
  check := check
  document := document
  opened := opened

end Message

end Covenant
