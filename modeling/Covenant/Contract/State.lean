import Covenant.Validation.Model

/-!
# Provider states

A provider state names a condition that the provider has to be put into
before an interaction is replayed, and may carry parameters for it.
-/

namespace Covenant

open Validation

/-- **A provider state.** -/
structure ProviderState where
  /-- The name of the condition. -/
  description : String
  /-- What the condition is about. -/
  parameters : Value

namespace ProviderState

/-- A provider state out of a value. -/
def check : Check ProviderState :=
  record "ProviderState" fun es =>
    ProviderState.mk <$> required es ["name", "description"] text
      <*> withDefault es ["params", "parameters"] .null anything

/-- The document of a provider state. -/
def document (s : ProviderState) : Except Unwritable Json :=
  match plainIfAny s.parameters with
  | .error e => .error e
  | .ok params => .ok (.obj (("name", .str s.description) :: fieldIfAny "params" params))

/-- The provider state laid open. -/
def opened (s : ProviderState) : Value :=
  .record [("description", .str s.description), ("parameters", openedValue s.parameters)]

/-- The provider state laid open under the names of contract files, without
absent parameters. -/
def openedDocument (s : ProviderState) : Value :=
  .record (("name", .str s.description) ::
    (if s.parameters matches .null then [] else [("params", openedValue s.parameters)]))

instance : Model ProviderState where
  name := "ProviderState"
  check := check
  document := document
  opened := opened

end ProviderState

end Covenant
