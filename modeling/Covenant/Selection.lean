import Covenant.Settings
import Covenant.Contract.Interaction
import Covenant.Value.Literal

/-!
# Selecting interactions

A verification may be narrowed to the interactions with a description, to
those that declare a provider state, or to those that declare none. What is
selected keeps its order. Messages are selected in the same way.
-/

namespace Covenant

/-- **What can be selected**: something with a description and provider
states. -/
class Selectable (α : Type) where
  /-- The description. -/
  description : α → String
  /-- The provider states. -/
  states : α → List ProviderState

instance : Selectable Interaction := ⟨Interaction.description, Interaction.providerStates⟩

instance : Selectable Message := ⟨Message.description, Message.providerStates⟩

variable {α : Type} [Selectable α]

/-- Whether an item declares a state whose name meets a criterion. -/
def declaresState (c : Criterion) (item : α) : Bool :=
  (Selectable.states item).any fun s => c.accepts s.description

/-- **Whether the selectors accept an item**: the first one that is set
decides. -/
def Selectors.accepts (s : Selectors) (item : α) : Bool :=
  if s.description.isSet then s.description.accepts (Selectable.description item)
  else if s.providerState.isSet then declaresState s.providerState item
  else if s.noState then (Selectable.states item).isEmpty
  else true

/-- **The selected items**, and a warning if several selectors are set. -/
def Selectors.select (s : Selectors) (items : List α) : List α × List LogEntry :=
  (items.filter s.accepts,
    match s.active with
    | first :: second :: rest =>
      [⟨.warning, "pactum.verification.filter", "Several interaction selectors set "
        ++ literalList (first :: second :: rest) ++ "; using " ++ first⟩]
    | _ => [])

/-- The selected items for a verification run, which also tells how many were
selected if not all of them were. -/
def Selectors.selectForRun (s : Selectors) (items : List α) : List α × List LogEntry :=
  let (selected, log) := s.select items
  let number (n : Nat) := String.ofList (natDigits n)
  (selected,
    if selected.length = items.length then log
    else log ++ [⟨.info, "pactum.verification.filter", "Selected " ++ number selected.length
      ++ " of " ++ number items.length ++ " interactions"⟩])

end Covenant
