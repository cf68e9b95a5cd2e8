import Covenant.Text.Blank
import Covenant.Text.Uppercase
import Covenant.Entries
import Covenant.Log.Entry

/-!
# Settings

The environment is read at the boundary, into settings that are passed on:
whether missing requests are tolerated, which interactions a verification
selects, and how much is logged.
-/

namespace Covenant

/-- **The environment**: variables and their texts. -/
abbrev Environment := Entries String String

/-- The words that switch something on. -/
def truthyWords : List String := ["1", "true", "yes", "on"]

/-- **Whether a text switches something on**, in any case and with any blanks
around it. -/
def isTruthyWord : Option String → Bool
  | none => false
  | some s => truthyWords.contains (String.ofList (Text.lowerLatin (Text.trim s.toList)))

/-- The text, unless it is blank. -/
def nonBlank : Option String → Option String
  | none => none
  | some s => if (Text.trim s.toList).isEmpty then none else some s

/-! ## Sessions -/

/-- **Settings of consumer sessions.** -/
structure SessionSettings where
  /-- Whether expected requests that never came are tolerated. -/
  allowMissing : Bool
deriving DecidableEq

/-- The variable that has missing requests tolerated. -/
def SessionSettings.missingVariable : String := "PACT_EXPERIMENTAL_FEATURE_ALLOW_MISSING_REQUESTS"

/-- The settings of sessions that an environment gives. -/
def SessionSettings.ofEnvironment (env : Environment) : SessionSettings :=
  ⟨isTruthyWord (env.get? SessionSettings.missingVariable)⟩

/-! ## Selectors -/

/-- **What a selector asks of a text.** -/
inductive Criterion where
  /-- Nothing; the selector is not set. -/
  | anything
  /-- To be this text. -/
  | exactly (s : String)
  /-- What no text meets. -/
  | unmeetable
deriving DecidableEq

namespace Criterion

/-- The criterion that a text sets; an empty one sets none. -/
def ofText : Option String → Criterion
  | none => anything
  | some s => if s = "" then anything else exactly s

/-- The text that is asked for, if one is. -/
def text? : Criterion → Option String
  | exactly s => some s
  | _ => none

/-- Whether the selector is set. -/
def isSet : Criterion → Bool
  | anything => false
  | _ => true

/-- Whether a text meets the criterion. -/
def accepts : Criterion → String → Bool
  | anything, _ => true
  | exactly s, t => s == t
  | unmeetable, _ => false

end Criterion

/-- **Which interactions a verification selects.** At most one selector is
meant to be set; of several, the first in the order of the fields counts. -/
structure Selectors where
  /-- The description. -/
  description : Criterion
  /-- A provider state that is declared. -/
  providerState : Criterion
  /-- That no provider state is declared. -/
  noState : Bool
deriving DecidableEq

namespace Selectors

/-- No selector. -/
def none : Selectors := ⟨.anything, .anything, false⟩

/-- The variable that selects by description. -/
def descriptionVariable : String := "PACT_DESCRIPTION"

/-- The variable that selects by provider state. -/
def stateVariable : String := "PACT_PROVIDER_STATE"

/-- The variable that selects what declares no state. -/
def noStateVariable : String := "PACT_PROVIDER_NO_STATE"

/-- The selectors that an environment gives. -/
def ofEnvironment (env : Environment) : Selectors :=
  ⟨.ofText (nonBlank (env.get? descriptionVariable)), .ofText (nonBlank (env.get? stateVariable)),
    isTruthyWord (env.get? noStateVariable)⟩

/-- **The names of the selectors that are set**, in the order in which they
count. -/
def active (s : Selectors) : List String :=
  (if s.description.isSet then ["description"] else [])
    ++ (if s.providerState.isSet then ["provider_state"] else [])
    ++ (if s.noState then ["no_state"] else [])

end Selectors

/-! ## Log levels -/

/-- The levels that have a name. -/
def namedLevels : List (String × Int) :=
  [("CRITICAL", 50), ("FATAL", 50), ("ERROR", 40), ("WARN", 30), ("WARNING", 30), ("INFO", 20),
    ("DEBUG", 10), ("NOTSET", 0)]

/-- The name of a level's number. -/
def levelName (n : Int) : Option String :=
  match n with
  | 50 => some "CRITICAL"
  | 40 => some "ERROR"
  | 30 => some "WARNING"
  | 20 => some "INFO"
  | 10 => some "DEBUG"
  | 0 => some "NOTSET"
  | _ => .none

/-- The variable with the name of the level. -/
def levelVariable : String := "LOG_LEVEL"

/-- The variables that are settings. -/
def Settings.variables : List String :=
  [SessionSettings.missingVariable, Selectors.descriptionVariable, Selectors.stateVariable,
    Selectors.noStateVariable, levelVariable]

/-- **The level that an environment asks for**, and a warning if it asks for
one that does not exist. -/
def logLevel (env : Environment) : Int × List LogEntry :=
  let asked := (env.get? levelVariable).getD "INFO"
  let name := String.ofList (Text.upper (Text.trim asked.toList))
  match namedLevels.lookup name with
  | some n => (n, [])
  | .none =>
    (20, [⟨.warning, "pactum.config", "Unknown LOG_LEVEL value '" ++ name ++ "', using INFO"⟩])

/-- Blanks and case do not matter. -/
example : isTruthyWord (some " Yes\n") = true ∧ isTruthyWord (some "y") = false := by
  decide +kernel

end Covenant
