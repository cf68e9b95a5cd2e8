import Covenant.Failure
import Covenant.Settings

/-!
# Options of verifications

A verification is told the provider, where it runs, and which contracts to
verify; it may be told which interactions to select, what sets provider
states up, and how long to wait for contracts on the web.
-/

namespace Covenant

open Validation

/-- **Options of a verification**, besides the state handlers. -/
structure VerifyOptions where
  /-- The provider's name. -/
  provider : String
  /-- The address where the provider runs. -/
  baseUrl : String
  /-- The contracts, in order. -/
  pactUrls : List String
  /-- Which interactions are selected. -/
  selectors : Selectors
  /-- How long to wait for a contract on the web, in seconds. -/
  timeout : Double

/-- Selectors out of a value; what they do not know is ignored. -/
def Selectors.check : Check Selectors
  | .dict es =>
    (fun description state noState => ⟨.ofText description, .ofText state, noState⟩)
      <$> withDefault es ["description"] .none (nullable text)
      <*> withDefault es ["provider_state"] .none (nullable text)
      <*> withDefault es ["no_state"] false truth
  | _ => .fault (.plainRecordExpected "VerificationSelectors")

/-- The criterion that a value sets: what counts as not given sets none, and
only a text can be met. -/
def Criterion.ofValue (v : Value) : Criterion :=
  if !v.isTruthy then .anything
  else
    match v with
    | .str s => .exactly s
    | _ => .unmeetable

/-- **Selectors from named arguments**, which are taken as they are; none may
be unknown. -/
def Selectors.ofArguments : Value → Except Failure Selectors
  | .dict es =>
    let field (name : String) := (Entries.get? es (.str name)).getD .null
    if es.all fun e => (e.1.str?.map ["description", "provider_state", "no_state"].contains).getD false then
      .ok ⟨.ofValue (field "description"), .ofValue (field "provider_state"),
        (field "no_state").isTruthy⟩
    else .error .mistyped
  | _ => .error .mistyped

namespace VerifyOptions

/-- **Selectors as they are given**: ready made, or as a value to be
checked. -/
inductive SelectorArgument where
  /-- Ready made. -/
  | made (s : Selectors)
  /-- A value to be checked. -/
  | raw (v : Value)

/-- The selectors of an argument. -/
def SelectorArgument.check : SelectorArgument → Checked Selectors
  | .made s => .passed s
  | .raw v => Selectors.check v

/-- State handlers, of which each has a name and can be called or not. -/
def handlersCheck : List (String × Bool) → Checked Unit
  | [] => .passed ()
  | (name, callable) :: hs =>
    (fun (_ _ : Unit) => ()) <$>
      (if callable then .passed () else (Checked.fault .callableExpected).within (.field name))
      <*> handlersCheck hs

/-- How long to wait if nothing is said. -/
def defaultTimeout : Double := .ofInt 10

/-- **Options out of named values**, in the order of the fields. -/
def check (es : List (Key × Value)) (selectors : SelectorArgument)
    (handlers : List (String × Bool)) : Checked VerifyOptions :=
  (fun provider url urls selectors (_ : Unit) timeout =>
      VerifyOptions.mk provider url urls selectors timeout)
    <$> required es ["provider"] text <*> required es ["provider_base_url"] text
    <*> required es ["pact_urls"] (list text)
    <*> selectors.check.within (.field "selectors")
    <*> (handlersCheck handlers).within (.field "state_handlers")
    <*> withDefault es ["timeout"] defaultTimeout number

/-- The options, or the report on the values given for them. -/
def ofValues (es : List (Key × Value)) (selectors : SelectorArgument)
    (handlers : List (String × Bool)) : Except Report VerifyOptions :=
  (check es selectors handlers).report "VerifyOptions" .value

end VerifyOptions

end Covenant
