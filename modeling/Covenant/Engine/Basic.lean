import Covenant.Mismatch.Basic
import Covenant.Files.Path

/-!
# What an engine is asked and what it reports

A matching engine serves a mock service for a contract. It is told the
contract's options, it hands out a handle on the service, and when asked it
reports what the service saw.
-/

namespace Covenant

open Validation

/-- **The options of a contract.** -/
structure PactOptions where
  /-- The directory of the contract's file. -/
  dir : Path
  /-- The consumer's name. -/
  consumer : String
  /-- The provider's name. -/
  provider : String
  /-- Whether the mock service answers requests from other origins. -/
  cors : Bool
  /-- The port of the mock service, if it is fixed. -/
  port : Option Int
  /-- The version of the specification that the contract follows. -/
  specVersion : String

namespace PactOptions

/-- A path out of a value. -/
def pathCheck : Check Path
  | .str s => .passed (.ofText s)
  | _ => .fault .pathExpected

/-- Options out of a value. -/
def check : Check PactOptions :=
  record "PactOptions" fun es =>
    PactOptions.mk <$> withDefault es ["dir"] (.ofText "pacts") pathCheck
      <*> required es ["consumer"] text
      <*> required es ["provider"] text
      <*> withDefault es ["cors"] false truth
      <*> withDefault es ["port"] none (nullable integer)
      <*> withDefault es ["spec_version"] "3.0.0" text

/-- The options laid open. -/
def opened (o : PactOptions) : Value :=
  .record [("dir", .str o.dir.text), ("consumer", .str o.consumer), ("provider", .str o.provider),
    ("cors", .bool o.cors), ("port", openedOrNull .int o.port), ("spec_version", .str o.specVersion)]

/-- The document of options. -/
def document (o : PactOptions) : Json :=
  .obj ([("dir", .str o.dir.text), ("consumer", .str o.consumer), ("provider", .str o.provider),
    ("cors", .bool o.cors)] ++ fieldIfAny "port" (o.port.map .int)
    ++ [("spec_version", .str o.specVersion)])

instance : Model PactOptions where
  name := "PactOptions"
  check := check
  document o := .ok o.document
  opened := opened

end PactOptions

/-- **A handle on a running mock service.** -/
structure ServerHandle where
  /-- Its port. -/
  port : Int
  /-- Its address. -/
  url : String
  /-- The session it belongs to. -/
  id : String
deriving DecidableEq

namespace ServerHandle

/-- A handle out of a value. -/
def check : Check ServerHandle :=
  record "MockServerHandle" fun es =>
    ServerHandle.mk <$> required es ["port"] integer <*> required es ["url"] text
      <*> required es ["id"] text

/-- The handle laid open. -/
def opened (h : ServerHandle) : Value :=
  .record [("port", .int h.port), ("url", .str h.url), ("id", .str h.id)]

instance : Model ServerHandle where
  name := "MockServerHandle"
  check := check
  document h := .ok (.obj [("port", .int h.port), ("url", .str h.url), ("id", .str h.id)])
  opened := opened

end ServerHandle

/-- **What an engine reports on a session**: the mismatches are texts until
they are read. -/
structure EngineReport where
  /-- The fault of the mock service itself, if it had one. -/
  serverError : Option String
  /-- The mismatches as texts. -/
  mismatchTexts : Option (List String)

namespace EngineReport

/-- A report out of a value. -/
def check : Check EngineReport :=
  record "EngineTestResult" fun es =>
    EngineReport.mk
      <$> withDefault es ["mockServerError", "mock_server_error"] none (nullable text)
      <*> withDefault es ["mockServerMismatches", "mock_server_mismatches"] none
        (nullable (list text))

/-- The document of a report. -/
def document (r : EngineReport) : Json :=
  .obj (textIfAny "mockServerError" r.serverError
    ++ fieldIfAny "mockServerMismatches" (r.mismatchTexts.map fun ss => .arr (ss.map .str)))

/-- The report laid open. -/
def opened (r : EngineReport) : Value :=
  .record [("mock_server_error", textOrNull r.serverError),
    ("mock_server_mismatches", openedOrNull (fun ss => .list (ss.map .str)) r.mismatchTexts)]

instance : Model EngineReport where
  name := "EngineTestResult"
  check := check
  document r := .ok r.document
  opened := opened

/-- **The mismatches of a report**, in the engine's order. -/
def mismatches (r : EngineReport) : Except Report (List Mismatch) :=
  Mismatch.ofTexts (r.mismatchTexts.getD [])

end EngineReport

end Covenant
