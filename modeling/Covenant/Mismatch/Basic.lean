import Covenant.Validation.Model

/-!
# Mismatches

A mismatch is one difference between the traffic that a contract expects and
the traffic that was observed. The matching engine may put any further fields
into it, and into the request that it refers to; they are kept and shown.

What the library itself needs to know of a mismatch is its **kind**: whether
it is a request that nobody expected, an expected request that never came,
or something else.
-/

namespace Covenant

open Validation

/-- **A request as the engine observed it.** -/
structure ObservedRequest where
  /-- The method, if known. -/
  method : Option String
  /-- The path, if known. -/
  path : Option String
  /-- The query values, if known. -/
  query : Option (Entries String (List String))
  /-- The headers, if known. -/
  headers : Option (Entries String Value)
  /-- The body. -/
  body : Value
  /-- Whatever else the engine reported. -/
  extra : List (String × Value)

namespace ObservedRequest

/-- The fields that an observed request has by itself. -/
def knownFields : List String := ["method", "path", "query", "headers", "body"]

/-- Query values in which a single value stands for a list of one. -/
def listedQuery : Value → Value
  | .dict es => .dict (es.map fun (k, v) => (k, match v with | .list vs => .list vs | v => .list [v]))
  | v => v

/-- An observed request out of a value. -/
def check : Check ObservedRequest :=
  record "ObservedRequest" fun es =>
    ObservedRequest.mk <$> withDefault es ["method"] none (nullable text)
      <*> withDefault es ["path"] none (nullable text)
      <*> withDefault es ["query"] none
        (fun v => nullable (dictionary (list text)) (listedQuery v))
      <*> withDefault es ["headers"] none (nullable (dictionary anything))
      <*> withDefault es ["body"] .null anything
      <*> extraFields knownFields es

/-- The documents of further fields that hold something. -/
def extraDocument : List (String × Value) → Except Unwritable (List (String × Json))
  | [] => .ok []
  | (k, v) :: fs => do
    let j ← plainIfAny v
    let js ← extraDocument fs
    return fieldIfAny k j ++ js

/-- The document of an observed request. -/
def document (r : ObservedRequest) : Except Unwritable Json := do
  let headers ← documentIfAny (fun fs => (plainFields Value.plain fs).map .obj) r.headers
  let body ← plainIfAny r.body
  let extra ← extraDocument r.extra
  let query := r.query.map fun q => Json.obj (q.map fun (k, vs) => (k, .arr (vs.map .str)))
  return .obj (textIfAny "method" r.method ++ textIfAny "path" r.path ++ fieldIfAny "query" query
    ++ fieldIfAny "headers" headers ++ fieldIfAny "body" body ++ extra)

/-- The observed request laid open. -/
def opened (r : ObservedRequest) : Value :=
  .record ([("method", textOrNull r.method), ("path", textOrNull r.path),
    ("query", openedOrNull
      (fun q => .record (q.map fun (k, vs) => (k, Value.list (vs.map .str)))) r.query),
    ("headers", openedOrNull openedFields r.headers), ("body", openedValue r.body)]
    ++ r.extra.map fun (k, v) => (k, openedValue v))

/-- **The text of the body**: a text is its own, another document is written
in ASCII; nothing has none. A body that is no document has no text to speak
of, which is the outer absence. -/
def bodyText? (r : ObservedRequest) : Option (Option String) :=
  match r.body with
  | .null => some none
  | .str s => some (some s)
  | v => v.strict?.map fun j => some (j.text .compactAscii)

instance : Model ObservedRequest where
  name := "ObservedRequest"
  check := check
  document := document
  opened := opened
  assignment field := if ("body_text" :: derivedNames).contains field then .derived else .taken

end ObservedRequest

/-- **What a mismatch is about.** -/
inductive MismatchKind where
  /-- A request that nobody expected. -/
  | requestNotFound
  /-- An expected request that never came. -/
  | missingRequest
  /-- Anything else. -/
  | other
deriving DecidableEq

/-- The kind's name. -/
def MismatchKind.text : MismatchKind → String
  | .requestNotFound => "request-not-found"
  | .missingRequest => "missing-request"
  | .other => "other"

/-- The kind that a name stands for; unknown names are other kinds. -/
def MismatchKind.ofText (s : String) : MismatchKind :=
  if s = requestNotFound.text then .requestNotFound
  else if s = missingRequest.text then .missingRequest
  else .other

/-- **A mismatch.** -/
structure Mismatch where
  /-- The engine's name for what is wrong. -/
  type : String
  /-- Where it is wrong, if it is in one place. -/
  path : Option String
  /-- The method of the request, if given. -/
  method : Option String
  /-- The request, if given. -/
  request : Option ObservedRequest
  /-- Whatever else the engine reported. -/
  extra : List (String × Value)

namespace Mismatch

/-- What the mismatch is about. -/
def kind (m : Mismatch) : MismatchKind := .ofText m.type

/-- The fields that a mismatch has by itself. -/
def knownFields : List String := ["type", "path", "method", "request"]

/-- A mismatch out of a value. -/
def check : Check Mismatch :=
  record "Mismatch" fun es =>
    Mismatch.mk <$> required es ["type"] text
      <*> withDefault es ["path"] none (nullable text)
      <*> withDefault es ["method"] none (nullable text)
      <*> withDefault es ["request"] none (nullable ObservedRequest.check)
      <*> extraFields knownFields es

/-- The document of a mismatch. -/
def document (m : Mismatch) : Except Unwritable Json := do
  let request ← documentIfAny ObservedRequest.document m.request
  let extra ← ObservedRequest.extraDocument m.extra
  return .obj ([("type", .str m.type)] ++ textIfAny "path" m.path ++ textIfAny "method" m.method
    ++ fieldIfAny "request" request ++ extra)

/-- The mismatch laid open. -/
def opened (m : Mismatch) : Value :=
  .record ([("type", .str m.type), ("path", textOrNull m.path), ("method", textOrNull m.method),
    ("request", openedOrNull ObservedRequest.opened m.request)]
    ++ m.extra.map fun (k, v) => (k, openedValue v))

/-- **The text in which an engine reports a mismatch.** -/
def text (m : Mismatch) : Except Unwritable String := (m.document).map (·.text .report)

instance : Model Mismatch where
  name := "Mismatch"
  check := check
  document := document
  opened := opened

/-- The texts of mismatches. -/
def texts : List Mismatch → Except Unwritable (List String)
  | [] => .ok []
  | m :: ms =>
    match m.text with
    | .error e => .error e
    | .ok s => (texts ms).map (s :: ·)

/-- The mismatches that texts are, or the report on the first text that is
none. -/
def ofTexts : List String → Except Report (List Mismatch)
  | [] => .ok []
  | s :: ss =>
    match (Model.ofText s : Except Report Mismatch) with
    | .error e => .error e
    | .ok m => (ofTexts ss).map (m :: ·)

/-- The mismatches that count: missing requests do not where they are
tolerated. -/
def counted (allowMissing : Bool) (ms : List Mismatch) : List Mismatch :=
  if allowMissing then ms.filter fun m => m.kind != .missingRequest else ms

end Mismatch

end Covenant
