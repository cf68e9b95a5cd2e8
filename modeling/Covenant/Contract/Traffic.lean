import Covenant.Validation.Model

/-!
# Requests and responses

A request or response of a contract says what is expected. Where the exact
text does not matter, a matcher stands in its place: the path is a text or a
matcher, and a header or a query value is a text, several texts, or a
matcher. A body is either a text or a reference to a file.
-/

namespace Covenant

open Validation

/-- **A body that is taken from a file.** -/
structure FileReference where
  /-- The media type of the body. -/
  contentType : String
  /-- The file. -/
  file : String
  /-- The part of a multipart body that holds the file, if the body is one. -/
  part : Option String

namespace FileReference

/-- Whether the body has several parts. -/
def isMultipart (f : FileReference) : Bool := f.part.isSome

/-- A file reference out of a value. -/
def check : Check FileReference :=
  record "FileReference" fun es =>
    FileReference.mk <$> required es ["contentType", "content_type"] text
      <*> required es ["file"] text
      <*> withDefault es ["part"] none (nullable text)

/-- The document of a file reference. -/
def document (f : FileReference) : Json :=
  .obj ([("contentType", .str f.contentType), ("file", .str f.file)] ++ textIfAny "part" f.part)

/-- The file reference laid open. -/
def opened (f : FileReference) : Value :=
  .record [("content_type", .str f.contentType), ("file", .str f.file),
    ("part", textOrNull f.part)]

instance : Model FileReference where
  name := "FileReference"
  check := check
  document f := .ok f.document
  opened := opened

end FileReference

/-- **An expected path.** -/
inductive PathSpec where
  /-- Exactly this path. -/
  | exactly (path : String)
  /-- A path that a matcher describes. -/
  | matching (m : Matcher)

/-- **An expected header or query value.** -/
inductive FieldSpec where
  /-- Exactly this text. -/
  | exactly (value : String)
  /-- These texts. -/
  | each (values : List String)
  /-- Values that a matcher describes. -/
  | matching (m : Matcher)

/-- The faults of a check, as those of one alternative. -/
def alternative {α : Type} (name : String) (c : Checked α) : List Fault :=
  (c.within (.alternative name)).faults

/-- An expected path out of a value. -/
def PathSpec.check : Check PathSpec := fun v =>
  match text v with
  | .passed s => .passed (.exactly s)
  | .refused fs =>
    match MatcherOf.check v with
    | .passed m => .passed (.matching m)
    | .refused gs =>
      .refused (alternative "str" (.refused fs : Checked String)
        ++ alternative "Matcher" (.refused gs : Checked Matcher))

/-- An expected header or query value out of a value. -/
def FieldSpec.check : Check FieldSpec := fun v =>
  match text v with
  | .passed s => .passed (.exactly s)
  | .refused fs =>
    match list text v with
    | .passed ss => .passed (.each ss)
    | .refused gs =>
      match MatcherOf.check v with
      | .passed m => .passed (.matching m)
      | .refused hs =>
        .refused (alternative "str" (.refused fs : Checked String)
          ++ (alternative "list[str]" (.refused gs : Checked (List String))
            ++ alternative "Matcher" (.refused hs : Checked Matcher)))

/-- The document of an expected path. -/
def PathSpec.document : PathSpec → Except Unwritable Json
  | .exactly s => .ok (.str s)
  | .matching m => m.document

/-- The document of an expected header or query value. -/
def FieldSpec.document : FieldSpec → Except Unwritable Json
  | .exactly s => .ok (.str s)
  | .each ss => .ok (.arr (ss.map .str))
  | .matching m => m.document

/-- The expected path laid open. -/
def PathSpec.opened : PathSpec → Value
  | .exactly s => .str s
  | .matching m => openedValue (.matcher m)

/-- The expected header or query value laid open. -/
def FieldSpec.opened : FieldSpec → Value
  | .exactly s => .str s
  | .each ss => .list (ss.map .str)
  | .matching m => openedValue (.matcher m)

/-- Expected headers or query values. -/
abbrev FieldSpecs := Entries String FieldSpec

namespace FieldSpecs

/-- Expected headers or query values out of a value. -/
def check : Check (Option FieldSpecs) := nullable (dictionary FieldSpec.check)

/-- The document of expected headers or query values. -/
def document (fs : FieldSpecs) : Except Unwritable Json :=
  (plainFields FieldSpec.document fs).map .obj

/-- The expected headers or query values laid open. -/
def opened (fs : FieldSpecs) : Value := .record (fs.map fun (k, f) => (k, f.opened))

end FieldSpecs

/-- **An expected request.** -/
structure RequestSpec where
  /-- The method. -/
  method : String
  /-- The path. -/
  path : PathSpec
  /-- The query values, if they matter. -/
  query : Option FieldSpecs
  /-- The headers, if they matter. -/
  headers : Option FieldSpecs
  /-- The text of the body, if it has one. -/
  body : Option String
  /-- The file that holds the body, if one does. -/
  file : Option FileReference

namespace RequestSpec

/-- The request for the root, with nothing else expected. -/
def default : RequestSpec := ⟨"GET", .exactly "/", none, none, none, none⟩

/-- A request out of a value. -/
def check : Check RequestSpec :=
  record "RequestSpec" fun es =>
    RequestSpec.mk <$> withDefault es ["method"] default.method text
      <*> withDefault es ["path"] default.path PathSpec.check
      <*> withDefault es ["query"] none FieldSpecs.check
      <*> withDefault es ["headers"] none FieldSpecs.check
      <*> withDefault es ["body"] none (nullable text)
      <*> withDefault es ["file"] none (nullable FileReference.check)

/-- The document of a request. -/
def document (r : RequestSpec) : Except Unwritable Json := do
  let path ← r.path.document
  let query ← documentIfAny FieldSpecs.document r.query
  let headers ← documentIfAny FieldSpecs.document r.headers
  return .obj ([("method", .str r.method), ("path", path)] ++ fieldIfAny "query" query
    ++ fieldIfAny "headers" headers ++ textIfAny "body" r.body
    ++ fieldIfAny "file" (r.file.map FileReference.document))

/-- The request laid open. -/
def opened (r : RequestSpec) : Value :=
  .record [("method", .str r.method), ("path", r.path.opened),
    ("query", openedOrNull FieldSpecs.opened r.query),
    ("headers", openedOrNull FieldSpecs.opened r.headers),
    ("body", textOrNull r.body), ("file", openedOrNull FileReference.opened r.file)]

instance : Model RequestSpec where
  name := "RequestSpec"
  check := check
  document := document
  opened := opened
  dictionaries := ["query", "headers"]

end RequestSpec

/-- **An expected response.** -/
structure ResponseSpec where
  /-- The status. -/
  status : Int
  /-- The headers, if they matter. -/
  headers : Option FieldSpecs
  /-- The text of the body, if it has one. -/
  body : Option String
  /-- The file that holds the body, if one does. -/
  file : Option FileReference

namespace ResponseSpec

/-- The response of a success, with nothing else expected. -/
def default : ResponseSpec := ⟨200, none, none, none⟩

/-- A response out of a value. -/
def check : Check ResponseSpec :=
  record "ResponseSpec" fun es =>
    ResponseSpec.mk <$> withDefault es ["status"] default.status integer
      <*> withDefault es ["headers"] none FieldSpecs.check
      <*> withDefault es ["body"] none (nullable text)
      <*> withDefault es ["file"] none (nullable FileReference.check)

/-- The document of a response. -/
def document (r : ResponseSpec) : Except Unwritable Json := do
  let headers ← documentIfAny FieldSpecs.document r.headers
  return .obj ([("status", .int r.status)] ++ fieldIfAny "headers" headers
    ++ textIfAny "body" r.body ++ fieldIfAny "file" (r.file.map FileReference.document))

/-- The response laid open. -/
def opened (r : ResponseSpec) : Value :=
  .record [("status", .int r.status), ("headers", openedOrNull FieldSpecs.opened r.headers),
    ("body", textOrNull r.body), ("file", openedOrNull FileReference.opened r.file)]

instance : Model ResponseSpec where
  name := "ResponseSpec"
  check := check
  document := document
  opened := opened
  dictionaries := ["headers"]

end ResponseSpec

end Covenant
