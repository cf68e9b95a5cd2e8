import Covenant.Failure

/-!
# Values as tagged documents

Every value has a document that tells it exactly: what JSON knows stands for
itself, and the rest is an object with a single tag – a tuple, a string of
bytes, a double that is no finite number, a dictionary with keys that are not
texts, or a matcher. `Tagged.encode` writes that document and
`Tagged.decode` reads it.

When it is read, a matcher may also be given by its constructor and the
arguments for it, or by its integration form; these can fail as the
constructors do.
-/

namespace Covenant

namespace Tagged

/-! ## Writing -/

/-- A tagged document. -/
def tag (name : String) (j : Json) : Json := .obj [(name, j)]

/-- Bytes in hexadecimal. -/
def hex (bs : List UInt8) : String := String.ofList (bs.flatMap fun b => Text.hexPadded 2 b.toNat)

/-- A double as a document. -/
def encodeDouble : Double → Json
  | .nan => tag "$float" (.str "nan")
  | .infinite negative => tag "$float" (.str (if negative then "-inf" else "inf"))
  | d => .double d

mutual

/-- A key as a document. -/
def encodeKey : Key → Json
  | .null => .null
  | .bool b => .bool b
  | .int i => .int i
  | .double d => encodeDouble d
  | .str s => .str s
  | .bytes bs => tag "$bytes" (.str (hex bs))
  | .tuple ks => tag "$tuple" (.arr (encodeKeys ks))

/-- Keys as documents. -/
def encodeKeys : List Key → List Json
  | [] => []
  | k :: ks => encodeKey k :: encodeKeys ks

end

/-- Whether every key is a text. -/
def allTexts (es : List (Key × Json)) : Bool := es.all fun e => e.1.str?.isSome

/-- Entries as an object, or as a tagged list of pairs. -/
def entriesDocument (es : List (Key × Json)) : Json :=
  if allTexts es then .obj (es.map fun (k, j) => ((k.str?).getD "", j))
  else tag "$dict" (.arr (es.map fun (k, j) => .arr [encodeKey k, j]))

mutual

/-- **A value as a tagged document.** -/
def encode : Value → Json
  | .null => .null
  | .bool b => .bool b
  | .int i => .int i
  | .double d => encodeDouble d
  | .str s => .str s
  | .bytes bs => tag "$bytes" (.str (hex bs))
  | .list vs => .arr (encodeItems vs)
  | .tuple vs => tag "$tuple" (.arr (encodeItems vs))
  | .dict es => entriesDocument (encodeEntries es)
  | .matcher ⟨type, value, attributes, generator⟩ =>
    .obj [("$m", .str "raw"), ("type", .str type), ("value", encode value),
      ("attributes", .obj (encodeAttributes attributes)),
      ("generator", (generator.map Json.str).getD .null)]

/-- Values as tagged documents. -/
def encodeItems : List Value → List Json
  | [] => []
  | v :: vs => encode v :: encodeItems vs

/-- Entries with their values as tagged documents. -/
def encodeEntries : List (Key × Value) → List (Key × Json)
  | [] => []
  | (k, v) :: es => (k, encode v) :: encodeEntries es

/-- Attributes with their values as tagged documents. -/
def encodeAttributes : List (String × Value) → List (String × Json)
  | [] => []
  | (k, v) :: es => (k, encode v) :: encodeAttributes es

end

/-- The text of a value's tagged document. -/
def text (v : Value) : String := (encode v).text .compact

/-! ## Reading -/

/-- Bytes from hexadecimal digits. -/
def unhex : List Char → List UInt8
  | a :: b :: rest =>
    UInt8.ofNat ((Json.hexValue? a).getD 0 * 16 + (Json.hexValue? b).getD 0) :: unhex rest
  | _ => []

/-- The double of a name. -/
def doubleOfName (s : String) : Double :=
  if s = "inf" then .infinite false else if s = "-inf" then .infinite true else .nan

/-- Entries from values that are lists of two. -/
def entriesOf : List Value → Except Failure (List (Key × Value))
  | [] => .ok []
  | .list [k, v] :: vs =>
    match k.key? with
    | none => .error .mistyped
    | some k => (entriesOf vs).map ((k, v) :: ·)
  | _ :: _ => .error .misvalued

/-- The arguments of a constructor, in the order of its parameters; one that
is left out takes its default. -/
def bind (params : List (String × Option Value)) (args : List (String × Value)) :
    Except Failure (List Value) :=
  if args.all fun a => params.any fun p => p.1 == a.1 then
    params.mapM fun p =>
      match (List.lookup p.1 args).orElse fun _ => p.2 with
      | some v => .ok v
      | none => .error .mistyped
  else .error .mistyped

/-- Whether a value is an integer beyond the length of any list. -/
def exceedsLength : Value → Bool
  | .int i => decide (Validation.wordBound ≤ i)
  | _ => false

/-- A matcher from a constructor's name and arguments. -/
def construct (name : String) (args : List (String × Value)) : Except Failure Value :=
  match name with
  | "raw" => (Model.make (.record args)).map .matcher
  | "json" => (Model.make ((List.lookup "data" args).getD .null)).map .matcher
  | "like" => do
    match ← bind [("value", none)] args with
    | [v] => return .matcher (.like v)
    | _ => .error .mistyped
  | "each_like" => do
    match ← bind [("value", none), ("min", some (.int 1))] args with
    | [v, least] =>
      if exceedsLength least then .error .outOfRange
      else
        match MatcherOf.eachLike? v least with
        | some m => return .matcher m
        | none => .error .mistyped
    | _ => .error .mistyped
  | "regex" => do
    match ← bind [("pattern", none), ("example", none)] args with
    | [p, e] => return .matcher (.regex p e)
    | _ => .error .mistyped
  | "integer" => do
    match ← bind [("example", some (.int 10))] args with
    | [e] => return .matcher (.integer e)
    | _ => .error .mistyped
  | "decimal" => do
    match ← bind [("example", some (.double (.ofDecimal false 1234 (-2))))] args with
    | [e] => return .matcher (.decimal e)
    | _ => .error .mistyped
  | "boolean" => do
    match ← bind [("example", some (.bool true))] args with
    | [e] => return .matcher (.boolean e)
    | _ => .error .mistyped
  | "string" => do
    match ← bind [("example", some (.str "some string"))] args with
    | [e] => return .matcher (.someText e)
    | _ => .error .mistyped
  | "timestamp" => do
    match ← bind [("fmt", none), ("example", none)] args with
    | [f, e] => return .matcher (.timestamp f e)
    | _ => .error .mistyped
  | "include" => do
    match ← bind [("substring", none)] args with
    | [s] => return .matcher (.including s)
    | _ => .error .mistyped
  | _ => .error .mistyped

/-- What an object stands for, its fields read. -/
def assemble (fields : List (String × Value)) : Except Failure Value :=
  match fields with
  | [("$tuple", .list vs)] => .ok (.tuple vs)
  | [("$bytes", .str s)] => .ok (.bytes (unhex s.toList))
  | [("$float", .str s)] => .ok (.double (doubleOfName s))
  | [("$dict", .list vs)] => (entriesOf vs).map fun es => .dict (Entries.ofPairs es)
  | fields =>
    match List.lookup "$m" fields with
    | some (.str name) => construct name (fields.filter fun f => f.1 != "$m")
    | _ => .ok (.record fields)

mutual

/-- **The value of a tagged document.** -/
def decode : Json → Except Failure Value
  | .null => .ok .null
  | .bool b => .ok (.bool b)
  | .int i => .ok (.int i)
  | .double d => .ok (.double d)
  | .str s => .ok (.str s)
  | .arr js => (decodeItems js).map .list
  | .obj fs =>
    match decodeFields fs with
    | .error e => .error e
    | .ok fields => assemble fields

/-- The values of tagged documents. -/
def decodeItems : List Json → Except Failure (List Value)
  | [] => .ok []
  | j :: js =>
    match decode j with
    | .error e => .error e
    | .ok v => (decodeItems js).map (v :: ·)

/-- Fields with the values of their tagged documents. -/
def decodeFields : List (String × Json) → Except Failure (List (String × Value))
  | [] => .ok []
  | (k, j) :: fs =>
    match decode j with
    | .error e => .error e
    | .ok v => (decodeFields fs).map ((k, v) :: ·)

end

end Tagged

end Covenant
