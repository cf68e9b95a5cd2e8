import Covenant.Mismatch.Basic

/-!
# The report on mismatches

The report is one text: a heading, then every mismatch with a number, in the
order in which the engine reported them. A request that was not expected or
did not come is shown with its parts, any other mismatch with its document.

A request's body is shown by its text, so a body that is no document cannot
be shown, nor can a mismatch that has no text. `reportFor` checks for both;
`report` is for mismatches that were checked, or read from the engine's
texts.
-/

namespace Covenant

/-- **Why there is no report.** -/
inductive ReportError where
  /-- A body that is no document. -/
  | bodyNotDocument
  /-- A mismatch without a text. -/
  | unwritable (e : Unwritable)
  /-- An indentation that is no text. -/
  | indentNotText

/-- The heading of a report. -/
def reportHeader : String := "Mock server failed with the following mismatches:"

/-- How many characters of a body are shown. -/
def bodyPreviewLength : Nat := 20

/-- A number as text. -/
def natText (n : Nat) : String := String.ofList (natDigits n)

/-! ## Requests -/

/-- Query values as pairs of a name and one value each. -/
def queryLine (query : List (String × List String)) : String :=
  "&".intercalate (query.flatMap fun (k, vs) => vs.map fun v => k ++ "=" ++ v)

/-- The values that a value consists of, if it consists of values: the
characters of a text, the bytes of a string of bytes, the keys of a
dictionary, the named fields of a matcher. -/
def Value.elements? : Value → Option (List Value)
  | .str s => some (s.toList.map fun c => .str (String.singleton c))
  | .bytes bs => some (bs.map fun b => .int b.toNat)
  | .list vs => some vs
  | .tuple vs => some vs
  | .dict es => some (es.map fun (k, _) => Value.ofKey k)
  | .matcher m => some [.tuple [.str "type", .str m.type], .tuple [.str "value", m.value],
      .tuple [.str "attributes", .record m.attributes], .tuple [.str "generator", textOrNull m.generator]]
  | _ => none

/-- The query line of any dictionary whose values consist of values. -/
def queryLine? (es : List (Key × Value)) : Option String :=
  (es.mapM fun (e : Key × Value) => e.2.elements?.map fun vs =>
    ((Value.ofKey e.1).display, vs.map Value.display)).map queryLine

/-- A header's value: several values are separated by commas. -/
def headerValue : Value → String
  | .list vs => ", ".intercalate (vs.map Value.display)
  | .tuple vs => ", ".intercalate (vs.map Value.display)
  | v => v.display

/-- Headers, one on a line; `indent` stands before each line but the
first. -/
def headerLines (headers : List (Key × Value)) (indent : String) : String :=
  ("\n" ++ indent).intercalate
    (headers.map fun (k, v) => (Value.ofKey k).display ++ ": " ++ headerValue v)

/-- A text, or the word for its absence. -/
def textOrNone (s : Option String) : String := s.getD "None"

/-- The first characters of a body, and how many it has. -/
def bodyPreview (body : String) : String :=
  String.ofList (body.toList.take bodyPreviewLength) ++ "... (" ++ natText body.length ++ " length)"

namespace ObservedRequest

/-- The body as it is shown; empty if there is none to show. -/
def shownBody (r : ObservedRequest) : String := (r.bodyText?.getD none).getD ""

/-- **The lines of a request**, each after a line break and the indentation. -/
def lines (r : ObservedRequest) (indent : String) : String :=
  let line (s : String) := "\n" ++ indent ++ s
  let query := match r.query with
    | some q => if q.isEmpty then "" else line ("Query String: " ++ queryLine q)
    | none => ""
  let headers := match r.headers with
    | some hs =>
      if hs.isEmpty then ""
      else line "Headers:" ++ line ("  " ++ headerLines (hs.map fun (k, v) => (.str k, v)) (indent ++ "  "))
    | none => ""
  let body := if r.shownBody = "" then "" else line ("Body: " ++ bodyPreview r.shownBody)
  line ("Method: " ++ textOrNone r.method) ++ line ("Path: " ++ textOrNone r.path)
    ++ query ++ headers ++ body

end ObservedRequest

/-! ## Mismatches -/

/-- Whether a value is a text. -/
def Value.isText : Value → Bool
  | .str _ => true
  | _ => false

namespace Mismatch

/-- The document of a mismatch as it is shown. -/
def shown (m : Mismatch) : String := (m.text.toOption).getD ""

/-- **One entry of a report**, with its number. -/
def entry (m : Mismatch) (number : Nat) (indent : String) : String :=
  let request (heading : String) :=
    "\n\n" ++ indent ++ natText number ++ ") " ++ heading ++
      ((m.request.map (·.lines (indent ++ "    "))).getD "")
  match m.kind with
  | .requestNotFound => request "The following request was not expected:"
  | .missingRequest => request "The following request was expected but not received:"
  | .other =>
    let place := match m.path with
      | some p => if p = "" then "" else "(at " ++ p ++ ") "
      | none => ""
    "\n" ++ indent ++ natText number ++ ") " ++ m.type ++ " " ++ place ++ m.shown

/-- The entries of a report, numbered from `number` on. -/
def entriesFrom (indent : String) : (number : Nat) → List Mismatch → String
  | _, [] => ""
  | n, m :: ms => m.entry n indent ++ entriesFrom indent (n + 1) ms

/-- **The report on mismatches.** -/
def report (ms : List Mismatch) (indent : String) : String :=
  reportHeader ++ entriesFrom indent 1 ms

/-- Whether an entry can be shown: the lines of a request are moved in
further, which takes a text. -/
def showable (indent : Value) (m : Mismatch) : Except ReportError Unit :=
  match m.kind with
  | .other =>
    match m.text with
    | .ok _ => .ok ()
    | .error e => .error (.unwritable e)
  | _ =>
    match m.request with
    | none => .ok ()
    | some r =>
      if !indent.isText then .error .indentNotText
      else if r.bodyText?.isSome then .ok ()
      else .error .bodyNotDocument

/-- The report on mismatches of any origin, with any indentation. -/
def reportFor (ms : List Mismatch) (indent : Value) : Except ReportError String :=
  (ms.forM (showable indent)).map fun _ => report ms indent.display

end Mismatch

/-- The lines of a request of any origin, with any indentation; the lines of
headers are moved in further. -/
def ObservedRequest.linesFor (r : ObservedRequest) (indent : Value) : Except ReportError String :=
  if !(r.headers.getD []).isEmpty && !indent.isText then .error .indentNotText
  else if r.bodyText?.isSome then .ok (r.lines indent.display)
  else .error .bodyNotDocument

end Covenant
