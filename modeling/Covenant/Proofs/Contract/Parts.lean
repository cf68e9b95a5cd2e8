import Covenant.Contract.Traffic
import Covenant.Contract.Interaction
import Covenant.Proofs.Matcher

/-!
# Parts of contracts and their documents

Provider states, requests and responses come back from their documents
(`ProviderState.roundTrips`, `RequestSpec.roundTrips`, `ResponseSpec.roundTrips`)
if what they hold does: untyped values have to be exact, and so have the
matchers that stand for a path, a header or a query value.

A path is a text or a matcher, a header is a text, several texts or a matcher,
and the document does not say which. It can be told from its shape: a text is
written as a text, several are written as a list, and a matcher is written as an
object, which no text and no list is.
-/

namespace Covenant

open Validation

/-! ## Values -/

/-- **An exact value comes back from its document**, if its levels fit. -/
theorem roundTrips_plain {v : Value} (h : v.Exact)
    (hdepth : (openedValue v).depth < Value.levelLimit) :
    RoundTrips Value.plain anything (openedValue v).depth v := by
  obtain ⟨j, hexact, rfl⟩ := h
  have hopened : openedValue (.ofJson j) = .ofJson j := Value.unwrapMatchers_ofJson false j
  rw [hopened, Value.depth_ofJson] at hdepth ⊢
  exact ⟨j, Value.plainWithin_ofJson j hexact hdepth, hexact, rfl, rfl⟩

/-- An exact value that may be absent comes back as a field. -/
theorem fieldRoundTrips_plainIfAny {v : Value} (h : v.Exact)
    (hdepth : (openedValue v).depth < Value.levelLimit) :
    ∃ j, plainIfAny v = .ok j ∧ FieldRoundTrips anything (openedValue v).depth .null v j := by
  obtain ⟨j, hdocument, hexact, hj, hcheck⟩ := roundTrips_plain h hdepth
  cases v with
  | null => exact ⟨none, rfl, rfl, rfl⟩
  | _ => exact ⟨some j, congrArg (Except.map some) hdocument, hexact, hj, hcheck⟩

theorem fieldRoundTrips_text (o : Option String) :
    FieldRoundTrips (nullable text) (textOrNull o).depth none o (o.map .str) := by
  cases o with
  | none => exact ⟨rfl, rfl⟩
  | some s => exact ⟨trivial, rfl, rfl⟩

/-- The opened fields of a record are less deep than the record. -/
theorem depth_lt_record (fs : List (String × Value)) :
    ∀ f ∈ fs, f.2.depth < (Value.record fs).depth :=
  Value.depth_record_le_iff.mp (Nat.le_refl _)

/-! ## Provider states -/

namespace ProviderState

/-- A state with exact parameters. -/
def Exact (s : ProviderState) : Prop := s.parameters.Exact

theorem check_of_get? {s : ProviderState} {fs : List (String × Json)} {params : Option Json}
    {n : Nat} (hname : Entries.get? fs "name" = some (.str s.description))
    (hparams : Entries.get? fs "params" = params) (hunused : Entries.get? fs "parameters" = none)
    (hfield : FieldRoundTrips anything n .null s.parameters params) :
    check (.ofJson (.obj fs)) = .passed s := by
  have hdescription : required (Value.ofJsonFields fs) ["name", "description"] text
      = .passed s.description := required_of_get? hname rfl
  have hparameters : withDefault (Value.ofJsonFields fs) ["params", "parameters"] .null anything
      = .passed s.parameters := withDefault_of_get? hparams (by simpa using hunused) hfield
  show ProviderState.mk <$> required (Value.ofJsonFields fs) _ _ <*> withDefault _ _ _ _ = _
  rw [hdescription, hparameters]
  rfl

/-- **A provider state comes back from its document.** -/
theorem roundTrips {s : ProviderState} (h : s.Exact) (hdepth : s.opened.depth < Value.levelLimit) :
    RoundTrips document check s.opened.depth s := by
  have hparameters : (openedValue s.parameters).depth < s.opened.depth :=
    depth_lt_record [("description", .str s.description), ("parameters", openedValue s.parameters)]
      ("parameters", openedValue s.parameters) (by simp)
  obtain ⟨params, hdocument, hfield⟩ :=
    fieldRoundTrips_plainIfAny h (Nat.lt_trans hparameters hdepth)
  have hname : BothForms [("description", .str s.description)] ["name"]
      [("name", .str s.description)] := BothForms.nil.field "description" "name" trivial rfl
  obtain ⟨hexact, heq⟩ :=
    (hname.fieldIfAny (List.cons_ne_nil _ _) "parameters" "params" hfield).obj (by decide)
  refine ⟨.obj ([("name", .str s.description)] ++ fieldIfAny "params" params), ?_, hexact, heq,
    check_of_get? rfl (by simp [Entries.get?_cons, get?_fieldIfAny])
      (by simp [Entries.get?_cons, get?_fieldIfAny]) hfield⟩
  unfold document
  rw [hdocument]
  rfl

end ProviderState

theorem roundTrips_states {states : List ProviderState} (h : ∀ s ∈ states, s.Exact)
    (hdepth : (statesOpened states).depth < Value.levelLimit) :
    RoundTrips statesDocument (tuple ProviderState.check) (statesOpened states).depth states := by
  obtain ⟨js, hdocuments, hexact, heq, hcheck⟩ :=
    roundTrips_documents (fun s hs => ProviderState.roundTrips (h s hs)) hdepth
  refine ⟨.arr js, ?_, hexact, heq, hcheck 0⟩
  unfold statesDocument
  rw [hdocuments]
  rfl

/-! ## Requests and responses -/

theorem FileReference.check_of_get? {f : FileReference} {fs : List (String × Json)}
    (hcontentType : Entries.get? fs "contentType" = some (.str f.contentType))
    (hfile : Entries.get? fs "file" = some (.str f.file))
    (hpart : Entries.get? fs "part" = f.part.map .str) :
    FileReference.check (.ofJson (.obj fs)) = .passed f := by
  have hcontentType' : required (Value.ofJsonFields fs) ["contentType", "content_type"] text
      = .passed f.contentType := required_of_get? hcontentType rfl
  have hfile' : required (Value.ofJsonFields fs) ["file"] text = .passed f.file :=
    required_of_get? hfile rfl
  have hpart' : withDefault (Value.ofJsonFields fs) ["part"] none (nullable text) = .passed f.part :=
    withDefault_of_get? hpart (by simp) (fieldRoundTrips_text f.part)
  show FileReference.mk <$> required (Value.ofJsonFields fs) _ _ <*> required _ _ _
    <*> withDefault _ _ _ _ = _
  rw [hcontentType', hfile', hpart']
  rfl

/-- A file reference may be left out, and comes back if it is there. -/
theorem FileReference.fieldRoundTrips (o : Option FileReference) :
    FieldRoundTrips (nullable FileReference.check) (openedOrNull FileReference.opened o).depth none o
      (o.map FileReference.document) := by
  cases o with
  | none => exact ⟨rfl, rfl⟩
  | some f =>
    have hbase := (BothForms.nil.field (v := .str f.contentType) (j := .str f.contentType)
      "content_type" "contentType" trivial rfl).field (v := .str f.file) (j := .str f.file)
      "file" "file" trivial rfl
    obtain ⟨hexact, heq⟩ := (hbase.fieldIfAny (List.cons_ne_nil _ _) "part" "part"
      (fieldRoundTrips_text f.part)).obj (by decide)
    have hcheck : FileReference.check (.ofJson f.document) = .passed f :=
      FileReference.check_of_get? rfl rfl
        (by simp [textIfAny, Entries.get?_cons, get?_fieldIfAny])
    exact ⟨hexact, heq, congrArg (Checked.map some) hcheck⟩

namespace PathSpec

/-- A path whose matcher, if it has one, is exact. -/
def Exact : PathSpec → Prop
  | .exactly _ => True
  | .matching m => m.Exact

/-- **A path comes back from its document.** -/
theorem roundTrips {p : PathSpec} (h : p.Exact) (hdepth : p.opened.depth < Value.levelLimit) :
    RoundTrips document check p.opened.depth p := by
  cases p with
  | exactly s => exact ⟨.str s, rfl, trivial, rfl, rfl⟩
  | matching m =>
    obtain ⟨⟨j, hdocument, hexact, heq, hcheck⟩, hobj⟩ := roundTrips_matcher h hdepth
    obtain ⟨fs, rfl⟩ := hobj j hdocument
    refine ⟨.obj fs, hdocument, hexact, heq, ?_⟩
    unfold check
    rw [hcheck]
    rfl

end PathSpec

namespace FieldSpec

/-- A header or query value whose matcher, if it has one, is exact. -/
def Exact : FieldSpec → Prop
  | .matching m => m.Exact
  | _ => True

theorem items_text (ss : List String) (i : Nat) :
    items text i (Value.ofJsonItems (ss.map .str)) = .passed ss := by
  induction ss generalizing i with
  | nil => rfl
  | cons s ss ih =>
    rw [List.map_cons, Value.ofJsonItems, items, ih]
    rfl

theorem exactItems_text (ss : List String) : Json.ExactItems (ss.map .str) := by
  induction ss with
  | nil => trivial
  | cons s ss ih => exact ⟨trivial, ih⟩

theorem ofJson_arr_text (ss : List String) :
    Value.ofJson (.arr (ss.map .str)) = .list (ss.map .str) := by
  refine congrArg Value.list ?_
  induction ss with
  | nil => rfl
  | cons s ss ih => exact congrArg (Value.str s :: ·) ih

/-- **A header or query value comes back from its document.** -/
theorem roundTrips {f : FieldSpec} (h : f.Exact) (hdepth : f.opened.depth < Value.levelLimit) :
    RoundTrips document check f.opened.depth f := by
  cases f with
  | exactly s => exact ⟨.str s, rfl, trivial, rfl, rfl⟩
  | each ss =>
    refine ⟨.arr (ss.map .str), rfl, exactItems_text ss, ?_, ?_⟩
    · rw [← Value.depth_ofJson, ofJson_arr_text]
      rfl
    · have hlist : list text (.ofJson (.arr (ss.map .str))) = .passed ss := items_text ss 0
      unfold check
      rw [hlist]
      rfl
  | matching m =>
    obtain ⟨⟨j, hdocument, hexact, heq, hcheck⟩, hobj⟩ := roundTrips_matcher h hdepth
    obtain ⟨fs, rfl⟩ := hobj j hdocument
    refine ⟨.obj fs, hdocument, hexact, heq, ?_⟩
    unfold check
    rw [hcheck]
    rfl

end FieldSpec

namespace FieldSpecs

/-- Headers or query values of distinct names whose matchers are exact. -/
structure Exact (fs : FieldSpecs) : Prop where
  nodup : fs.keys.Nodup
  fields : ∀ f ∈ fs, f.2.Exact

/-- **Headers or query values come back**, if there are any. -/
theorem fieldRoundTrips {o : Option FieldSpecs} (h : ∀ fs ∈ o, fs.Exact)
    (hdepth : (openedOrNull opened o).depth < Value.levelLimit) :
    ∃ j, documentIfAny document o = .ok j
      ∧ FieldRoundTrips check (openedOrNull opened o).depth none o j := by
  refine fieldRoundTrips_nullable fun fs hfs => ?_
  obtain rfl : o = some fs := hfs
  obtain ⟨hnodup, hfields⟩ := h fs rfl
  refine ⟨roundTrips_dictionary hnodup (fun f hf => FieldSpec.roundTrips (hfields f hf)) hdepth, ?_⟩
  unfold document
  cases plainFields FieldSpec.document fs with
  | error e => exact fun h => nomatch h
  | ok js => exact fun h => nomatch h

end FieldSpecs

namespace RequestSpec

/-- A request whose path, query values and headers are exact. -/
structure Exact (r : RequestSpec) : Prop where
  path : r.path.Exact
  query : ∀ fs ∈ r.query, fs.Exact
  headers : ∀ fs ∈ r.headers, fs.Exact

theorem check_of_get? {r : RequestSpec} {fs : List (String × Json)} {path : Json}
    {query headers : Option Json} {m n : Nat}
    (hmethod : Entries.get? fs "method" = some (.str r.method))
    (hpath : Entries.get? fs "path" = some path) (hquery : Entries.get? fs "query" = query)
    (hheaders : Entries.get? fs "headers" = headers)
    (hbody : Entries.get? fs "body" = r.body.map .str)
    (hfile : Entries.get? fs "file" = r.file.map FileReference.document)
    (hpathCheck : PathSpec.check (.ofJson path) = .passed r.path)
    (hqueryField : FieldRoundTrips FieldSpecs.check m none r.query query)
    (hheadersField : FieldRoundTrips FieldSpecs.check n none r.headers headers) :
    check (.ofJson (.obj fs)) = .passed r := by
  have hmethod' : withDefault (Value.ofJsonFields fs) ["method"] default.method text
      = .passed r.method :=
    withDefault_of_some hmethod rfl
  have hpath' : withDefault (Value.ofJsonFields fs) ["path"] default.path PathSpec.check
      = .passed r.path := withDefault_of_some hpath hpathCheck
  have hquery' : withDefault (Value.ofJsonFields fs) ["query"] none FieldSpecs.check
      = .passed r.query := withDefault_of_get? hquery (by simp) hqueryField
  have hheaders' : withDefault (Value.ofJsonFields fs) ["headers"] none FieldSpecs.check
      = .passed r.headers := withDefault_of_get? hheaders (by simp) hheadersField
  have hbody' : withDefault (Value.ofJsonFields fs) ["body"] none (nullable text)
      = .passed r.body := withDefault_of_get? hbody (by simp) (fieldRoundTrips_text r.body)
  have hfile' : withDefault (Value.ofJsonFields fs) ["file"] none (nullable FileReference.check)
      = .passed r.file :=
    withDefault_of_get? hfile (by simp) (FileReference.fieldRoundTrips r.file)
  show RequestSpec.mk <$> withDefault (Value.ofJsonFields fs) _ _ _ <*> withDefault _ _ _ _
    <*> withDefault _ _ _ _ <*> withDefault _ _ _ _ <*> withDefault _ _ _ _
    <*> withDefault _ _ _ _ = _
  rw [hmethod', hpath', hquery', hheaders', hbody', hfile']
  rfl

/-- **A request comes back from its document.** -/
theorem roundTrips {r : RequestSpec} (h : r.Exact) (hdepth : r.opened.depth < Value.levelLimit) :
    RoundTrips document check r.opened.depth r := by
  have hlt := depth_lt_record [("method", .str r.method), ("path", r.path.opened),
    ("query", openedOrNull FieldSpecs.opened r.query),
    ("headers", openedOrNull FieldSpecs.opened r.headers),
    ("body", textOrNull r.body), ("file", openedOrNull FileReference.opened r.file)]
  rw [show Value.record _ = r.opened from rfl] at hlt
  simp only [List.forall_mem_cons] at hlt
  obtain ⟨-, hpath, hquery, hheaders, -⟩ := hlt
  obtain ⟨path, hpathDocument, hpathExact, hpathEq, hpathCheck⟩ :=
    PathSpec.roundTrips h.path (Nat.lt_trans hpath hdepth)
  obtain ⟨query, hqueryDocument, hqueryField⟩ :=
    FieldSpecs.fieldRoundTrips h.query (Nat.lt_trans hquery hdepth)
  obtain ⟨headers, hheadersDocument, hheadersField⟩ :=
    FieldSpecs.fieldRoundTrips h.headers (Nat.lt_trans hheaders hdepth)
  have hbase : BothForms [("method", .str r.method), ("path", r.path.opened)] ["method", "path"]
      [("method", .str r.method), ("path", path)] :=
    (BothForms.nil.field (j := .str r.method) "method" "method" trivial rfl).field
      "path" "path" hpathExact hpathEq
  have hqueries := hbase.fieldIfAny (by simp) "query" "query" hqueryField
  have hhead := hqueries.fieldIfAny (by simp) "headers" "headers" hheadersField
  have hbody := hhead.fieldIfAny (by simp) "body" "body" (fieldRoundTrips_text r.body)
  have hfile := hbody.fieldIfAny (by simp) "file" "file" (FileReference.fieldRoundTrips r.file)
  obtain ⟨hexact, heq⟩ := hfile.obj (by decide)
  refine ⟨_, ?_, hexact, heq, ?_⟩
  · unfold document
    rw [hpathDocument, hqueryDocument, hheadersDocument]
    rfl
  · refine check_of_get? rfl rfl ?_ ?_ ?_ ?_ hpathCheck hqueryField hheadersField <;>
      simp [Entries.get?_append, Entries.get?_cons, get?_fieldIfAny]

end RequestSpec

namespace ResponseSpec

/-- A response whose headers are exact. -/
def Exact (r : ResponseSpec) : Prop := ∀ fs ∈ r.headers, fs.Exact

theorem check_of_get? {r : ResponseSpec} {fs : List (String × Json)} {headers : Option Json}
    {n : Nat} (hstatus : Entries.get? fs "status" = some (.int r.status))
    (hheaders : Entries.get? fs "headers" = headers)
    (hbody : Entries.get? fs "body" = r.body.map .str)
    (hfile : Entries.get? fs "file" = r.file.map FileReference.document)
    (hheadersField : FieldRoundTrips FieldSpecs.check n none r.headers headers) :
    check (.ofJson (.obj fs)) = .passed r := by
  have hstatus' : withDefault (Value.ofJsonFields fs) ["status"] default.status integer
      = .passed r.status := withDefault_of_some hstatus rfl
  have hheaders' : withDefault (Value.ofJsonFields fs) ["headers"] none FieldSpecs.check
      = .passed r.headers := withDefault_of_get? hheaders (by simp) hheadersField
  have hbody' : withDefault (Value.ofJsonFields fs) ["body"] none (nullable text)
      = .passed r.body := withDefault_of_get? hbody (by simp) (fieldRoundTrips_text r.body)
  have hfile' : withDefault (Value.ofJsonFields fs) ["file"] none (nullable FileReference.check)
      = .passed r.file :=
    withDefault_of_get? hfile (by simp) (FileReference.fieldRoundTrips r.file)
  show ResponseSpec.mk <$> withDefault (Value.ofJsonFields fs) _ _ _ <*> withDefault _ _ _ _
    <*> withDefault _ _ _ _ <*> withDefault _ _ _ _ = _
  rw [hstatus', hheaders', hbody', hfile']
  rfl

/-- **A response comes back from its document.** -/
theorem roundTrips {r : ResponseSpec} (h : r.Exact) (hdepth : r.opened.depth < Value.levelLimit) :
    RoundTrips document check r.opened.depth r := by
  have hlt := depth_lt_record [("status", .int r.status),
    ("headers", openedOrNull FieldSpecs.opened r.headers),
    ("body", textOrNull r.body), ("file", openedOrNull FileReference.opened r.file)]
  rw [show Value.record _ = r.opened from rfl] at hlt
  simp only [List.forall_mem_cons] at hlt
  obtain ⟨-, hheaders, -⟩ := hlt
  obtain ⟨headers, hheadersDocument, hheadersField⟩ :=
    FieldSpecs.fieldRoundTrips h (Nat.lt_trans hheaders hdepth)
  have hbase : BothForms [("status", .int r.status)] ["status"] [("status", .int r.status)] :=
    BothForms.nil.field "status" "status" trivial rfl
  have hhead := hbase.fieldIfAny (by simp) "headers" "headers" hheadersField
  have hbody := hhead.fieldIfAny (by simp) "body" "body" (fieldRoundTrips_text r.body)
  have hfile := hbody.fieldIfAny (by simp) "file" "file" (FileReference.fieldRoundTrips r.file)
  obtain ⟨hexact, heq⟩ := hfile.obj (by decide)
  refine ⟨_, ?_, hexact, heq, ?_⟩
  · unfold document
    rw [hheadersDocument]
    rfl
  · refine check_of_get? rfl ?_ ?_ ?_ hheadersField <;>
      simp [Entries.get?_append, Entries.get?_cons, get?_fieldIfAny]

end ResponseSpec

end Covenant
