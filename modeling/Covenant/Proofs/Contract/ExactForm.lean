import Covenant.Proofs.Contract.RoundTrip
import Covenant.Proofs.Value.Regular

/-!
# Writing what was read

A contract need not come back from its file: tuples come back as lists, nested
matchers as objects, an empty generator not at all, and of a contract with
interactions and messages only the interactions are written. But the file does
not change when it is read and written again (`Contract.text_stable`).

The reason is that a file has no more than one **exact form**. Whatever regular
record is written, its document is also the document of an exact record
(`ExactForm`), which comes back from it as it is. So what is read is the exact
form, and the document is its own. Part by part, the exact form of a value is
the value of its document, that of a matcher for a path or a header is the
matcher that its document gives, and that of a contract lists what is written
and nothing else.
-/

namespace Covenant

open Validation

/-! ## Exact forms -/

section Forms

variable {α : Type} {Exact : α → Prop} {document : α → Except Unwritable Json}
  {opened : α → Value}

/-- **An exact form for a document**: an exact record that has this document,
exact itself, and is nested as deep. -/
structure ExactForm (Exact : α → Prop) (document : α → Except Unwritable Json)
    (opened : α → Value) (j : Json) (a : α) : Prop where
  exact : Exact a
  document : document a = .ok j
  exactDocument : j.Exact
  depth : j.depth = (opened a).depth

/-- **The document of a field that may be left out**, if it is there, is exact and
of a known depth. -/
def LaidOut (n : Nat) : Option Json → Prop
  | some j => j.Exact ∧ j.depth = n
  | none => n = 0

theorem FieldRoundTrips.laidOut {check : Check α} {default a : α} {n : Nat} {j : Option Json}
    (h : FieldRoundTrips check n default a j) : LaidOut n j := by
  cases j with
  | none => exact h.2
  | some j => exact ⟨h.1, h.2.1⟩

theorem BothForms.optional {fields : List (String × Value)} {names : List String}
    {fs : List (String × Json)} {v : Value} {j : Option Json} (h : BothForms fields names fs)
    (hfields : fields ≠ []) (openedName name : String) (hj : LaidOut v.depth j) :
    BothForms (fields ++ [(openedName, v)]) (names ++ [name]) (fs ++ Covenant.fieldIfAny name j) := by
  cases j with
  | none =>
    obtain ⟨hkeys, hexact, hdepth⟩ := h.absent hfields openedName hj
    rw [show fs ++ Covenant.fieldIfAny name none = fs from List.append_nil fs]
    exact ⟨hkeys.trans (List.sublist_append_left names [name]), hexact, hdepth⟩
  | some j => exact h.field openedName name hj.1 hj.2

/-- **An exact form for something that may be absent.** -/
structure ExactFormIfAny (Exact : α → Prop) (document : α → Except Unwritable Json)
    (opened : α → Value) (j : Option Json) (o : Option α) : Prop where
  exact : ∀ a ∈ o, Exact a
  document : documentIfAny document o = .ok j
  laidOut : LaidOut (openedOrNull opened o).depth j

theorem exists_exactFormIfAny {o : Option α} {j : Option Json}
    (h : ∀ a ∈ o, ∀ j, document a = .ok j → ∃ a', ExactForm Exact document opened j a')
    (hdocument : documentIfAny document o = .ok j) :
    ∃ o', ExactFormIfAny Exact document opened j o' := by
  cases o with
  | none =>
    cases hdocument
    exact ⟨none, fun a ha => (nomatch ha), rfl, rfl⟩
  | some a =>
    obtain ⟨j, hj, rfl⟩ := exists_of_map_eq_ok hdocument
    obtain ⟨a', hexact, hdocument', hexactDocument, hdepth⟩ := h a rfl j hj
    refine ⟨some a', fun b hb => ?_, ?_, hexactDocument, hdepth⟩
    · obtain rfl := Option.mem_some.mp hb
      exact hexact
    · rw [documentIfAny, hdocument']
      rfl

/-- **The items of a list in exact form**, one by one. -/
theorem exists_exactForm_documents [Model α] {as : List α} {js : List Json}
    (h : ∀ a ∈ as, ∀ j, Model.document a = .ok j →
      ∃ a', ExactForm Exact Model.document Model.opened j a')
    (hdocuments : Model.documents as = .ok js) :
    ∃ as' : List α, as'.isEmpty = as.isEmpty ∧ (∀ a ∈ as', Exact a)
      ∧ Model.documents as' = .ok js ∧ (Json.arr js).Exact
      ∧ (Json.arr js).depth = (Value.list (as'.map Model.opened)).depth := by
  induction as generalizing js with
  | nil =>
    cases hdocuments
    exact ⟨[], rfl, fun a ha => (nomatch ha), rfl, trivial, rfl⟩
  | cons a as ih =>
    obtain ⟨ha, has⟩ := List.forall_mem_cons.mp h
    obtain ⟨j, rest, hj, hrest, rfl⟩ := Model.documents_cons_eq_ok_iff.mp hdocuments
    obtain ⟨a', hexact, hdocument, hexactDocument, hdepth⟩ := ha j hj
    obtain ⟨as', -, hexacts, hdocuments', hexactDocuments, hdepths⟩ := ih has hrest
    refine ⟨a' :: as', rfl, List.forall_mem_cons.mpr ⟨hexact, hexacts⟩,
      Model.documents_cons_eq_ok_iff.mpr ⟨j, rest, hdocument, hdocuments', rfl⟩,
      ⟨hexactDocument, hexactDocuments⟩, ?_⟩
    show max (j.depth + 1) (Json.arr rest).depth = _
    rw [hdepth, hdepths]
    rfl

/-- The entries of a dictionary in exact form, one by one. -/
theorem exists_exactForm_plainFields {fs : List (String × α)} {js : List (String × Json)}
    (h : ∀ f ∈ fs, ∀ j, document f.2 = .ok j → ∃ a', ExactForm Exact document opened j a')
    (hdocument : plainFields document fs = .ok js) :
    ∃ fs' : List (String × α), fs'.map Prod.fst = fs.map Prod.fst
      ∧ js.map Prod.fst = fs.map Prod.fst ∧ (∀ f ∈ fs', Exact f.2)
      ∧ plainFields document fs' = .ok js ∧ Json.ExactFields js
      ∧ (Json.obj js).depth = (Value.record (fs'.map fun f => (f.1, opened f.2))).depth := by
  induction fs generalizing js with
  | nil =>
    cases hdocument
    exact ⟨[], rfl, rfl, fun f hf => (nomatch hf), rfl, trivial, rfl⟩
  | cons f fs ih =>
    obtain ⟨k, a⟩ := f
    obtain ⟨ha, hfs⟩ := List.forall_mem_cons.mp h
    obtain ⟨j, rest, hj, hrest, rfl⟩ := plainFields_cons_eq_ok_iff.mp hdocument
    obtain ⟨a', hexact, hdocument', hexactDocument, hdepth⟩ := ha j hj
    obtain ⟨fs', hnames, hkeys, hexacts, hdocuments, hexactDocuments, hdepths⟩ := ih hfs hrest
    refine ⟨(k, a') :: fs', congrArg (k :: ·) hnames, congrArg (k :: ·) hkeys,
      List.forall_mem_cons.mpr ⟨hexact, hexacts⟩,
      plainFields_cons_eq_ok_iff.mpr ⟨j, rest, hdocument', hdocuments, rfl⟩,
      ⟨hexactDocument, hexactDocuments⟩, ?_⟩
    show max (j.depth + 1) (Json.obj rest).depth = _
    rw [hdepth, hdepths]
    rfl

/-- **A dictionary in exact form**, if its keys are distinct. -/
theorem exists_exactForm_dictionary {fs : Entries String α} {j : Json} (hkeys : fs.keys.Nodup)
    (h : ∀ f ∈ fs, ∀ j, document f.2 = .ok j → ∃ a', ExactForm Exact document opened j a')
    (hdocument : (plainFields document fs).map Json.obj = .ok j) :
    ∃ fs' : Entries String α, ExactForm
      (fun fs : Entries String α => fs.keys.Nodup ∧ ∀ f ∈ fs, Exact f.2)
      (fun fs => (plainFields document fs).map .obj)
      (fun fs => .record (fs.map fun f => (f.1, opened f.2))) j fs' := by
  obtain ⟨js, hjs, rfl⟩ := exists_of_map_eq_ok hdocument
  obtain ⟨fs', hnames, hjsNames, hexact, hdocument', hexactDocument, hdepth⟩ :=
    exists_exactForm_plainFields h hjs
  have hnodup : (fs.map Prod.fst).Nodup := hkeys
  refine ⟨fs', ⟨?_, hexact⟩, ?_, ⟨by rwa [hjsNames], hexactDocument⟩, hdepth⟩
  · show (fs'.map Prod.fst).Nodup
    rwa [hnames]
  · rw [hdocument']
    rfl

end Forms

/-! ## Values and provider states -/

/-- **The exact form of a regular value** is the value of its document. -/
theorem exactForm_plain {v : Value} (h : v.Regular) {j : Json} (hdocument : v.plain = .ok j) :
    ExactForm Value.Exact Value.plain openedValue j (.ofJson j) := by
  obtain ⟨hexact, hdepth⟩ := Value.exact_of_plainWithin v h hdocument
  refine ⟨⟨j, hexact, rfl⟩, Value.plainWithin_ofJson j hexact hdepth, hexact, ?_⟩
  rw [openedValue, Value.unwrapMatchers_ofJson, Value.depth_ofJson]

/-- A regular value that is there is not written as nothing. -/
theorem Value.plainWithin_ne_null {v : Value} (h : v.Regular) (hv : v ≠ .null) (room : Nat) :
    plainWithin room v ≠ .ok .null := by
  intro hplain
  cases v with
  | null => exact hv rfl
  | double d => exact h
  | bytes bs => exact h
  | bool b => cases (plainLeaf_eq_ok hplain).2
  | int i => cases (plainLeaf_eq_ok hplain).2
  | str s => cases (plainLeaf_eq_ok hplain).2
  | list vs =>
    obtain ⟨js, -, hjs⟩ := exists_of_map_eq_ok (plainLeaf_eq_ok hplain).2
    cases hjs
  | tuple vs =>
    obtain ⟨js, -, hjs⟩ := exists_of_map_eq_ok (plainLeaf_eq_ok hplain).2
    cases hjs
  | dict es =>
    obtain ⟨js, -, hjs⟩ := exists_of_map_eq_ok (plainLeaf_eq_ok hplain).2
    cases hjs
  | matcher m =>
    obtain ⟨js, -, hjs⟩ := exists_of_map_eq_ok (plainLeaf_eq_ok hplain).2
    cases hjs

theorem plainIfAny_ofJson {j : Json} (hj : j ≠ .null) :
    plainIfAny (.ofJson j) = (Value.ofJson j).plain.map some := by
  cases j with
  | null => exact absurd rfl hj
  | _ => rfl

/-- **The exact form of a regular value that may be absent.** -/
theorem exists_exactForm_plainIfAny {v : Value} (h : v.Regular) {j : Option Json}
    (hdocument : plainIfAny v = .ok j) :
    ∃ v' : Value, v'.Exact ∧ plainIfAny v' = .ok j ∧ LaidOut (openedValue v').depth j := by
  by_cases hv : v = .null
  · subst hv
    cases hdocument
    exact ⟨.null, ⟨.null, trivial, rfl⟩, rfl, rfl⟩
  · have hplain : plainIfAny v = v.plain.map some := by
      cases v with
      | null => exact absurd rfl hv
      | _ => rfl
    rw [hplain] at hdocument
    obtain ⟨j, hj, rfl⟩ := exists_of_map_eq_ok hdocument
    obtain ⟨hexact, hdocument', hexactDocument, hdepth⟩ := exactForm_plain h hj
    have hnull : j ≠ .null := by
      rintro rfl
      exact Value.plainWithin_ne_null h hv _ hj
    refine ⟨.ofJson j, hexact, ?_, hexactDocument, hdepth⟩
    rw [plainIfAny_ofJson hnull, hdocument']
    rfl

namespace ProviderState

/-- A state with regular parameters. -/
def Regular (s : ProviderState) : Prop := s.parameters.Regular

/-- **The exact form of a provider state.** -/
theorem exists_exactForm {s : ProviderState} (h : s.Regular) {j : Json}
    (hdocument : s.document = .ok j) : ∃ s', ExactForm Exact document opened j s' := by
  unfold document at hdocument
  cases hparameters : plainIfAny s.parameters with
  | error e =>
    rw [hparameters] at hdocument
    cases hdocument
  | ok params =>
    rw [hparameters] at hdocument
    cases hdocument
    obtain ⟨v, hexact, hplain, hlaidOut⟩ := exists_exactForm_plainIfAny h hparameters
    have hname : BothForms [("description", .str s.description)] ["name"]
        [("name", .str s.description)] := BothForms.nil.field "description" "name" trivial rfl
    obtain ⟨hexactDocument, hdepth⟩ :=
      (hname.optional (List.cons_ne_nil _ _) "parameters" "params" hlaidOut).obj (by decide)
    refine ⟨⟨s.description, v⟩, hexact, ?_, hexactDocument, hdepth⟩
    unfold document
    rw [hplain]

end ProviderState

theorem exists_exactForm_states {states : List ProviderState} (h : ∀ s ∈ states, s.Regular)
    {j : Json} (hdocument : statesDocument states = .ok j) :
    ∃ states', ExactForm (fun states => ∀ s ∈ states, s.Exact) statesDocument statesOpened j
      states' := by
  obtain ⟨js, hjs, rfl⟩ := exists_of_map_eq_ok hdocument
  obtain ⟨states', -, hexact, hdocuments, hexactDocument, hdepth⟩ :=
    exists_exactForm_documents (fun s hs j => ProviderState.exists_exactForm (h s hs)) hjs
  refine ⟨states', hexact, ?_, hexactDocument, hdepth⟩
  unfold statesDocument
  rw [hdocuments]
  rfl

/-! ## Requests and responses -/

/-- **The exact form of a regular matcher** is the matcher of its document. -/
theorem exists_exactForm_matcher {m : Matcher} (h : (Value.matcher m).Regular) {j : Json}
    (hdocument : m.document = .ok j) :
    ∃ m', ExactForm MatcherOf.Exact MatcherOf.document (fun m => openedValue (.matcher m)) j m' := by
  obtain ⟨mj, hdistinct, rfl, hvalue, hattributes, hdepth⟩ :=
    MatcherOf.exists_json_of_document h hdocument
  refine ⟨mj.mapParts .ofJson, ⟨hdistinct.mapParts _, ⟨mj.value, hvalue, rfl⟩, fun a ha => ?_⟩,
    MatcherOf.document_mapParts hdistinct hvalue hattributes hdepth,
    MatcherOf.exact_json hdistinct hvalue hattributes, ?_⟩
  · obtain ⟨b, hb, rfl⟩ := List.mem_map.mp ha
    exact ⟨b.2, Json.exactFields_iff.mp hattributes b hb, rfl⟩
  · rw [MatcherOf.opened_mapParts hdistinct, Value.depth_ofJson]

namespace PathSpec

/-- A path whose matcher, if it has one, is regular. -/
def Regular : PathSpec → Prop
  | .exactly _ => True
  | .matching m => (Value.matcher m).Regular

/-- **The exact form of a path.** -/
theorem exists_exactForm {p : PathSpec} (h : p.Regular) {j : Json} (hdocument : p.document = .ok j) :
    ∃ p', ExactForm Exact document opened j p' := by
  cases p with
  | exactly s =>
    cases hdocument
    exact ⟨.exactly s, trivial, rfl, trivial, rfl⟩
  | matching m =>
    obtain ⟨m', hexact, hdocument', hexactDocument, hdepth⟩ := exists_exactForm_matcher h hdocument
    exact ⟨.matching m', hexact, hdocument', hexactDocument, hdepth⟩

end PathSpec

namespace FieldSpec

/-- A header or query value whose matcher, if it has one, is regular. -/
def Regular : FieldSpec → Prop
  | .matching m => (Value.matcher m).Regular
  | _ => True

/-- **The exact form of a header or query value.** -/
theorem exists_exactForm {f : FieldSpec} (h : f.Regular) {j : Json}
    (hdocument : f.document = .ok j) : ∃ f', ExactForm Exact document opened j f' := by
  cases f with
  | exactly s =>
    cases hdocument
    exact ⟨.exactly s, trivial, rfl, trivial, rfl⟩
  | each ss =>
    cases hdocument
    refine ⟨.each ss, trivial, rfl, exactItems_text ss, ?_⟩
    rw [← Value.depth_ofJson, ofJson_arr_text]
    rfl
  | matching m =>
    obtain ⟨m', hexact, hdocument', hexactDocument, hdepth⟩ := exists_exactForm_matcher h hdocument
    exact ⟨.matching m', hexact, hdocument', hexactDocument, hdepth⟩

end FieldSpec

namespace FieldSpecs

/-- Headers or query values of distinct names whose matchers are regular. -/
structure Regular (fs : FieldSpecs) : Prop where
  nodup : fs.keys.Nodup
  fields : ∀ f ∈ fs, f.2.Regular

/-- **The exact form of headers or query values**, if there are any. -/
theorem exists_exactForm {o : Option FieldSpecs} (h : ∀ fs ∈ o, fs.Regular) {j : Option Json}
    (hdocument : documentIfAny document o = .ok j) :
    ∃ o', ExactFormIfAny Exact document opened j o' := by
  refine exists_exactFormIfAny (fun fs hfs j hj => ?_) hdocument
  obtain ⟨hnodup, hfields⟩ := h fs hfs
  obtain ⟨fs', ⟨hnodup', hexact⟩, hdocument', hexactDocument, hdepth⟩ :=
    exists_exactForm_dictionary hnodup (fun f hf j => FieldSpec.exists_exactForm (hfields f hf)) hj
  exact ⟨fs', ⟨hnodup', hexact⟩, hdocument', hexactDocument, hdepth⟩

end FieldSpecs

namespace RequestSpec

/-- A request whose path, query values and headers are regular. -/
structure Regular (r : RequestSpec) : Prop where
  path : r.path.Regular
  query : ∀ fs ∈ r.query, fs.Regular
  headers : ∀ fs ∈ r.headers, fs.Regular

/-- **The exact form of a request.** -/
theorem exists_exactForm {r : RequestSpec} (h : r.Regular) {j : Json}
    (hdocument : r.document = .ok j) : ∃ r', ExactForm Exact document opened j r' := by
  unfold document at hdocument
  obtain ⟨path, hpath, hdocument⟩ := exists_of_bind_eq_ok hdocument
  obtain ⟨query, hquery, hdocument⟩ := exists_of_bind_eq_ok hdocument
  obtain ⟨headers, hheaders, hdocument⟩ := exists_of_bind_eq_ok hdocument
  obtain ⟨p, hpathExact, hpath', hpathDocument, hpathDepth⟩ := PathSpec.exists_exactForm h.path hpath
  obtain ⟨qs, hqueryExact, hquery', hqueryLaidOut⟩ := FieldSpecs.exists_exactForm h.query hquery
  obtain ⟨hs, hheadersExact, hheaders', hheadersLaidOut⟩ :=
    FieldSpecs.exists_exactForm h.headers hheaders
  have hbase : BothForms [("method", .str r.method), ("path", p.opened)] ["method", "path"]
      [("method", .str r.method), ("path", path)] :=
    (BothForms.nil.field (j := .str r.method) "method" "method" trivial rfl).field
      "path" "path" hpathDocument hpathDepth
  have hqueries := hbase.optional (by simp) "query" "query" hqueryLaidOut
  have hhead := hqueries.optional (by simp) "headers" "headers" hheadersLaidOut
  have hbody := hhead.optional (by simp) "body" "body" (fieldRoundTrips_text r.body).laidOut
  have hfile := hbody.optional (by simp) "file" "file" (FileReference.fieldRoundTrips r.file).laidOut
  obtain ⟨hexactDocument, hdepth⟩ := hfile.obj (by decide)
  cases hdocument
  refine ⟨⟨r.method, p, qs, hs, r.body, r.file⟩, ⟨hpathExact, hqueryExact, hheadersExact⟩, ?_,
    hexactDocument, hdepth⟩
  unfold document
  rw [hpath', hquery', hheaders']
  rfl

end RequestSpec

namespace ResponseSpec

/-- A response whose headers are regular. -/
def Regular (r : ResponseSpec) : Prop := ∀ fs ∈ r.headers, fs.Regular

/-- **The exact form of a response.** -/
theorem exists_exactForm {r : ResponseSpec} (h : r.Regular) {j : Json}
    (hdocument : r.document = .ok j) : ∃ r', ExactForm Exact document opened j r' := by
  unfold document at hdocument
  obtain ⟨headers, hheaders, hdocument⟩ := exists_of_bind_eq_ok hdocument
  obtain ⟨hs, hheadersExact, hheaders', hheadersLaidOut⟩ := FieldSpecs.exists_exactForm h hheaders
  have hbase : BothForms [("status", .int r.status)] ["status"] [("status", .int r.status)] :=
    BothForms.nil.field "status" "status" trivial rfl
  have hhead := hbase.optional (by simp) "headers" "headers" hheadersLaidOut
  have hbody := hhead.optional (by simp) "body" "body" (fieldRoundTrips_text r.body).laidOut
  have hfile := hbody.optional (by simp) "file" "file" (FileReference.fieldRoundTrips r.file).laidOut
  obtain ⟨hexactDocument, hdepth⟩ := hfile.obj (by decide)
  cases hdocument
  refine ⟨⟨r.status, hs, r.body, r.file⟩, hheadersExact, ?_, hexactDocument, hdepth⟩
  unfold document
  rw [hheaders']
  rfl

end ResponseSpec

/-! ## Interactions and messages -/

namespace Interaction

/-- An interaction all of whose parts are regular. -/
structure Regular (i : Interaction) : Prop where
  providerStates : ∀ s ∈ i.providerStates, s.Regular
  request : i.request.Regular
  response : i.response.Regular

/-- **The exact form of an interaction.** -/
theorem exists_exactForm {i : Interaction} (h : i.Regular) {j : Json}
    (hdocument : i.document = .ok j) : ∃ i', ExactForm Exact document opened j i' := by
  unfold document at hdocument
  obtain ⟨states, hstates, hdocument⟩ := exists_of_bind_eq_ok hdocument
  obtain ⟨request, hrequest, hdocument⟩ := exists_of_bind_eq_ok hdocument
  obtain ⟨response, hresponse, hdocument⟩ := exists_of_bind_eq_ok hdocument
  obtain ⟨ss, hstatesExact, hstates', hstatesDocument, hstatesDepth⟩ :=
    exists_exactForm_states h.providerStates hstates
  obtain ⟨q, hrequestExact, hrequest', hrequestDocument, hrequestDepth⟩ :=
    RequestSpec.exists_exactForm h.request hrequest
  obtain ⟨a, hresponseExact, hresponse', hresponseDocument, hresponseDepth⟩ :=
    ResponseSpec.exists_exactForm h.response hresponse
  have hdescription : BothForms [("description", .str i.description)] ["description"]
      [("description", .str i.description)] :=
    BothForms.nil.field "description" "description" trivial rfl
  have hconditions :=
    hdescription.field "provider_states" "providerStates" hstatesDocument hstatesDepth
  have hasked := hconditions.field "request" "request" hrequestDocument hrequestDepth
  have hanswered := hasked.field "response" "response" hresponseDocument hresponseDepth
  obtain ⟨hexactDocument, hdepth⟩ := hanswered.obj (by decide)
  cases hdocument
  refine ⟨⟨i.description, ss, q, a⟩, ⟨hstatesExact, hrequestExact, hresponseExact⟩, ?_,
    hexactDocument, hdepth⟩
  unfold document
  rw [hstates', hrequest', hresponse']
  rfl

end Interaction

/-- Entries with distinct keys and regular values. -/
structure RegularFields (es : Entries String Value) : Prop where
  nodup : es.keys.Nodup
  values : ∀ e ∈ es, e.2.Regular

namespace Message

/-- A message all of whose parts are regular. -/
structure Regular (m : Message) : Prop where
  contents : m.contents.Regular
  metadata : ∀ es ∈ m.metadata, RegularFields es
  providerStates : ∀ s ∈ m.providerStates, s.Regular

/-- The exact form of the metadata of a message, if there are any. -/
theorem exists_exactForm_metadata {o : Option (Entries String Value)}
    (h : ∀ es ∈ o, RegularFields es) {j : Option Json}
    (hdocument : documentIfAny (fun fs => (plainFields Value.plain fs).map .obj) o = .ok j) :
    ∃ o', ExactFormIfAny ExactEntries (fun fs => (plainFields Value.plain fs).map .obj)
      openedFields j o' := by
  refine exists_exactFormIfAny (fun es hes j hj => ?_) hdocument
  obtain ⟨hnodup, hvalues⟩ := h es hes
  obtain ⟨es', ⟨hnodup', hexact⟩, hdocument', hexactDocument, hdepth⟩ :=
    exists_exactForm_dictionary hnodup (fun e he j hj => ⟨_, exactForm_plain (hvalues e he) hj⟩) hj
  exact ⟨es', ⟨hnodup', hexact⟩, hdocument', hexactDocument, hdepth⟩

/-- **The exact form of a message.** -/
theorem exists_exactForm {m : Message} (h : m.Regular) {j : Json}
    (hdocument : m.document = .ok j) : ∃ m', ExactForm Exact document opened j m' := by
  unfold document at hdocument
  obtain ⟨contents, hcontents, hdocument⟩ := exists_of_bind_eq_ok hdocument
  obtain ⟨metadata, hmetadata, hdocument⟩ := exists_of_bind_eq_ok hdocument
  obtain ⟨states, hstates, hdocument⟩ := exists_of_bind_eq_ok hdocument
  obtain ⟨v, hcontentsExact, hcontents', hcontentsLaidOut⟩ :=
    exists_exactForm_plainIfAny h.contents hcontents
  obtain ⟨es, hmetadataExact, hmetadata', hmetadataLaidOut⟩ :=
    exists_exactForm_metadata h.metadata hmetadata
  obtain ⟨ss, hstatesExact, hstates', hstatesDocument, hstatesDepth⟩ :=
    exists_exactForm_states h.providerStates hstates
  have hdescription : BothForms [("description", .str m.description)] ["description"]
      [("description", .str m.description)] :=
    BothForms.nil.field "description" "description" trivial rfl
  have hheld := hdescription.optional (by simp) "contents" "contents" hcontentsLaidOut
  have htold := hheld.optional (by simp) "metadata" "metadata" hmetadataLaidOut
  have hconditions := htold.field "provider_states" "providerStates" hstatesDocument hstatesDepth
  obtain ⟨hexactDocument, hdepth⟩ := hconditions.obj (by decide)
  cases hdocument
  refine ⟨⟨m.description, v, es, ss⟩, ⟨hcontentsExact, hmetadataExact, hstatesExact⟩, ?_,
    hexactDocument, hdepth⟩
  unfold document
  rw [hcontents', hmetadata', hstates']
  rfl

end Message

/-! ## Contracts -/

namespace Contract

/-- **A regular contract**: its untyped values and its matchers are regular. It
may hold interactions and messages at once. -/
structure Regular (c : Contract) : Prop where
  interactions : ∀ i ∈ c.interactions, i.Regular
  messages : ∀ m ∈ c.messages, m.Regular
  metadata : RegularFields c.metadata

theorem regularEntries_of_texts {es : Entries String Value} (h : ∀ e ∈ es, e.2.Regular) :
    Value.RegularEntries (es.map fun e => (Key.str e.1, e.2)) := by
  induction es with
  | nil => trivial
  | cons e es ih =>
    obtain ⟨he, hes⟩ := List.forall_mem_cons.mp h
    exact ⟨⟨e.1, rfl⟩, he, ih hes⟩

theorem regular_record {es : Entries String Value} (h : RegularFields es) :
    (Value.record es).Regular := by
  have hkeys : (es.map fun e => (Key.str e.1, e.2)).map Prod.fst = (es.map Prod.fst).map Key.str := by
    rw [List.map_map, List.map_map]
    rfl
  refine ⟨?_, regularEntries_of_texts h.values⟩
  rw [hkeys]
  exact List.Pairwise.map Key.str (fun _ _ hne heq => hne (Key.str.inj heq)) h.nodup

/-- **The exact form of a contract's metadata**: the values of their document. -/
theorem exists_exactForm_metadata {es : Entries String Value} (h : RegularFields es) {j : Json}
    (hstrict : (Value.record es).strict? = some j) :
    ∃ es', ExactEntries es' ∧ (Value.record es').strict? = some j
      ∧ j.depth = (openedFields es').depth := by
  have hexact := Value.exact_of_strict? _ (regular_record h) hstrict
  obtain ⟨fs, -, rfl⟩ := Option.map_eq_some_iff.mp hstrict
  have hkeys : (fs.map fun f => (f.1, Value.ofJson f.2)).map Prod.fst = fs.map Prod.fst := by
    rw [List.map_map]
    rfl
  have hopened : openedFields (fs.map fun f => (f.1, .ofJson f.2)) = .ofJson (.obj fs) := by
    rw [← Value.record_map_ofJson, openedFields, List.map_map]
    refine congrArg Value.record (List.map_congr_left fun f _ => ?_)
    exact congrArg (Prod.mk f.1) (Value.unwrapMatchers_ofJson false f.2)
  refine ⟨fs.map fun f => (f.1, .ofJson f.2), ⟨?_, fun e he => ?_⟩, ?_, ?_⟩
  · show ((fs.map fun f => (f.1, Value.ofJson f.2)).map Prod.fst).Nodup
    rw [hkeys]
    exact hexact.1
  · obtain ⟨f, hf, rfl⟩ := List.mem_map.mp he
    exact ⟨f.2, Json.exactFields_iff.mp hexact.2 f hf, rfl⟩
  · rw [Value.record_map_ofJson, Value.strict?_ofJson]
  · rw [hopened, Value.depth_ofJson]

/-- **What a contract lists, in exact form**: whatever else the contract holds is
gone. -/
theorem exists_exactForm_listed {c : Contract} (h : c.Regular) {name : String} {units : Json}
    (hlisted : c.listed = .ok (name, units)) :
    ∃ interactions messages, (interactions = [] ∨ messages = [])
      ∧ (∀ i ∈ interactions, i.Exact) ∧ (∀ m ∈ messages, m.Exact)
      ∧ (Value.list (interactions.map Interaction.opened)).depth ≤ units.depth
      ∧ (Value.list (messages.map Message.opened)).depth ≤ units.depth
      ∧ ∀ consumer provider metadata,
        listed ⟨consumer, provider, interactions, messages, metadata⟩ = .ok (name, units) := by
  unfold listed at hlisted
  by_cases hmessages : (c.interactions.isEmpty && !c.messages.isEmpty) = true
  · rw [if_pos hmessages] at hlisted
    obtain ⟨js, hjs, hnamed⟩ := exists_of_map_eq_ok hlisted
    obtain ⟨ms, hempty, hexact, hdocuments, hexactDocuments, hdepth⟩ :=
      exists_exactForm_documents (fun m hm j => Message.exists_exactForm (h.messages m hm)) hjs
    rw [Json.merged_of_exact _ hexactDocuments] at hnamed
    cases hnamed
    refine ⟨[], ms, .inl rfl, fun i hi => (nomatch hi), hexact, Nat.zero_le _,
      Nat.le_of_eq hdepth.symm, fun consumer provider metadata => ?_⟩
    unfold listed
    rw [if_pos (by rw [hempty]; exact (Bool.and_eq_true_iff.mp hmessages).2), hdocuments, Except.map,
      Json.merged_of_exact _ hexactDocuments]
  · rw [if_neg hmessages] at hlisted
    obtain ⟨js, hjs, hnamed⟩ := exists_of_map_eq_ok hlisted
    obtain ⟨is, -, hexact, hdocuments, hexactDocuments, hdepth⟩ :=
      exists_exactForm_documents (fun i hi j => Interaction.exists_exactForm (h.interactions i hi)) hjs
    rw [Json.merged_of_exact _ hexactDocuments] at hnamed
    cases hnamed
    refine ⟨is, [], .inr rfl, hexact, fun m hm => (nomatch hm), Nat.le_of_eq hdepth.symm,
      Nat.zero_le _, fun consumer provider metadata => ?_⟩
    unfold listed
    rw [if_neg (by simp), hdocuments, Except.map, Json.merged_of_exact _ hexactDocuments]

/-- **The exact form of a contract**: an exact contract whose file has the same
document. It is not nested deeper than the document. -/
theorem exists_exactForm {c : Contract} (h : c.Regular) {j : Json} (hdocument : c.fileDocument = .ok j) :
    ∃ c' : Contract, c'.Exact ∧ c'.fileDocument = .ok j ∧ (Model.opened c').depth ≤ j.depth := by
  unfold fileDocument at hdocument
  cases hlisted : c.listed with
  | error e =>
    rw [hlisted] at hdocument
    cases hdocument
  | ok listed =>
    obtain ⟨name, units⟩ := listed
    rw [hlisted] at hdocument
    dsimp only at hdocument
    cases hstrict : (Value.record c.metadata).strict? with
    | none =>
      rw [hstrict] at hdocument
      cases hdocument
    | some metadata =>
      rw [hstrict] at hdocument
      cases hdocument
      obtain ⟨is, ms, hone, his, hms, hisDepth, hmsDepth, hlisted'⟩ :=
        exists_exactForm_listed h hlisted
      obtain ⟨es, hes, hstrict', hesDepth⟩ := exists_exactForm_metadata h.metadata hstrict
      refine ⟨⟨c.consumer, c.provider, is, ms, es⟩, ⟨hone, his, hms, hes⟩, ?_, ?_⟩
      · unfold fileDocument
        rw [hlisted']
        dsimp only
        rw [hstrict']
      · -- every field of the contract laid open is there in the document, or empty
        have hfields := Json.depthFields_le_iff.mp (Nat.le_refl (Json.obj
          [("consumer", c.consumer.document), ("provider", c.provider.document), (name, units),
            ("metadata", metadata)]).depth)
        simp only [List.forall_mem_cons] at hfields
        obtain ⟨hconsumer, hprovider, hunits, hmetadata, -⟩ := hfields
        refine Value.depth_record_le_iff.mpr ?_
        simp only [List.forall_mem_cons]
        exact ⟨hconsumer, hprovider, Nat.lt_of_le_of_lt hisDepth hunits,
          Nat.lt_of_le_of_lt hmsDepth hunits, hesDepth ▸ hmetadata, List.forall_mem_nil _⟩

/-- **Writing what was read gives the same text.** The text of a regular contract,
if it has one that is not nested deeper than the reader goes, is read as a
contract, and that contract has the same text. -/
theorem text_stable {c : Contract} (h : c.Regular) {t : String} (htext : c.text = .ok t)
    (hdepth : ∀ j, c.fileDocument = .ok j → j.depth ≤ Json.depthLimit) (location : String) :
    ∃ c', parse t location = .ok c' ∧ c'.text = .ok t := by
  obtain ⟨j, hdocument, hintegers, rfl⟩ := text_eq_ok_iff.mp htext
  obtain ⟨c', hexact, hdocument', hopened⟩ := exists_exactForm h hdocument
  have hlevels : (Model.opened c').depth < Value.levelLimit :=
    Nat.lt_of_le_of_lt (Nat.le_trans hopened (hdepth j hdocument)) (by decide)
  obtain ⟨j', hj', hexactDocument, -, hcheck⟩ := exists_fileDocument hexact hlevels
  obtain rfl := Except.ok.inj (hdocument'.symm.trans hj')
  exact ⟨c', parse_of_check hexactDocument hintegers (hdepth j hdocument) hcheck location,
    text_eq_ok_iff.mpr ⟨j, hdocument', hintegers, rfl⟩⟩

/-- A contract that does not come back from its file: it has interactions and a
message, a tuple, matchers within a matcher and empty generators. -/
def mixedContract : Contract where
  consumer := ⟨"shop"⟩
  provider := ⟨"stock"⟩
  interactions := [
    { description := "an item is looked up"
      providerStates := [⟨"an item exists", .tuple [.null,
        .matcher ⟨"type", .matcher ⟨"integer", .int 42, [], some ""⟩, [("min", .tuple [])], none⟩]⟩]
      request :=
        { RequestSpec.default with
          path := .matching ⟨"regex", .tuple [.str "/"],
            [("regex", .matcher ⟨"type", .str "/", [], none⟩)], some ""⟩ }
      response := .default }]
  messages := [⟨"an item is gone", .dict [(.str "id", .bool true)], none, []⟩]
  metadata := [("sizes", .tuple [.int 1, .int 2])]

/-- The text of that contract is the text of what is read. -/
theorem text_stable_mixed :
    mixedContract.Regular
      ∧ (∀ j, mixedContract.fileDocument = .ok j → j.depth ≤ Json.depthLimit)
      ∧ ∃ t c', mixedContract.text = .ok t ∧ parse t "shop-stock.json" = .ok c'
        ∧ c'.text = .ok t := by
  have hregular : mixedContract.Regular :=
    { interactions := List.forall_mem_singleton.mpr
        { providerStates := List.forall_mem_singleton.mpr
            ⟨trivial, ⟨⟨trivial, List.nodup_nil, trivial⟩, by decide, ⟨by decide, trivial, trivial⟩⟩,
              trivial⟩
          request :=
            { path := ⟨⟨trivial, trivial⟩, by decide,
                ⟨by decide, ⟨trivial, List.nodup_nil, trivial⟩, trivial⟩⟩
              query := fun fs hfs => nomatch hfs
              headers := fun fs hfs => nomatch hfs }
          response := fun fs hfs => nomatch hfs }
      messages := List.forall_mem_singleton.mpr
        { contents := ⟨List.nodup_cons.mpr ⟨List.not_mem_nil, List.nodup_nil⟩,
            ⟨_, rfl⟩, trivial, trivial⟩
          metadata := fun es hes => nomatch hes
          providerStates := fun s hs => nomatch hs }
      metadata := ⟨by decide, List.forall_mem_singleton.mpr ⟨trivial, trivial, trivial⟩⟩ }
  have hdepth : ∀ j, mixedContract.fileDocument = .ok j → j.depth ≤ Json.depthLimit := by
    intro j hj
    have heval : mixedContract.fileDocument.toOption.map (fun j => decide (j.depth ≤ Json.depthLimit))
        = some true := by decide +kernel
    rw [hj] at heval
    exact of_decide_eq_true (Option.some.inj heval)
  cases htext : mixedContract.text with
  | error e =>
    have hsome : mixedContract.text.toBool = true := by decide +kernel
    rw [htext] at hsome
    cases hsome
  | ok t =>
    obtain ⟨c', hparse, hstable⟩ := text_stable hregular htext hdepth "shop-stock.json"
    exact ⟨hregular, hdepth, t, c', rfl, hparse, hstable⟩

end Contract

end Covenant
