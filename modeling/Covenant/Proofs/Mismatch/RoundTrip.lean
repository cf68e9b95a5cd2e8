import Covenant.Engine.Scripted
import Covenant.Proofs.Contract.RoundTrip

/-!
# Mismatches and their documents

A mismatch is reported as a document, and the document leaves out what holds
nothing. For the fields that a mismatch knows this is no loss, since nothing is
their default. Further fields have no default: those that hold nothing are gone,
from the mismatch and from the request that it refers to. So what comes back from
the document is the mismatch without them (`Mismatch.roundTrips`), and it is the
same mismatch if and only if there were none (`Mismatch.withoutNulls_eq_self_iff`).

Known fields and further ones stand in one document. They do not get into each
other's way because their names are different (`FieldsWithin.further`).
-/

namespace Covenant

open Validation

/-! ## Fields of a document -/

/-- **Fields of a document**: their names are some of the given ones in order,
and what they hold is exact and not as deep as a bound. -/
structure FieldsWithin (names : List String) (n : Nat) (fs : List (String × Json)) : Prop where
  keys : (fs.map Prod.fst).Sublist names
  fields : ∀ f ∈ fs, f.2.Exact ∧ f.2.depth < n

namespace FieldsWithin

variable {names names' : List String} {n : Nat} {fs fs' : List (String × Json)}

theorem nil : FieldsWithin [] n [] := ⟨.slnil, fun _ hf => nomatch hf⟩

theorem field (name : String) {j : Json} (hexact : j.Exact) (hdepth : j.depth < n) :
    FieldsWithin [name] n [(name, j)] := by
  refine ⟨List.Sublist.refl _, fun f hf => ?_⟩
  obtain rfl := List.mem_singleton.mp hf
  exact ⟨hexact, hdepth⟩

theorem ifAny (name : String) {o : Option Json} (h : ∀ j ∈ o, j.Exact ∧ j.depth < n) :
    FieldsWithin [name] n (fieldIfAny name o) := by
  cases o with
  | none => exact ⟨List.nil_sublist _, fun _ hf => nomatch hf⟩
  | some j =>
    obtain ⟨hexact, hdepth⟩ := h j rfl
    exact field name hexact hdepth

theorem append (h : FieldsWithin names n fs) (h' : FieldsWithin names' n fs') :
    FieldsWithin (names ++ names') n (fs ++ fs') := by
  refine ⟨?_, List.forall_mem_append.mpr ⟨h.fields, h'.fields⟩⟩
  rw [List.map_append]
  exact h.keys.append h'.keys

theorem obj (h : FieldsWithin names n fs) (hnames : names.Nodup) :
    (Json.obj fs).Exact ∧ (Json.obj fs).depth ≤ n :=
  ⟨⟨hnames.sublist h.keys, Json.exactFields_iff.mpr fun f hf => (h.fields f hf).1⟩,
    Json.depthFields_le_iff.mpr fun f hf => (h.fields f hf).2⟩

end FieldsWithin

/-- What a field that comes back says about its document. -/
theorem FieldRoundTrips.within {α : Type} {check : Check α} {n bound : Nat} {default a : α}
    {o : Option Json} (h : FieldRoundTrips check n default a o) (hn : n < bound) :
    ∀ j ∈ o, j.Exact ∧ j.depth < bound := by
  rintro j rfl
  obtain ⟨hexact, rfl, -⟩ := h
  exact ⟨hexact, hn⟩

/-! ## Further fields -/

/-- Whether a value is nothing. -/
def Value.isNull : Value → Bool
  | .null => true
  | _ => false

/-- **Further fields of a record**: their names are distinct and none that the
record knows, and their values are exact. -/
structure FurtherFields (known : List String) (extra : List (String × Value)) : Prop
    extends ExactEntries extra where
  own : ∀ e ∈ extra, e.1 ∉ known

/-- Fields that hold something. -/
def givenFields (extra : List (String × Value)) : List (String × Value) :=
  extra.filter fun e => !e.2.isNull

/-- The names that a record with further fields has are distinct. -/
theorem FurtherFields.nodup_append {known : List String} {extra : List (String × Value)}
    (h : FurtherFields known extra) (hknown : known.Nodup) :
    (known ++ extra.map Prod.fst).Nodup := by
  refine List.nodup_append.mpr ⟨hknown, h.nodup, ?_⟩
  rintro k hk _ hk' rfl
  obtain ⟨e, he, rfl⟩ := List.mem_map.mp hk'
  exact h.own e he hk

/-- Fields that hold something are further fields, too. -/
theorem FurtherFields.given {known : List String} {extra : List (String × Value)}
    (h : FurtherFields known extra) : FurtherFields known (givenFields extra) where
  nodup := h.nodup.sublist (List.filter_sublist.map Prod.fst)
  values e he := h.values e (List.mem_filter.mp he).1
  own e he := h.own e (List.mem_filter.mp he).1

/-- All fields hold something if none was left out. -/
theorem givenFields_eq_self_iff {extra : List (String × Value)} :
    givenFields extra = extra ↔ ∀ e ∈ extra, e.2.isNull = false := by
  unfold givenFields
  rw [List.filter_eq_self]
  simp

theorem givenFields_cons {k : String} {v : Value} (hv : v ≠ .null) (extra : List (String × Value)) :
    givenFields ((k, v) :: extra) = (k, v) :: givenFields extra := by
  cases v with
  | null => exact absurd rfl hv
  | _ => rfl

theorem extraDocument_cons_null (k : String) (extra : List (String × Value)) :
    ObservedRequest.extraDocument ((k, .null) :: extra) = ObservedRequest.extraDocument extra := by
  rw [ObservedRequest.extraDocument]
  cases ObservedRequest.extraDocument extra <;> rfl

/-- **Of further fields, those are written that hold something**, as they are, if
their levels fit. -/
theorem exists_extraDocument {extra : List (String × Value)} {n : Nat}
    (h : ∀ e ∈ extra, e.2.Exact) (hn : n ≤ Value.levelLimit)
    (hdepth : ∀ e ∈ extra, (openedValue e.2).depth < n) :
    ∃ js, ObservedRequest.extraDocument extra = .ok js
      ∧ givenFields extra = js.map (fun f => (f.1, .ofJson f.2))
      ∧ FieldsWithin ((givenFields extra).map Prod.fst) n js := by
  induction extra with
  | nil => exact ⟨[], rfl, rfl, .nil⟩
  | cons e es ih =>
    obtain ⟨k, v⟩ := e
    obtain ⟨⟨j, hexact, hv⟩, hes⟩ := List.forall_mem_cons.mp h
    obtain ⟨hlow, hlows⟩ := List.forall_mem_cons.mp hdepth
    obtain rfl : v = .ofJson j := hv
    obtain ⟨js, hdocument, heq, hwithin⟩ := ih hes hlows
    have hj : j.depth < n := by
      rw [← Value.depth_ofJson, ← Value.unwrapMatchers_ofJson false j]
      exact hlow
    have hmade := Value.plainWithin_ofJson j hexact (Nat.lt_of_lt_of_le hj hn)
    -- nothing is left out, all else is written
    by_cases hnull : j = .null
    · subst hnull
      exact ⟨js, (extraDocument_cons_null k es).trans hdocument, heq, hwithin⟩
    have hplain : plainIfAny (.ofJson j) = .ok (some j) := by
      cases j with
      | null => exact absurd rfl hnull
      | _ => exact congrArg (Except.map some) hmade
    have hsome : Value.ofJson j ≠ .null := by
      cases j with
      | null => exact absurd rfl hnull
      | _ => exact fun h => nomatch h
    rw [givenFields_cons hsome]
    refine ⟨(k, j) :: js, ?_, congrArg (_ :: ·) heq, ?_⟩
    · rw [ObservedRequest.extraDocument, hplain, hdocument]
      rfl
    · exact (FieldsWithin.field k hexact hj).append hwithin

theorem extraFields_go_ofJsonFields (fs : List (String × Json)) :
    extraFields.go (Value.ofJsonFields fs) = .passed (fs.map fun f => (f.1, .ofJson f.2)) := by
  induction fs with
  | nil => rfl
  | cons f fs ih =>
    rw [Value.ofJsonFields, extraFields.go]
    dsimp only [Key.str?]
    rw [ih]
    rfl

/-- **What a record keeps besides the fields it knows**: of a document with known
fields and further ones, it is the further ones. -/
theorem extraFields_append {known : List String} {own js : List (String × Json)}
    {extra : List (String × Value)} (hown : ∀ f ∈ own, f.1 ∈ known)
    (hextra : FurtherFields known extra) (heq : extra = js.map fun f => (f.1, .ofJson f.2)) :
    extraFields known (Value.ofJsonFields (own ++ js)) = .passed extra := by
  have hknown : own.filter (fun f => !known.contains f.1) = [] := by
    refine List.filter_eq_nil_iff.mpr fun f hf => ?_
    simp [hown f hf]
  have hfurther : js.filter (fun f => !known.contains f.1) = js := by
    refine List.filter_eq_self.mpr fun f hf => ?_
    have hmem : (f.1, Value.ofJson f.2) ∈ extra := by
      rw [heq]
      exact List.mem_map.mpr ⟨f, hf, rfl⟩
    simpa using hextra.own _ hmem
  unfold extraFields
  rw [Value.ofJsonFields_eq_map, List.filter_map]
  show extraFields.go (((own ++ js).filter fun f => !known.contains f.1).map
    fun f => (Key.str f.1, Value.ofJson f.2)) = _
  rw [List.filter_append, hknown, hfurther, List.nil_append, ← Value.ofJsonFields_eq_map,
    extraFields_go_ofJsonFields, heq]

/-- A known field is looked up among the known ones. -/
theorem get?_append_of_further {known : List String} {own js : List (String × Json)}
    {extra : List (String × Value)} (hextra : FurtherFields known extra)
    (heq : extra = js.map fun f => (f.1, .ofJson f.2)) {name : String} (hname : name ∈ known) :
    Entries.get? (own ++ js) name = Entries.get? own name := by
  have hnone : Entries.get? js name = none := by
    refine List.lookup_eq_none_iff.mpr fun f hf => ?_
    rw [bne_iff_ne]
    rintro rfl
    refine hextra.own (f.1, .ofJson f.2) ?_ hname
    rw [heq]
    exact List.mem_map.mpr ⟨f, hf, rfl⟩
  rw [Entries.get?_append, hnone, Option.or_none]

/-- **A document of known fields and further ones** is exact, the known fields
are looked up among the known ones, and the further ones are kept. -/
theorem FieldsWithin.further {known : List String} {n : Nat} {own js : List (String × Json)}
    {extra : List (String × Value)} (hown : FieldsWithin known n own)
    (hjs : FieldsWithin (extra.map Prod.fst) n js) (hextra : FurtherFields known extra)
    (heq : extra = js.map fun f => (f.1, .ofJson f.2)) (hknown : known.Nodup) :
    (Json.obj (own ++ js)).Exact ∧ (Json.obj (own ++ js)).depth ≤ n
      ∧ (∀ name ∈ known, Entries.get? (own ++ js) name = Entries.get? own name)
      ∧ extraFields known (Value.ofJsonFields (own ++ js)) = .passed extra := by
  have hnames : ∀ f ∈ own, f.1 ∈ known := fun f hf => hown.keys.subset (List.mem_map_of_mem hf)
  obtain ⟨hexact, hdepth⟩ := (hown.append hjs).obj (hextra.nodup_append hknown)
  exact ⟨hexact, hdepth, fun name hname => get?_append_of_further hextra heq hname,
    extraFields_append hnames hextra heq⟩

/-! ## Observed requests -/

namespace ObservedRequest

/-- An observed request of documents: query values and headers of distinct names,
and values that are exact. -/
structure Exact (r : ObservedRequest) : Prop where
  query : ∀ q ∈ r.query, (Entries.keys q).Nodup
  headers : ∀ hs ∈ r.headers, ExactEntries hs
  body : r.body.Exact
  extra : FurtherFields knownFields r.extra

/-- The request without further fields that hold nothing. -/
def withoutNulls (r : ObservedRequest) : ObservedRequest := { r with extra := givenFields r.extra }

/-- The document of query values. -/
def queryDocument (q : Entries String (List String)) : Json :=
  .obj (q.map fun (k, vs) => (k, .arr (vs.map .str)))

/-- Query values, opened. -/
def queryOpened (q : Entries String (List String)) : Value :=
  .record (q.map fun (k, vs) => (k, .list (vs.map .str)))

/-- Opened query values are their document. -/
theorem ofJson_queryDocument (q : Entries String (List String)) :
    .ofJson (queryDocument q) = queryOpened q := by
  unfold queryDocument queryOpened
  rw [← Value.record_map_ofJson, List.map_map]
  refine congrArg Value.record (List.map_congr_left fun e _ => ?_)
  exact Prod.ext rfl (FieldSpec.ofJson_arr_text e.2)

theorem listedQuery_queryOpened (q : Entries String (List String)) :
    listedQuery (queryOpened q) = queryOpened q := by
  refine congrArg Value.dict ?_
  simp only [List.map_map]
  rfl

theorem entries_queryOpened (q : Entries String (List String)) :
    entries (list text) ((q.map fun e => (e.1, Value.list (e.2.map .str))).map
      fun f => (Key.str f.1, f.2)) = .passed q := by
  have htexts : ∀ ss : List String, list text (.list (ss.map .str)) = .passed ss := fun ss => by
    rw [← FieldSpec.ofJson_arr_text]
    exact FieldSpec.items_text ss 0
  induction q with
  | nil => rfl
  | cons e es ih =>
    rw [List.map_cons, List.map_cons, entries, ih]
    dsimp only
    rw [htexts]
    rfl

/-- Query values come back, if their names are distinct. -/
theorem fieldRoundTrips_query {o : Option (Entries String (List String))}
    (h : ∀ q ∈ o, (Entries.keys q).Nodup) :
    FieldRoundTrips (fun v => nullable (dictionary (list text)) (listedQuery v))
      (openedOrNull queryOpened o).depth none o (o.map queryDocument) := by
  cases o with
  | none => exact ⟨rfl, rfl⟩
  | some q =>
    have hnodup : (q.map Prod.fst).Nodup := h q rfl
    have hexact : (queryDocument q).Exact := by
      refine ⟨?_, Json.exactFields_iff.mpr fun f hf => ?_⟩
      · rw [List.map_map]
        exact hnodup
      · obtain ⟨e, -, rfl⟩ := List.mem_map.mp hf
        exact FieldSpec.exactItems_text e.2
    have hdepth : (queryDocument q).depth = (queryOpened q).depth := by
      rw [← ofJson_queryDocument, Value.depth_ofJson]
    have hcheck : dictionary (list text) (queryOpened q) = .passed q := by
      show (entries (list text) _).map Entries.ofPairs = _
      rw [entries_queryOpened, Checked.map, Entries.ofPairs_of_nodup hnodup]
    refine ⟨hexact, hdepth, ?_⟩
    show nullable (dictionary (list text)) (listedQuery (.ofJson (queryDocument q))) = _
    rw [ofJson_queryDocument, listedQuery_queryOpened]
    exact congrArg (Checked.map some) hcheck

theorem withoutNulls_eq_self_iff {r : ObservedRequest} :
    r.withoutNulls = r ↔ ∀ e ∈ r.extra, e.2.isNull = false := by
  rw [← givenFields_eq_self_iff]
  refine ⟨congrArg ObservedRequest.extra, fun h => ?_⟩
  unfold withoutNulls
  rw [h]

theorem check_of_get? {r : ObservedRequest} {fs : List (String × Json)}
    {query headers body : Option Json} {k m n : Nat}
    (hmethod : Entries.get? fs "method" = r.method.map .str)
    (hpath : Entries.get? fs "path" = r.path.map .str) (hquery : Entries.get? fs "query" = query)
    (hheaders : Entries.get? fs "headers" = headers) (hbody : Entries.get? fs "body" = body)
    (hqueryField : FieldRoundTrips (fun v => nullable (dictionary (list text)) (listedQuery v)) k
      none r.query query)
    (hheadersField : FieldRoundTrips (nullable (dictionary anything)) m none r.headers headers)
    (hbodyField : FieldRoundTrips anything n .null r.body body)
    (hextra : extraFields knownFields (Value.ofJsonFields fs) = .passed r.extra) :
    check (.ofJson (.obj fs)) = .passed r := by
  have hmethod' : withDefault (Value.ofJsonFields fs) ["method"] none (nullable text)
      = .passed r.method := withDefault_of_get? hmethod (by simp) (fieldRoundTrips_text r.method)
  have hpath' : withDefault (Value.ofJsonFields fs) ["path"] none (nullable text)
      = .passed r.path := withDefault_of_get? hpath (by simp) (fieldRoundTrips_text r.path)
  have hquery' : withDefault (Value.ofJsonFields fs) ["query"] none
      (fun v => nullable (dictionary (list text)) (listedQuery v)) = .passed r.query :=
    withDefault_of_get? hquery (by simp) hqueryField
  have hheaders' : withDefault (Value.ofJsonFields fs) ["headers"] none
      (nullable (dictionary anything)) = .passed r.headers :=
    withDefault_of_get? hheaders (by simp) hheadersField
  have hbody' : withDefault (Value.ofJsonFields fs) ["body"] .null anything = .passed r.body :=
    withDefault_of_get? hbody (by simp) hbodyField
  show ObservedRequest.mk <$> withDefault (Value.ofJsonFields fs) _ _ _ <*> withDefault _ _ _ _
    <*> withDefault _ _ _ _ <*> withDefault _ _ _ _ <*> withDefault _ _ _ _
    <*> extraFields _ _ = _
  rw [hmethod', hpath', hquery', hheaders', hbody', hextra]
  rfl

/-- **An observed request comes back from its document** without the further
fields that hold nothing. -/
theorem roundTrips {r : ObservedRequest} (h : r.Exact) (hdepth : r.opened.depth ≤ Value.levelLimit) :
    ∃ fs, r.document = .ok (.obj fs) ∧ (Json.obj fs).Exact ∧ (Json.obj fs).depth ≤ r.opened.depth
      ∧ check (.ofJson (.obj fs)) = .passed r.withoutNulls := by
  have hlt : ∀ f ∈ [("method", textOrNull r.method), ("path", textOrNull r.path),
      ("query", openedOrNull queryOpened r.query),
      ("headers", openedOrNull openedFields r.headers), ("body", openedValue r.body)]
      ++ r.extra.map fun e => (e.1, openedValue e.2), f.2.depth < r.opened.depth :=
    depth_lt_record _
  simp only [List.forall_mem_append, List.forall_mem_cons, List.forall_mem_map] at hlt
  obtain ⟨⟨hmethod, hpath, hquery, hheaders, hbody, -⟩, hextra⟩ := hlt
  have hqueryField := fieldRoundTrips_query h.query
  obtain ⟨headers, hheadersDocument, hheadersField⟩ :=
    Message.fieldRoundTrips_metadata h.headers (Nat.lt_of_lt_of_le hheaders hdepth)
  obtain ⟨body, hbodyDocument, hbodyField⟩ :=
    fieldRoundTrips_plainIfAny h.body (Nat.lt_of_lt_of_le hbody hdepth)
  obtain ⟨js, hjs, heq, hwithin⟩ := exists_extraDocument h.extra.values hdepth hextra
  let own := textIfAny "method" r.method ++ textIfAny "path" r.path
    ++ fieldIfAny "query" (r.query.map queryDocument) ++ fieldIfAny "headers" headers
    ++ fieldIfAny "body" body
  have hown : FieldsWithin knownFields r.opened.depth own :=
    ((((FieldsWithin.ifAny "method" ((fieldRoundTrips_text r.method).within hmethod)).append
      (.ifAny "path" ((fieldRoundTrips_text r.path).within hpath))).append
      (.ifAny "query" (hqueryField.within hquery))).append
      (.ifAny "headers" (hheadersField.within hheaders))).append
      (.ifAny "body" (hbodyField.within hbody))
  obtain ⟨hexact, hfits, hget, hkept⟩ := hown.further hwithin h.extra.given heq (by decide)
  refine ⟨own ++ js, ?_, hexact, hfits, ?_⟩
  · unfold document
    rw [hheadersDocument, hbodyDocument, hjs]
    rfl
  · refine check_of_get? ?_ ?_ ?_ ?_ ?_ hqueryField hheadersField hbodyField hkept
    all_goals
      rw [hget _ (by decide)]
      simp [own, textIfAny, Entries.get?_append, get?_fieldIfAny, withoutNulls]

end ObservedRequest

/-! ## Mismatches -/

namespace Mismatch

/-- A mismatch of documents: its request and its further fields are exact. -/
structure Exact (m : Mismatch) : Prop where
  request : ∀ r ∈ m.request, r.Exact
  extra : FurtherFields knownFields m.extra

/-- The mismatch without further fields that hold nothing, its own and those of
its request. -/
def withoutNulls (m : Mismatch) : Mismatch :=
  { m with request := m.request.map ObservedRequest.withoutNulls, extra := givenFields m.extra }

/-- **A mismatch whose further fields all hold something**, and those of its
request, too. -/
structure Complete (m : Mismatch) : Prop where
  extra : ∀ e ∈ m.extra, e.2.isNull = false
  request : ∀ r ∈ m.request, ∀ e ∈ r.extra, e.2.isNull = false

/-- **Nothing is lost of a complete mismatch**, and something of any other. -/
theorem withoutNulls_eq_self_iff {m : Mismatch} : m.withoutNulls = m ↔ m.Complete := by
  obtain ⟨type, path, method, request, extra⟩ := m
  constructor
  · intro h
    injection h with _ _ _ hrequest hextra
    refine ⟨givenFields_eq_self_iff.mp hextra, fun r hr => ?_⟩
    obtain rfl : request = some r := hr
    exact ObservedRequest.withoutNulls_eq_self_iff.mp (Option.some.inj hrequest)
  · rintro ⟨hextra, hrequest⟩
    unfold withoutNulls
    congr 1
    · cases request with
      | none => rfl
      | some r => exact congrArg some (ObservedRequest.withoutNulls_eq_self_iff.mpr (hrequest r rfl))
    · exact givenFields_eq_self_iff.mpr hextra

theorem exists_requestDocument {o : Option ObservedRequest} (h : ∀ r ∈ o, r.Exact)
    (hdepth : (openedOrNull ObservedRequest.opened o).depth ≤ Value.levelLimit) :
    ∃ j n, documentIfAny ObservedRequest.document o = .ok j
      ∧ n ≤ (openedOrNull ObservedRequest.opened o).depth
      ∧ FieldRoundTrips (nullable ObservedRequest.check) n none
        (o.map ObservedRequest.withoutNulls) j := by
  cases o with
  | none => exact ⟨none, 0, rfl, Nat.zero_le _, rfl, rfl⟩
  | some r =>
    obtain ⟨fs, hdocument, hexact, hfits, hcheck⟩ := ObservedRequest.roundTrips (h r rfl) hdepth
    refine ⟨some (.obj fs), _, ?_, hfits, hexact, rfl, ?_⟩
    · show (ObservedRequest.document r).map some = _
      rw [hdocument]
      rfl
    · show (ObservedRequest.check (.ofJson (.obj fs))).map some = _
      rw [hcheck]
      rfl

theorem check_of_get? {m : Mismatch} {fs : List (String × Json)} {request : Option Json} {n : Nat}
    (htype : Entries.get? fs "type" = some (.str m.type))
    (hpath : Entries.get? fs "path" = m.path.map .str)
    (hmethod : Entries.get? fs "method" = m.method.map .str)
    (hrequest : Entries.get? fs "request" = request)
    (hrequestField : FieldRoundTrips (nullable ObservedRequest.check) n none m.request request)
    (hextra : extraFields knownFields (Value.ofJsonFields fs) = .passed m.extra) :
    check (.ofJson (.obj fs)) = .passed m := by
  have htype' : required (Value.ofJsonFields fs) ["type"] Validation.text = .passed m.type :=
    required_of_get? htype rfl
  have hpath' : withDefault (Value.ofJsonFields fs) ["path"] none (nullable Validation.text)
      = .passed m.path := withDefault_of_get? hpath (by simp) (fieldRoundTrips_text m.path)
  have hmethod' : withDefault (Value.ofJsonFields fs) ["method"] none (nullable Validation.text)
      = .passed m.method := withDefault_of_get? hmethod (by simp) (fieldRoundTrips_text m.method)
  have hrequest' : withDefault (Value.ofJsonFields fs) ["request"] none
      (nullable ObservedRequest.check) = .passed m.request :=
    withDefault_of_get? hrequest (by simp) hrequestField
  show Mismatch.mk <$> required (Value.ofJsonFields fs) _ _ <*> withDefault _ _ _ _
    <*> withDefault _ _ _ _ <*> withDefault _ _ _ _ <*> extraFields _ _ = _
  rw [htype', hpath', hmethod', hrequest', hextra]
  rfl

/-- **A mismatch comes back from its document** without the further fields that
hold nothing. -/
theorem roundTrips {m : Mismatch} (h : m.Exact) (hdepth : m.opened.depth ≤ Value.levelLimit) :
    ∃ j, m.document = .ok j ∧ j.Exact ∧ j.depth ≤ m.opened.depth
      ∧ check (.ofJson j) = .passed m.withoutNulls := by
  have hlt : ∀ f ∈ [("type", .str m.type), ("path", textOrNull m.path),
      ("method", textOrNull m.method), ("request", openedOrNull ObservedRequest.opened m.request)]
      ++ m.extra.map fun e => (e.1, openedValue e.2), f.2.depth < m.opened.depth :=
    depth_lt_record _
  simp only [List.forall_mem_append, List.forall_mem_cons, List.forall_mem_map] at hlt
  obtain ⟨⟨htype, hpath, hmethod, hrequest, -⟩, hextra⟩ := hlt
  obtain ⟨request, n, hrequestDocument, hn, hrequestField⟩ :=
    exists_requestDocument h.request (Nat.le_of_lt (Nat.lt_of_lt_of_le hrequest hdepth))
  obtain ⟨js, hjs, heq, hwithin⟩ := exists_extraDocument h.extra.values hdepth hextra
  let own := [("type", .str m.type)] ++ textIfAny "path" m.path ++ textIfAny "method" m.method
    ++ fieldIfAny "request" request
  have hown : FieldsWithin knownFields m.opened.depth own :=
    (((FieldsWithin.field "type" (j := .str m.type) trivial htype).append
      (.ifAny "path" ((fieldRoundTrips_text m.path).within hpath))).append
      (.ifAny "method" ((fieldRoundTrips_text m.method).within hmethod))).append
      (.ifAny "request" (hrequestField.within (Nat.lt_of_le_of_lt hn hrequest)))
  obtain ⟨hexact, hfits, hget, hkept⟩ := hown.further hwithin h.extra.given heq (by decide)
  refine ⟨.obj (own ++ js), ?_, hexact, hfits, ?_⟩
  · unfold document
    rw [hrequestDocument, hjs]
    rfl
  · refine check_of_get? ?_ ?_ ?_ ?_ hrequestField hkept
    all_goals
      rw [hget _ (by decide)]
      simp [own, textIfAny, Entries.get?_append, Entries.get?_cons, get?_fieldIfAny, withoutNulls]

end Mismatch

end Covenant
