import Covenant.Proofs.Mismatch.RoundTrip

/-!
# Mismatches in an engine's report

An engine reports its mismatches as texts, and they are mismatches again only
when the report is read. What becomes of them on the way is the same for every
report (`Script.mismatches_of_report`): each one loses the further fields that
hold nothing, its own and those of its request, and keeps all else; none is lost
and the order stays. So the report is complete if and only if every mismatch was
(`Mismatch.Complete`).

The text that is shown of a mismatch is the text that the engine reported, since
leaving the fields out twice is leaving them out once.
-/

namespace Covenant

open Validation

theorem Json.spaced_report : Json.Style.report.Spaced := ⟨⟨[], rfl, rfl⟩, ⟨[], rfl, rfl⟩⟩

/-- **Leaving out what holds nothing changes no document.** -/
theorem extraDocument_givenFields (extra : List (String × Value)) :
    ObservedRequest.extraDocument (givenFields extra) = ObservedRequest.extraDocument extra := by
  induction extra with
  | nil => rfl
  | cons e es ih =>
    obtain ⟨k, v⟩ := e
    by_cases hv : v = .null
    · subst hv
      rw [extraDocument_cons_null]
      exact ih
    · rw [givenFields_cons hv, ObservedRequest.extraDocument, ih, ← ObservedRequest.extraDocument]

namespace Mismatch

/-- A mismatch without the fields that hold nothing has the document that it had
with them. -/
theorem document_withoutNulls (m : Mismatch) : m.withoutNulls.document = m.document := by
  have hrequest : documentIfAny ObservedRequest.document m.withoutNulls.request
      = documentIfAny ObservedRequest.document m.request := by
    show documentIfAny _ (m.request.map ObservedRequest.withoutNulls) = _
    cases m.request with
    | none => rfl
    | some r =>
      refine congrArg (Except.map some) ?_
      unfold ObservedRequest.document ObservedRequest.withoutNulls
      dsimp only
      rw [extraDocument_givenFields]
  unfold document
  rw [hrequest]
  unfold withoutNulls
  dsimp only
  rw [extraDocument_givenFields]

theorem text_withoutNulls (m : Mismatch) : m.withoutNulls.text = m.text :=
  congrArg (Except.map (Json.text .report)) m.document_withoutNulls

/-- **A mismatch that a report can hold**: it consists of documents without
doubles, and neither its levels nor its integers go beyond what is read. -/
structure Reportable (m : Mismatch) : Prop where
  exact : m.Exact
  depth : m.opened.depth ≤ Json.depthLimit
  integers : ∀ j, m.document = .ok j → j.integersWithin Json.integerDigitLimit = true

/-- **A mismatch that is reported and read** has lost the fields that held
nothing. -/
theorem exists_text_of_reportable {m : Mismatch} (h : m.Reportable) :
    ∃ s, m.text = .ok s ∧ (Model.ofText s : Except Report Mismatch) = .ok m.withoutNulls := by
  obtain ⟨j, hdocument, hexact, hdepth, hcheck⟩ :=
    roundTrips h.exact (Nat.le_trans h.depth (by decide))
  have hread : Json.readRaw? (j.text .report ++ "") = some j :=
    Json.readRaw?_text Json.spaced_report hexact (h.integers j hdocument)
      (Nat.le_trans hdepth h.depth) rfl
  refine ⟨j.text .report, congrArg (Except.map (Json.text .report)) hdocument, ?_⟩
  show Validation.ofText "Mismatch" [] check _ = _
  unfold Validation.ofText
  rw [String.append_empty] at hread
  rw [hread]
  dsimp only
  rw [Json.mergedBut_nil, Json.merged_of_exact j hexact, hcheck]
  rfl

/-- **Mismatches that are reported and read**, one after the other. -/
theorem exists_texts_of_reportable {ms : List Mismatch} (h : ∀ m ∈ ms, m.Reportable) :
    ∃ ss, texts ms = .ok ss ∧ ofTexts ss = .ok (ms.map withoutNulls) := by
  induction ms with
  | nil => exact ⟨[], rfl, rfl⟩
  | cons m ms ih =>
    obtain ⟨hm, hms⟩ := List.forall_mem_cons.mp h
    obtain ⟨s, htext, hread⟩ := exists_text_of_reportable hm
    obtain ⟨ss, htexts, hreads⟩ := ih hms
    refine ⟨s :: ss, ?_, ?_⟩
    · rw [texts, htext, htexts]
      rfl
    · rw [ofTexts, hread, hreads]
      rfl

/-- Mismatches lose nothing if and only if they are complete. -/
theorem map_withoutNulls_eq_self_iff {ms : List Mismatch} :
    ms.map withoutNulls = ms ↔ ∀ m ∈ ms, m.Complete := by
  refine ⟨fun h m hm => ?_, fun h => ?_⟩
  · exact withoutNulls_eq_self_iff.mp (List.map_inj_left.mp (h.trans (List.map_id ms).symm) m hm)
  · exact (List.map_congr_left fun m hm => withoutNulls_eq_self_iff.mpr (h m hm)).trans
      (List.map_id ms)

end Mismatch

namespace Script

/-- **The engine's own report** gives back its fault and the texts of its
mismatches; without mismatches it has no list of them. -/
theorem ownReport_of_texts {s : Script} {fault : Option String} {ss : List String}
    (hfault : s.serverError = textOrNull fault) (htexts : Mismatch.texts s.mismatches = .ok ss) :
    s.ownReport = .ok ⟨fault, if ss.isEmpty then none else some ss⟩ := by
  have hfaultField : nullable text s.serverError = .passed fault := by
    rw [hfault]
    cases fault <;> rfl
  have htextsField : nullable (list text) (if ss.isEmpty then .null else .list (ss.map .str))
      = .passed (if ss.isEmpty then none else some ss) := by
    cases ss with
    | nil => rfl
    | cons t ts =>
      show (list text (.list ((t :: ts).map .str))).map some = _
      rw [← FieldSpec.ofJson_arr_text]
      exact congrArg (Checked.map some) (FieldSpec.items_text (t :: ts) 0)
  have hcheck : EngineReport.check (.record [("mock_server_error", s.serverError),
      ("mock_server_mismatches", if ss.isEmpty then .null else .list (ss.map .str))])
      = .passed ⟨fault, if ss.isEmpty then none else some ss⟩ := by
    show EngineReport.mk <$> (nullable text s.serverError).within (.field "mock_server_error")
      <*> (nullable (list text) _).within (.field "mock_server_mismatches") = _
    rw [hfaultField, htextsField]
    rfl
  have hreport : (Model.ofValue (.record [("mock_server_error", s.serverError),
      ("mock_server_mismatches", if ss.isEmpty then .null else .list (ss.map .str))])
      : Except Report EngineReport) = .ok ⟨fault, if ss.isEmpty then none else some ss⟩ :=
    congrArg (Checked.report "EngineTestResult" .value) hcheck
  unfold ownReport
  rw [htexts]
  dsimp only
  rw [hreport]

/-- **An engine that neither fails nor reports something else** reports its
mismatches, each without the further fields that held nothing. -/
theorem exists_report_of_reportable {s : Script} (hms : ∀ m ∈ s.mismatches, m.Reportable)
    {fault : Option String} (hfault : s.serverError = textOrNull fault)
    (hreported : s.reported = none) (hraised : s.reportError = none) (session : Value) (l : Ledger) :
    ∃ r, s.engine.report session l = ⟨.ok r, [], l⟩ ∧ r.serverError = fault
      ∧ r.mismatches = .ok (s.mismatches.map Mismatch.withoutNulls) := by
  obtain ⟨ss, htexts, hreads⟩ := Mismatch.exists_texts_of_reportable hms
  refine ⟨⟨fault, if ss.isEmpty then none else some ss⟩, ?_, rfl, ?_⟩
  · show s.report session l = _
    unfold report
    rw [hraised, hreported]
    dsimp only
    rw [ownReport_of_texts hfault htexts]
  · -- a report without a list has no mismatches, like one with an empty list
    have hlist : (if ss.isEmpty then none else some ss).getD [] = ss := by
      cases ss <;> rfl
    show Mismatch.ofTexts ((if ss.isEmpty then none else some ss).getD []) = _
    rw [hlist, hreads]

/-- **What becomes of the mismatches of an engine in its report.** If they are
documents without doubles that can be read, the report of every session has as
many mismatches in the same order, each without the further fields that held
nothing; what is shown of one is all of it. They are the engine's mismatches if
and only if these were complete. -/
theorem mismatches_of_report {s : Script} (hms : ∀ m ∈ s.mismatches, m.Reportable)
    {fault : Option String} (hfault : s.serverError = textOrNull fault)
    (hreported : s.reported = none) (hraised : s.reportError = none) (session : Value) (l : Ledger) :
    ∃ r ms, s.engine.report session l = ⟨.ok r, [], l⟩ ∧ r.serverError = fault
      ∧ r.mismatches = .ok ms ∧ ms = s.mismatches.map Mismatch.withoutNulls
      ∧ (∀ m ∈ ms, (Model.ofText m.shown : Except Report Mismatch) = .ok m)
      ∧ (ms = s.mismatches ↔ ∀ m ∈ s.mismatches, m.Complete) := by
  obtain ⟨r, hreport, hserver, hmismatches⟩ :=
    exists_report_of_reportable hms hfault hreported hraised session l
  refine ⟨r, _, hreport, hserver, hmismatches, rfl, ?_, Mismatch.map_withoutNulls_eq_self_iff⟩
  refine List.forall_mem_map.mpr fun m hm => ?_
  obtain ⟨t, htext, hread⟩ := Mismatch.exists_text_of_reportable (hms m hm)
  have hshown : m.withoutNulls.shown = t := by
    unfold Mismatch.shown
    rw [Mismatch.text_withoutNulls, htext]
    rfl
  rw [hshown, hread]

/-- A request with a header and a query, about which the engine says where it
came from, and when: never. -/
def observedOrder : ObservedRequest where
  method := some "POST"
  path := some "/orders"
  query := some [("page", ["1", "2"])]
  headers := some [("Accept", .ofJson (.arr [.str "a", .null]))]
  body := .ofJson (.obj [("id", .null), ("size", .int 3)])
  extra := [("peer", .str "10.0.0.1"), ("finished", .null)]

/-- An engine with two mismatches, the second with a field that holds nothing
and one that holds nothing inside. -/
def orderEngine : Script :=
  { faultless with
    mismatches :=
      [⟨"request-not-found", some "/orders", some "POST", some observedOrder, []⟩,
        ⟨"body", some "$.id", none, none,
          [("expected", .null), ("actual", .ofJson (.obj [("id", .null)]))]⟩]
    serverError := .str "busy" }

/-- What the first of them refers to is a request of documents. -/
theorem observedOrder_exact : observedOrder.Exact where
  query q hq := by
    obtain rfl := Option.mem_some.mp hq
    decide
  headers hs hhs := by
    obtain rfl := Option.mem_some.mp hhs
    exact ⟨by decide, List.forall_mem_singleton.mpr ⟨.arr [.str "a", .null], by trivial, rfl⟩⟩
  body := ⟨.obj [("id", .null), ("size", .int 3)], ⟨by decide, by trivial⟩, rfl⟩
  extra :=
    { nodup := by decide
      values := List.forall_mem_cons.mpr
        ⟨⟨.str _, trivial, rfl⟩, List.forall_mem_singleton.mpr ⟨.null, trivial, rfl⟩⟩
      own := by decide }

/-- Its report can hold both. -/
theorem orderEngine_reportable : ∀ m ∈ orderEngine.mismatches, m.Reportable := by
  have hexact : ∀ m ∈ orderEngine.mismatches, m.Exact := by
    refine List.forall_mem_cons.mpr ⟨?_, List.forall_mem_singleton.mpr ?_⟩
    · exact ⟨fun r hr => Option.mem_some.mp hr ▸ observedOrder_exact,
        ⟨⟨by decide, List.forall_mem_nil _⟩, by decide⟩⟩
    · exact ⟨fun r hr => (nomatch hr), ⟨⟨by decide, List.forall_mem_cons.mpr
        ⟨⟨.null, trivial, rfl⟩, List.forall_mem_singleton.mpr
          ⟨.obj [("id", .null)], ⟨by decide, by trivial⟩, rfl⟩⟩⟩, by decide⟩⟩
  have hdepth : ∀ m ∈ orderEngine.mismatches, m.opened.depth ≤ Json.depthLimit := by
    decide +kernel
  have hintegers : (orderEngine.mismatches.all fun m =>
      m.document.toOption.all (Json.integersWithin Json.integerDigitLimit)) = true := by
    decide +kernel
  refine fun m hm => ⟨hexact m hm, hdepth m hm, fun j hj => ?_⟩
  have hall := List.all_eq_true.mp hintegers m hm
  rw [hj] at hall
  exact hall

/-- Both come back, but not as they were. -/
theorem mismatches_of_report_order :
    (∀ m ∈ orderEngine.mismatches, m.Reportable)
      ∧ orderEngine.serverError = textOrNull (some "busy") ∧ orderEngine.reported = none
      ∧ orderEngine.reportError = none
      ∧ ∃ r, orderEngine.engine.report (.str "s") (.new .empty) = ⟨.ok r, [], .new .empty⟩
        ∧ r.mismatches = .ok
          [⟨"request-not-found", some "/orders", some "POST",
              some { observedOrder with extra := [("peer", .str "10.0.0.1")] }, []⟩,
            ⟨"body", some "$.id", none, none, [("actual", .ofJson (.obj [("id", .null)]))]⟩]
        ∧ ¬ ∀ m ∈ orderEngine.mismatches, m.Complete := by
  obtain ⟨r, ms, hreport, -, hmismatches, rfl, -, -⟩ := mismatches_of_report orderEngine_reportable
    (show orderEngine.serverError = textOrNull (some "busy") from rfl) rfl rfl (.str "s") (.new .empty)
  refine ⟨orderEngine_reportable, rfl, rfl, rfl, r, hreport, hmismatches, fun h => ?_⟩
  have hnone := (h _ (List.mem_cons_of_mem _ (List.mem_singleton.mpr rfl))).extra _
    (List.mem_cons_self ..)
  exact absurd hnone (by decide)

/-- An engine with a mismatch that has a note without text. -/
def notedEngine : Script :=
  { faultless with mismatches := [⟨"body", none, none, none, [("note", .null)]⟩] }

/-- **The note is lost.** -/
theorem note_lost :
    (∀ m ∈ notedEngine.mismatches, m.Reportable)
      ∧ ∃ r, notedEngine.engine.report (.str "s") (.new .empty) = ⟨.ok r, [], .new .empty⟩
        ∧ r.mismatches = .ok [⟨"body", none, none, none, []⟩]
        ∧ r.mismatches ≠ .ok notedEngine.mismatches := by
  have hms : ∀ m ∈ notedEngine.mismatches, m.Reportable := by
    refine List.forall_mem_singleton.mpr ⟨⟨fun r hr => (nomatch hr), ⟨⟨by decide, ?_⟩, by decide⟩⟩,
      by decide, fun j hj => ?_⟩
    · exact List.forall_mem_singleton.mpr ⟨.null, trivial, rfl⟩
    · obtain rfl : Json.obj [("type", .str "body")] = j := Except.ok.inj hj
      decide
  obtain ⟨r, hreport, -, hmismatches⟩ := exists_report_of_reportable hms
    (show notedEngine.serverError = textOrNull none from rfl) rfl rfl (.str "s") (.new .empty)
  refine ⟨hms, r, hreport, hmismatches, fun h => ?_⟩
  have hsame := Except.ok.inj (hmismatches.symm.trans h)
  have hnone := (Mismatch.map_withoutNulls_eq_self_iff.mp hsame _ (List.mem_singleton.mpr rfl)).extra
    _ (List.mem_singleton.mpr rfl)
  exact absurd hnone (by decide)

end Script

end Covenant
