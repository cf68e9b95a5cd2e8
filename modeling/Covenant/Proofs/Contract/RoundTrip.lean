import Covenant.Proofs.Contract.Parts
import Covenant.Proofs.Contract.Written

/-!
# Reading a contract back

A contract that is written and read again is the same contract
(`Contract.parse_text`), if it is exact: it holds interactions or messages but
not both, since a file lists only one of them; its untyped values are documents
without doubles; and its matchers can be told from their documents.

The way there and back has two halves. From the contract to the document of its
file and back, everything is done part by part: every record comes back from
its document, fields that hold nothing are left out and come back as defaults.
From the document to its text and back, it is the printer and the reader that
have to fit, whatever the document is about.

Two limits stand in between. The reader goes only so deep, which the statement
assumes; and no integer is written that has too many digits, which the statement
leaves open: where the text is missing, that is the reason.
-/

namespace Covenant

open Validation

/-! ## Interactions and messages -/

/-- The present form of provider states is left as it is. -/
theorem upgradeState_of_get? {fs : List (String × Json)}
    (h : Entries.get? fs "providerState" = none) :
    upgradeState (.ofJson (.obj fs)) = .dict (Value.ofJsonFields fs) := by
  have hnone : Entries.get? (Value.ofJsonFields fs) (.str "providerState") = none := by
    rw [get?_ofJsonFields, h]
    rfl
  unfold upgradeState
  rw [Value.ofJson]
  dsimp only
  rw [hnone]

namespace Interaction

/-- An interaction all of whose parts are exact. -/
structure Exact (i : Interaction) : Prop where
  providerStates : ∀ s ∈ i.providerStates, s.Exact
  request : i.request.Exact
  response : i.response.Exact

/-- **An interaction comes back from its document.** -/
theorem roundTrips {i : Interaction} (h : i.Exact) (hdepth : i.opened.depth < Value.levelLimit) :
    RoundTrips document check i.opened.depth i := by
  have hlt := depth_lt_record [("description", .str i.description),
    ("provider_states", statesOpened i.providerStates),
    ("request", i.request.opened), ("response", i.response.opened)]
  rw [show Value.record _ = i.opened from rfl] at hlt
  simp only [List.forall_mem_cons] at hlt
  obtain ⟨-, hstates, hrequest, hresponse, -⟩ := hlt
  obtain ⟨states, hstatesDocument, hstatesExact, hstatesEq, hstatesCheck⟩ :=
    roundTrips_states h.providerStates (Nat.lt_trans hstates hdepth)
  obtain ⟨request, hrequestDocument, hrequestExact, hrequestEq, hrequestCheck⟩ :=
    RequestSpec.roundTrips h.request (Nat.lt_trans hrequest hdepth)
  obtain ⟨response, hresponseDocument, hresponseExact, hresponseEq, hresponseCheck⟩ :=
    ResponseSpec.roundTrips h.response (Nat.lt_trans hresponse hdepth)
  have hdescription : BothForms [("description", .str i.description)] ["description"]
      [("description", .str i.description)] :=
    BothForms.nil.field "description" "description" trivial rfl
  have hconditions := hdescription.field "provider_states" "providerStates" hstatesExact hstatesEq
  have hasked := hconditions.field "request" "request" hrequestExact hrequestEq
  have hanswered := hasked.field "response" "response" hresponseExact hresponseEq
  obtain ⟨hexact, heq⟩ := hanswered.obj (by decide)
  refine ⟨_, ?_, hexact, heq, ?_⟩
  · unfold document
    rw [hstatesDocument, hrequestDocument, hresponseDocument]
    rfl
  · unfold check
    rw [upgradeState_of_get? rfl]
    show Interaction.mk <$> (text (.str i.description)).within (.field "description")
      <*> (tuple ProviderState.check (.ofJson states)).within (.field "providerStates")
      <*> (RequestSpec.check (.ofJson request)).within (.field "request")
      <*> (ResponseSpec.check (.ofJson response)).within (.field "response") = _
    rw [hstatesCheck, hrequestCheck, hresponseCheck]
    rfl

end Interaction

/-- Entries with distinct keys and exact values. -/
structure ExactEntries (es : Entries String Value) : Prop where
  nodup : es.keys.Nodup
  values : ∀ e ∈ es, e.2.Exact

namespace Message

/-- A message all of whose parts are exact. -/
structure Exact (m : Message) : Prop where
  contents : m.contents.Exact
  metadata : ∀ es ∈ m.metadata, ExactEntries es
  providerStates : ∀ s ∈ m.providerStates, s.Exact

theorem fieldRoundTrips_metadata {o : Option (Entries String Value)} (h : ∀ es ∈ o, ExactEntries es)
    (hdepth : (openedOrNull openedFields o).depth < Value.levelLimit) :
    ∃ j, documentIfAny (fun fs => (plainFields Value.plain fs).map .obj) o = .ok j
      ∧ FieldRoundTrips (nullable (dictionary anything)) (openedOrNull openedFields o).depth none
        o j := by
  refine fieldRoundTrips_nullable fun es hes => ?_
  obtain rfl : o = some es := hes
  obtain ⟨hnodup, hvalues⟩ := h es rfl
  refine ⟨roundTrips_dictionary hnodup (fun e he => roundTrips_plain (hvalues e he)) hdepth, ?_⟩
  cases plainFields Value.plain es with
  | error e => exact fun h => nomatch h
  | ok js => exact fun h => nomatch h

theorem check_of_get? {m : Message} {fs : List (String × Json)} {contents metadata : Option Json}
    {states : Json} {k n : Nat}
    (hdescription : Entries.get? fs "description" = some (.str m.description))
    (hcontents : Entries.get? fs "contents" = contents)
    (hmetadata : Entries.get? fs "metadata" = metadata)
    (hstates : Entries.get? fs "providerStates" = some states)
    (hpresent : Entries.get? fs "providerState" = none)
    (hcontentsField : FieldRoundTrips anything k .null m.contents contents)
    (hmetadataField : FieldRoundTrips (nullable (dictionary anything)) n none m.metadata metadata)
    (hstatesCheck : tuple ProviderState.check (.ofJson states) = .passed m.providerStates) :
    check (.ofJson (.obj fs)) = .passed m := by
  have hdescription' : withDefault (Value.ofJsonFields fs) ["description"] "" text
      = .passed m.description := withDefault_of_some hdescription rfl
  have hcontents' : withDefault (Value.ofJsonFields fs) ["contents"] .null anything
      = .passed m.contents := withDefault_of_get? hcontents (by simp) hcontentsField
  have hmetadata' : withDefault (Value.ofJsonFields fs) ["metadata"] none
      (nullable (dictionary anything)) = .passed m.metadata :=
    withDefault_of_get? hmetadata (by simp) hmetadataField
  have hstates' : withDefault (Value.ofJsonFields fs) ["providerStates", "provider_states"] []
      (tuple ProviderState.check) = .passed m.providerStates :=
    withDefault_of_some hstates hstatesCheck
  unfold check
  rw [upgradeState_of_get? hpresent]
  show Message.mk <$> withDefault (Value.ofJsonFields fs) _ _ _ <*> withDefault _ _ _ _
    <*> withDefault _ _ _ _ <*> withDefault _ _ _ _ = _
  rw [hdescription', hcontents', hmetadata', hstates']
  rfl

/-- **A message comes back from its document.** -/
theorem roundTrips {m : Message} (h : m.Exact) (hdepth : m.opened.depth < Value.levelLimit) :
    RoundTrips document check m.opened.depth m := by
  have hlt := depth_lt_record [("description", .str m.description),
    ("contents", openedValue m.contents), ("metadata", openedOrNull openedFields m.metadata),
    ("provider_states", statesOpened m.providerStates)]
  rw [show Value.record _ = m.opened from rfl] at hlt
  simp only [List.forall_mem_cons] at hlt
  obtain ⟨-, hcontents, hmetadata, hstates, -⟩ := hlt
  obtain ⟨contents, hcontentsDocument, hcontentsField⟩ :=
    fieldRoundTrips_plainIfAny h.contents (Nat.lt_trans hcontents hdepth)
  obtain ⟨metadata, hmetadataDocument, hmetadataField⟩ :=
    fieldRoundTrips_metadata h.metadata (Nat.lt_trans hmetadata hdepth)
  obtain ⟨states, hstatesDocument, hstatesExact, hstatesEq, hstatesCheck⟩ :=
    roundTrips_states h.providerStates (Nat.lt_trans hstates hdepth)
  have hdescription : BothForms [("description", .str m.description)] ["description"]
      [("description", .str m.description)] :=
    BothForms.nil.field "description" "description" trivial rfl
  have hheld := hdescription.fieldIfAny (by simp) "contents" "contents" hcontentsField
  have htold := hheld.fieldIfAny (by simp) "metadata" "metadata" hmetadataField
  have hconditions := htold.field "provider_states" "providerStates" hstatesExact hstatesEq
  obtain ⟨hexact, heq⟩ := hconditions.obj (by decide)
  refine ⟨_, ?_, hexact, heq, ?_⟩
  · unfold document
    rw [hcontentsDocument, hmetadataDocument, hstatesDocument]
    rfl
  · refine check_of_get? rfl ?_ ?_ ?_ ?_ hcontentsField hmetadataField hstatesCheck <;>
      simp [Entries.get?_append, Entries.get?_cons, get?_fieldIfAny]

end Message

/-! ## Contracts -/

namespace Contract

/-- **An exact contract**: it holds interactions or messages but not both, its
untyped values are documents without doubles, and the parts of its matchers can
be told apart. -/
structure Exact (c : Contract) : Prop where
  /-- One of the lists is empty. -/
  one : c.interactions = [] ∨ c.messages = []
  interactions : ∀ i ∈ c.interactions, i.Exact
  messages : ∀ m ∈ c.messages, m.Exact
  metadata : ExactEntries c.metadata

/-- The lists of a contract are less deep than the contract. -/
theorem depth_lists_lt (c : Contract) :
    (Value.list (c.interactions.map Interaction.opened)).depth < (Model.opened c).depth
      ∧ (Value.list (c.messages.map Message.opened)).depth < (Model.opened c).depth := by
  have hlt := depth_lt_record [("consumer", Model.opened c.consumer),
    ("provider", Model.opened c.provider),
    ("interactions", .list (c.interactions.map Interaction.opened)),
    ("messages", .list (c.messages.map Message.opened)), ("metadata", openedFields c.metadata)]
  rw [show Value.record _ = Model.opened c from rfl] at hlt
  simp only [List.forall_mem_cons] at hlt
  obtain ⟨-, -, hinteractions, hmessages, -⟩ := hlt
  exact ⟨hinteractions, hmessages⟩

/-- **What a file lists of a contract**, under the name of the list: its messages
if it has no interactions, or its interactions if it has no messages. Both come
back from what is listed. -/
inductive Lists (c : Contract) : String → Json → Prop where
  | messages {units : Json} (none : c.interactions = [])
    (depth : units.depth = (Value.list (c.messages.map Message.opened)).depth)
    (check : list Message.check (.ofJson units) = .passed c.messages) : Lists c "messages" units
  | interactions {units : Json} (none : c.messages = [])
    (depth : units.depth = (Value.list (c.interactions.map Interaction.opened)).depth)
    (check : list Interaction.check (.ofJson units) = .passed c.interactions) :
    Lists c "interactions" units

/-- **A contract that is exact lists its units.** -/
theorem exists_lists {c : Contract} (h : c.Exact)
    (hdepth : (Model.opened c).depth < Value.levelLimit) :
    ∃ name units, c.listed = .ok (name, units) ∧ units.Exact ∧ c.Lists name units := by
  obtain ⟨hinteractions, hmessages⟩ := depth_lists_lt c
  unfold listed
  by_cases hlist : (c.interactions.isEmpty && !c.messages.isEmpty) = true
  · obtain ⟨hempty, -⟩ := Bool.and_eq_true_iff.mp hlist
    have hunits : ∀ m ∈ c.messages, (Model.opened m).depth < Value.levelLimit →
        RoundTrips Model.document Model.check (Model.opened m).depth m := fun m hm =>
      Message.roundTrips (h.messages m hm)
    obtain ⟨js, hdocuments, hexact, heq, hcheck⟩ :=
      roundTrips_documents hunits (Nat.lt_trans hmessages hdepth)
    refine ⟨"messages", .arr js, ?_, hexact, .messages (List.isEmpty_iff.mp hempty) heq (hcheck 0)⟩
    rw [if_pos hlist, hdocuments, Except.map, Json.merged_of_exact (.arr js) hexact]
  · -- there may be no units at all, and then the file lists no interactions
    have hempty : c.messages = [] := by
      obtain hnone | hnone := h.one
      · rw [hnone] at hlist
        simpa using hlist
      · exact hnone
    have hunits : ∀ i ∈ c.interactions, (Model.opened i).depth < Value.levelLimit →
        RoundTrips Model.document Model.check (Model.opened i).depth i := fun i hi =>
      Interaction.roundTrips (h.interactions i hi)
    obtain ⟨js, hdocuments, hexact, heq, hcheck⟩ :=
      roundTrips_documents hunits (Nat.lt_trans hinteractions hdepth)
    refine ⟨"interactions", .arr js, ?_, hexact, .interactions hempty heq (hcheck 0)⟩
    rw [if_neg hlist, hdocuments, Except.map, Json.merged_of_exact (.arr js) hexact]

theorem exists_metadata {c : Contract} (h : c.Exact) :
    ∃ fs, (Value.record c.metadata).strict? = some (.obj fs) ∧ (Json.obj fs).Exact
      ∧ (Json.obj fs).depth = (openedFields c.metadata).depth
      ∧ dictionary anything (.ofJson (.obj fs)) = .passed c.metadata := by
  obtain ⟨hnodup, hvalues⟩ := h.metadata
  obtain ⟨fs, hexact, hmetadata⟩ := Value.exists_fields_of_exact hvalues
  have hkeys : (fs.map Prod.fst).Nodup := by
    have hnodup' : (c.metadata.map Prod.fst).Nodup := hnodup
    rwa [hmetadata, List.map_map] at hnodup'
  have hopened : openedFields c.metadata = .ofJson (.obj fs) := by
    rw [← Value.record_map_ofJson, openedFields, hmetadata, List.map_map]
    refine congrArg Value.record (List.map_congr_left fun f _ => ?_)
    exact congrArg (Prod.mk f.1) (Value.unwrapMatchers_ofJson false f.2)
  refine ⟨fs, ?_, ⟨hkeys, hexact⟩, ?_, ?_⟩
  · rw [hmetadata, Value.record_map_ofJson, Value.strict?_ofJson]
  · rw [← Value.depth_ofJson, hopened]
  · rw [dictionary_anything_ofJson hkeys, hmetadata]

/-- A contract out of the document of its file: the list that the file does not
have is empty. -/
theorem check_of_lists {c : Contract} {name : String} {units metadata : Json}
    (hunits : c.Lists name units)
    (hmetadata : dictionary anything (.ofJson metadata) = .passed c.metadata) :
    check (.ofJson (.obj [("consumer", c.consumer.document), ("provider", c.provider.document),
      (name, units), ("metadata", metadata)])) = .passed c := by
  obtain ⟨consumer, provider, interactions, messages, es⟩ := c
  cases hunits with
  | messages hnone _ hcheck =>
    obtain rfl : interactions = [] := hnone
    show Contract.mk <$> (Participant.check (.ofJson consumer.document)).within (.field "consumer")
      <*> (Participant.check (.ofJson provider.document)).within (.field "provider")
      <*> .passed [] <*> (list Message.check (.ofJson units)).within (.field "messages")
      <*> (dictionary anything (.ofJson metadata)).within (.field "metadata") = _
    rw [hcheck, hmetadata]
    rfl
  | interactions hnone _ hcheck =>
    obtain rfl : messages = [] := hnone
    show Contract.mk <$> (Participant.check (.ofJson consumer.document)).within (.field "consumer")
      <*> (Participant.check (.ofJson provider.document)).within (.field "provider")
      <*> (list Interaction.check (.ofJson units)).within (.field "interactions") <*> .passed []
      <*> (dictionary anything (.ofJson metadata)).within (.field "metadata") = _
    rw [hcheck, hmetadata]
    rfl

/-- The fields of a file in both forms. The list that the file does not have is
there when the contract is laid open, but nothing is in it. -/
theorem bothForms_of_lists {c : Contract} {name : String} {units metadata : Json}
    (hunits : c.Lists name units) (hunitsExact : units.Exact) (hmetadataExact : metadata.Exact)
    (hmetadata : metadata.depth = (openedFields c.metadata).depth) :
    BothForms [("consumer", Model.opened c.consumer), ("provider", Model.opened c.provider),
        ("interactions", .list (c.interactions.map Interaction.opened)),
        ("messages", .list (c.messages.map Message.opened)), ("metadata", openedFields c.metadata)]
      ["consumer", "provider", name, "metadata"]
      [("consumer", c.consumer.document), ("provider", c.provider.document), (name, units),
        ("metadata", metadata)] := by
  have hexact : ∀ p : Participant, p.document.Exact := fun p =>
    ⟨List.nodup_cons.mpr ⟨List.not_mem_nil, List.nodup_nil⟩, trivial, trivial⟩
  have hparticipants : BothForms
      [("consumer", Model.opened c.consumer), ("provider", Model.opened c.provider)]
      ["consumer", "provider"]
      [("consumer", c.consumer.document), ("provider", c.provider.document)] :=
    (BothForms.nil.field "consumer" "consumer" (hexact _) rfl).field
      "provider" "provider" (hexact _) rfl
  cases hunits with
  | messages hnone hdepth _ =>
    have hempty : (Value.list (c.interactions.map Interaction.opened)).depth = 0 := by
      rw [hnone]
      rfl
    have hforms := (hparticipants.absent (List.cons_ne_nil _ _) "interactions" hempty).field
      "messages" "messages" hunitsExact hdepth
    exact hforms.field "metadata" "metadata" hmetadataExact hmetadata
  | interactions hnone hdepth _ =>
    have hempty : (Value.list (c.messages.map Message.opened)).depth = 0 := by
      rw [hnone]
      rfl
    have hforms := (hparticipants.field "interactions" "interactions" hunitsExact hdepth).absent
      (List.cons_ne_nil _ _) "messages" hempty
    exact hforms.field "metadata" "metadata" hmetadataExact hmetadata

/-- **The file of an exact contract has a document**, from which the contract
comes back, and which is as deep as the contract laid open. -/
theorem exists_fileDocument {c : Contract} (h : c.Exact)
    (hdepth : (Model.opened c).depth < Value.levelLimit) :
    ∃ j, c.fileDocument = .ok j ∧ j.Exact ∧ j.depth = (Model.opened c).depth
      ∧ check (.ofJson j) = .passed c := by
  obtain ⟨name, units, hlisted, hunitsExact, hunits⟩ := exists_lists h hdepth
  obtain ⟨fs, hstrict, hmetadataExact, hmetadataEq, hmetadataCheck⟩ := exists_metadata h
  have hnames : ["consumer", "provider", name, "metadata"].Nodup := by
    cases hunits <;> decide
  obtain ⟨hexact, heq⟩ :=
    (bothForms_of_lists hunits hunitsExact hmetadataExact hmetadataEq).obj hnames
  refine ⟨_, ?_, hexact, heq, check_of_lists hunits hmetadataCheck⟩
  unfold fileDocument
  rw [hlisted]
  dsimp only
  rw [hstrict]

/-- Reading the text of a document from which a contract comes back. -/
theorem parse_of_check {c : Contract} {j : Json} (hexact : j.Exact)
    (hintegers : j.integersWithin Json.integerDigitLimit = true) (hdepth : j.depth ≤ Json.depthLimit)
    (hcheck : check (.ofJson j) = .passed c) (location : String) :
    parse (j.text .indented ++ "\n") location = .ok c := by
  have hread : Json.readRaw? (j.text .indented ++ "\n") = some j :=
    Json.readRaw?_text Json.spaced_indented hexact hintegers hdepth rfl
  have hparsed : (Model.ofText (j.text .indented ++ "\n") : Except Report Contract) = .ok c := by
    show Validation.ofText "ContractFile" [] check _ = _
    unfold Validation.ofText
    rw [hread]
    dsimp only
    rw [Json.mergedBut_nil, Json.merged_of_exact j hexact, hcheck]
    rfl
  unfold parse
  rw [hparsed]

/-- **Reading undoes writing.** An exact contract that is not nested deeper than
the reader goes has a document for its file, which is nested as deep as the
contract. It has a text unless an integer in the document is too long to be
written, and reading the text gives the contract again. -/
theorem parse_text {c : Contract} (h : c.Exact)
    (hdepth : (Model.opened c).depth ≤ Json.depthLimit) :
    ∃ j, c.fileDocument = .ok j ∧ j.depth = (Model.opened c).depth
      ∧ ((∃ t, c.text = .ok t) ↔ j.integersWithin Json.integerDigitLimit = true)
      ∧ ∀ t, c.text = .ok t → ∀ location, parse t location = .ok c := by
  have hlevels : (Model.opened c).depth < Value.levelLimit :=
    Nat.lt_of_le_of_lt hdepth (by decide)
  obtain ⟨j, hdocument, hexact, heq, hcheck⟩ := exists_fileDocument h hlevels
  refine ⟨j, hdocument, heq, ?_, ?_⟩
  · constructor
    · rintro ⟨t, ht⟩
      obtain ⟨j', hj', hintegers, -⟩ := text_eq_ok_iff.mp ht
      obtain rfl := Except.ok.inj (hdocument.symm.trans hj')
      exact hintegers
    · exact fun hintegers => ⟨_, text_eq_ok_iff.mpr ⟨j, hdocument, hintegers, rfl⟩⟩
  · intro t ht location
    obtain ⟨j', hj', hintegers, rfl⟩ := text_eq_ok_iff.mp ht
    obtain rfl := Except.ok.inj (hdocument.symm.trans hj')
    exact parse_of_check hexact hintegers (heq ▸ hdepth) hcheck location

/-- A contract with a state that has parameters, matchers in the path and in a
header, several query values, a body and a file. -/
def shopContract : Contract where
  consumer := ⟨"shop"⟩
  provider := ⟨"stock"⟩
  interactions := [
    { description := "an item is looked up"
      providerStates := [⟨"an item exists", .ofJson (.obj [("id", .int 42), ("tags", .arr [])])⟩]
      request :=
        { method := "GET"
          path := .matching ⟨"regex", .str "/items/42", [("regex", .str "/items/\\d+")], none⟩
          query := some [("fields", .each ["name", "price"])]
          headers := some [("X-Id", .matching ⟨"type", .str "a", [], some "Uuid"⟩)]
          body := none
          file := none }
      response :=
        { status := 200
          headers := none
          body := some "\x7b\"id\": 42\x7d\n"
          file := some ⟨"image/png", "item.png", none⟩ } }]
  messages := []
  metadata := [("pactSpecification", .ofJson (.obj [("version", .str "4.0")]))]

/-- Its text exists, and reading it gives the contract again. -/
theorem parse_text_shop :
    shopContract.Exact ∧ (Model.opened shopContract).depth ≤ Json.depthLimit
      ∧ ∃ t, shopContract.text = .ok t ∧ parse t "shop-stock.json" = .ok shopContract := by
  have hpath : MatcherOf.Exact
      ⟨"regex", .str "/items/42", [("regex", .str "/items/\\d+")], none⟩ :=
    ⟨⟨by decide, by decide, by decide⟩, ⟨.str _, trivial, rfl⟩,
      List.forall_mem_singleton.mpr ⟨.str _, trivial, rfl⟩⟩
  have hheader : MatcherOf.Exact ⟨"type", .str "a", [], some "Uuid"⟩ :=
    ⟨⟨by decide, by decide, by decide⟩, ⟨.str _, trivial, rfl⟩, fun a ha => nomatch ha⟩
  have hparameters : (Value.ofJson (.obj [("id", .int 42), ("tags", .arr [])])).Exact :=
    ⟨.obj [("id", .int 42), ("tags", .arr [])], ⟨by decide, trivial, trivial, trivial⟩, rfl⟩
  have hexact : shopContract.Exact :=
    { one := .inr rfl
      interactions := List.forall_mem_singleton.mpr
        { providerStates := List.forall_mem_singleton.mpr hparameters
          request :=
            { path := hpath
              query := fun fs hfs => by
                obtain rfl := Option.mem_some.mp hfs
                exact ⟨by decide, List.forall_mem_singleton.mpr trivial⟩
              headers := fun fs hfs => by
                obtain rfl := Option.mem_some.mp hfs
                exact ⟨by decide, List.forall_mem_singleton.mpr hheader⟩ }
          response := fun fs hfs => nomatch hfs }
      messages := fun m hm => nomatch hm
      metadata := ⟨by decide, List.forall_mem_singleton.mpr
        ⟨.obj [("version", .str "4.0")], ⟨by decide, trivial, trivial⟩, rfl⟩⟩ }
  have hdepth : (Model.opened shopContract).depth ≤ Json.depthLimit := by decide +kernel
  obtain ⟨j, hdocument, -, htext, hparse⟩ := parse_text hexact hdepth
  have hintegers : j.integersWithin Json.integerDigitLimit = true := by
    have heval : shopContract.fileDocument.toOption.map (Json.integersWithin Json.integerDigitLimit)
        = some true := by decide +kernel
    rw [hdocument] at heval
    exact Option.some.inj heval
  obtain ⟨t, ht⟩ := htext.mpr hintegers
  exact ⟨hexact, hdepth, t, ht, hparse t ht _⟩

end Contract

end Covenant
