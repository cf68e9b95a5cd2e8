import Mathlib.Data.List.DropRight
import Covenant.Proofs.Engine.Ledger

/-!
# Recording messages for several contracts

A scripted engine keeps one list of messages, and each time that a message is
recorded it writes the contract of the call's options again. So the file of a
contract is that of the last call for it (`LastRecorded`), whatever has been
recorded for other contracts since: their files are elsewhere, and writing them
leaves it alone (`Recording.record`).

The list is not told apart by contracts. What a file lists are the messages of all
calls up to the last one for its contract (`recordedFor`), and these are the
contract's own messages exactly if no call for another contract came before
(`Script.messages_of_recordAll`). Else the file lists messages of other contracts
(`Script.message_leaked`).
-/

namespace Covenant

/-! ## The contract of some options -/

/-- The contract of messages that is written under some options. -/
def messageContract (options : PactOptions) (messages : List Message) : Contract :=
  .ofMessages options.consumer options.provider messages (.str options.specVersion) installedVersion

namespace PactOptions

/-- **Which contract options are about**: its directory, consumer and provider. -/
def subject (options : PactOptions) : Path × String × String :=
  (options.dir, options.consumer, options.provider)

/-- The file of the contract. -/
def contractFile (options : PactOptions) : Path := (messageContract options []).pathIn options.dir

/-- Options about one contract have one file. -/
theorem contractFile_congr {o o' : PactOptions} (h : o.subject = o'.subject) :
    o.contractFile = o'.contractFile := by
  obtain ⟨dir, consumer, provider, _, _, _⟩ := o
  obtain ⟨dir', consumer', provider', _, _, _⟩ := o'
  cases h
  rfl

end PactOptions

namespace Script

/-- **Records messages one after the other**, each under its options, up to the
first failure. -/
def recordAll (s : Script) : List (Message × PactOptions) → Ledger → Answer Ledger Unit
  | [], l => ⟨.ok (), [], l⟩
  | (m, options) :: calls, l => (s.record m options l).andThen fun _ l => recordAll s calls l

variable {s : Script} {l : Ledger}

theorem recordAll_cons {m : Message} {options : PactOptions} {calls : List (Message × PactOptions)}
    (h : (s.recordAll ((m, options) :: calls) l).outcome = .ok ()) :
    (s.record m options l).outcome = .ok ()
      ∧ (s.recordAll calls (s.record m options l).state).outcome = .ok ()
      ∧ (s.recordAll ((m, options) :: calls) l).state
        = (s.recordAll calls (s.record m options l).state).state := by
  rw [recordAll] at h ⊢
  cases hrecord : (s.record m options l).outcome with
  | error e =>
    rw [Answer.andThen_of_error hrecord] at h
    cases h
  | ok u =>
    rw [Answer.andThen_of_ok hrecord] at h ⊢
    exact ⟨rfl, h, rfl⟩

/-- **A recording is refused before it begins, or takes the message and writes.** -/
theorem record_cases (s : Script) (m : Message) (options : PactOptions) (l : Ledger) :
    (∃ x, s.recordError = some x ∧ s.record m options l = ⟨.error (.raised x), [], l⟩)
      ∨ s.recordError = none ∧ s.record m options l
        = writeNoted (messageContract options (l.messages ++ [m])) options.dir
          { l with messages := l.messages ++ [m] } := by
  unfold record
  cases h : s.recordError with
  | some x => exact .inl ⟨x, rfl, rfl⟩
  | none => exact .inr ⟨rfl, rfl⟩

/-- **What recording a message does** where it goes well: the message is added,
the contract of all messages is read under its path, and every other file reads as
before, unless its path leads there. -/
theorem record_frame {m : Message} {options : PactOptions}
    (h : (s.record m options l).outcome = .ok ()) :
    (s.record m options l).state.messages = l.messages ++ [m]
      ∧ FileSystem.KeepsDirectories l.files (s.record m options l).state.files
      ∧ (∃ t, (messageContract options (l.messages ++ [m])).text = .ok t
        ∧ (s.record m options l).state.files.contents options.contractFile = .ok (.text t))
      ∧ ∀ q x, l.files.contents q = .ok x
        → (s.record m options l).state.files.resolve q
          ≠ (s.record m options l).state.files.resolve options.contractFile
        → (s.record m options l).state.files.contents q = .ok x := by
  obtain ⟨x, -, hrecord⟩ | ⟨-, hrecord⟩ := s.record_cases m options l
  · rw [hrecord] at h
    cases h
  · rw [hrecord] at h ⊢
    have hcases := (messageContract options (l.messages ++ [m])).write_cases options.dir l.files
    unfold writeNoted at h ⊢
    dsimp only at h ⊢
    cases hwrite : (messageContract options (l.messages ++ [m])).write options.dir l.files with
    | mk outcome rest =>
      rw [hwrite] at hcases h
      cases outcome with
      | error e => cases h
      | ok path =>
        have hframe := Contract.write_frame (messageContract options (l.messages ++ [m])) options.dir
          l.files
        rw [hwrite] at hframe
        obtain ⟨e, he, -⟩ | ⟨e, he, -⟩ | ⟨t, -, htext, -, hcontents⟩ := hcases
        · cases he
        · cases he
        · exact ⟨rfl, hframe.1, ⟨t, htext, hcontents⟩, hframe.2⟩

/-- **The file of the last call** is the file of all messages, whichever contracts
they were recorded for. -/
theorem contents_of_recordAll_append (calls : List (Message × PactOptions)) (m : Message)
    (options : PactOptions) (h : (s.recordAll (calls ++ [(m, options)]) l).outcome = .ok ()) :
    ∃ j, (messageContract options (l.messages ++ calls.map Prod.fst ++ [m])).fileDocument = .ok j
      ∧ (s.recordAll (calls ++ [(m, options)]) l).state.files.contents options.contractFile
        = .ok (.text (j.text .indented ++ "\n")) := by
  induction calls generalizing l with
  | nil =>
    obtain ⟨hrecord, -, hstate⟩ := recordAll_cons h
    obtain ⟨-, -, ⟨t, htext, hcontents⟩, -⟩ := record_frame hrecord
    obtain ⟨j, hdocument, -, rfl⟩ := Contract.text_eq_ok_iff.mp htext
    rw [List.map_nil, List.append_nil]
    refine ⟨j, hdocument, ?_⟩
    rw [List.nil_append, hstate]
    exact hcontents
  | cons c calls ih =>
    obtain ⟨m', options'⟩ := c
    rw [List.cons_append] at h ⊢
    obtain ⟨hrecord, hrest, hstate⟩ := recordAll_cons h
    have hmessages := (record_frame hrecord).1
    rw [hstate, List.map_cons, List.append_cons l.messages, ← hmessages]
    exact ih hrest

end Script

/-! ## What is in the files -/

/-- **The calls that the file of a contract tells about**: all calls up to the last
one for it. -/
def recordedFor (options : PactOptions) (calls : List (Message × PactOptions)) :
    List (Message × PactOptions) :=
  calls.rdropWhile fun c => c.2.subject ≠ options.subject

/-- The messages of the calls for the contract that options are about, in order. -/
def messagesFor (options : PactOptions) (calls : List (Message × PactOptions)) : List Message :=
  (calls.filter fun c => c.2.subject = options.subject).map Prod.fst

section RecordedFor

variable {options : PactOptions} {calls : List (Message × PactOptions)}

/-- A call for the contract is the last one. -/
theorem recordedFor_concat_of_eq {c : Message × PactOptions}
    (h : c.2.subject = options.subject) : recordedFor options (calls ++ [c]) = calls ++ [c] :=
  List.rdropWhile_concat_neg _ _ _ (by simpa using h)

/-- A call for another contract changes nothing. -/
theorem recordedFor_concat_of_ne {c : Message × PactOptions}
    (h : c.2.subject ≠ options.subject) :
    recordedFor options (calls ++ [c]) = recordedFor options calls :=
  List.rdropWhile_concat_pos _ _ _ (by simpa using h)

/-- All calls for the contract are among them. -/
theorem messagesFor_recordedFor :
    messagesFor options (recordedFor options calls) = messagesFor options calls := by
  unfold messagesFor
  induction calls using List.reverseRecOn with
  | nil => rfl
  | append_singleton calls c ih =>
    by_cases h : c.2.subject = options.subject
    · rw [recordedFor_concat_of_eq h]
    · have hnone : [c].filter (fun c => c.2.subject = options.subject) = [] := by simpa using h
      rw [recordedFor_concat_of_ne h, ih, List.filter_append, hnone, List.append_nil]

/-- **Calls have the contract's own messages only**, if all of them are for it. -/
theorem map_fst_eq_messagesFor_iff :
    calls.map Prod.fst = messagesFor options calls
      ↔ ∀ c ∈ calls, c.2.subject = options.subject := by
  have hall : (∀ c ∈ calls, c.2.subject = options.subject)
      ↔ calls.filter (fun c => c.2.subject = options.subject) = calls := by
    simp [List.filter_eq_self]
  rw [hall]
  unfold messagesFor
  constructor
  · intro h
    have hlength := congrArg List.length h
    rw [List.length_map, List.length_map] at hlength
    exact List.filter_sublist.eq_of_length hlength.symm
  · intro h
    rw [h]

end RecordedFor

/-- **The last call for a contract** is what its file tells about: the file holds
the contract of all messages up to that call, under the options of that call. -/
def LastRecorded (calls : List (Message × PactOptions)) (files : FileSystem)
    (options : PactOptions) : Prop :=
  ∃ last, (recordedFor options calls).getLast? = some last ∧ last.2.subject = options.subject
    ∧ ∃ t, (messageContract last.2 ((recordedFor options calls).map Prod.fst)).text = .ok t
      ∧ files.contents options.contractFile = .ok (.text t)

/-- **What recordings that went well have come to**: the messages of the calls in
order, and for each call the file of its contract. -/
structure Recording (calls : List (Message × PactOptions)) (l : Ledger) : Prop where
  messages : l.messages = calls.map Prod.fst
  files : ∀ c ∈ calls, LastRecorded calls l.files c.2

namespace Recording

variable {s : Script} {l : Ledger} {calls : List (Message × PactOptions)}

theorem nil (h : l.messages = []) : Recording [] l := ⟨h, fun _ hc => nomatch hc⟩

/-- **Another recording.** If the contracts of the calls before it have their files
elsewhere, those files stay as they are. -/
theorem record (h : Recording calls l) {m : Message} {options : PactOptions}
    (hdone : (s.record m options l).outcome = .ok ())
    (hplaces : ∀ c ∈ calls, c.2.subject ≠ options.subject →
      (s.record m options l).state.files.resolve c.2.contractFile
        ≠ (s.record m options l).state.files.resolve options.contractFile) :
    Recording (calls ++ [(m, options)]) (s.record m options l).state := by
  obtain ⟨hmessages, -, ⟨t, htext, hcontents⟩, hframe⟩ := Script.record_frame hdone
  have hall : l.messages ++ [m] = (calls ++ [(m, options)]).map Prod.fst := by
    rw [h.messages, List.map_append]
    rfl
  rw [hall] at hmessages htext
  refine ⟨hmessages, fun c hc => ?_⟩
  unfold LastRecorded
  by_cases hsubject : c.2.subject = options.subject
  · -- this call is the last one for the contract
    rw [recordedFor_concat_of_eq hsubject.symm, PactOptions.contractFile_congr hsubject]
    exact ⟨(m, options), List.getLast?_concat, hsubject.symm, t, htext, hcontents⟩
  · have hold : c ∈ calls := by
      obtain hc | hc := List.mem_append.mp hc
      · exact hc
      · rw [List.mem_singleton.mp hc] at hsubject
        exact absurd rfl hsubject
    obtain ⟨last, hlast, hsame, t', htext', hcontents'⟩ := h.files c hold
    rw [recordedFor_concat_of_ne (Ne.symm hsubject)]
    exact ⟨last, hlast, hsame, t', htext', hframe _ _ hcontents' (hplaces c hold hsubject)⟩

/-- Directories stay where all recordings went well, and so does the place that the
file of a contract has. -/
theorem keepsDirectories_recordAll (hdone : (s.recordAll calls l).outcome = .ok ()) :
    FileSystem.KeepsDirectories l.files (s.recordAll calls l).state.files := by
  induction calls generalizing l with
  | nil => exact fun at_ h => h
  | cons c calls ih =>
    obtain ⟨m, options⟩ := c
    obtain ⟨hrecord, hrest, hstate⟩ := Script.recordAll_cons hdone
    rw [hstate]
    exact fun at_ hat => ih hrest at_ ((Script.record_frame hrecord).2.1 at_ hat)

/-- **All recordings**, one after the other. The places of the files are compared
at the end: what a path leads to does not change once it leads somewhere. -/
theorem recordAll {done : List (Message × PactOptions)} (h : Recording done l)
    (hdone : (s.recordAll calls l).outcome = .ok ())
    (hplaces : ∀ c ∈ done ++ calls, ∀ c' ∈ done ++ calls, c.2.subject ≠ c'.2.subject →
      (s.recordAll calls l).state.files.resolve c.2.contractFile
        ≠ (s.recordAll calls l).state.files.resolve c'.2.contractFile) :
    Recording (done ++ calls) (s.recordAll calls l).state := by
  induction calls generalizing l done with
  | nil =>
    rw [List.append_nil]
    exact h
  | cons c calls ih =>
    obtain ⟨m, options⟩ := c
    obtain ⟨hrecord, hrest, hstate⟩ := Script.recordAll_cons hdone
    rw [hstate] at hplaces ⊢
    rw [List.append_cons] at hplaces ⊢
    obtain ⟨-, -, ⟨t, -, hcontents⟩, hframe⟩ := Script.record_frame hrecord
    refine ih (h.record hrecord fun c hc hsubject heq => ?_) hrest hplaces
    -- both files are there already, so their paths lead where they lead in the end
    obtain ⟨place, hplace, -⟩ := FileSystem.contents_eq_ok_iff.mp hcontents
    have hkeeps := keepsDirectories_recordAll hrest
    refine hplaces c (List.mem_append_left _ (List.mem_append_left _ hc)) (m, options) (by simp)
      hsubject ?_
    rw [FileSystem.resolve_of_keepsDirectories hkeeps hplace,
      FileSystem.resolve_of_keepsDirectories hkeeps (heq.trans hplace)]

end Recording

/-! ## The messages of a contract -/

/-- The document of a file that lists the documents of messages. -/
def fileListing (options : PactOptions) (documents : List Json) : Json :=
  .obj [("consumer", .obj [("name", .str options.consumer)]),
    ("provider", .obj [("name", .str options.provider)]),
    ("messages", (Json.arr documents).merged),
    ("metadata", .obj [("pactSpecification", .obj [("version", .str options.specVersion)]),
      (distribution, .obj [("version", .str installedVersion)])])]

/-- **The file of a contract of messages** lists their documents. -/
theorem documents_of_fileDocument {options : PactOptions} {messages : List Message} {j : Json}
    (hne : messages ≠ []) (h : (messageContract options messages).fileDocument = .ok j) :
    ∃ documents, Model.documents messages = .ok documents ∧ j = fileListing options documents := by
  have hlisted : (messageContract options messages).listed
      = (Model.documents messages).map fun js => ("messages", (Json.arr js).merged) := by
    cases messages with
    | nil => exact absurd rfl hne
    | cons m messages => rfl
  unfold Contract.fileDocument at h
  rw [hlisted] at h
  cases hdocuments : Model.documents messages with
  | error e =>
    rw [hdocuments] at h
    cases h
  | ok js =>
    rw [hdocuments] at h
    exact ⟨js, rfl, (Except.ok.inj h).symm⟩

namespace Script

/-- **What the file of every contract lists.** After any recordings that went well,
on an engine without messages, for contracts whose files are in different places:
the file of each contract is written under the options of the last call for it, and
lists the documents of all messages recorded on the engine up to that call. The
documents of the contract's own messages are among them, in order. They are all of
them exactly if no call up to that one was for another contract. -/
theorem messages_of_recordAll (s : Script) {l : Ledger} (hnew : l.messages = [])
    (calls : List (Message × PactOptions)) (hdone : (s.recordAll calls l).outcome = .ok ())
    (hplaces : ∀ c ∈ calls, ∀ c' ∈ calls, c.2.subject ≠ c'.2.subject →
      (s.recordAll calls l).state.files.resolve c.2.contractFile
        ≠ (s.recordAll calls l).state.files.resolve c'.2.contractFile) :
    ∀ c ∈ calls, ∃ last documents own,
      (recordedFor c.2 calls).getLast? = some last ∧ last.2.subject = c.2.subject
        ∧ Model.documents ((recordedFor c.2 calls).map Prod.fst) = .ok documents
        ∧ (s.recordAll calls l).state.files.contents c.2.contractFile
          = .ok (.text ((fileListing last.2 documents).text .indented ++ "\n"))
        ∧ Model.documents (messagesFor c.2 calls) = .ok own ∧ own.Sublist documents
        ∧ (documents = own ↔ ∀ c' ∈ recordedFor c.2 calls, c'.2.subject = c.2.subject) := by
  intro c hc
  obtain ⟨last, hlast, hsame, t, htext, hcontents⟩ :=
    ((Recording.nil hnew).recordAll hdone hplaces).files c hc
  rw [List.nil_append] at hlast htext
  obtain ⟨j, hdocument, -, rfl⟩ := Contract.text_eq_ok_iff.mp htext
  have hne : (recordedFor c.2 calls).map Prod.fst ≠ [] := by
    intro hnil
    rw [List.map_eq_nil_iff] at hnil
    rw [hnil] at hlast
    cases hlast
  obtain ⟨documents, hdocuments, rfl⟩ := documents_of_fileDocument hne hdocument
  have hsublist : (messagesFor c.2 calls).Sublist ((recordedFor c.2 calls).map Prod.fst) := by
    rw [← messagesFor_recordedFor]
    exact List.filter_sublist.map _
  obtain ⟨own, hown, hownSublist⟩ := Model.documents_of_sublist hsublist hdocuments
  refine ⟨last, documents, own, hlast, hsame, hdocuments, hcontents, hown, hownSublist, ?_⟩
  rw [← map_fst_eq_messagesFor_iff, messagesFor_recordedFor]
  constructor
  · -- as many documents, so as many messages
    intro heq
    refine (hsublist.eq_of_length ?_).symm
    rw [← Model.length_of_documents hown, ← Model.length_of_documents hdocuments, heq]
  · intro heq
    rw [heq, hown] at hdocuments
    exact (Except.ok.inj hdocuments).symm

theorem ok_of_toBool {outcome : Except Failure Unit} (h : outcome.toBool = true) :
    outcome = .ok () := by
  cases outcome with
  | ok u => rfl
  | error e => cases h

/-- A message that is only described. -/
def described (description : String) : Message := ⟨description, .str "o-1", none, []⟩

/-- The options of a contract with one consumer and some provider. -/
def optionsFor (provider : String) : PactOptions :=
  ⟨.ofText "pacts", "worker", provider, false, none, "3.0.0"⟩

/-- Recordings for two contracts, one after the other and back again. -/
def interleaved : List (Message × PactOptions) :=
  [(described "ordered", optionsFor "orders"), (described "paid", optionsFor "payments"),
    (described "cancelled", optionsFor "orders")]

/-- The recordings for two contracts on a new engine. The file of the one that is
come back to lists all three messages, two of them its own. -/
theorem messages_of_recordAll_interleaved :
    (Ledger.new .empty).messages = []
      ∧ (faultless.recordAll interleaved (.new .empty)).outcome = .ok ()
      ∧ ∃ documents own, Model.documents (interleaved.map Prod.fst) = .ok documents
        ∧ (faultless.recordAll interleaved (.new .empty)).state.files.contents
            (optionsFor "orders").contractFile
          = .ok (.text ((fileListing (optionsFor "orders") documents).text .indented ++ "\n"))
        ∧ Model.documents [described "ordered", described "cancelled"] = .ok own
        ∧ own.Sublist documents ∧ documents ≠ own := by
  have hdone : (faultless.recordAll interleaved (.new .empty)).outcome = .ok () :=
    ok_of_toBool (by decide +kernel)
  have hdiffer : ((faultless.recordAll interleaved (.new .empty)).state.files.resolve
        (optionsFor "orders").contractFile).toOption
      ≠ ((faultless.recordAll interleaved (.new .empty)).state.files.resolve
        (optionsFor "payments").contractFile).toOption := by decide +kernel
  have hplaces : ∀ c ∈ interleaved, ∀ c' ∈ interleaved, c.2.subject ≠ c'.2.subject →
      (faultless.recordAll interleaved (.new .empty)).state.files.resolve c.2.contractFile
        ≠ (faultless.recordAll interleaved (.new .empty)).state.files.resolve c'.2.contractFile := by
    have htwo : ∀ c ∈ interleaved, c.2 = optionsFor "orders" ∨ c.2 = optionsFor "payments" := by
      simp [interleaved]
    intro c hc c' hc' hsubject heq
    obtain h | h := htwo c hc <;> obtain h' | h' := htwo c' hc' <;> rw [h, h'] at hsubject heq
    · exact hsubject rfl
    · exact hdiffer (congrArg Except.toOption heq)
    · exact hdiffer (congrArg Except.toOption heq.symm)
    · exact hsubject rfl
  have hall : recordedFor (optionsFor "orders") interleaved = interleaved := rfl
  obtain ⟨last, documents, own, hlast, -, hdocuments, hcontents, hown, hsublist, hiff⟩ :=
    messages_of_recordAll faultless rfl interleaved hdone hplaces
      (described "ordered", optionsFor "orders") (by simp [interleaved])
  rw [hall] at hlast hdocuments hiff
  obtain rfl := Option.some.inj hlast
  refine ⟨rfl, hdone, documents, own, hdocuments, hcontents, hown, hsublist, fun heq => ?_⟩
  have hother := hiff.mp heq (described "paid", optionsFor "payments") (by simp [interleaved])
  exact absurd hother (by decide)

/-- **A message in the file of another contract.** Two contracts are recorded for,
one message each. The file of the second lists both. -/
theorem message_leaked :
    (faultless.recordAll [(described "ordered", optionsFor "orders"),
        (described "paid", optionsFor "payments")] (.new .empty)).outcome = .ok ()
      ∧ messagesFor (optionsFor "payments") [(described "ordered", optionsFor "orders"),
          (described "paid", optionsFor "payments")] = [described "paid"]
      ∧ (faultless.recordAll [(described "ordered", optionsFor "orders"),
          (described "paid", optionsFor "payments")]
          (.new .empty)).state.files.contents (optionsFor "payments").contractFile
        = .ok (.text ((fileListing (optionsFor "payments") [
            .obj [("description", .str "ordered"), ("contents", .str "o-1"),
              ("providerStates", .arr [])],
            .obj [("description", .str "paid"), ("contents", .str "o-1"),
              ("providerStates", .arr [])]]).text .indented ++ "\n")) := by
  have hdone : (faultless.recordAll [(described "ordered", optionsFor "orders"),
      (described "paid", optionsFor "payments")] (.new .empty)).outcome = .ok () :=
    ok_of_toBool (by decide +kernel)
  obtain ⟨j, hj, hcontents⟩ := contents_of_recordAll_append [_] _ _ hdone
  cases hj
  exact ⟨hdone, rfl, hcontents⟩

end Script

end Covenant
