import Covenant.Proofs.Engine.Recording

/-!
# What a failed recording leaves behind

A scripted engine takes a message into its list before it writes the contract of
all messages in the list. A recording that is refused before it begins leaves
nothing behind; one that fails on writing leaves no text and no path behind, but
its message stays (`Script.record_cases`).

So what the list holds after any recordings, failed ones among them, are the
messages of those that began (`Attempt.messages_recordEach`), and a recording that
goes well writes the messages of failed ones too. A message that no file can hold
(`Message.Writable`) does more harm where it stays: there is no contract with it,
so no later recording goes well (`Attempt.trace_of_failed`).
-/

namespace Covenant

/-! ## Messages that a file can hold -/

/-- **A message that a contract's file can hold**: it has a document, and every
integer in that has a text. -/
def Message.Writable (m : Message) : Prop :=
  ∃ j, Model.dumped m = .ok j ∧ j.integersWithin Json.integerDigitLimit = true

/-- Where all integers of the merged items have texts, those of each item have. -/
theorem Json.integersWithin_of_mem {limit : Nat} {js : List Json}
    (h : Json.integersWithinItems limit (Json.mergedItems js) = true) {j : Json} (hj : j ∈ js) :
    j.merged.integersWithin limit = true := by
  induction js with
  | nil => cases hj
  | cons i js ih =>
    obtain ⟨hi, hjs⟩ := Bool.and_eq_true_iff.mp h
    obtain rfl | hj := List.mem_cons.mp hj
    · exact hi
    · exact ih hjs hj

/-- **The messages of a contract that has a text** can all be held by a file. -/
theorem writable_of_text {options : PactOptions} {messages : List Message} {t : String}
    (h : (messageContract options messages).text = .ok t) {m : Message} (hm : m ∈ messages) :
    m.Writable := by
  obtain ⟨j, hdocument, hintegers, -⟩ := Contract.text_eq_ok_iff.mp h
  obtain ⟨js, hdocuments, rfl⟩ := documents_of_fileDocument (List.ne_nil_of_mem hm) hdocument
  obtain ⟨j, hj, hmdocument⟩ := (Model.exists_of_documents hdocuments).1 m hm
  have hitems : Json.integersWithinItems Json.integerDigitLimit (Json.mergedItems js) = true := by
    simp only [fileListing, Json.merged, Json.integersWithin, Json.integersWithinFields,
      Bool.and_eq_true] at hintegers
    exact hintegers.2.2.1
  exact ⟨j.merged, congrArg (Except.map Json.merged) hmdocument,
    Json.integersWithin_of_mem hitems hj⟩

/-! ## One recording -/

/-- **Writing and noting a contract** touches the files and the notes alone. -/
theorem Script.state_writeNoted (c : Contract) (dir : Path) (l : Ledger) :
    (writeNoted c dir l).state
      = { l with files := (writeNoted c dir l).state.files,
                 written := (writeNoted c dir l).state.written } := by
  unfold writeNoted
  split <;> rfl

/-- **An attempt to record a message**, and the script that the engine then has. -/
structure Attempt where
  /-- The script. -/
  script : Script
  /-- The message. -/
  message : Message
  /-- The options of the contract. -/
  options : PactOptions

namespace Attempt

variable {a : Attempt} {l : Ledger}

/-- What the attempt comes to. -/
def record (a : Attempt) (l : Ledger) : Answer Ledger Unit :=
  a.script.record a.message a.options l

/-- The message, if the recording is not refused before it begins. -/
def begun (a : Attempt) : List Message :=
  if a.script.recordError.isSome then [] else [a.message]

/-- The engine's record after attempts, whatever came of them. -/
def recordEach (attempts : List Attempt) (l : Ledger) : Ledger :=
  attempts.foldl (fun l a => (a.record l).state) l

/-- **The message of a recording that began is in the list.** -/
theorem messages_record (a : Attempt) (l : Ledger) :
    (a.record l).state.messages = l.messages ++ a.begun := by
  unfold record begun
  obtain ⟨x, herror, hrecord⟩ | ⟨herror, hrecord⟩ := a.script.record_cases a.message a.options l
  · rw [hrecord, herror]
    exact (List.append_nil _).symm
  · rw [hrecord, herror, Script.state_writeNoted]
    rfl

/-- **The messages of all recordings that began are in the list**, in order. -/
theorem messages_recordEach (attempts : List Attempt) (l : Ledger) :
    (recordEach attempts l).messages = l.messages ++ attempts.flatMap begun := by
  induction attempts generalizing l with
  | nil => exact (List.append_nil _).symm
  | cons a attempts ih =>
    rw [recordEach, List.foldl_cons, ← recordEach, ih, messages_record, List.flatMap_cons,
      List.append_assoc]

/-- **A recording that fails** does not change the notes on what was written, and
nothing else but the list of messages, unless the contract has a text without
bytes, whose file it empties. -/
theorem state_of_failed {e : Failure} (h : (a.record l).outcome = .error e) :
    (a.record l).state = { l with messages := l.messages ++ a.begun,
                                  files := (a.record l).state.files }
      ∧ (FileSystem.SameFiles l.files (a.record l).state.files
        ∨ (messageContract a.options (l.messages ++ [a.message])).Spoiled a.options.dir l.files
          (a.record l).state.files e) := by
  unfold record begun at *
  obtain ⟨x, herror, hrecord⟩ | ⟨herror, hrecord⟩ := a.script.record_cases a.message a.options l
  · rw [hrecord, herror]
    exact ⟨congrArg (fun messages => { l with messages := messages }) (List.append_nil _).symm,
      .inl (.refl _)⟩
  · rw [hrecord] at h ⊢
    rw [herror]
    have hcases := Script.writeNoted_cases (messageContract a.options (l.messages ++ [a.message]))
      a.options.dir { l with messages := l.messages ++ [a.message] }
    have hstate := Script.state_writeNoted (messageContract a.options (l.messages ++ [a.message]))
      a.options.dir { l with messages := l.messages ++ [a.message] }
    generalize Script.writeNoted _ _ _ = answer at h hcases hstate ⊢
    obtain ⟨_, -, hsame⟩ | ⟨e', he', hspoiled⟩ | ⟨hdone, -⟩ := hcases
    · rw [hsame.written] at hstate
      exact ⟨hstate, .inl hsame.files⟩
    · obtain rfl : e = e' := Except.error.inj (h.symm.trans he')
      rw [hspoiled.written] at hstate
      exact ⟨hstate, .inr hspoiled.files⟩
    · rw [hdone] at h
      cases h

/-- **A recording that goes well** writes the contract of all messages whose
recording began, its own last. -/
theorem contents_of_recordEach {attempts : List Attempt} {last : Attempt}
    (h : (last.record (recordEach attempts l)).outcome = .ok ()) :
    ∃ t, (messageContract last.options
        (l.messages ++ attempts.flatMap begun ++ [last.message])).text = .ok t
      ∧ (last.record (recordEach attempts l)).state.files.contents last.options.contractFile
        = .ok (.text t) := by
  obtain ⟨-, -, hwritten, -⟩ := Script.record_frame h
  rw [messages_recordEach] at hwritten
  exact hwritten

/-- **What a failed recording leaves behind.** No file changes, but for the
contract's, which is emptied if the text for it has no bytes; and no path is
noted. But the list of messages is as before only if the recording was refused
before it began; else the message is in it. From then on a recording that goes well
writes the contract of all messages whose recording began, this one among them; and
if no file can hold this one, no recording goes well any more. -/
theorem trace_of_failed {e : Failure} (hfailed : (a.record l).outcome = .error e) :
    (a.record l).state = { l with messages := l.messages ++ a.begun,
                                  files := (a.record l).state.files }
      ∧ (FileSystem.SameFiles l.files (a.record l).state.files
        ∨ (messageContract a.options (l.messages ++ [a.message])).Spoiled a.options.dir l.files
          (a.record l).state.files e)
      ∧ ((a.record l).state.messages = l.messages ↔ a.script.recordError.isSome = true)
      ∧ ∀ (attempts : List Attempt) (last : Attempt),
        (last.record (recordEach attempts (a.record l).state)).outcome = .ok () →
          (∃ t, (messageContract last.options
              (l.messages ++ a.begun ++ attempts.flatMap begun ++ [last.message])).text = .ok t
            ∧ (last.record (recordEach attempts (a.record l).state)).state.files.contents
              last.options.contractFile = .ok (.text t))
          ∧ (a.script.recordError = none → a.message.Writable) := by
  obtain ⟨hstate, hfiles⟩ := state_of_failed hfailed
  refine ⟨hstate, hfiles, ?_, fun attempts last hdone => ?_⟩
  · rw [messages_record, List.append_right_eq_self]
    unfold begun
    cases a.script.recordError <;> simp
  · obtain ⟨t, htext, hcontents⟩ := contents_of_recordEach hdone
    rw [messages_record] at htext
    refine ⟨⟨t, htext, hcontents⟩, fun herror => writable_of_text htext ?_⟩
    have hbegun : a.message ∈ a.begun := by
      unfold begun
      rw [herror]
      exact List.mem_singleton_self _
    simp [hbegun]

/-- A recording for a contract whose directory is a file. -/
def blocked : Attempt := ⟨.faultless, Script.described "ordered", Script.optionsFor "orders"⟩

/-- A file where the directory of a contract should be. -/
def fileInTheWay : FileSystem := { nodes := [(["pacts"], .file (.text "x"))] }

/-- Another recording, in another directory. -/
def elsewhere : Attempt :=
  ⟨.faultless, Script.described "paid", { Script.optionsFor "orders" with dir := .ofText "out" }⟩

theorem exists_error_of_toBool {outcome : Except Failure Unit} (h : outcome.toBool = false) :
    ∃ e, outcome = .error e := by
  cases outcome with
  | ok u => cases h
  | error e => exact ⟨e, rfl⟩

/-- The message that could not be recorded is in the list, and in the file that is
written next. -/
theorem trace_of_failed_blocked :
    (∃ e, (blocked.record (.new fileInTheWay)).outcome = .error e)
      ∧ (blocked.record (.new fileInTheWay)).state.messages ≠ []
      ∧ ∃ t, (messageContract elsewhere.options
          [Script.described "ordered", Script.described "paid"]).text = .ok t
        ∧ (elsewhere.record (blocked.record (.new fileInTheWay)).state).state.files.contents
          elsewhere.options.contractFile = .ok (.text t) := by
  obtain ⟨e, hfailed⟩ : ∃ e, (blocked.record (.new fileInTheWay)).outcome = .error e :=
    exists_error_of_toBool (by decide +kernel)
  have hdone : (elsewhere.record (blocked.record (.new fileInTheWay)).state).outcome = .ok () :=
    Script.ok_of_toBool (by decide +kernel)
  obtain ⟨-, -, hmessages, hlater⟩ := trace_of_failed hfailed
  exact ⟨⟨e, hfailed⟩, fun hsame => (nomatch hmessages.mp hsame), (hlater [] elsewhere hdone).1⟩

/-- **A failed recording that leaves a trace.** The directory cannot be made, so
nothing is written, and still the message is recorded. -/
theorem message_kept :
    ¬ ∀ (s : Script) (m : Message) (options : PactOptions) (l : Ledger) (e : Failure),
      (s.record m options l).outcome = .error e →
        (s.record m options l).state.messages = l.messages
          ∧ (s.record m options l).state.written = l.written := by
  intro hclaim
  obtain ⟨e, hfailed⟩ : ∃ e, (blocked.record (.new fileInTheWay)).outcome = .error e :=
    exists_error_of_toBool (by decide +kernel)
  have hsame : (blocked.record (.new fileInTheWay)).state.messages = [] :=
    (hclaim _ _ _ _ e hfailed).1
  rw [messages_record] at hsame
  cases hsame

end Attempt

end Covenant
