import Mathlib.Data.List.DropRight
import Covenant.Proofs.Contract.Codec
import Covenant.Proofs.MessagePact.Calls
import Covenant.Proofs.Pact.Steps
import Covenant.Proofs.Value.Integration

/-!
# What a message pact holds

A message pact is told things in any order, and some of what it is told it
rejects. What it ought to hold can be told from the accepted calls alone, by a
`Narration`: the description, the contents and the metadata are those said last,
and the states are those given between the last two namings. The states given
since the last naming wait for the next one; until then nothing is to be seen of
them.

An accepted call does one of four things (`Accepted`), and a rejected one does
nothing (`take_cases`). From this comes what one call preserves (`Records.take`)
and from that, by induction, what a new pact holds after any calls
(`narration_of_calls`): its document is that of the narration, and its message,
which it has as soon as contents were said, agrees with the document in every
field.
-/

namespace Covenant

open Validation

/-! ## Dictionaries that are not empty -/

theorem Value.elements_ne_nil {v : Value} {vs : List Value} (hv : v.isEmpty = false)
    (h : v.elements? = some vs) : vs ≠ [] := by
  rintro rfl
  cases v with
  | str s =>
    have hs : s = "" := String.toList_eq_nil_iff.mp (List.map_eq_nil_iff.mp (Option.some.inj h))
    rw [hs] at hv
    cases hv
  | bytes bs =>
    obtain rfl := List.map_eq_nil_iff.mp (Option.some.inj h)
    cases hv
  | list vs =>
    obtain rfl := Option.some.inj h
    cases hv
  | tuple vs =>
    obtain rfl := Option.some.inj h
    cases hv
  | dict es =>
    obtain rfl := List.map_eq_nil_iff.mp (Option.some.inj h)
    cases hv
  | matcher m => cases h
  | _ => cases h

/-- Values make as many entries as they are. -/
theorem length_entriesOfPairs {vs : List Value} {es : List (Key × Value)}
    (h : entriesOfPairs vs = .ok es) : es.length = vs.length := by
  induction vs generalizing es with
  | nil =>
    cases h
    rfl
  | cons v vs ih =>
    rw [entriesOfPairs] at h
    split at h
    · cases h
    · split at h
      · cases h
      · cases hrest : entriesOfPairs vs with
        | error e =>
          rw [hrest] at h
          cases h
        | ok rest =>
          rw [hrest] at h
          cases h
          exact congrArg (· + 1) (ih hrest)

/-- **A value that is not empty makes no empty dictionary.** -/
theorem Value.toDictionary_ne_nil {v : Value} {es : List (Key × Value)} (hv : v.isEmpty = false)
    (h : v.toDictionary = .ok es) : es ≠ [] := by
  unfold Value.toDictionary at h
  split at h
  · cases h
    rintro rfl
    cases hv
  · cases helements : v.elements? with
    | none =>
      rw [helements] at h
      cases h
    | some vs =>
      rw [helements] at h
      change (entriesOfPairs vs).map Entries.ofPairs = .ok es at h
      cases hpairs : entriesOfPairs vs with
      | error e =>
        rw [hpairs] at h
        cases h
      | ok ps =>
        rw [hpairs] at h
        cases h
        have hlength := length_entriesOfPairs hpairs
        have hvs := List.length_pos_of_ne_nil (elements_ne_nil hv helements)
        cases ps with
        | nil => exact absurd hlength.symm (Nat.ne_of_gt hvs)
        | cons p ps => exact Entries.putAll_ne_nil ps (Entries.put_ne_nil [] p.1 p.2)

/-! ## States -/

/-- A text is what a value is or encodes. -/
theorem text_eq_passed_iff {v : Value} {s : String} :
    text v = .passed s ↔ spelling? v = some s := by
  cases v with
  | str t => simp [text, spelling?]
  | bytes bs => cases h : textOfBytes bs <;> simp [text, spelling?, h, Checked.fault, Except.toOption]
  | _ => simp [text, spelling?, Checked.fault]

/-- **A state is made of a name and of any parameters**, which it takes over. -/
theorem stateOf_eq_ok_iff {state parameters : Value} {s : ProviderState} :
    Pact.stateOf state parameters = .ok s
      ↔ ∃ name, spelling? state = some name ∧ s = ⟨name, parameters⟩ := by
  have hcheck : ProviderState.check (.record [("description", state), ("parameters", parameters)])
      = ProviderState.mk <$> (text state).within (.field "description") <*> .passed parameters := rfl
  unfold Pact.stateOf Model.make Model.ofValue ofValue
  rw [show Model.check = ProviderState.check from rfl, hcheck]
  cases htext : text state with
  | passed name =>
    rw [text_eq_passed_iff.mp htext]
    show Except.ok (ProviderState.mk name parameters) = .ok s ↔ _
    simp [eq_comm]
  | refused fs =>
    refine ⟨fun h => (nomatch h), ?_⟩
    rintro ⟨name, hname, -⟩
    rw [text_eq_passed_iff.mpr hname] at htext
    cases htext

namespace MessagePact

/-! ## Accepted calls -/

/-- **What an accepted call does** to a pact. -/
inductive Accepted (p : MessagePact) : MessageCall → MessagePact → Prop where
  | given {state parameters : Value} {name : String} (spelled : spelling? state = some name) :
    Accepted p (.given state parameters) { p with pending := p.pending ++ [⟨name, parameters⟩] }
  | named {description : Value} (given : description.isTruthy = true)
    (states : (p.pending.all fun s => s.description != "") = true) :
    Accepted p (.expectsToReceive description)
      { p with states := p.pending, pending := [], description := some description }
  | filled {contents : Value} (given : contents.isEmpty = false) :
    Accepted p (.withContent contents) { p with contents := some contents }
  | annotated {metadata : Value} {es : List (Key × Value)} (given : metadata.isEmpty = false)
    (dictionary : metadata.toDictionary = .ok es) :
    Accepted p (.withMetadata metadata) { p with metadata := some es }

/-- **What calls come to**: they change nothing, or are accepted. -/
def Decides (p : MessagePact) (call : MessageCall) (x : Building Unit) : Prop :=
  (∃ e, x.run.run p = (.error e, p)) ∨ ∃ q, x.run.run p = (.ok (), q) ∧ p.Accepted call q

section Decides

variable (p : MessagePact)

/-- A state is given if it can be made. -/
theorem decides_give (state parameters : Value) :
    p.Decides (.given state parameters) (give state parameters) := by
  unfold Decides give
  cases hs : Pact.stateOf state parameters with
  | error e => exact .inl ⟨e, rfl⟩
  | ok s =>
    obtain ⟨name, hname, rfl⟩ := stateOf_eq_ok_iff.mp hs
    exact .inr ⟨_, rfl, .given hname⟩

/-- The message is named if there is a name, and every pending state has one. -/
theorem decides_nameMessage (description : Value) :
    p.Decides (.expectsToReceive description) (nameMessage description) := by
  unfold Decides
  cases hgiven : description.isTruthy with
  | false =>
    refine .inl ⟨.misused .emptyMessage, ?_⟩
    unfold nameMessage
    rw [hgiven]
    rfl
  | true =>
    have hrun : (nameMessage description).run.run p
        = (Building.ofExcept (Pact.flushStates p.pending) >>= fun states => modify fun p =>
          { p with states := states, pending := [], description := some description }).run.run p := by
      unfold nameMessage
      rw [hgiven]
      rfl
    rw [hrun]
    cases hstates : Pact.flushStates p.pending with
    | error e => exact .inl ⟨e, rfl⟩
    | ok states =>
      obtain ⟨hnamed, rfl⟩ := Pact.flushStates_eq_ok_iff.mp hstates
      exact .inr ⟨_, rfl, .named hgiven hnamed⟩

/-- The contents are set if they are not empty. -/
theorem decides_setContents (contents : Value) :
    p.Decides (.withContent contents) (setContents contents) := by
  unfold Decides setContents
  cases hgiven : contents.isEmpty with
  | true => exact .inl ⟨_, rfl⟩
  | false => exact .inr ⟨_, rfl, .filled hgiven⟩

/-- The metadata are set if they make a dictionary that is not empty. -/
theorem decides_setMetadata (metadata : Value) :
    p.Decides (.withMetadata metadata) (setMetadata metadata) := by
  unfold Decides setMetadata
  cases hgiven : metadata.isEmpty with
  | true => exact .inl ⟨_, rfl⟩
  | false =>
    cases hes : metadata.toDictionary with
    | error e => exact .inl ⟨e, rfl⟩
    | ok es => exact .inr ⟨_, rfl, .annotated hgiven hes⟩

/-- **A call is accepted or changes nothing.** -/
theorem take_cases (call : MessageCall) :
    (∃ e, p.take call = (.error e, p)) ∨ ∃ q, p.take call = (.ok (), q) ∧ p.Accepted call q := by
  cases call with
  | given state parameters => exact p.decides_give state parameters
  | expectsToReceive description => exact p.decides_nameMessage description
  | withContent contents => exact p.decides_setContents contents
  | withMetadata metadata => exact p.decides_setMetadata metadata

end Decides

/-- **A rejected call leaves the pact as it was.** -/
theorem unchanged_of_error {p : MessagePact} {call : MessageCall} {e : Failure}
    (h : (p.take call).1 = .error e) : (p.take call).2 = p := by
  obtain ⟨_, htake⟩ | ⟨q, htake, -⟩ := take_cases p call
  · rw [htake]
  · rw [htake] at h
    cases h

/-! ## Histories -/

/-- **What an accepted call says.** -/
inductive Saying where
  /-- It gives a state. -/
  | given (state : ProviderState)
  /-- It names the message. -/
  | named (description : String)
  /-- It sets the contents. -/
  | filled (contents : Value)
  /-- It sets the metadata. -/
  | annotated (metadata : List (Key × Value))

namespace Saying

/-- The state that is given. -/
def given? : Saying → Option ProviderState
  | .given s => some s
  | _ => none

/-- The name that the message gets. -/
def named? : Saying → Option String
  | .named description => some description
  | _ => none

/-- The contents that are set. -/
def filled? : Saying → Option Value
  | .filled contents => some contents
  | _ => none

/-- The metadata that are set. -/
def annotated? : Saying → Option (List (Key × Value))
  | .annotated metadata => some metadata
  | _ => none

end Saying

/-- What a call says, if it is accepted. -/
def saying? : MessageCall → Option Saying
  | .given state parameters => (spelling? state).map fun name => .given ⟨name, parameters⟩
  | .expectsToReceive (.str description) => some (.named description)
  | .expectsToReceive _ => none
  | .withContent contents => some (.filled contents)
  | .withMetadata metadata => metadata.toDictionary.toOption.map .annotated

/-- The states given since the message was named last. -/
def statesSince (history : List Saying) : List ProviderState :=
  (history.rtakeWhile fun s => s.named?.isNone).filterMap Saying.given?

/-- The states given between the last two namings. -/
def statesNamed (history : List Saying) : List ProviderState :=
  statesSince (history.rdropWhile fun s => s.named?.isNone).dropLast

/-- **A message as a history tells it.** -/
structure Narration where
  /-- The description said last. -/
  description : Option String
  /-- The states given for it. -/
  states : List ProviderState
  /-- The contents said last. -/
  contents : Option Value
  /-- The metadata said last. -/
  metadata : Option (List (Key × Value))

/-- The message that a history tells. -/
def narration (history : List Saying) : Narration where
  description := (history.filterMap Saying.named?).getLast?
  states := statesNamed history
  contents := (history.filterMap Saying.filled?).getLast?
  metadata := (history.filterMap Saying.annotated?).getLast?

/-! ## One saying more -/

theorem getLast?_filterMap_concat {α : Type} (f : Saying → Option α) (history : List Saying)
    (s : Saying) :
    ((history ++ [s]).filterMap f).getLast? = (f s).or (history.filterMap f).getLast? := by
  rw [List.filterMap_append, List.getLast?_append]
  cases h : f s <;> simp [h]

theorem statesSince_concat (history : List Saying) (s : Saying) :
    statesSince (history ++ [s])
      = if s.named?.isSome then [] else statesSince history ++ s.given?.toList := by
  unfold statesSince
  rw [List.rtakeWhile_concat]
  cases s with
  | named _ => rfl
  | _ => simp [Saying.named?, Saying.given?]

theorem statesNamed_concat (history : List Saying) (s : Saying) :
    statesNamed (history ++ [s])
      = if s.named?.isSome then statesSince history else statesNamed history := by
  unfold statesNamed
  rw [List.rdropWhile_concat]
  cases s with
  | named _ => simp [Saying.named?]
  | _ => rfl

/-- **What one saying more changes**: what it says, and the states if it names
the message. -/
theorem narration_concat (history : List Saying) (s : Saying) :
    narration (history ++ [s])
      = ⟨s.named?.or (narration history).description,
        if s.named?.isSome then statesSince history else (narration history).states,
        s.filled?.or (narration history).contents,
        s.annotated?.or (narration history).metadata⟩ := by
  unfold narration
  rw [getLast?_filterMap_concat, getLast?_filterMap_concat, getLast?_filterMap_concat,
    statesNamed_concat]

/-! ## What each call preserves -/

/-- **A pact records a history**: it holds what the narration says, and keeps
the states given since. -/
structure Records (history : List Saying) (p : MessagePact) : Prop where
  /-- The pending states. -/
  pending : p.pending = statesSince history
  /-- The description. -/
  description : p.description = (narration history).description.map .str
  /-- The states of the message. -/
  states : p.states = (narration history).states
  /-- The contents. -/
  contents : p.contents = (narration history).contents
  /-- The metadata. -/
  metadata : p.metadata = (narration history).metadata

/-- What is said by a call, which is nothing if it is rejected. -/
def heard (p : MessagePact) (call : MessageCall) : List Saying :=
  match (p.take call).1 with
  | .ok _ => (saying? call).toList
  | .error _ => []

/-- The pact after calls. -/
def takeAll (p : MessagePact) (calls : List MessageCall) : MessagePact :=
  calls.foldl (fun p call => (p.take call).2) p

/-- **What is said by calls**, those left out that are rejected. -/
def said (p : MessagePact) : List MessageCall → List Saying
  | [] => []
  | call :: rest => heard p call ++ said (p.take call).2 rest

/-- A call that names the message by nothing but a text, gives states without
matchers, and sets metadata under distinct texts. -/
def Plain : MessageCall → Prop
  | .given _ parameters => parameters.matcherFree = true
  | .expectsToReceive description => ∃ t, description = .str t
  | .withContent _ => True
  | .withMetadata metadata => ∀ es, metadata.toDictionary = .ok es →
    ∃ fs : Entries String Value, fs.keys.Nodup ∧ es = fs.map fun e => (.str e.1, e.2)

/-- What such calls say: states that are laid open as they are, and metadata
that are not empty. -/
def Saying.Plain : Saying → Prop
  | .given s => openedValue s.parameters = s.parameters
  | .annotated es => es ≠ []
    ∧ ∃ fs : Entries String Value, fs.keys.Nodup ∧ es = fs.map fun e => (.str e.1, e.2)
  | _ => True

variable {p q : MessagePact} {call : MessageCall} {history : List Saying}

/-- **A pact that records what was said before a call** records what was said
with it, if it is accepted. -/
theorem Records.accept (h : Records history p) (hplain : Plain call) (hq : p.Accepted call q) :
    ∃ s, saying? call = some s ∧ s.Plain ∧ Records (history ++ [s]) q := by
  cases hq with
  | given hspelled =>
    refine ⟨_, congrArg (Option.map _) hspelled,
      Value.unwrapMatchers_of_matcherFree _ hplain, ?_, ?_, ?_, ?_, ?_⟩
    · rw [statesSince_concat, ← h.pending]
      rfl
    all_goals rw [narration_concat]
    exacts [h.description, h.states, h.contents, h.metadata]
  | named hgiven hstates =>
    obtain ⟨t, rfl⟩ := hplain
    refine ⟨_, rfl, trivial, ?_, ?_, ?_, ?_, ?_⟩
    · rw [statesSince_concat]
      rfl
    all_goals rw [narration_concat]
    exacts [rfl, h.pending, h.contents, h.metadata]
  | filled hgiven =>
    refine ⟨_, rfl, trivial, ?_, ?_, ?_, ?_, ?_⟩
    · rw [statesSince_concat, ← h.pending]
      exact (List.append_nil _).symm
    all_goals rw [narration_concat]
    exacts [h.description, h.states, rfl, h.metadata]
  | annotated hgiven hes =>
    refine ⟨.annotated _, congrArg (fun r => (Except.toOption r).map Saying.annotated) hes,
      ⟨Value.toDictionary_ne_nil hgiven hes, hplain _ hes⟩, ?_, ?_, ?_, ?_, ?_⟩
    · rw [statesSince_concat, ← h.pending]
      exact (List.append_nil _).symm
    all_goals rw [narration_concat]
    exacts [h.description, h.states, h.contents, rfl]

/-- **The step**: a pact that records what was said records what is heard of the
next call. -/
theorem Records.take (h : Records history p) (hplain : Plain call) :
    Records (history ++ heard p call) (p.take call).2 ∧ ∀ s ∈ heard p call, s.Plain := by
  unfold heard
  obtain ⟨e, htake⟩ | ⟨q, htake, hq⟩ := take_cases p call
  · rw [htake]
    exact ⟨(List.append_nil history).symm ▸ h, fun s hs => nomatch hs⟩
  · obtain ⟨s, hs, hsplain, hrecords⟩ := h.accept hplain hq
    rw [htake, hs]
    exact ⟨hrecords, fun t ht => List.mem_singleton.mp ht ▸ hsplain⟩

/-- **The run**: a pact that records what was said before calls records what was
said with them. -/
theorem Records.takeAll (h : Records history p) {calls : List MessageCall}
    (hplain : ∀ call ∈ calls, Plain call) :
    Records (history ++ said p calls) (takeAll p calls) ∧ ∀ s ∈ said p calls, s.Plain := by
  induction calls generalizing history p with
  | nil => exact ⟨(List.append_nil history).symm ▸ h, fun s hs => nomatch hs⟩
  | cons call rest ih =>
    obtain ⟨hrecords, hheard⟩ := h.take (hplain call List.mem_cons_self)
    obtain ⟨hall, hrest⟩ := ih hrecords fun c hc => hplain c (List.mem_cons_of_mem _ hc)
    rw [said, ← List.append_assoc]
    exact ⟨hall, fun s hs => (List.mem_append.mp hs).elim (hheard s) (hrest s)⟩

theorem records_new (options : PactOptions) : Records [] (new options) :=
  ⟨rfl, rfl, rfl, rfl, rfl⟩

/-! ## The document of a narration -/

/-- A field of a document, if it was said. -/
def fieldIfSaid (name : String) (v : Option Value) : List (String × Value) :=
  (v.map (name, ·)).toList

/-- A state under the names of contract files, without absent parameters. -/
def stateEntry (s : ProviderState) : Value :=
  .record (("name", .str s.description) ::
    (if s.parameters matches .null then [] else [("params", s.parameters)]))

/-- States under the names of contract files, if there are any. -/
def stateEntries (states : List ProviderState) : Option Value :=
  if states.isEmpty then none else some (.list (states.map stateEntry))

/-- **The document of a narration**: what was said, and nothing else. -/
def Narration.document (n : Narration) : Value :=
  .record (fieldIfSaid "description" (n.description.map .str)
    ++ fieldIfSaid "providerStates" (stateEntries n.states)
    ++ fieldIfSaid "contents" n.contents
    ++ fieldIfSaid "metadata" (n.metadata.map .dict))

theorem get?_fieldIfSaid (name k : String) (v : Option Value) :
    Entries.get? (fieldIfSaid name v) k = if k == name then v else none := by
  cases v with
  | none => simp [fieldIfSaid]
  | some v => simp [fieldIfSaid, Entries.get?_cons]

/-- **The fields of the document of a narration.** -/
theorem Narration.fields (n : Narration) :
    n.document.field? "description" = n.description.map .str
      ∧ n.document.field? "providerStates" = stateEntries n.states
      ∧ n.document.field? "contents" = n.contents
      ∧ n.document.field? "metadata" = n.metadata.map .dict := by
  have hfield : ∀ k, n.document.field? k = Entries.get? (fieldIfSaid "description"
      (n.description.map .str) ++ fieldIfSaid "providerStates" (stateEntries n.states)
        ++ fieldIfSaid "contents" n.contents ++ fieldIfSaid "metadata" (n.metadata.map .dict)) k :=
    fun k => get?_record _ k
  simp [hfield, Entries.get?_append, get?_fieldIfSaid]

/-- The states between two namings were given. -/
theorem given_mem_of_mem_statesNamed {s : ProviderState} (h : s ∈ statesNamed history) :
    Saying.given s ∈ history := by
  unfold statesNamed statesSince at h
  obtain ⟨x, hx, hgiven⟩ := List.mem_filterMap.mp h
  cases x with
  | given t =>
    obtain rfl : t = s := Option.some.inj hgiven
    exact (List.rdropWhile_prefix _ history).subset (List.dropLast_subset _
      ((List.rtakeWhile_suffix _ _).subset hx))
  | _ => cases hgiven

theorem annotated_mem_of_metadata {es : List (Key × Value)}
    (h : (narration history).metadata = some es) : Saying.annotated es ∈ history := by
  obtain ⟨x, hx, hes⟩ := List.mem_filterMap.mp (List.mem_of_getLast? h)
  cases x with
  | annotated fs =>
    obtain rfl : fs = es := Option.some.inj hes
    exact hx
  | _ => cases hes

theorem contents_eq_none_iff :
    (narration history).contents = none ↔ ∀ v, Saying.filled v ∉ history := by
  unfold narration
  rw [List.getLast?_eq_none_iff, List.filterMap_eq_nil_iff]
  refine ⟨fun h v hv => (nomatch h _ hv), fun h s hs => ?_⟩
  cases s with
  | filled v => exact absurd hs (h v)
  | _ => rfl

/-! ## The document and the message of a pact -/

/-- The document of states that are laid open as they are. -/
theorem openedDocument_eq_stateEntry {s : ProviderState} (h : (Saying.given s).Plain) :
    s.openedDocument = stateEntry s :=
  congrArg (fun v => Value.record (("name", .str s.description) ::
    (if s.parameters matches .null then [] else [("params", v)]))) h

/-- The document of a pact, field by field. -/
theorem document_eq (p : MessagePact) :
    p.document = .record (fieldIfSaid "description" p.description
      ++ fieldIfSaid "providerStates" (if p.states.isEmpty then none
        else some (.list (p.states.map ProviderState.openedDocument)))
      ++ fieldIfSaid "contents" p.contents
      ++ fieldIfSaid "metadata" (p.metadata.bind fun es => if es.isEmpty then none
        else some (.dict es))) := by
  obtain ⟨options, pending, description, states, contents, metadata⟩ := p
  obtain _ | _ | es := metadata <;> cases description <;> cases states <;> cases contents <;> rfl

/-- **The document of a pact** is that of what it records. -/
theorem Records.document (h : Records history p) (hplain : ∀ s ∈ history, s.Plain) :
    p.document = (narration history).document := by
  have hstates : (narration history).states.map ProviderState.openedDocument
      = (narration history).states.map stateEntry := List.map_congr_left fun s hs =>
    openedDocument_eq_stateEntry (hplain _ (given_mem_of_mem_statesNamed hs))
  have hmetadata : ((narration history).metadata.bind fun es => if es.isEmpty then none
      else some (.dict es)) = (narration history).metadata.map Value.dict := by
    cases hes : (narration history).metadata with
    | none => rfl
    | some es =>
      have hne : es ≠ [] := (hplain _ (annotated_mem_of_metadata hes)).1
      exact if_neg (by simpa using hne)
  rw [document_eq, h.description, h.states, h.contents, h.metadata, hstates, hmetadata]
  rfl

/-- A pact that records what plain calls say is one to which only what is
expected was said. -/
theorem Records.typed (h : Records history p) (hplain : ∀ s ∈ history, s.Plain) :
    ∃ metadata : Option (Entries String Value), p.Typed (narration history).description metadata
      ∧ (narration history).metadata.map Value.dict = metadata.map .record := by
  cases hmetadata : (narration history).metadata with
  | none => exact ⟨none, ⟨fun es hes => (nomatch hes), h.description, h.metadata.trans hmetadata⟩, rfl⟩
  | some es =>
    obtain ⟨-, fs, hnodup, rfl⟩ := hplain _ (annotated_mem_of_metadata hmetadata)
    refine ⟨some fs, ⟨?_, h.description, h.metadata.trans hmetadata⟩, rfl⟩
    rintro _ ⟨⟩
    exact hnodup

/-- **What a message pact holds after any calls.** A rejected call leaves the
pact as it was. The document is that of the narration of what was said: the
description said last with the states given for it, the contents said last and
the metadata said last, whatever was not said being left out. The pact has a
message unless no contents were said, and the message agrees with the document
in every field, a description that is left out being empty. -/
theorem narration_of_calls (options : PactOptions) {calls : List MessageCall}
    (hplain : ∀ call ∈ calls, Plain call) :
    (∀ (p : MessagePact) call e, (p.take call).1 = .error e → (p.take call).2 = p)
      ∧ (takeAll (new options) calls).document
        = (narration (said (new options) calls)).document
      ∧ (∀ e, (takeAll (new options) calls).message? = .error e
        ↔ e = .misused .unfinishedMessage ∧ ∀ v, Saying.filled v ∉ said (new options) calls)
      ∧ ∀ m, (takeAll (new options) calls).message? = .ok m →
        ((takeAll (new options) calls).document.field? "description").getD (.str "")
            = .str m.description
          ∧ (takeAll (new options) calls).document.field? "providerStates"
            = stateEntries m.providerStates
          ∧ (takeAll (new options) calls).document.field? "contents" = some m.contents
          ∧ (takeAll (new options) calls).document.field? "metadata"
            = m.metadata.map .record := by
  obtain ⟨hrecords, hsaid⟩ := (records_new options).takeAll hplain
  rw [List.nil_append] at hrecords
  generalize takeAll (new options) calls = p at hrecords ⊢
  generalize said (new options) calls = history at hrecords hsaid ⊢
  have hdocument := hrecords.document hsaid
  obtain ⟨hdescription, hstates, hcontents, hmetadata⟩ := (narration history).fields
  obtain ⟨metadata, htyped, hentries⟩ := hrecords.typed hsaid
  have hunfinished : (narration history).contents = none →
      p.message? = .error (.misused .unfinishedMessage) := by
    intro hnone
    unfold message?
    rw [hrecords.contents, hnone]
  have hfinished : ∀ contents, (narration history).contents = some contents →
      p.message? = .ok ⟨(narration history).description.getD "", contents, metadata, p.states⟩ :=
    fun contents hsome => message?_of_typed htyped (hrecords.contents.trans hsome)
  refine ⟨fun _ _ _ h => unchanged_of_error h, hdocument, fun e => ?_, fun m hm => ?_⟩
  · rw [← contents_eq_none_iff]
    cases hc : (narration history).contents with
    | none => simp [hunfinished hc, eq_comm]
    | some contents => simp [hfinished contents hc]
  · cases hc : (narration history).contents with
    | none => exact nomatch hm.symm.trans (hunfinished hc)
    | some contents =>
      obtain rfl := Except.ok.inj (hm.symm.trans (hfinished contents hc))
      rw [hdocument, hdescription, hstates, hcontents, hmetadata, hc, hentries, hrecords.states]
      refine ⟨?_, rfl, rfl, rfl⟩
      cases (narration history).description <;> rfl

/-- Calls to a message pact: contents, a name and metadata that are refused, a
name that is replaced, and a state given too late. -/
def sampleCalls : List MessageCall :=
  [.withContent (.list []), .expectsToReceive (.str "an order"),
    .given (.str "an order exists") (.record [("id", .str "o-1")]), .expectsToReceive (.str ""),
    .withContent (.str "o-1"), .withMetadata (.dict []),
    .withMetadata (.record [("topic", .str "orders")]),
    .expectsToReceive (.str "an order created event"), .given (.str "a later state") .null]

/-- The sample holds what was said last, with the state that was given before the
last name, and its message is about the same. -/
theorem narration_of_calls_sample :
    (∀ call ∈ sampleCalls, Plain call)
      ∧ (takeAll (new orderPact.options) sampleCalls).document
        = .record [("description", .str "an order created event"),
          ("providerStates", .list [.record [("name", .str "an order exists"),
            ("params", .record [("id", .str "o-1")])]]),
          ("contents", .str "o-1"), ("metadata", .record [("topic", .str "orders")])]
      ∧ ∃ m, (takeAll (new orderPact.options) sampleCalls).message? = .ok m
        ∧ (takeAll (new orderPact.options) sampleCalls).document.field? "metadata"
          = m.metadata.map .record := by
  have hplain : ∀ call ∈ sampleCalls, Plain call := by
    simp only [sampleCalls, List.forall_mem_cons, Plain]
    refine ⟨trivial, ⟨_, rfl⟩, rfl, ⟨_, rfl⟩, trivial, ?_, ?_, ⟨_, rfl⟩, rfl, fun _ h => nomatch h⟩
    · rintro _ ⟨⟩
      exact ⟨[], List.nodup_nil, rfl⟩
    · rintro _ ⟨⟩
      exact ⟨[("topic", .str "orders")], by decide, rfl⟩
  obtain ⟨-, hdocument, -, hagrees⟩ := narration_of_calls orderPact.options hplain
  exact ⟨hplain, hdocument, _, rfl, (hagrees _ rfl).2.2.2⟩

end MessagePact

end Covenant
