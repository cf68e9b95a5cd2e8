import Covenant.Log.Setup
import Covenant.Proofs.Json.Characters
import Mathlib.Data.List.Forall2

/-!
# Log lines

What a record tells is a moment and some texts (`RecordTexts`), whatever characters
are in them. A record that tells them (`LogRecord.Tells`) is written on one line of
printable ASCII, and the line is read back as a document of just these texts
(`LogRecord.exists_line`).

A line holds no line break of its own. So the text of a log, where each line ends in
one, is split into its lines at the line breaks (`splitOn_logText`).
-/

namespace Covenant

open Validation

/-! ## Stamps -/

namespace Moment

/-- **A moment of the years from 1 to 9999** in universal time. -/
def InCalendar (t : Moment) : Prop := -62135596800 ≤ t.seconds ∧ t.seconds ≤ 253402300799

theorem year_civil {days : Int} (h : -719162 ≤ days) (h' : days ≤ 2932896) :
    1 ≤ (civil days).1 ∧ (civil days).1 ≤ 9999 := by
  unfold civil
  dsimp only
  rw [Int.fdiv_eq_ediv_of_nonneg _ (by decide), Int.fmod_eq_emod_of_nonneg _ (by decide)]
  split <;> split <;> omega

/-- **Every moment of these years has a stamp.** -/
theorem InCalendar.exists_stamp {t : Moment} (h : t.InCalendar) : ∃ stamp, t.stamp? = some stamp := by
  obtain ⟨hfirst, hlast⟩ := h
  have hyear := @year_civil (t.seconds.fdiv 86400)
    (by rw [Int.fdiv_eq_ediv_of_nonneg _ (by decide)]; omega)
    (by rw [Int.fdiv_eq_ediv_of_nonneg _ (by decide)]; omega)
  unfold stamp?
  rcases hcivil : civil (t.seconds.fdiv 86400) with ⟨year, month, day⟩
  rw [hcivil] at hyear
  exact ⟨_, if_pos hyear⟩

end Moment

/-! ## What a record tells -/

/-- **What a record tells**: when it was made, and texts. -/
structure RecordTexts where
  /-- When it was made. -/
  moment : Moment
  /-- The name of the level. -/
  level : String
  /-- The name of the logger. -/
  logger : String
  /-- The message. -/
  message : String
  /-- The session, if one is named; the name may be empty. -/
  session : Option String
  /-- The class and the message of the exception, if there is one. -/
  exception : Option (String × String)

namespace RecordTexts

/-- The moment as a text. -/
def stamp (t : RecordTexts) : String := String.ofList (t.moment.stamp?.getD [])

/-- The session, if it has a name. -/
def namedSession (t : RecordTexts) : Option String := t.session.filter (· ≠ "")

/-- **The document of what is told.** -/
def document (t : RecordTexts) : Json :=
  .obj ([("timestamp", .str t.stamp), ("level", .str t.level), ("logger", .str t.logger),
      ("message", .str t.message)]
    ++ textIfAny "session_id" t.namedSession
    ++ fieldIfAny "exception"
      (t.exception.map fun e => .obj [("type", .str e.1), ("message", .str e.2)]))

theorem exact_document (t : RecordTexts) : t.document.Exact := by
  unfold document
  cases t.namedSession <;> cases t.exception <;>
    simp [textIfAny, fieldIfAny, Json.Exact, Json.ExactFields]

theorem integersWithin_document (t : RecordTexts) (limit : Nat) :
    t.document.integersWithin limit = true := by
  unfold document
  cases t.namedSession <;> cases t.exception <;> rfl

theorem depth_document (t : RecordTexts) : t.document.depth ≤ Json.depthLimit := by
  unfold document
  cases t.namedSession <;> cases t.exception <;> exact Nat.le_of_ble_eq_true rfl

/-- **A line that tells it**: printable ASCII that is read as the document. -/
structure IsLine (t : RecordTexts) (line : String) : Prop where
  printable : ∀ c ∈ line.toList, 0x20 ≤ c.toNat ∧ c.toNat ≤ 0x7e
  read : Json.read? line = some t.document

/-- **The text of the document is such a line.** -/
theorem isLine_text (t : RecordTexts) : t.IsLine (t.document.text .logLine) where
  printable := Json.forall_mem_text Json.writes_logLine t.exact_document
  read := Json.read?_text ⟨⟨[' '], rfl, rfl⟩, ⟨[' '], rfl, rfl⟩⟩ t.exact_document
    (t.integersWithin_document _) t.depth_document

theorem IsLine.lineBreak_not_mem {t : RecordTexts} {line : String} (h : t.IsLine line) :
    '\n' ∉ line.toList :=
  fun hmem => absurd (h.printable '\n' hmem) (by decide)

theorem forall_lineBreak_not_mem {ts : List RecordTexts} {lines : List String}
    (h : List.Forall₂ IsLine ts lines) : ∀ line ∈ lines, '\n' ∉ line.toList := by
  induction h with
  | nil => exact fun _ hmem => nomatch hmem
  | cons hline _ ih => exact List.forall_mem_cons.mpr ⟨hline.lineBreak_not_mem, ih⟩

theorem fields_document (t : RecordTexts) :
    t.document.field? "timestamp" = some (.str t.stamp)
      ∧ t.document.field? "level" = some (.str t.level)
      ∧ t.document.field? "logger" = some (.str t.logger)
      ∧ t.document.field? "message" = some (.str t.message) := by
  unfold document
  cases t.namedSession <;> cases t.exception <;> exact ⟨rfl, rfl, rfl, rfl⟩

/-- **The session is a field just if it has a name.** -/
theorem session_document (t : RecordTexts) (j : Json) : t.document.field? "session_id" = some j
    ↔ ∃ s, t.session = some s ∧ s ≠ "" ∧ j = .str s := by
  have hfield : t.document.field? "session_id" = t.namedSession.map .str := by
    unfold document
    cases t.namedSession <;> cases t.exception <;> rfl
  rw [hfield, Option.map_eq_some_iff]
  simp only [namedSession, Option.filter_eq_some_iff, decide_eq_true_eq]
  exact ⟨fun ⟨s, ⟨hs, hne⟩, heq⟩ => ⟨s, hs, hne, heq.symm⟩,
    fun ⟨s, hs, hne, heq⟩ => ⟨s, ⟨hs, hne⟩, heq.symm⟩⟩

/-- **The exception is a field just if there is one.** -/
theorem exception_document (t : RecordTexts) (j : Json) : t.document.field? "exception" = some j
    ↔ ∃ kind message, t.exception = some (kind, message)
      ∧ j = .obj [("type", .str kind), ("message", .str message)] := by
  have hfield : t.document.field? "exception"
      = t.exception.map fun e => .obj [("type", .str e.1), ("message", .str e.2)] := by
    unfold document
    cases t.namedSession <;> cases t.exception <;> rfl
  rw [hfield, Option.map_eq_some_iff]
  exact ⟨fun ⟨(kind, message), he, heq⟩ => ⟨kind, message, he, heq.symm⟩,
    fun ⟨kind, message, he, heq⟩ => ⟨(kind, message), he, heq.symm⟩⟩

end RecordTexts

/-! ## Records -/

/-- **The exception that a record carries**, by its class and message: a value in the
place of an exception carries none if it counts as nothing, or if what is in the
place of the class does. -/
inductive RecordException.Carries : RecordException → Option (String × String) → Prop where
  | unasked : Carries .unasked none
  | absent : Carries .absent none
  | present (e : Exception) : Carries (.present e) (some (e.kind, e.text))
  | nothing {v : Value} (h : v.isTruthy = false) : Carries (.value v) none
  | classless {v kind : Value} (h : v.isTruthy = true) (hkind : LogRecord.valueAt v 0 = .ok kind)
      (hnothing : kind.isTruthy = false) : Carries (.value v) none

namespace LogRecord

/-- **What a record tells.** The names of its level and its logger are texts, and so is
the one of its session, if it has any. -/
structure Tells (r : LogRecord) (t : RecordTexts) : Prop where
  created : Moment.ofValue r.created = .ok t.moment
  inCalendar : t.moment.InCalendar
  level : r.levelName = .str t.level
  logger : r.logger = .str t.logger
  message : r.message = .ok t.message
  session : r.session = t.session.elim .null .str
  exception : r.exception.Carries t.exception

/-- A message without arguments is its template. -/
theorem message_of_not_truthy {r : LogRecord} (h : r.arguments.isTruthy = false) :
    r.message = .ok r.template.display := by
  unfold message Template.fill
  rw [h]
  rfl

/-- The session is a field if it has a name. -/
theorem sessionField_eq {r : LogRecord} {t : RecordTexts} (h : r.Tells t) :
    sessionField r.session = .ok (textIfAny "session_id" t.namedSession) := by
  rw [h.session]
  unfold RecordTexts.namedSession
  cases t.session with
  | none => rfl
  | some s =>
    by_cases hs : s = ""
    · rw [hs]
      rfl
    · simp [sessionField, Value.isTruthy, hs, wordedDocument, told, Value.strict?, textIfAny,
        fieldIfAny, Except.map, Option.filter]

/-- The exception is a field if there is one. -/
theorem exceptionField_eq {x : RecordException} {e : Option (String × String)}
    (h : x.Carries e) : exceptionField x = .ok (fieldIfAny "exception"
      (e.map fun e => .obj [("type", .str e.1), ("message", .str e.2)])) := by
  cases h with
  | unasked => rfl
  | absent => rfl
  | present e => rfl
  | nothing h => simp [exceptionField, h, fieldIfAny]
  | classless h hkind hnothing =>
    simp [exceptionField, h, hkind, hnothing, Except.bind, fieldIfAny]

/-- What is told has a stamp. -/
theorem exists_stamp {r : LogRecord} {t : RecordTexts} (h : r.Tells t) :
    ∃ stamp, t.moment.stamp? = some stamp ∧ t.stamp = String.ofList stamp := by
  obtain ⟨stamp, hstamp⟩ := h.inCalendar.exists_stamp
  refine ⟨stamp, hstamp, ?_⟩
  unfold RecordTexts.stamp
  rw [hstamp]
  rfl

/-- **The document of a record is that of what it tells.** -/
theorem document_eq {r : LogRecord} {t : RecordTexts} (h : r.Tells t) :
    r.document = .ok t.document := by
  obtain ⟨stamp, hstamp, htext⟩ := exists_stamp h
  unfold document RecordTexts.document
  simp only [h.created, bind, Except.bind, hstamp]
  rw [h.message, sessionField_eq h, exceptionField_eq h.exception, h.level, h.logger, htext]
  rfl

/-- **Every record is written on a line that tells it.** -/
theorem exists_line {r : LogRecord} {t : RecordTexts} (h : r.Tells t) :
    ∃ line, r.line = .ok line ∧ t.IsLine line := by
  refine ⟨t.document.text .logLine, ?_, t.isLine_text⟩
  unfold line
  rw [document_eq h]
  rfl

end LogRecord

/-! ## The text of a log -/

/-- **The text of lines**, each with a line break behind it. -/
def logText : List String → String
  | [] => ""
  | line :: lines => line ++ "\n" ++ logText lines

theorem logText_concat (lines : List String) (line : String) :
    logText (lines ++ [line]) = logText lines ++ (line ++ "\n") := by
  induction lines with
  | nil => simp [logText]
  | cons l lines ih =>
    rw [List.cons_append, logText, ih, logText]
    simp only [String.append_assoc]

/-- **The text of lines is split into them at its line breaks**, with nothing behind the
last one. -/
theorem splitOn_logText {lines : List String} (h : ∀ line ∈ lines, '\n' ∉ line.toList) :
    (logText lines).toList.splitOn '\n' = lines.map String.toList ++ [[]] := by
  induction lines with
  | nil => rfl
  | cons line lines ih =>
    obtain ⟨hline, hlines⟩ := List.forall_mem_cons.mp h
    have hchars : (logText (line :: lines)).toList = line.toList ++ '\n' :: (logText lines).toList := by
      rw [logText, String.toList_append, String.toList_append, List.append_assoc]
      rfl
    have hbefore : ∀ c ∈ line.toList, (c == '\n') = false := fun c hc => by
      refine beq_eq_false_iff_ne.mpr fun heq => ?_
      exact hline (heq ▸ hc)
    rw [hchars, List.splitOn, List.splitOnP_append_cons_of_forall_mem hbefore _ (beq_self_eq_true _),
      ← List.splitOn, ih hlines]
    rfl

end Covenant
