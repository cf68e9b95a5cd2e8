import Covenant.Log.Template
import Covenant.Log.Time
import Covenant.Settings

/-!
# How log records are written

A record is written in one of two forms: a document on one line of printable
ASCII, for files, and a line for people, in colours if the terminal has them.
Both show the same record: when, how important, who, what, and the exception
that comes with it.
-/

namespace Covenant

/-- The seconds from which to which the calendar of the system goes: its years
have 32 bits. -/
def Moment.calendarRange : Int × Int := (-67768040609740800, 67768036191676799)

/-- The moment that a value tells as a number of seconds. -/
def Moment.ofValue (v : Value) : Except Failure Moment :=
  let moment : Except Failure Moment :=
    match v with
    | .int i => .ok (ofInt i)
    | .bool b => .ok (ofInt (if b then 1 else 0))
    | .double .nan => .error .misvalued
    | .double d =>
      match ofDouble? d with
      | some t => .ok t
      | none => .error .outOfRange
    | _ => .error .mistyped
  moment.bind fun t =>
    if !Validation.isWord t.seconds then .error .outOfRange
    else if calendarRange.1 ≤ t.seconds ∧ t.seconds ≤ calendarRange.2 then .ok t
    else .error .beyondCalendar

/-! ## Levels -/

/-- The integer that a number is. -/
def Value.whole? : Value → Option Int
  | .int i => some i
  | .bool b => some (if b then 1 else 0)
  | .double d => d.toInt?
  | _ => none

/-- Whether a number is greater than an integer; other values are not to be
compared with it. -/
def Value.exceeds? (v : Value) (n : Int) : Option Bool :=
  match v with
  | .double (.infinite negative) => some (!negative)
  | .double d => some ((d.ceiling?.map fun i => decide (n < i)).getD false)
  | v => v.whole?.map fun i => decide (n < i)

/-- Whether a number is not less than an integer; other values are not to be
compared with it. -/
def Value.reaches? (v : Value) (n : Int) : Option Bool :=
  match v with
  | .double (.infinite negative) => some (!negative)
  | .double d => some ((d.floor?.map fun i => decide (n ≤ i)).getD false)
  | v => v.whole?.map fun i => decide (n ≤ i)

/-- **The name of a level.** A number without a name is told as it is, and a
name stands for its number. What cannot be looked up has no name. -/
def levelWord (level : Value) : Except Failure Value :=
  let told : Value := .str ("Level " ++ level.display)
  match level.whole?, level with
  | some n, _ => .ok (((levelName n).map Value.str).getD told)
  | none, .str s => .ok (((namedLevels.lookup s).map Value.int).getD told)
  | none, v => if v.key?.isSome then .ok told else .error .mistyped

/-! ## Records -/

/-- **The exception that a record comes with.** -/
inductive RecordException where
  /-- None was asked for. -/
  | unasked
  /-- One was asked for, and there was none. -/
  | absent
  /-- This one. -/
  | present (e : Exception)
  /-- A value in the place of an exception. -/
  | value (v : Value)

/-- **A log record.** Whoever makes one may put any value anywhere. -/
structure LogRecord where
  /-- When it was made, as a number of seconds. -/
  created : Value
  /-- The number of its level. -/
  level : Value
  /-- The name of its level. -/
  levelName : Value
  /-- The logger it was given to. -/
  logger : Value
  /-- The template of its message. -/
  template : Value
  /-- The arguments of its message. -/
  arguments : Value
  /-- The session it is about, if it is about one. -/
  session : Value
  /-- The exception it comes with. -/
  exception : RecordException

namespace LogRecord

/-- The arguments of a message as one value: a single dictionary that is not
empty stands for itself. -/
def joined (args : List Value) : Value :=
  match args with
  | [.dict (e :: es)] => .dict (e :: es)
  | _ => .tuple args

/-- **A record of a logger.** -/
def make (logger level template : Value) (args : List Value) (created : Value)
    (exception : RecordException) : Except Failure LogRecord :=
  (levelWord level).map fun word =>
    ⟨created, level, word, logger, template, joined args, .null, exception⟩

/-- The record with a value put into one of its places, told by name; what is
put elsewhere is of no account. -/
def put (r : LogRecord) (place : String) (v : Value) : LogRecord :=
  match place with
  | "created" => { r with created := v }
  | "levelno" => { r with level := v }
  | "levelname" => { r with levelName := v }
  | "name" => { r with logger := v }
  | "msg" => { r with template := v }
  | "args" => { r with arguments := v }
  | "session_id" => { r with session := v }
  | "exc_info" => { r with exception := .value v }
  | _ => r

/-- The message. -/
def message (r : LogRecord) : Except Failure String := Template.fill r.template.display r.arguments

/-! ## Documents -/

mutual

/-- A value in which bytes and matchers are told in words. -/
def told : Value → Value
  | .bytes bs => .str (Value.bytes bs).display
  | .matcher m => .str (Value.matcher m).display
  | .list vs => .list (toldItems vs)
  | .tuple vs => .list (toldItems vs)
  | .dict es => .dict (toldEntries es)
  | v => v

/-- Values in which bytes and matchers are told in words. -/
def toldItems : List Value → List Value
  | [] => []
  | v :: vs => told v :: toldItems vs

/-- Entries in which bytes and matchers are told in words. -/
def toldEntries : List (Key × Value) → List (Key × Value)
  | [] => []
  | (k, v) :: es => (k, told v) :: toldEntries es

end

/-- The document of a value, told in words where it has none. -/
def wordedDocument (v : Value) : Except Failure Json :=
  match (told v).strict? with
  | some j => .ok j
  | none => .error .mistyped

/-- The session as a field, if the record is about one. -/
def sessionField (v : Value) : Except Failure (List (String × Json)) :=
  if !v.isTruthy then .ok [] else (wordedDocument v).map fun j => [("session_id", j)]

/-- The value at a place of another one. -/
def valueAt (v : Value) (place : Nat) : Except Failure Value :=
  let among (vs : List Value) : Except Failure Value :=
    match vs[place]? with
    | some v => .ok v
    | none => .error .placeMissing
  match v with
  | .list vs | .tuple vs => among vs
  | .str s => among (s.toList.map fun c => .str (String.singleton c))
  | .bytes bs => among (bs.map fun b => .int b.toNat)
  | .dict es =>
    match Entries.get? es (.int place) with
    | some v => .ok v
    | none => .error .entryMissing
  | _ => .error .mistyped

/-- The exception as a field, if there is one. A value in its place may say
that there is none. -/
def exceptionField : RecordException → Except Failure (List (String × Json))
  | .present e => .ok [("exception", .obj [("type", .str e.kind), ("message", .str e.text)])]
  | .value v =>
    if !v.isTruthy then .ok []
    else (valueAt v 0).bind fun kind => if kind.isTruthy then .error .partMissing else .ok []
  | .unasked | .absent => .ok []

/-- The document of a record. -/
def document (r : LogRecord) : Except Failure Json := do
  let moment ← Moment.ofValue r.created
  match moment.stamp? with
  | none => .error .misvalued
  | some stamp =>
    let message ← r.message
    let session ← sessionField r.session
    let exception ← exceptionField r.exception
    return .obj ([("timestamp", .str (String.ofList stamp)), ("level", ← wordedDocument r.levelName),
      ("logger", ← wordedDocument r.logger), ("message", .str message)] ++ session ++ exception)

/-- **The record as a document on one line.** -/
def line (r : LogRecord) : Except Failure String := (r.document).map (·.text .logLine)

/-! ## Lines for people -/

/-- A terminal's code. -/
def code (n : String) : String := String.singleton (Char.ofNat 27) ++ "[" ++ n ++ "m"

/-- The colours of the levels. -/
def colours : List (Int × String) :=
  [(10, code "36"), (20, code "32"), (30, code "33"), (40, code "31"), (50, code "35")]

/-- The colour of a level, if it has one; what cannot be looked up is
refused. -/
def colourOf (level : Value) : Except Failure String :=
  if level.key?.isNone then .error .mistyped
  else .ok ((level.whole?.bind fun n => List.lookup n colours).getD "")

/-- The trace that follows the line. A value in the place of an exception has
none, unless it says that there is no exception. -/
def traceLines : RecordException → Except Failure String
  | .unasked => .ok ""
  | .absent => .ok noException
  | .present e => .ok ("\n" ++ e.trace)
  | .value v =>
    if !v.isTruthy then .ok ""
    else do
      let _ ← valueAt v 0
      let exception ← valueAt v 1
      match exception, ← valueAt v 2 with
      | .null, .null => .ok noException
      | _, _ => .error .partMissing
where
  /-- What is told where there is no exception. -/
  noException : String := "\nNoneType: None"

/-- **The record as a line for people.** -/
def consoleLine (colour : Bool) (r : LogRecord) : Except Failure String := do
  let moment ← Moment.ofValue r.created
  match moment.clock? with
  | none => .error .misvalued
  | some clock =>
    let clock := String.ofList clock
    let level := r.levelName.display
    let (clock, level) ←
      if colour then do
        let start ← colourOf r.level
        pure (code "2" ++ clock ++ code "0", start ++ level ++ code "0")
      else pure (clock, level)
    let message ← r.message
    return clock ++ " [pactum] " ++ level ++ ": " ++ message ++ (← traceLines r.exception)

end LogRecord

/-- A name for a number, a number for a name, and neither. -/
example : ((levelWord (.double (.ofInt 20))).map Value.display |>.toOption,
    (levelWord (.str "WARN")).map Value.display |>.toOption,
    (levelWord (.bool true)).map Value.display |>.toOption)
    = (some "INFO", some "30", some "Level True") := by decide +kernel

end Covenant
