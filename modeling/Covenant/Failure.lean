import Covenant.Contract.Document
import Covenant.Mismatch.Report
import Covenant.Verification.Result
import Covenant.Files.System
import Covenant.Web
import Covenant.Text.Blank

/-!
# Failures

Everything that can end a call other than by returning. A failure keeps its
cause as a value; its words are derived from it in one place
(`Failure.text`).

What user code and scripted collaborators raise is an `Exception` with a
class, a message and possibly a cause. Most exceptions are **ordinary**: the
library catches them and reports them. The others end a task from outside,
such as a cancellation, and pass through everything.

Every exception is taken to have words. One whose message is an integer with
more digits than can be told (`Json.integerDigitLimit`) has none: asking for
its words raises another exception, and no such message is meant here.
-/

namespace Covenant

open Validation

/-- **What user code raises.** -/
inductive Exception where
  /-- The class, whether it is one of ordinary exceptions, the message if one
  was given, which may be any value, and the cause if there is one. -/
  | mk (kind : String) (ordinary : Bool) (message : Option Value) (cause : Option Exception)
deriving Inhabited

namespace Exception

/-- The class. -/
def kind : Exception → String
  | mk k _ _ _ => k

/-- Whether the library catches the exception. -/
def isOrdinary : Exception → Bool
  | mk _ o _ _ => o

/-- The message, if one was given. -/
def message : Exception → Option Value
  | mk _ _ m _ => m

/-- The words of an exception; a missing key is told as a literal. -/
def text (e : Exception) : String :=
  match e.message with
  | none => ""
  | some m => if e.kind = "KeyError" then String.ofList m.literal else m.display

/-- The classes of errors that belong to this library. -/
def libraryKinds : List String :=
  ["ValidationError", "PactumError", "MockServerStartError", "MockServerError",
    "MockServerMismatchError", "CompositeTestError", "ContractWriteError", "ContractLoadError",
    "VerificationError"]

/-- The class with the place where it is defined, unless it is built in. -/
def qualifiedKind (e : Exception) : String :=
  if libraryKinds.contains e.kind then "pactum.errors." ++ e.kind
  else if e.kind = "CancelledError" then "asyncio.exceptions.CancelledError"
  else e.kind

/-- The last line of a trace. -/
def traceLine (e : Exception) : String :=
  if e.text = "" then e.qualifiedKind else e.qualifiedKind ++ ": " ++ e.text

/-- **The trace of an exception**: its causes first. The places in the code
through which it went are left out. -/
def trace : Exception → String
  | mk k o m none => traceLine (mk k o m none)
  | mk k o m (some c) =>
    c.trace ++ "\n\nThe above exception was the direct cause of the following exception:\n\n"
      ++ traceLine (mk k o m none)

end Exception

/-- **A misuse of a builder.** -/
inductive Misuse where
  /-- An interaction without a description. -/
  | emptyInteraction
  /-- A message without a description. -/
  | emptyMessage
  /-- A provider state without a name. -/
  | emptyState
  /-- A message without contents. -/
  | emptyContent
  /-- A message with empty metadata. -/
  | emptyMetadata
  /-- A request or response before there is an interaction for it. -/
  | noInteraction (call : String)
  /-- A message whose contents have not been given. -/
  | unfinishedMessage

/-- The words of a misuse. -/
def Misuse.text : Misuse → String
  | .emptyInteraction => "Interaction description must not be empty"
  | .emptyMessage => "You must provide a description for the message"
  | .emptyState => "Provider state description must not be empty"
  | .emptyContent => "You must provide non-empty message content"
  | .emptyMetadata => "You must provide non-empty message metadata"
  | .noInteraction call => call ++ "() called before upon_receiving()"
  | .unfinishedMessage => "message has not yet been properly constructed"

/-- **What a builder needs and was not given.** -/
inductive Equipment where
  /-- A matching engine. -/
  | engine
  /-- A message factory. -/
  | factory

/-- **At which step a contract was not loaded.** -/
inductive LoadStep where
  /-- Reading a file. -/
  | read
  /-- Fetching from the web. -/
  | fetch
  /-- Understanding the text. -/
  | parse

/-- **What ends a call.** -/
inductive Failure where
  /-- User code raised an exception. -/
  | raised (e : Exception)
  /-- A value did not pass a check. -/
  | invalid (r : Report)
  /-- A builder was misused. -/
  | misused (m : Misuse)
  /-- A builder lacks a collaborator. -/
  | unequipped (e : Equipment)
  /-- The mock service did not start. -/
  | startFailed (cause : Failure)
  /-- The mock service had a fault of its own. -/
  | serverFault (message : String)
  /-- The traffic did not match. -/
  | mismatched (report : String) (ms : List Mismatch)
  /-- The test failed, and so did the mock service or the traffic. -/
  | combined (message : String) (testFailure : Failure)
  /-- The contract was not written. -/
  | writeFailed (cause : Failure)
  /-- The contract at a place was not loaded. -/
  | loadFailed (step : LoadStep) (place : String) (cause : Failure)
  /-- A verification in which an interaction failed. -/
  | verificationFailed (r : VerificationResult)
  /-- A session that was run a second time. -/
  | alreadyRun (session : String)
  /-- A file operation failed. -/
  | file (e : FileError)
  /-- Nothing could be fetched. -/
  | fetching (e : FetchError)
  /-- Bytes are no text. -/
  | undecodable (e : Undecodable)
  /-- A value is nested too deeply to be written. -/
  | tooDeep
  /-- A mismatch has no text. -/
  | unreportable (e : Unwritable)
  /-- A value of a type that the operation has no use for. -/
  | mistyped
  /-- A value that the operation has no use for. -/
  | misvalued
  /-- A number too large for the operation. -/
  | outOfRange
  /-- A point in time beyond what the calendar of the system knows. -/
  | beyondCalendar
  /-- More than the memory holds. -/
  | outOfMemory
  /-- An entry that a dictionary does not have. -/
  | entryMissing
  /-- A place beyond the end. -/
  | placeMissing
  /-- A value without the part that was asked of it. -/
  | partMissing

namespace Failure

/-- Whether the library catches the failure. -/
def isOrdinary : Failure → Bool
  | raised e => e.isOrdinary
  | _ => true

/-- The words of undecodable bytes. -/
def undecodableText (e : Undecodable) : String :=
  let first := e.extent.position
  (if e.extent.length = 1 then
      "'utf-8' codec can't decode byte 0x" ++ String.ofList (Text.hexPadded 2 e.byte.toNat)
        ++ " in position " ++ natText first
    else
      "'utf-8' codec can't decode bytes in position " ++ natText first ++ "-"
        ++ natText (first + e.extent.length - 1))
    ++ ": invalid utf-8"

/-- The words about what is nested too deeply. -/
def tooDeepText : String := "Circular reference detected (depth exceeded)"

/-- The words about a mismatch without a text. -/
def unreportableText : Unwritable → String
  | .tooDeep => "Error serializing to JSON: ValueError: " ++ tooDeepText
  | .undecodable e =>
    "Error serializing to JSON: "
      ++ (if e.extent.isCut then "incomplete utf-8 byte sequence"
          else "invalid utf-8 sequence of " ++ natText e.extent.length ++ " bytes")
      ++ " from index " ++ natText e.extent.position

/-- **The words of a failure.** Whatever user code raises is taken to have some. -/
def text : Failure → String
  | raised e => e.text
  | invalid r => r.text
  | misused m => m.text
  | unequipped .engine => "No matching engine configured for this pact"
  | unequipped .factory => "No message factory configured for this pact"
  | startFailed cause => "Failed to start mock server - " ++ cause.text
  | serverFault message => message
  | mismatched report _ => report
  | combined message _ => message
  | writeFailed cause => "Failed to write pact to file - " ++ cause.text
  | loadFailed .read place cause => "Failed to read contract " ++ place ++ ": " ++ cause.text
  | loadFailed .fetch place cause => "Failed to fetch contract " ++ place ++ ": " ++ cause.text
  | loadFailed .parse place cause => "Invalid contract file " ++ place ++ ": " ++ cause.text
  | verificationFailed r => r.summary
  | alreadyRun session => "Session " ++ session ++ " has already been run"
  | file e => e.text
  | fetching e => e.text
  | undecodable e => undecodableText e
  | tooDeep => tooDeepText
  | unreportable e => unreportableText e
  | mistyped => "a value of the wrong type"
  | misvalued => "a value without a use"
  | outOfRange => "a number out of range"
  | beyondCalendar => "a time out of range"
  | outOfMemory => "a text too long"
  | entryMissing => "an entry that is missing"
  | placeMissing => "a place beyond the end"
  | partMissing => "a part that is missing"

/-- **The trace of a failure, the places in the code left out**, and the blanks
at its end. Only what user code raises has more to tell than its words. -/
def trace : Failure → String
  | raised e => String.ofList (Text.trimRight e.trace.toList)
  | f => String.ofList (Text.trimRight f.text.toList)

/-- Whether the failure says that a contract was not written. -/
def isWriteFailure : Failure → Bool
  | writeFailed _ => true
  | raised e => e.kind == "ContractWriteError"
  | _ => false

/-- A value without a document, as a failure. -/
def ofUnwritable : Unwritable → Failure
  | .undecodable e => undecodable e
  | .tooDeep => tooDeep

/-- What has a document, or a failure. -/
def ofDocument {α : Type} : Except Unwritable α → Except Failure α
  | .ok a => .ok a
  | .error e => .error (ofUnwritable e)

/-- A contract without a text, as a failure. -/
def ofTextError : TextError → Failure
  | .unwritable e => ofUnwritable e
  | .notDocument => mistyped
  | .integerTooLong => misvalued

/-- A report that cannot be given, as a failure. -/
def ofReportError : ReportError → Failure
  | .bodyNotDocument | .indentNotText => mistyped
  | .unwritable e => unreportable e

/-- The outcome of a check, with its report as a failure. -/
def ofCheck {α : Type} : Except Report α → Except Failure α
  | .ok a => .ok a
  | .error r => .error (invalid r)

/-- **Assigns nothing to a field of a record**: what it ends with. -/
def assign (α : Type) [Model α] (field : String) : Except Failure Unit :=
  match Model.assigned α field with
  | .taken => .ok ()
  | .frozen => .error (invalid (.immutableField (Model.name α) field))
  | .derived => .error partMissing
  | .structural => .error mistyped
  | .unknown => .error misvalued

/-- **The class of a failure**, as it is told of a cause. -/
def kind : Failure → String
  | raised e => e.kind
  | invalid _ | misused _ => "ValidationError"
  | unequipped _ => "PactumError"
  | startFailed _ => "MockServerStartError"
  | serverFault _ => "MockServerError"
  | mismatched _ _ => "MockServerMismatchError"
  | combined _ _ => "CompositeTestError"
  | writeFailed _ => "ContractWriteError"
  | loadFailed _ _ _ => "ContractLoadError"
  | verificationFailed _ => "VerificationError"
  | alreadyRun _ => "RuntimeError"
  | file e => e.trouble.kind
  | fetching e => e.kind
  | undecodable _ => "UnicodeDecodeError"
  | unreportable _ => "SerializationError"
  | mistyped => "TypeError"
  | misvalued | tooDeep => "ValueError"
  | outOfRange => "OverflowError"
  | beyondCalendar => "OSError"
  | outOfMemory => "MemoryError"
  | entryMissing => "KeyError"
  | placeMissing => "IndexError"
  | partMissing => "AttributeError"

end Failure

/-- A record of a model out of a value, or the failure of the check. -/
def Model.make {α : Type} [Model α] (v : Value) : Except Failure α := Failure.ofCheck (Model.ofValue v)

/-- A record of a model out of a JSON text, or the failure of the check. -/
def Model.read {α : Type} [Model α] (s : String) : Except Failure α := Failure.ofCheck (Model.ofText s)

end Covenant
