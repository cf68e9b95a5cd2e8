import Covenant.Contract.Store
import Covenant.Engine.Protocol

/-!
# The scripted engine

An engine that serves no traffic. A **script** says what it reports for every
session and which operations fail; its **record** says what it was asked to
do. Contracts are written for real, into the file system of its record.

Ports count up from the script's base port with the number of sessions ever
started, so a service that was shut down does not free its port.
-/

namespace Covenant

open Validation

/-- **What a scripted engine does.** -/
structure Script where
  /-- The mismatches reported for every session. -/
  mismatches : List Mismatch
  /-- The service fault reported for every session; it is checked to be a
  text when it is reported. -/
  serverError : Value
  /-- The port of the first session; it is checked to be one when a service is
  started. -/
  basePort : Value
  /-- What starting a service raises. -/
  startError : Option Exception
  /-- What writing a contract raises. -/
  writeError : Option Exception
  /-- What asking for a report raises. -/
  reportError : Option Exception
  /-- A value reported in place of mismatches and fault. -/
  reported : Option Value
  /-- What shutting a service down raises, after it was shut down. -/
  shutdownError : Option Exception
  /-- What creating a message raises. -/
  createError : Option Exception
  /-- Whether something that is no message is created. -/
  createsOther : Bool
  /-- Contents given to every created message. -/
  createContents : Option Value
  /-- What recording a message raises, before anything is recorded. -/
  recordError : Option Exception

/-- The port of the first session if nothing else is said. -/
def Script.defaultBasePort : Value := .int 19201

/-- The script of an engine that finds no fault. -/
def Script.faultless : Script :=
  ⟨[], .null, defaultBasePort, none, none, none, none, none, none, false, none, none⟩

/-- **What the engine knows of a session.** -/
structure ServedSession where
  /-- The handle handed out. -/
  handle : ServerHandle
  /-- The interactions served. -/
  interactions : List Interaction
  /-- The options of the contract. -/
  options : PactOptions
  /-- Whether the service is running. -/
  running : Bool

/-- **What a scripted engine was asked to do**, with the files it wrote. -/
structure Ledger where
  /-- The sessions started, in order. -/
  sessions : Entries String ServedSession
  /-- The sessions told to shut down, in order. -/
  shutdowns : List Value
  /-- The contracts written, in order. -/
  written : List Path
  /-- The messages recorded, in order. -/
  messages : List Message
  /-- The files. -/
  files : FileSystem

/-- The record of an engine that was asked nothing. -/
def Ledger.new (files : FileSystem) : Ledger := ⟨[], [], [], [], files⟩

/-- The names of the sessions whose services are running, in order. -/
def Ledger.running (l : Ledger) : List String :=
  (l.sessions.filter fun s => s.2.running).map Prod.fst

namespace Script

/-- The part of the library that tells about the scripted engine. -/
def logger : String := "pactum.testing.engine"

/-- An answer that fails. -/
def failing {α : Type} (f : Failure) (l : Ledger) : Answer Ledger α := ⟨.error f, [], l⟩

/-- A value of the wrong type, as an engine raises it. -/
def wrongType {α : Type} (message : String) : Except Failure α :=
  .error (.raised (.mk "TypeError" true (some (.str message)) none))

/-- The sum of a value and an integer. -/
def plus (v : Value) (n : Nat) : Except Failure Value :=
  let noSum (type : String) : Except Failure Value :=
    wrongType ("unsupported operand type(s) for +: '" ++ type ++ "' and 'int'")
  let notJoined (type : String) : Except Failure Value :=
    wrongType ("can only concatenate " ++ type ++ " (not \"int\") to " ++ type)
  match v with
  | .int i => .ok (.int (i + n))
  | .bool b => .ok (.int ((if b then 1 else 0) + n))
  | .double d => .ok (.double (d.plusInt n))
  | .null => noSum "NoneType"
  | .dict _ => noSum "dict"
  | .matcher _ => noSum "Matcher"
  | .str _ => notJoined "str"
  | .list _ => notJoined "list"
  | .tuple _ => notJoined "tuple"
  | .bytes _ => wrongType "can't concat int to bytes"

/-- The port of the next session: the one the options fix, unless that is
zero, or the next one from the base port. -/
def nextPort (s : Script) (options : PactOptions) (l : Ledger) : Except Failure Value :=
  match options.port with
  | some p => if p = 0 then plus s.basePort l.sessions.length else .ok (.int p)
  | none => plus s.basePort l.sessions.length

/-- **The handle on a service** for a session, made of a port. -/
def handleOf (session port : Value) : Except Failure ServerHandle :=
  Model.make (.record [("port", port), ("url", .str ("http://127.0.0.1:" ++ port.display)),
    ("id", session)])

/-- **Starts a service.** -/
def start (s : Script) (session : Value) (interactions : List Interaction) (options : PactOptions)
    (l : Ledger) : Answer Ledger ServerHandle :=
  match s.startError with
  | some e => failing (.raised e) l
  | none =>
    match s.nextPort options l >>= handleOf session with
    | .error e => failing e l
    | .ok handle =>
      ⟨.ok handle,
        [⟨.debug, logger, "Stub mock server " ++ session.display ++ " on port "
          ++ String.ofList (intText handle.port)⟩],
        { l with sessions := l.sessions.put handle.id ⟨handle, interactions, options, true⟩ }⟩

/-- The report that the script makes of its mismatches and its fault. -/
def ownReport (s : Script) : Except Failure EngineReport :=
  match Mismatch.texts s.mismatches with
  | .error e => .error (.unreportable e)
  | .ok texts =>
    match (Model.ofValue (.record [("mock_server_error", s.serverError),
        ("mock_server_mismatches", if texts.isEmpty then .null else .list (texts.map .str))])
        : Except Report EngineReport) with
    | .ok r => .ok r
    | .error r => .error (.invalid r)

/-- **Reports on a session**, the same for every session. -/
def report (s : Script) (_session : Value) (l : Ledger) : Answer Ledger EngineReport :=
  match s.reportError with
  | some e => failing (.raised e) l
  | none =>
    match s.reported with
    | some v =>
      match (Model.ofValue v : Except Report EngineReport) with
      | .ok r => ⟨.ok r, [], l⟩
      | .error r => failing (.invalid r) l
    | none => ⟨s.ownReport, [], l⟩

/-- Writes a contract and notes its path. -/
def writeNoted (c : Contract) (dir : Path) (l : Ledger) : Answer Ledger Unit :=
  match c.write dir l.files with
  | (.ok path, files, log) => ⟨.ok (), log, { l with files := files, written := l.written ++ [path] }⟩
  | (.error e, files, log) => ⟨.error e, log, { l with files := files }⟩

/-- What the engine knows of the session that goes by a value. -/
def served? (l : Ledger) (session : Value) : Option ServedSession :=
  match session with
  | .str name => l.sessions.get? name
  | _ => none

/-- **Writes the contract of a session**, with the interactions that were
served in it. -/
def write (s : Script) (session : Value) (options : PactOptions) (l : Ledger) :
    Answer Ledger Unit :=
  match s.writeError with
  | some e => failing (.raised e) l
  | none =>
    match served? l session with
    | none => failing (.raised (.mk "KeyError" true (some session) none)) l
    | some served =>
      writeNoted (.ofInteractions options.consumer options.provider served.interactions
        (.str options.specVersion) installedVersion) options.dir l

/-- **Shuts a service down**; a session that was never started is noted too,
and so is what cannot be looked up before it is refused. -/
def shutdown (s : Script) (session : Value) (l : Ledger) : Answer Ledger Unit :=
  let sessions := match served? l session with
    | some served => l.sessions.put served.handle.id { served with running := false }
    | none => l.sessions
  let l := { l with shutdowns := l.shutdowns ++ [session], sessions := sessions }
  if session.key?.isNone then failing .mistyped l
  else
    match s.shutdownError with
    | some e => failing (.raised e) l
    | none => ⟨.ok (), [], l⟩

/-- **Creates a concrete message**: the specified one with its matchers
replaced by their examples. -/
def create (s : Script) (m : Message) (_options : PactOptions) (l : Ledger) :
    Answer Ledger (Option Message) :=
  match s.createError with
  | some e => failing (.raised e) l
  | none =>
    if s.createsOther then ⟨.ok none, [], l⟩
    else ⟨.ok (some { m with contents := s.createContents.getD m.contents.reify }), [], l⟩

/-- **Records a message** and writes the contract of all messages recorded so
far under the present options. -/
def record (s : Script) (m : Message) (options : PactOptions) (l : Ledger) : Answer Ledger Unit :=
  match s.recordError with
  | some e => failing (.raised e) l
  | none =>
    let l := { l with messages := l.messages ++ [m] }
    writeNoted (.ofMessages options.consumer options.provider l.messages
      (.str options.specVersion) installedVersion) options.dir l

/-- The scripted engine as a matching engine. -/
def engine (s : Script) : Engine Ledger := ⟨s.start, s.report, s.write, s.shutdown⟩

/-- The scripted engine as a message factory. -/
def factory (s : Script) : MessageFactory Ledger where
  create m options l := (s.create m options l).map .result
  record m options l := (s.record m options l).map .result

end Script

end Covenant
