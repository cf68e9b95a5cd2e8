import Covenant.Log.Format

/-!
# Setting up logging

Logging is set up with a level, for a console and possibly for a file. The
file grows until the next line would take it to its limit; then it is set
aside under a number, the files set aside before move up by one, and the
oldest goes. Setting up again replaces what was set up before.

Loggers have names with points, and those of this library begin with its
name. Its level holds for all of them; zero leaves it to the level of
everything else, which is the one for finding faults.
-/

namespace Covenant

/-- **Where records go.** -/
inductive LogTarget where
  /-- To the console. -/
  | console
  /-- To a file, with its limit in bytes and how many files are set aside. -/
  | file (path : Path) (limit : Int) (keep : Nat)

/-- **How logging is set up.** -/
structure Logging where
  /-- The level of the library's loggers. -/
  level : Int
  /-- Whether the level was told as a truth value. -/
  isTruth : Bool
  /-- Where their records go. -/
  targets : List LogTarget

namespace Logging

/-- Logging that has not been set up. -/
def initial : Logging := ⟨0, false, []⟩

/-- The level as it was told. -/
def toldLevel (l : Logging) : Json := if l.isTruth then .bool (l.level != 0) else .int l.level

/-- The name of the library's logger. -/
def root : String := "pactum"

/-- Whether a logger is the library's or one below it. -/
def isOwn (logger : String) : Bool := logger == root || (root ++ ".").isPrefixOf logger

/-- The level from which on a logger handles records. -/
def threshold (l : Logging) (logger : String) : Int :=
  if isOwn logger && l.level != 0 then l.level else 10

/-- **Whether a logger handles records of a level**: one above zero and not
below its threshold. -/
def isEnabled (l : Logging) (logger : String) (level : Value) : Except Failure Bool :=
  match level.exceeds? 0, level.reaches? (l.threshold logger) with
  | some isAbove, some isEnough => .ok (isAbove && isEnough)
  | _, _ => .error .mistyped

/-- The limit of a file if nothing else is said: five times 1024 times 1024
bytes. -/
def defaultLimit : Int := 5 * 1024 * 1024

/-- How many files are set aside if nothing else is said. -/
def defaultKeep : Nat := 3

/-- The file opened for adding to it; it is made if it is missing. -/
def openFile (fs : FileSystem) (path : Path) : Except FileError FileSystem :=
  match fs.contents path with
  | .ok _ => .ok fs
  | .error e => if e.trouble = .missing then fs.replace path (.text "") else .error e

/-- **Sets up where records go**: to the console, and to a file if there is a
directory for it. -/
def targetsIn (directory : Option Path) (limit : Except Failure Int) (keep : Nat) (fs : FileSystem) :
    Except Failure (List LogTarget) × FileSystem :=
  match directory with
  | none => (.ok [.console], fs)
  | some dir =>
    match fs.makeDirectories dir, limit with
    | (.error e, fs), _ => (.error (.file e), fs)
    | (.ok (), fs), .error e => (.error e, fs)
    | (.ok (), fs), .ok limit =>
      let path := dir ++ Path.ofText "pactum.log"
      match openFile fs path with
      | .error e => (.error (.file e), fs)
      | .ok fs => (.ok [.console, .file path limit keep], fs)

/-! ## Setting up from values -/

/-- **What setting up is asked for**, as values; for level and directory null
asks for the default. -/
structure Request where
  /-- The level, as a number or a name. -/
  level : Value
  /-- The directory of the file. -/
  directory : Value
  /-- The limit of the file, if one is given. -/
  limit : Option Value
  /-- How many files are set aside, if it is given. -/
  keep : Option Value

/-- The parts of a request. -/
def Request.parts : List String := ["level", "log_dir", "max_bytes", "backup_count"]

/-- **A request out of named values**, none of which may be unknown. -/
def Request.ofValues (es : List (String × Value)) : Except Failure Request :=
  if es.all fun e => parts.contains e.1 then
    .ok ⟨(es.lookup "level").getD .null, (es.lookup "log_dir").getD .null, es.lookup "max_bytes",
      es.lookup "backup_count"⟩
  else .error .mistyped

/-- The level that is asked for; if none is, the environment gives it. -/
def levelAsked (env : Environment) : Value → Except Failure (Int × List LogEntry)
  | .null => .ok (logLevel env)
  | .int n => .ok (n, [])
  | .bool b => .ok (if b then 1 else 0, [])
  | .str s =>
    match namedLevels.lookup s with
    | some n => .ok (n, [])
    | none => .error .misvalued
  | _ => .error .mistyped

/-- The directory that is asked for. -/
def directoryAsked : Value → Except Failure (Option Path)
  | .null => .ok none
  | .str s => .ok (some (.ofText s))
  | _ => .error .mistyped

/-- The limit that is asked for, the next integer if it is none itself;
whatever is not finite is no limit. -/
def limitAsked : Option Value → Except Failure Int
  | none => .ok defaultLimit
  | some (.double d) => .ok (d.ceiling?.getD 0)
  | some v =>
    match v.whole? with
    | some n => .ok n
    | none => .error .mistyped

/-- How many files are to be set aside. -/
def keepAsked : Option Value → Nat
  | none => defaultKeep
  | some v => (v.whole?.getD 0).toNat

/-- **Sets logging up as it is asked for**, in an environment; what is told
about the environment is handled as logging was set up before. -/
def configure (l : Logging) (env : Environment) (r : Request) (fs : FileSystem) :
    Except Failure Logging × List LogEntry × FileSystem :=
  match levelAsked env r.level with
  | .error e => (.error e, [], fs)
  | .ok (level, log) =>
    let log := log.filter fun e =>
      (l.isEnabled e.logger (.int e.level.number)).toOption.getD false
    match directoryAsked r.directory with
    | .error e => (.error e, log, fs)
    | .ok directory =>
      let isTruth := match r.level with
        | .bool _ => true
        | _ => false
      let (targets, fs) := targetsIn directory (limitAsked r.limit) (keepAsked r.keep) fs
      (targets.map fun targets => ⟨level, isTruth, targets⟩, log, fs)

/-! ## Files -/

/-- The contents with a text added. -/
def added (c : Contents) (s : String) : Contents :=
  match c with
  | .text t => .text (t ++ s)
  | .bytes bs => .bytes (bs ++ s.toList.map fun ch => UInt8.ofNat ch.toNat)

/-- How many bytes the contents have. -/
def size : Contents → Nat
  | .text s => s.utf8ByteSize
  | .bytes bs => bs.length

/-- The path of the file set aside under a number. -/
def asidePath (path : Path) (n : Nat) : Path := .ofText (path.text ++ "." ++ natText n)

/-- Moves a file to another path, if there is one. -/
def move (fs : FileSystem) (source target : Path) : FileSystem :=
  match fs.resolve source, fs.resolve target with
  | .ok a, .ok b =>
    match fs.node? a with
    | some n => ((fs.remove b).put b n).remove a
    | none => fs
  | _, _ => fs

/-- Moves the files set aside up by one, from the last but one down. -/
def moveUp (fs : FileSystem) (path : Path) : (n : Nat) → FileSystem
  | 0 => fs
  | n + 1 => moveUp (move fs (asidePath path (n + 1)) (asidePath path (n + 2))) path n

/-- Sets the file aside and starts it anew; with nothing to keep it stays. -/
def rotate (fs : FileSystem) (path : Path) (keep : Nat) : FileSystem :=
  match keep with
  | 0 => fs
  | n + 1 =>
    let fs := move (moveUp fs path n) path (asidePath path 1)
    match fs.replace path (.text "") with
    | .ok fs => fs
    | .error _ => fs

/-- Adds a line to the file, setting it aside first if the line would take it
to its limit. -/
def append (fs : FileSystem) (path : Path) (limit : Int) (keep : Nat) (line : String) : FileSystem :=
  let text := line ++ "\n"
  let isFull := match fs.contents path with
    | .ok c => decide (0 < limit) && decide (limit ≤ (size c + text.length : Nat))
    | .error _ => false
  let fs := if isFull then rotate fs path keep else fs
  let before := match fs.contents path with
    | .ok c => c
    | .error _ => .text ""
  match fs.replace path (added before text) with
  | .ok fs => fs
  | .error _ => fs

/-- The name of the logger that a value tells: nothing tells the one above all
others, which has none. -/
def loggerName (v : Value) : Except Failure String :=
  match v with
  | .str s => .ok s
  | v => if v.isTruthy then .error .mistyped else .ok ""

/-- **What came of handing a record to a logger.** -/
structure Emission where
  /-- Whether the logger handled it. -/
  isHandled : Bool
  /-- What was written on the console. -/
  console : String
  /-- The files after it. -/
  files : FileSystem
  /-- What is told of it, if it was one of the library's records. -/
  told : Option String

/-- A handled record written to one target. -/
def Emission.writeTo (r : LogRecord) (done : Emission) : LogTarget → Except Failure Emission
  | .console => (r.consoleLine false).map fun s => { done with console := done.console ++ s ++ "\n" }
  | .file path limit keep =>
    r.line.map fun s => { done with files := append done.files path limit keep s }

/-- What is told of a record of a logger with a name like the library's, from
the level for finding faults on. -/
def toldOf (r : LogRecord) (logger : String) : Except Failure (Option String) :=
  if root.isPrefixOf logger && (r.level.reaches? Level.debug.number).getD false then
    r.message.map fun s => some (r.levelName.display ++ " " ++ logger ++ ": " ++ s)
  else .ok none

/-- **Hands a record to a logger.** -/
def emit (l : Logging) (r : LogRecord) (fs : FileSystem) : Except Failure Emission := do
  let logger ← loggerName r.logger
  if !(← l.isEnabled logger r.level) then return ⟨false, "", fs, none⟩
  let told ← toldOf r logger
  let reached := if isOwn logger && (r.level.reaches? l.level).getD false then l.targets else []
  reached.foldlM (Emission.writeTo r) ⟨true, "", fs, told⟩

end Logging

end Covenant
