import Covenant.Entries
import Covenant.Files.Path
import Covenant.Text.Halves
import Covenant.Value.Document

/-!
# Files and directories

A file system is a finite table of what exists below the working directory.
Paths are followed name by name: every name but the last has to lead to a
directory, a name has at most 255 bytes, and a name of two points leads up.
What lies outside of the working directory is unknown and counts as absent,
the root and the directories on the way up excepted.

An operation that fails leaves the table as it was, with two exceptions. The
directories made on the way to a missing one stay. And a file is opened, and so
emptied, before the text for it is encoded: one that cannot be leaves it empty.
-/

namespace Covenant

/-- **What a file holds**: a text, or bytes that may be none. -/
inductive Contents where
  /-- A text. -/
  | text (s : String)
  /-- Bytes. -/
  | bytes (bs : List UInt8)
deriving DecidableEq

/-- The text read from a file, its line breaks unified. -/
def Contents.read (c : Contents) : Except Undecodable String :=
  let unify (s : String) := String.ofList (Text.unifyLineBreaks s.toList)
  match c with
  | .text s => .ok (unify s)
  | .bytes bs => (textOfBytes bs).map unify

/-- **What exists at a place.** -/
inductive Node where
  /-- A directory. -/
  | directory
  /-- A file. -/
  | file (c : Contents)
deriving DecidableEq

/-- **What is wrong with a path.** -/
inductive Trouble where
  /-- Nothing is there. -/
  | missing
  /-- Something is there already. -/
  | present
  /-- Something on the way is a file. -/
  | notDirectory
  /-- A directory is in the place of a file. -/
  | isDirectory
  /-- A name or the whole path is too long. -/
  | nameTooLong
  /-- The path holds a NUL character. -/
  | nul
  /-- A text or the path has no bytes. -/
  | unencodable (u : Text.Unencodable)
deriving DecidableEq

/-- **A failed operation**: what is wrong, and with which path. -/
structure FileError where
  /-- What is wrong. -/
  trouble : Trouble
  /-- The path as text. -/
  path : String
deriving DecidableEq

/-- The number and the wording of a trouble. -/
def Trouble.wording : Trouble → String
  | .missing => "[Errno 2] No such file or directory"
  | .present => "[Errno 17] File exists"
  | .notDirectory => "[Errno 20] Not a directory"
  | .isDirectory => "[Errno 21] Is a directory"
  | .nameTooLong => "[Errno 36] File name too long"
  | .nul => "embedded null byte"
  | .unencodable u => u.text

/-- The class of a trouble. -/
def Trouble.kind : Trouble → String
  | .missing => "FileNotFoundError"
  | .present => "FileExistsError"
  | .notDirectory => "NotADirectoryError"
  | .isDirectory => "IsADirectoryError"
  | .nameTooLong => "OSError"
  | .nul => "ValueError"
  | .unencodable _ => "UnicodeEncodeError"

/-- Whether the trouble is found before the operating system is asked. -/
def Trouble.isOwn : Trouble → Bool
  | .nul | .unencodable _ => true
  | _ => false

/-- The text of a failed operation, with its path as a literal where the
operating system failed it. -/
def FileError.text (e : FileError) : String :=
  if e.trouble.isOwn then e.trouble.wording
  else e.trouble.wording ++ ": " ++ String.ofList (Text.literal e.path.toList)

/-- **A place**: the names that lead to it from the working directory. Names
of two points in front lead up from there, a slash in front leads from the
root. -/
abbrev Location := List String

/-- **The files and directories that exist.** -/
structure FileSystem where
  /-- What exists, in the order in which it came to be. -/
  nodes : Entries Location Node
  /-- The characters that stand for halves of surrogate pairs, in texts and in
  paths. -/
  halves : Text.Halves := []
deriving Inhabited

namespace FileSystem

/-- A file system with nothing in it. -/
def empty : FileSystem := { nodes := [] }

/-- The file system with a node at a place. -/
def put (fs : FileSystem) (at_ : Location) (n : Node) : FileSystem :=
  { fs with nodes := fs.nodes.put at_ n }

/-- What exists at a place. -/
def node? (fs : FileSystem) (at_ : Location) : Option Node :=
  if at_.all (· == "..") || at_ == ["/"] then some .directory else fs.nodes.get? at_

/-- The place one level up. -/
def up (at_ : Location) : Location :=
  if at_ = ["/"] then at_
  else if at_.all (· == "..") then at_ ++ [".."]
  else at_.dropLast

/-- The place that a name leads to from a directory. -/
def enter (fs : FileSystem) (from_ : Location) (name : String) : Except Trouble Location :=
  match fs.node? from_ with
  | none => .error .missing
  | some (.file _) => .error .notDirectory
  | some .directory =>
    if name = ".." then .ok (up from_)
    else if 255 < name.utf8ByteSize then .error .nameTooLong
    else .ok (from_ ++ [name])

/-- Follows names from a place. -/
def follow (fs : FileSystem) (from_ : Location) : List String → Except Trouble Location
  | [] => .ok from_
  | name :: names =>
    match fs.enter from_ name with
    | .error t => .error t
    | .ok at_ => follow fs at_ names

/-- **The place that a path leads to**; nothing needs to exist there. -/
def resolve (fs : FileSystem) (p : Path) : Except Trouble Location :=
  if p.text.toList.contains (Char.ofNat 0) then .error .nul
  else if 4096 ≤ p.text.utf8ByteSize then .error .nameTooLong
  else fs.follow (if p.root = "" then [] else ["/"]) p.names

/-- What exists where a path leads. -/
def at? (fs : FileSystem) (p : Path) : Option Node :=
  match fs.resolve p with
  | .ok at_ => fs.node? at_
  | .error _ => none

/-- **What the file at a path holds.** -/
def contents (fs : FileSystem) (p : Path) : Except FileError Contents :=
  match fs.resolve p with
  | .error t => .error ⟨t, p.text⟩
  | .ok at_ =>
    match fs.node? at_ with
    | none => .error ⟨.missing, p.text⟩
    | some .directory => .error ⟨.isDirectory, p.text⟩
    | some (.file c) => .ok c

/-- **Replaces what a file holds**; it is made if it is missing. -/
def replace (fs : FileSystem) (p : Path) (c : Contents) : Except FileError FileSystem :=
  match fs.resolve p with
  | .error t => .error ⟨t, p.text⟩
  | .ok at_ =>
    match fs.node? at_ with
    | some .directory => .error ⟨.isDirectory, p.text⟩
    | _ => .ok (fs.put at_ (.file c))

/-- **Writes a text into a file.** The path is encoded first; then the file is
opened, which empties it, and only then the text is encoded. -/
def write (fs : FileSystem) (p : Path) (s : String) : Except FileError Unit × FileSystem :=
  match Text.unencodable? fs.halves.inPaths p.text, Text.unencodable? fs.halves s with
  | some u, _ => (.error ⟨.unencodable u, p.text⟩, fs)
  | none, some u =>
    match fs.replace p (.text "") with
    | .error e => (.error e, fs)
    | .ok emptied => (.error ⟨.unencodable u, p.text⟩, emptied)
  | none, none =>
    match fs.replace p (.text s) with
    | .error e => (.error e, fs)
    | .ok written => (.ok (), written)

/-- Makes one directory. -/
def makeDirectory (fs : FileSystem) (p : Path) : Except FileError FileSystem :=
  match fs.resolve p with
  | .error t => .error ⟨t, p.text⟩
  | .ok at_ =>
    match fs.node? at_ with
    | some _ => .error ⟨.present, p.text⟩
    | none => .ok (fs.put at_ .directory)

/-- Whether a directory is at a path. -/
def isDirectory (fs : FileSystem) (p : Path) : Bool := fs.at? p == some .directory

/-- Makes a directory unless there is one, and before it those that are
missing on the way; `fuel` bounds their number. The directories made before
a failure stay. -/
def makeDirectoriesFrom : (fuel : Nat) → FileSystem → Path → Except FileError Unit × FileSystem
  | fuel, fs, p =>
    match fs.makeDirectory p with
    | .ok fs => (.ok (), fs)
    | .error e =>
      if e.trouble = .missing then
        match fuel with
        | 0 => (.error e, fs)
        | fuel + 1 =>
          match makeDirectoriesFrom fuel fs p.parent with
          | (.error e, fs) => (.error e, fs)
          | (.ok (), fs) =>
            match fs.makeDirectory p with
            | .ok fs => (.ok (), fs)
            | .error e => if fs.isDirectory p then (.ok (), fs) else (.error e, fs)
      else if fs.isDirectory p then (.ok (), fs)
      else (.error e, fs)

/-- **Makes a directory and those on the way to it.** -/
def makeDirectories (fs : FileSystem) (p : Path) : Except FileError Unit × FileSystem :=
  makeDirectoriesFrom p.names.length fs p

/-- Writes a file and makes the directories on the way to it: where it went,
and the files then. -/
def install (fs : FileSystem) (p : Path) (c : Contents) : Option Location × FileSystem :=
  let fs := (fs.makeDirectories p.parent).2
  match fs.replace p c, fs.resolve p with
  | .ok fs, .ok at_ => (some at_, fs)
  | _, _ => (none, fs)

/-- Removes what is at a place. -/
def remove (fs : FileSystem) (at_ : Location) : FileSystem :=
  { fs with nodes := fs.nodes.erase at_ }

/-- The files with their places, in the order in which they came to be. -/
def files (fs : FileSystem) : List (Location × Contents) :=
  fs.nodes.filterMap fun (at_, n) =>
    match n with
    | .file c => some (at_, c)
    | .directory => none

/-- A file cannot be written where a file is in the way. -/
example : (replace { nodes := [(["a"], .file (.text ""))] } (.ofText "a/b") (.text "")).toBool
    = false := by
  decide +kernel

end FileSystem

end Covenant
