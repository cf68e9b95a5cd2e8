import Covenant.Failure
import Covenant.Log.Entry

/-!
# Where contracts are kept

A contract is written into a directory, under the names of its consumer and
provider, and loaded from a file or from the web. Whatever the medium cannot
give and whatever is no contract is a failure to load; bytes that are no text
and paths that no file system knows are faults of the caller and reported as
they are.
-/

namespace Covenant

open Validation

namespace Contract

/-- The path of a contract's file in a directory. -/
def pathIn (c : Contract) (dir : Path) : Path := dir ++ Path.ofText c.fileName

/-- A failed file operation while writing a contract. Only what the operating
system refuses is told as a contract that was not written. -/
def writeFailure (e : FileError) : Failure :=
  if e.trouble.isOwn then .file e else .writeFailed (.file e)

/-- **Writes a contract into a directory**, which is made if it is missing.
The text is produced before the file is touched, so a contract without a text
leaves the file as it was. It is encoded after that: a contract whose text has
no bytes leaves the file empty. -/
def write (c : Contract) (dir : Path) (fs : FileSystem) :
    Except Failure Path × FileSystem × List LogEntry :=
  let path := c.pathIn dir
  match fs.makeDirectories path.parent with
  | (.error e, fs) => (.error (writeFailure e), fs, [])
  | (.ok (), fs) =>
    match c.text with
    | .error e => (.error (.ofTextError e), fs, [])
    | .ok text =>
      match fs.write path text with
      | (.error e, fs) => (.error (writeFailure e), fs, [])
      | (.ok (), fs) =>
        (.ok path, fs, [⟨.info, "pactum.contract", "Wrote contract " ++ path.text⟩])

/-- Whether a location is an address on the web. -/
def isUrl (location : String) : Bool :=
  "http://".toList.isPrefixOf location.toList || "https://".toList.isPrefixOf location.toList

/-- The path that a location on disk names, with or without the scheme for
files. -/
def filePath (location : String) : Path :=
  let cs := location.toList
  let scheme := "file://".toList
  .ofText (String.ofList (if scheme.isPrefixOf cs then cs.drop scheme.length else cs))

/-- The contract that a text is. -/
def parse (text location : String) : Except Failure Contract :=
  match (Model.ofText text : Except Report Contract) with
  | .ok c => .ok c
  | .error r => .error (.loadFailed .parse location (.invalid r))

/-- The text of a file. -/
def readText (fs : FileSystem) (path : Path) : Except Failure String :=
  match fs.contents path with
  | .error e =>
    if e.trouble = .nul then .error (.file e)
    else .error (.loadFailed .read path.text (.file e))
  | .ok c =>
    match c.read with
    | .ok s => .ok s
    | .error e => .error (.undecodable e)

/-- **Loads the contract at a location**; the addresses asked for it are
listed, and there are none for a file. -/
def load (location : String) (fs : FileSystem) (web : Web) :
    Except Failure Contract × List String :=
  if isUrl location then
    match fetch web location with
    | (.ok text, asked) => (parse text location, asked)
    | (.error e, asked) =>
      (.error (if e.isExchange then .loadFailed .fetch location (.fetching e) else .fetching e), asked)
  else
    match readText fs (filePath location) with
    | .ok text => (parse text location, [])
    | .error e => (.error e, [])

end Contract

end Covenant
