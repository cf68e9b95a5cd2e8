import Covenant.CommandLine

/-!
# The program

Reads the command line and what it needs from the outside, carries the
command out, and writes what it came to. Only the file that the command names
is read; there is no way to the web from here, so every address counts as one
that cannot be reached.
-/

namespace Covenant

namespace Main

/-- The variables that a command may look at. -/
def variableNames : List String :=
  [Selectors.descriptionVariable, Selectors.stateVariable, Selectors.noStateVariable]

/-- The environment, as far as a command may look at it. -/
def environment : IO Environment :=
  variableNames.filterMapM fun name => do
    return (← IO.getEnv name).map fun value => (name, value)

/-- The files that exist, as far as a path is concerned. -/
def filesAt (path : Path) : IO FileSystem := do
  try
    if ← (← IO.FS.realPath path.text).isDir then
      return (FileSystem.empty.makeDirectories path).2
    let bytes ← IO.FS.readBinFile path.text
    return (FileSystem.empty.install path (.bytes bytes.toList)).2
  catch _ => return .empty

/-- The files that a command needs. -/
def filesFor : Command → IO FileSystem
  | .list location _ =>
    if Contract.isUrl location then return .empty else filesAt (Contract.filePath location)
  | _ => return .empty

end Main

end Covenant

open Covenant

/-- **The program.** -/
def main (args : List String) : IO UInt32 := do
  let command := Command.read args
  let result := CommandLine.run command (← Main.environment) (← Main.filesFor command) []
  for entry in result.log do
    IO.eprintln entry.text
  IO.print result.output
  IO.eprint result.errors
  if let some failure := result.uncaught then
    IO.eprintln failure.text
  return UInt32.ofNat result.exitCode
