import Covenant.Text.Quoted

/-!
# Paths

A path is a root and a list of names. Reading one from text drops empty names
and names that are a single point, so that every path has one text; a name of
two points stays, because what it leads to depends on the files.
-/

namespace Covenant

/-- **A path**: where it starts and the names it goes through. -/
structure Path where
  /-- The root: empty for a relative path, otherwise one slash or two. -/
  root : String
  /-- The names, none of them empty or a single point. -/
  names : List String
deriving DecidableEq, Inhabited

namespace Path

/-- The parts of a text between slashes. -/
def splitSlash : List Char → List (List Char)
  | [] => [[]]
  | '/' :: cs => [] :: splitSlash cs
  | c :: cs =>
    match splitSlash cs with
    | [] => [[c]]
    | p :: ps => (c :: p) :: ps

/-- The names in a text. -/
def namesOf (cs : List Char) : List String :=
  (splitSlash cs).filterMap fun p => if p = [] ∨ p = ['.'] then none else some (String.ofList p)

/-- The path that a text is. Two slashes in front are a root of their own,
any other number of them is one. -/
def ofText (s : String) : Path :=
  let cs := s.toList
  match cs with
  | '/' :: '/' :: '/' :: _ => ⟨"/", namesOf cs⟩
  | '/' :: '/' :: _ => ⟨"//", namesOf cs⟩
  | '/' :: _ => ⟨"/", namesOf cs⟩
  | _ => ⟨"", namesOf cs⟩

/-- The text of a path; the path of no names is a point. -/
def text (p : Path) : String :=
  if p.root = "" ∧ p.names = [] then "." else p.root ++ "/".intercalate p.names

/-- The path one name up. -/
def parent (p : Path) : Path := { p with names := p.names.dropLast }

/-- A path below another one, or on its own if it has a root. -/
def append (p q : Path) : Path :=
  if q.root = "" then { p with names := p.names ++ q.names } else q

instance : Append Path := ⟨append⟩

/-- Empty names and points are dropped, two points stay. -/
example : (ofText "a//b/./../c/").text = "a/b/../c" ∧ (ofText "").text = "." ∧
    (ofText "///x").text = "/x" := by decide +kernel

end Path

end Covenant
