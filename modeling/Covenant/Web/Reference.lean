import Covenant.Web.Address

/-!
# References

A page may refer to another address by a part of it only. The reference is
read from the address that the page is at: what it leaves out is taken from
there, up to the first thing that it says.

In a reference the last name of the path may carry parameters after a
semicolon, which stay with it when steps are taken.
-/

namespace Covenant

/-- **A reference**, its parts as they stand; an empty part counts as left
out. -/
structure Reference where
  /-- The scheme, in lowercase. -/
  scheme : List Char
  /-- The authority. -/
  authority : List Char
  /-- The path, without parameters. -/
  path : List Char
  /-- The parameters of the last name. -/
  parameters : List Char
  /-- The query. -/
  query : List Char
  /-- The fragment. -/
  fragment : List Char

namespace Reference

/-- The schemes in which a reference may leave parts out. -/
def relativeSchemes : List String :=
  ["", "ftp", "http", "gopher", "nntp", "imap", "wais", "file", "https", "shttp", "mms", "prospero",
    "rtsp", "rtspu", "sftp", "svn", "svn+ssh", "ws", "wss"]

/-- The schemes in which names have parameters. -/
def parameterSchemes : List String :=
  ["", "ftp", "hdl", "prospero", "http", "imap", "https", "shttp", "rtsp", "rtspu", "sip", "sips",
    "mms", "sftp", "tel"]

/-- Whether a scheme is one of some. -/
def isOneOf (schemes : List String) (scheme : List Char) : Bool :=
  schemes.contains (String.ofList scheme)

/-- The path before the parameters of its last name, and these. -/
def splitParameters (path : List Char) : List Char × List Char :=
  let name := (path.reverse.takeWhile (· != '/')).reverse
  let (before, parameters) := Address.splitAtFirst ';' name
  (path.take (path.length - name.length) ++ before, parameters.getD [])

/-- The reference that a text is, with the scheme that it has if it names
none. -/
def ofChars (scheme cs : List Char) : Reference :=
  let (own, rest) := Address.splitScheme cs
  let (own, rest) := if own.isEmpty then (scheme, cs) else (own.map Char.toLower, rest)
  let (authority, rest) := Address.splitAuthority rest
  let (rest, fragment) := Address.splitAtFirst '#' rest
  let (path, query) := Address.splitAtFirst '?' rest
  let (path, parameters) :=
    if isOneOf parameterSchemes own then splitParameters path else (path, [])
  ⟨own, authority, path, parameters, query.getD [], fragment.getD []⟩

/-- A part with a character in front, unless it is left out. -/
def part (mark : Char) (cs : List Char) : List Char := if cs.isEmpty then [] else mark :: cs

/-- The text of a reference in a scheme with authorities. -/
def chars (r : Reference) : List Char :=
  let path := r.path ++ part ';' r.parameters
  let rooted := if path.isEmpty || path.head? == some '/' then path else '/' :: path
  (if r.scheme.isEmpty then [] else r.scheme ++ [':'])
    ++ (if !r.authority.isEmpty || (!r.scheme.isEmpty && path.take 2 != ['/', '/']) then
          '/' :: '/' :: (r.authority ++ rooted)
        else path)
    ++ part '?' r.query ++ part '#' r.fragment

/-- The names on the way of a path that is read from another one: a path that
begins with a slash leads all the way, any other goes on from the last slash
of the other. -/
def names (base path : List Char) : List (List Char) :=
  let own := path.splitOn '/'
  if path.head? == some '/' then own
  else
    let before := base.splitOn '/'
    let before := if before.getLast? == some [] then before else before.dropLast
    match before ++ own with
    | [] => []
    | [name] => [name]
    | first :: rest => first :: (rest.dropLast.filter (!·.isEmpty) ++ [rest.getLast?.getD []])

/-- Takes the steps of a path; the names passed through are `done`, the last
one first. -/
def takeSteps (done : List (List Char)) : List (List Char) → List (List Char)
  | [] => done.reverse
  | ['.'] :: names => takeSteps done names
  | ['.', '.'] :: names => takeSteps (done.drop 1) names
  | name :: names => takeSteps (name :: done) names

/-- The path of a reference that is read from another path. A step at the end
leads to a directory. -/
def pathFrom (base path : List Char) : List Char :=
  let names := names base path
  let last := names.getLast?.getD []
  let steps := takeSteps [] names ++ (if last == ['.'] || last == ['.', '.'] then [[]] else [])
  let cs := List.intercalate ['/'] steps
  if cs.isEmpty then ['/'] else cs

/-- **A reference read from the address of a page**, both as texts. -/
def resolve (base reference : List Char) : List Char :=
  if base.isEmpty then reference
  else if reference.isEmpty then base
  else
    let b := ofChars [] base
    let r := ofChars b.scheme reference
    if r.scheme != b.scheme || !isOneOf relativeSchemes r.scheme then reference
    else if !r.authority.isEmpty then r.chars
    else if r.path.isEmpty && r.parameters.isEmpty then
      chars { b with
        query := if r.query.isEmpty then b.query else r.query
        fragment := r.fragment }
    else chars { r with authority := b.authority, path := pathFrom b.path r.path }

/-- Names, steps, and a query alone. -/
example : resolve "http://h/a/b/c?q".toList "../x;p".toList = "http://h/a/x;p".toList ∧
    resolve "http://h/a/b?q".toList "?r".toList = "http://h/a/b?r".toList ∧
    resolve "http://h".toList "./..".toList = "http://h/".toList := by decide +kernel

end Reference

namespace Address

/-- The address that a text on a page at an address refers to, read from
there. -/
def refer (base : Address) (a : Address) : Except AddressError Address :=
  ofChars (Reference.resolve base.chars a.chars)

/-- **The address that a page at an address redirects to.** An address with a
scheme and no host is on the same host, one that does not stand on its own is
read from the address of the page, and the fragment is kept unless there is
another one. -/
def redirected (base a : Address) : Except AddressError Address := do
  let a ← if !a.scheme.isEmpty && a.host.isEmpty then a.withHost base.host else .ok a
  let a ← if a.isAbsolute then .ok a else base.refer a
  a.withFragment base.fragment

end Address

end Covenant
