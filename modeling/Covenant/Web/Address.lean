import Covenant.Web.HostName
import Covenant.Text.Numeral

/-!
# Addresses

An address has a scheme, an authority (who asks, a host, and a port), a path,
a query, and a fragment. `Address.ofText` takes a text apart and brings every
part into the form in which it is asked for: the scheme and the host in
lowercase, no port where the scheme implies it, steps within the path taken,
and what has no place in a part in percent form. `Address.text` puts an
address together again.
-/

namespace Covenant

/-- **Why a text is no address.** -/
inductive AddressError where
  /-- It is too long. -/
  | tooLong
  /-- A control character at a position. -/
  | control (c : Char) (position : Nat)
  /-- A port that is no integer. -/
  | port (text : String)
  /-- A host that is none. -/
  | host (fault : HostFault) (text : String)
  /-- A path after an authority that does not begin with a slash. -/
  | unrootedPath
  /-- A path on its own that begins with two slashes. -/
  | doubleSlash
  /-- A path on its own that begins with a colon. -/
  | leadingColon
deriving DecidableEq

/-- The words of an error. -/
def AddressError.text : AddressError → String
  | .tooLong => "URL too long"
  | .control c position =>
    "Invalid non-printable ASCII character in URL, " ++ String.ofList (Text.literal [c])
      ++ " at position " ++ String.ofList (natDigits position) ++ "."
  | .port text => "Invalid port: " ++ String.ofList (Text.literal text.toList)
  | .host fault text =>
    (match fault with
      | .fourParts => "Invalid IPv4 address: "
      | .bracketed => "Invalid IPv6 address: "
      | .label => "Invalid IDNA hostname: ") ++ String.ofList (Text.literal text.toList)
  | .unrootedPath => "For absolute URLs, path must be empty or begin with '/'"
  | .doubleSlash => "Relative URLs cannot have a path starting with '//'"
  | .leadingColon => "Relative URLs cannot have a path starting with ':'"

/-- **An address**, its parts in the form in which they are asked for. -/
structure Address where
  /-- The scheme; empty if there is none. -/
  scheme : List Char
  /-- Who asks; empty if nothing is said. -/
  user : List Char
  /-- The host, a number in brackets without them; empty if there is none. -/
  host : List Char
  /-- The port, unless it is the one that the scheme implies. -/
  port : Option Int
  /-- The path. -/
  path : List Char
  /-- The query, if there is one. -/
  query : Option (List Char)
  /-- The fragment, if there is one. -/
  fragment : Option (List Char)
deriving DecidableEq

namespace Address

/-! ## What stands for itself -/

/-- The characters that stand for themselves in a fragment. -/
def isFragmentChar (c : Char) : Bool :=
  decide (0x20 < c.toNat) && decide (c.toNat < 0x7f) && !"\"<>`".toList.contains c

/-- The characters that stand for themselves in a query. -/
def isQueryChar (c : Char) : Bool :=
  decide (0x20 < c.toNat) && decide (c.toNat < 0x7f) && !"\"#<>".toList.contains c

/-- The characters that stand for themselves in a path. -/
def isPathChar (c : Char) : Bool := isQueryChar c && !"?`\x7b\x7d".toList.contains c

/-- The characters that stand for themselves in what tells who asks. -/
def isUserChar (c : Char) : Bool := isPathChar c && !"/;=@[\\]^|".toList.contains c

/-! ## Taking apart -/

/-- The scheme in front of a colon, if there is one, and what follows. -/
def splitScheme (cs : List Char) : List Char × List Char :=
  let name := cs.takeWhile fun c => c.isAlphanum || "+-.".toList.contains c
  match cs.drop name.length with
  | ':' :: rest => if name.isEmpty || (name.headD ' ').isAlpha then (name, rest) else ([], cs)
  | _ => ([], cs)

/-- The authority after two slashes, if there is one, and what follows. -/
def splitAuthority : List Char → List Char × List Char
  | '/' :: '/' :: rest =>
    let authority := rest.takeWhile fun c => !"/?#".toList.contains c
    (authority, rest.drop authority.length)
  | cs => ([], cs)

/-- What stands before a character, and what after it, if it occurs. -/
def splitAtFirst (mark : Char) (cs : List Char) : List Char × Option (List Char) :=
  let before := cs.takeWhile (· != mark)
  match cs.drop before.length with
  | _ :: after => (before, some after)
  | [] => (before, none)

/-- Who asks, which stands before the last at sign, and what follows. -/
def splitUser (authority : List Char) : List Char × List Char :=
  let rest := (authority.reverse.takeWhile (· != '@')).reverse
  if rest.length = authority.length then ([], authority)
  else (authority.take (authority.length - rest.length - 1), rest)

/-- The host, possibly in brackets, and the text of the port. -/
def splitPort (cs : List Char) : List Char × List Char :=
  let upToBracket := (cs.reverse.dropWhile (· != ']')).reverse
  let host :=
    if cs.head? == some '[' && !upToBracket.isEmpty then upToBracket
    else cs.takeWhile (· != ':')
  match cs.drop host.length with
  | ':' :: port => (host, port)
  | port => (host, port)

/-- The ports that schemes imply. -/
def impliedPort (scheme : List Char) : Option Int :=
  [("ftp", 21), ("http", 80), ("https", 443), ("ws", 80), ("wss", 443)].lookup (String.ofList scheme)

/-- The port of a text; the one that the scheme, as it is written, implies is
left out. -/
def portOf (scheme text : List Char) : Except AddressError (Option Int) :=
  if text.isEmpty then .ok none
  else
    match Text.numeral? text with
    | none => .error (.port (String.ofList text))
    | some p => .ok (if impliedPort scheme == some p then none else some p)

/-- A host in the form in which it is asked for. -/
def hostOf (host : List Char) : Except AddressError (List Char) :=
  match HostName.text host with
  | .ok cs => .ok cs
  | .error fault => .error (.host fault (String.ofList host))

/-! ## Paths -/

/-- Takes the steps of a path: a point stays where it is, two points lead up
as far as there is a way. The names passed through are `done`, the last one
first. -/
def takeSteps (done : List (List Char)) : List (List Char) → List (List Char)
  | [] => done.reverse
  | ['.'] :: names => takeSteps done names
  | ['.', '.'] :: names => takeSteps (if done == [[]] then done else done.drop 1) names
  | name :: names => takeSteps (name :: done) names

/-- The path after its steps. -/
def walked (path : List Char) : List Char :=
  List.intercalate ['/'] (takeSteps [] (path.splitOn '/'))

/-- Whether an address has an authority. -/
def hasAuthority (user host : List Char) (port : Option Int) : Bool :=
  !user.isEmpty || !host.isEmpty || port.isSome

/-- The path of an address, if it may stand there. -/
def pathOf (hasScheme hasAuthority : Bool) (path : List Char) : Except AddressError (List Char) :=
  if hasAuthority && !path.isEmpty && path.head? != some '/' then .error .unrootedPath
  else if !hasScheme && !hasAuthority && path.take 2 == ['/', '/'] then .error .doubleSlash
  else if !hasScheme && !hasAuthority && path.head? == some ':' then .error .leadingColon
  else
    let path := if hasScheme || hasAuthority then walked path else path
    .ok (Text.percentQuoted isPathChar path)

/-! ## Texts -/

/-- The first control character in a text, with its position. -/
def controlIn? (cs : List Char) : Option (Char × Nat) :=
  cs.zipIdx.find? fun c => decide (c.1.toNat < 0x20) || c.1.toNat == 0x7f

/-- How long an address may be. -/
def lengthLimit : Nat := 65536

/-- **The address that a text is.** -/
def ofChars (cs : List Char) : Except AddressError Address :=
  if lengthLimit < cs.length then .error .tooLong
  else
    match controlIn? cs with
    | some (c, position) => .error (.control c position)
    | none => do
      let (scheme, rest) := splitScheme cs
      let (authority, rest) := splitAuthority rest
      let (rest, fragment) := splitAtFirst '#' rest
      let (path, query) := splitAtFirst '?' rest
      let (user, rest) := splitUser authority
      let (host, port) := splitPort rest
      let user := Text.percentQuoted isUserChar user
      let host ← hostOf host
      let port ← portOf scheme port
      let path ← pathOf (!scheme.isEmpty) (hasAuthority user host port) path
      return ⟨scheme.map Char.toLower, user, host, port, path,
        query.map (Text.percentQuoted isQueryChar), fragment.map (Text.percentQuoted isFragmentChar)⟩

@[inherit_doc ofChars]
def ofText (s : String) : Except AddressError Address := ofChars s.toList

/-- The authority of an address. -/
def authority (a : Address) : List Char :=
  (if a.user.isEmpty then [] else a.user ++ ['@'])
    ++ (if a.host.contains ':' then '[' :: (a.host ++ [']']) else a.host)
    ++ (match a.port with
      | some p => ':' :: intText p
      | none => [])

/-- A part of an address with a character in front. -/
def partIfAny (mark : Char) : Option (List Char) → List Char
  | some cs => mark :: cs
  | none => []

/-- The text of an address, as characters. -/
def chars (a : Address) : List Char :=
  (if a.scheme.isEmpty then [] else a.scheme ++ [':'])
    ++ (if a.authority.isEmpty then [] else '/' :: '/' :: a.authority)
    ++ a.path ++ partIfAny '?' a.query ++ partIfAny '#' a.fragment

/-- **The text of an address.** -/
def text (a : Address) : String := String.ofList a.chars

/-- Whether an address stands on its own: it has a scheme and a host. -/
def isAbsolute (a : Address) : Bool := !a.scheme.isEmpty && !a.host.isEmpty

/-- **The address that is asked for**: one that does not stand on its own is
reduced to its path and query. -/
def asked (a : Address) : Address :=
  if a.isAbsolute then a
  else ⟨[], [], [], none, '/' :: a.path.dropWhile (· == '/'), a.query, none⟩

/-- The address with another host. -/
def withHost (a : Address) (host : List Char) : Except AddressError Address :=
  (pathOf (!a.scheme.isEmpty) (hasAuthority a.user host a.port) a.path).map fun path =>
    { a with host := host, path := path }

/-- The address with the fragment of another one, unless it has its own. -/
def withFragment (a : Address) (fragment : Option (List Char)) : Except AddressError Address :=
  let given := Text.percentDecoded (fragment.getD [])
  if given.isEmpty || !(Text.percentDecoded (a.fragment.getD [])).isEmpty then .ok a
  else
    match controlIn? given with
    | some (c, position) => .error (.control c position)
    | none => .ok { a with fragment := some (Text.percentQuoted isFragmentChar given) }

/-- An address in its form. -/
example : (ofText "HTTP://U@Broker.Test:80/a/../é b?q=\"x\"#f").toOption.map text
    = some "http://U@broker.test:80/%C3%A9%20b?q=%22x%22#f" := by decide +kernel

end Address

end Covenant
