import Covenant.Entries
import Covenant.Web.Charset
import Covenant.Web.Reference

/-!
# Fetching from the web

What an address answers is given: a page with a status, or no connection.
Fetching follows redirections up to a limit and ends with the page that is no
redirection, which counts as a success only with a status from 200 to 299.

A fetch can fail as an exchange fails, by the answers that come or do not
come; these failures are expected. Others show that something was not made
for the web: an address that is none, or headers that cannot be sent.
-/

namespace Covenant

/-- **A page.** -/
structure Page where
  /-- Its status. -/
  status : Int
  /-- Its headers; a value may be no text. -/
  headers : List (String × Option String)
  /-- Its text. -/
  text : String

/-- **What an address answers.** -/
inductive Reply where
  /-- A page. -/
  | page (p : Page)
  /-- No connection, and why. -/
  | unreachable (reason : String)

/-- **The web**: what each address answers. An unknown address cannot be
reached. -/
abbrev Web := Entries String Reply

/-- **Why nothing was fetched.** -/
inductive FetchError where
  /-- No connection. -/
  | unreachable (reason : String)
  /-- Too many redirections. -/
  | redirections
  /-- A page whose status is no success. -/
  | status (code : Int) (url : String)
  /-- A redirection to what is no address. -/
  | badRedirection (e : AddressError)
  /-- A page that says it is compressed and is not. -/
  | notCompressed
  /-- What is asked for is no address. -/
  | badAddress (e : AddressError)
  /-- A header that is no text. -/
  | headerNotText
  /-- A header beyond ASCII. -/
  | headerNotAscii
  /-- A page in a character set whose mark is missing. -/
  | unmarked
deriving DecidableEq

/-- Whether the exchange failed, as opposed to what was exchanged. -/
def FetchError.isExchange : FetchError → Bool
  | .unreachable _ | .redirections | .status _ _ | .badRedirection _ | .notCompressed => true
  | .badAddress _ | .headerNotText | .headerNotAscii | .unmarked => false

/-- The name of a status. -/
def statusPhrase : Int → String
  | 100 => "Continue" | 101 => "Switching Protocols" | 102 => "Processing"
  | 103 => "Early Hints"
  | 200 => "OK" | 201 => "Created" | 202 => "Accepted"
  | 203 => "Non-Authoritative Information" | 204 => "No Content" | 205 => "Reset Content"
  | 206 => "Partial Content" | 207 => "Multi-Status" | 208 => "Already Reported"
  | 226 => "IM Used"
  | 300 => "Multiple Choices" | 301 => "Moved Permanently" | 302 => "Found"
  | 303 => "See Other" | 304 => "Not Modified" | 305 => "Use Proxy"
  | 307 => "Temporary Redirect" | 308 => "Permanent Redirect"
  | 400 => "Bad Request" | 401 => "Unauthorized" | 402 => "Payment Required"
  | 403 => "Forbidden" | 404 => "Not Found" | 405 => "Method Not Allowed"
  | 406 => "Not Acceptable" | 407 => "Proxy Authentication Required"
  | 408 => "Request Timeout" | 409 => "Conflict" | 410 => "Gone" | 411 => "Length Required"
  | 412 => "Precondition Failed" | 413 => "Request Entity Too Large"
  | 414 => "Request-URI Too Long" | 415 => "Unsupported Media Type"
  | 416 => "Requested Range Not Satisfiable" | 417 => "Expectation Failed"
  | 418 => "I'm a teapot" | 421 => "Misdirected Request" | 422 => "Unprocessable Entity"
  | 423 => "Locked" | 424 => "Failed Dependency" | 425 => "Too Early"
  | 426 => "Upgrade Required" | 428 => "Precondition Required" | 429 => "Too Many Requests"
  | 431 => "Request Header Fields Too Large" | 451 => "Unavailable For Legal Reasons"
  | 500 => "Internal Server Error" | 501 => "Not Implemented" | 502 => "Bad Gateway"
  | 503 => "Service Unavailable" | 504 => "Gateway Timeout"
  | 505 => "HTTP Version Not Supported" | 506 => "Variant Also Negotiates"
  | 507 => "Insufficient Storage" | 508 => "Loop Detected" | 510 => "Not Extended"
  | 511 => "Network Authentication Required"
  | _ => ""

/-- The statuses that redirect, if the page says where to. -/
def isRedirectStatus (status : Int) : Bool := [301, 302, 303, 307, 308].contains status

/-- The kind of a status that is no success. -/
def statusKind (status : Int) : String :=
  match status.fdiv 100 with
  | 1 => "Informational response"
  | 3 => "Redirect response"
  | 4 => "Client error"
  | 5 => "Server error"
  | _ => "Invalid status code"

/-- The class of a failed fetch. -/
def FetchError.kind : FetchError → String
  | .unreachable _ => "ConnectError"
  | .redirections => "TooManyRedirects"
  | .status _ _ => "HTTPStatusError"
  | .badRedirection _ => "RemoteProtocolError"
  | .notCompressed => "DecodingError"
  | .badAddress _ => "InvalidURL"
  | .headerNotText => "TypeError"
  | .headerNotAscii => "UnicodeEncodeError"
  | .unmarked => "UnicodeError"

/-- The text of a failed fetch. -/
def FetchError.text : FetchError → String
  | .unreachable reason => reason
  | .redirections => "Exceeded maximum allowed redirects."
  | .status code url =>
    let n := String.ofList (intText code)
    statusKind code ++ " '" ++ n ++ " " ++ statusPhrase code ++ "' for url '" ++ url ++ "'\n"
      ++ "For more information check: https://developer.mozilla.org/en-US/docs/Web/HTTP/Status/" ++ n
  | .badRedirection e => "Invalid URL in location header: " ++ e.text ++ "."
  | .notCompressed => "Error -3 while decompressing data: incorrect header check"
  | .badAddress e => e.text
  | .headerNotText => "a header that is no text"
  | .headerNotAscii => "a header beyond ASCII"
  | .unmarked => "a page without a mark of its byte order"

namespace Page

/-- The values of the headers of a name, in any case; several are joined. -/
def header? (p : Page) (name : String) : Option String :=
  match p.headers.filter fun h => Text.lowerLatin h.1.toList == name.toList with
  | [] => none
  | hs => some (", ".intercalate (hs.filterMap Prod.snd))

/-- Whether a text is in ASCII. -/
def isAscii (s : String) : Bool := s.toList.all fun c => c.toNat < 0x80

/-- What keeps headers from being sent. -/
def headerFault? : List (String × Option String) → Option FetchError
  | [] => none
  | (name, value) :: hs =>
    match value with
    | none => some (if isAscii name then .headerNotText else .headerNotAscii)
    | some v => if isAscii name && isAscii v then headerFault? hs else some .headerNotAscii

/-- Whether the page says that it is compressed. -/
def saysCompressed (p : Page) : Bool :=
  (((p.header? "content-encoding").getD "").toList.splitOn ',').any fun cs =>
    Text.lowerLatin (Text.trim cs) == "gzip".toList

/-- What keeps a page from being sent or unpacked. -/
def fault? (p : Page) : Option FetchError :=
  match headerFault? p.headers with
  | some e => some e
  | none => if p.saysCompressed && decide (1 < p.text.utf8ByteSize) then some .notCompressed else none

/-- Where the page redirects to, if it does. -/
def redirection? (p : Page) : Option String :=
  if isRedirectStatus p.status then p.header? "location" else none

/-- The text of the page as it is received. -/
def received (p : Page) : Except FetchError String :=
  match (p.header? "content-type").bind ContentType.charset? with
  | none => .ok p.text
  | some name =>
    if p.text = "" then .ok ""
    else
      match readIn? name p.text with
      | some s => .ok s
      | none => .error .unmarked

end Page

/-- How many redirections are followed. -/
def redirectionLimit : Nat := 20

/-- Fetches an address, following at most `left` redirections; the addresses
asked are listed in order. -/
def fetchFrom (web : Web) : (left : Nat) → Address → Except FetchError String × List String
  | left, a =>
    let url := a.text
    match web.get? url with
    | none => (.error (.unreachable "connection refused"), [url])
    | some (.unreachable reason) => (.error (.unreachable reason), [url])
    | some (.page p) =>
      match p.fault?, p.redirection? with
      | some e, _ => (.error e, [url])
      | none, none =>
        if 200 ≤ p.status ∧ p.status ≤ 299 then (p.received, [url])
        else (.error (.status p.status url), [url])
      | none, some location =>
        match Address.ofText location with
        | .error e => (.error (.badRedirection e), [url])
        | .ok target =>
          match a.redirected target with
          | .error e => (.error (.badAddress e), [url])
          | .ok next =>
            match left with
            | 0 => (.error .redirections, [url])
            | left + 1 =>
              let (r, asked) := fetchFrom web left next
              (r, url :: asked)

/-- **The text at an address**, and the addresses asked for it. -/
def fetch (web : Web) (url : String) : Except FetchError String × List String :=
  match Address.ofText url with
  | .error e => (.error (.badAddress e), [])
  | .ok a => fetchFrom web redirectionLimit a.asked

end Covenant
