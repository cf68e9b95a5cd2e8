import Covenant.Pact.Basic

/-!
# Calls by name

A call can be given by its name and named arguments. Arguments that are left
out take their defaults; one that is missing without a default, or that the
call does not know, makes it no call at all.
-/

namespace Covenant

/-- **Named arguments.** -/
abbrev Arguments := List (String × Value)

namespace Arguments

/-- Whether every argument is one of the known ones. -/
def onlyKnown (args : Arguments) (known : List String) : Bool :=
  args.all fun a => known.contains a.1

/-- An argument, or its default. -/
def getOr (args : Arguments) (name : String) (default : Value) : Value :=
  (List.lookup name args).getD default

/-- The arguments of the given names, or nothing if one is missing or there
are others than these and the optional ones. -/
def bind? (args : Arguments) (required optional : List String) : Option (List Value) :=
  if onlyKnown args (required ++ optional) then required.mapM fun name => List.lookup name args
  else none

end Arguments

namespace PactCall

open Arguments

/-- The arguments of a request besides its body. -/
def ofRequest (name method : String) (args : Arguments) (body : BodyArgument) : PactCall :=
  .request name (args.getOr "method" (.str method)) (args.getOr "path" (.str "/"))
    (args.getOr "query" .null) (args.getOr "headers" .null) body

/-- The arguments of a response besides its body. -/
def ofResponse (name : String) (args : Arguments) (body : BodyArgument) : PactCall :=
  .response name (args.getOr "status" (.int 200)) (args.getOr "headers" .null) body

/-- The names of a request's arguments besides its body. -/
def requestArguments : List String := ["method", "path", "query", "headers"]

/-- **The call of a name with named arguments**, if there is one. -/
def ofName? (name : String) (args : Arguments) : Option PactCall :=
  match name with
  | "given" =>
    match args.bind? ["provider_state"] ["parameters"] with
    | some [state] => some (.given state (args.getOr "parameters" .null))
    | _ => none
  | "upon_receiving" =>
    match args.bind? ["description"] [] with
    | some [description] => some (.uponReceiving description)
    | _ => none
  | "with_request" =>
    if args.onlyKnown ("body" :: requestArguments) then
      some (ofRequest name "GET" args (.inline (args.getOr "body" .null)))
    else none
  | "with_request_binary_file" =>
    match args.bind? ["content_type", "file"] requestArguments with
    | some [contentType, file] => some (ofRequest name "POST" args (.file contentType file none))
    | _ => none
  | "with_request_multipart_file_upload" =>
    match args.bind? ["content_type", "file", "part"] requestArguments with
    | some [contentType, file, part] =>
      some (ofRequest name "POST" args (.file contentType file (some part)))
    | _ => none
  | "will_respond_with" =>
    if args.onlyKnown ["status", "headers", "body"] then
      some (ofResponse name args (.inline (args.getOr "body" .null)))
    else none
  | "with_response_binary_file" =>
    match args.bind? ["content_type", "file"] ["status", "headers"] with
    | some [contentType, file] => some (ofResponse name args (.file contentType file none))
    | _ => none
  | "with_response_multipart_file_upload" =>
    match args.bind? ["content_type", "file", "part"] ["status", "headers"] with
    | some [contentType, file, part] =>
      some (ofResponse name args (.file contentType file (some part)))
    | _ => none
  | _ => none

end PactCall

/-- **A new pact from named arguments**: the names of consumer and provider,
and whatever else the options hold. A directory has to be a text. -/
def Pact.ofArguments (args : Arguments) (settings : SessionSettings) : Except Failure Pact :=
  match args.bind? ["consumer", "provider"] ["dir", "cors", "port", "spec_version"] with
  | some [consumer, provider] =>
    match args.getOr "dir" (.str "pacts") with
    | .str dir =>
      (Model.make (.record [("dir", .str dir), ("consumer", consumer),
        ("provider", provider), ("cors", args.getOr "cors" (.bool false)),
        ("port", args.getOr "port" .null),
        ("spec_version", args.getOr "spec_version" (.str "3.0.0"))])).map fun o => .new o settings
    | _ => .error .mistyped
  | _ => .error .mistyped

end Covenant
