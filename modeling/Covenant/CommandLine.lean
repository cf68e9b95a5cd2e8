import Covenant.Contract.Store
import Covenant.Selection

/-!
# The command line

One command lists the interactions of a contract that a verification would
replay. Options select as in a verification; one that is not given is taken
from the environment, where an empty variable counts as none.

The command line is read in two steps, first into a `Command` or the verdict
that it is none, then the command is carried out on files and the web.
-/

namespace Covenant

/-- **The options of the listing.** -/
structure ListingOptions where
  /-- The description to select. -/
  description : Option String
  /-- The provider state to select. -/
  state : Option String
  /-- Whether to select what declares no state, as a word. -/
  noState : Option String

/-- **What the command line asks for.** -/
inductive Command where
  /-- The version. -/
  | version
  /-- A help text. -/
  | help
  /-- The listing of a contract. -/
  | list (location : String) (options : ListingOptions)
  /-- Nothing that could be understood. -/
  | misuse

namespace Command

/-! ## The arguments of the listing -/

/-- The selectors that take a value, under their short and long names. -/
inductive Selector where
  /-- By description. -/
  | description
  /-- By provider state. -/
  | state
  /-- By the lack of one. -/
  | noState

/-- The selector of a long name. -/
def longSelector? : String → Option Selector
  | "--description" => some .description
  | "--state" => some .state
  | "--no-state" => some .noState
  | _ => none

/-- The selector of a short name. -/
def shortSelector? : Char → Option Selector
  | 'd' => some .description
  | 's' => some .state
  | _ => none

/-- Sets a selector. -/
def set (o : ListingOptions) (value : String) : Selector → ListingOptions
  | .description => { o with description := some value }
  | .state => { o with state := some value }
  | .noState => { o with noState := some value }

/-- **An argument of the listing.** -/
inductive Argument where
  /-- A selector whose value is the next argument. -/
  | selector (s : Selector)
  /-- A selector with its value. -/
  | set (s : Selector) (value : String)
  /-- The request for a help text. -/
  | help
  /-- What separates options from locations. -/
  | separator
  /-- A location. -/
  | location (s : String)
  /-- An option that is not known. -/
  | unknown

/-- Reads one argument. -/
def Argument.read (arg : String) : Argument :=
  match arg.toList with
  | ['-', '-'] => .separator
  | '-' :: '-' :: _ =>
    let name := arg.toList.takeWhile (· != '=')
    match longSelector? (String.ofList name) with
    | some s =>
      match arg.toList.drop name.length with
      | _ :: value => .set s (String.ofList value)
      | [] => .selector s
    | none => if arg = "--help" then .help else .unknown
  | '-' :: c :: value =>
    match shortSelector? c with
    | some s => if value.isEmpty then .selector s else .set s (String.ofList value)
    | none => .unknown
  | _ => .location arg

/-- **The arguments of the listing, understood one by one.** -/
structure Listing where
  /-- The locations. -/
  locations : List String
  /-- Whether a help text is asked for. -/
  asksHelp : Bool
  /-- The options. -/
  options : ListingOptions

/-- The listing without arguments. -/
def Listing.empty : Listing := ⟨[], false, ⟨none, none, none⟩⟩

/-- Reads the arguments of the listing, unless there is one that cannot be
understood. -/
def readArguments (l : Listing) : List String → Option Listing
  | [] => some l
  | arg :: args =>
    match Argument.read arg with
    | .unknown => none
    | .help => readArguments { l with asksHelp := true } args
    | .separator => some { l with locations := l.locations ++ args }
    | .set s value => readArguments { l with options := set l.options value s } args
    | .location place => readArguments { l with locations := l.locations ++ [place] } args
    | .selector s =>
      match args with
      | [] => none
      | value :: args => readArguments { l with options := set l.options value s } args

/-- The command that the arguments of the listing come to: a request for help
goes first, and there has to be one location. -/
def ofListing (l : Listing) : Command :=
  if l.asksHelp then .help
  else
    match l.locations with
    | [place] => .list place l.options
    | _ => .misuse

/-! ## The whole command line -/

/-- Whether an argument has the form of an option. -/
def isOption (arg : String) : Bool := arg.toList.head? == some '-' && arg != "-"

/-- The command of an option that stands before all commands. -/
def globalOption? (arg : String) : Option Command :=
  if arg = "--version" || (arg.toList.drop 1).all (· == 'v') then some .version
  else if arg = "--help" then some .help
  else none

/-- Reads the options before the command, of which the first counts, but all
have to be known: what they ask for, and the arguments that follow. -/
def readOptions (asked : Option Command) : List String → Option (Option Command × List String)
  | [] => some (asked, [])
  | arg :: args =>
    if arg = "--" then some (asked, args)
    else if isOption arg then
      match globalOption? arg with
      | some c => readOptions (some (asked.getD c)) args
      | none => none
    else some (asked, arg :: args)

/-- The command of the arguments that follow the options. What has not the
name of a command is read as options once more, which count if they ask for
something. -/
def readRest (args : List String) : Command :=
  match args with
  | "interactions" :: args => ((readArguments .empty args).map ofListing).getD .misuse
  | args =>
    match readOptions none args with
    | some (some c, _) => c
    | _ => .misuse

/-- **Reads a command line.** -/
def read (args : List String) : Command :=
  match readOptions none args with
  | none => .misuse
  | some (some c, _) => c
  | some (none, rest) => readRest rest

/-- Options that are not known spoil what stands before them. -/
example : (read ["-v", "interactions", "--bogus"] matches .version) = true ∧
    (read ["-v", "--bogus"] matches .misuse) = true ∧
    (read ["interactions", "--help", "--bogus"] matches .misuse) = true := by decide +kernel

end Command

/-- **What a command comes to**: an exit code, what is written, what is
logged, and the failure that nobody caught, if there was one. -/
structure CommandResult where
  /-- The exit code. -/
  exitCode : Nat
  /-- What is written to the standard output. -/
  output : String
  /-- What is written to the error output. -/
  errors : String
  /-- What is logged. -/
  log : List LogEntry
  /-- The addresses asked for. -/
  asked : List String
  /-- What nobody caught. -/
  uncaught : Option Failure

namespace CommandLine

/-- A text that is not empty. -/
def given : Option String → Option String
  | some s => if s = "" then none else some s
  | none => none

/-- An option, or the variable that stands in for it: an empty variable
counts as none. -/
def orVariable (option : Option String) (env : Environment) (variable_ : String) : Option String :=
  match option with
  | some s => some s
  | none => given (env.get? variable_)

/-- **The selectors of a listing.** -/
def selectors (o : ListingOptions) (env : Environment) : Selectors :=
  ⟨.ofText (orVariable o.description env Selectors.descriptionVariable),
    .ofText (orVariable o.state env Selectors.stateVariable),
    isTruthyWord (orVariable o.noState env Selectors.noStateVariable)⟩

/-- The line of an interaction. -/
def interactionLine (i : Interaction) : String :=
  let states := ", ".intercalate i.stateNames
  "  • " ++ i.description ++ (if states = "" then "" else " [given " ++ states ++ "]")

/-- The heading of a listing. -/
def heading (c : Contract) (selected : List Interaction) : String :=
  c.consumer.name ++ " -> " ++ c.provider.name ++ ": " ++ natText selected.length ++ " of "
    ++ natText c.interactions.length ++ " interaction(s) selected"

/-- **The listing**: a heading and a line per selected interaction. -/
def listing (c : Contract) (selected : List Interaction) : String :=
  String.join ((heading c selected :: selected.map interactionLine).map (· ++ "\n"))

/-- Whether a character is a parameter of a terminal's code. -/
def isCodeParameter (c : Char) : Bool := c.isDigit || c == ';' || c == '?'

/-- Drops a code for a terminal off the front, after its mark, if there is
one: parameters and a letter. -/
def dropCode? (cs : List Char) : Option (List Char) :=
  match cs.dropWhile isCodeParameter with
  | c :: rest => if c.isAlpha then some rest else none
  | [] => none

/-- A text without the codes for terminals; `fuel` bounds its length. -/
def withoutCodesFrom : (fuel : Nat) → List Char → List Char
  | 0, cs => cs
  | _, [] => []
  | fuel + 1, c :: cs =>
    match cs with
    | '[' :: rest =>
      match if c.toNat = 27 then dropCode? rest else none with
      | some rest => withoutCodesFrom fuel rest
      | none => c :: withoutCodesFrom fuel cs
    | _ => c :: withoutCodesFrom fuel cs

/-- Line breaks of two characters become a line feed. -/
def withoutReturns : List Char → List Char
  | '\r' :: '\n' :: cs => '\n' :: withoutReturns cs
  | c :: cs => c :: withoutReturns cs
  | [] => []

/-- **A text as it is written** where there is no terminal. -/
def written (s : String) : String :=
  let cs := s.toList
  String.ofList (withoutReturns (withoutCodesFrom cs.length cs))

/-- A code goes, a mark without one stays. -/
example : written "\x1b[1;31mred\x1b[0m\x1b[1 \r\n" = "red\x1b[1 \n" := by decide +kernel

/-- **Carries a command out.** A contract that cannot be loaded is reported;
other failures are not caught. -/
def run (command : Command) (env : Environment) (fs : FileSystem) (web : Web) : CommandResult :=
  match command with
  | .version => ⟨0, distribution ++ " " ++ installedVersion ++ "\n", "", [], [], none⟩
  | .help => ⟨0, "usage: pactum interactions PACT_FILE\n", "", [], [], none⟩
  | .misuse => ⟨2, "", "", [], [], none⟩
  | .list location o =>
    match Contract.load location fs web with
    | (.error (.loadFailed step place cause), asked) =>
      ⟨1, "", written ("Error: " ++ (Failure.loadFailed step place cause).text ++ "\n"), [], asked, none⟩
    | (.error e, asked) => ⟨1, "", "", [], asked, some e⟩
    | (.ok c, asked) =>
      let (selected, log) := (selectors o env).select c.interactions
      ⟨0, written (listing c selected), "", log, asked, none⟩

end CommandLine

end Covenant
