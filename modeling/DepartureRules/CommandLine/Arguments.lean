import DepartureRules.Text.Numeral

/-!
# Arguments of the command line

    [RULES] [--server URL] [--engine-type C] [--aircraft-type C] [--wait-secs N] [--json]

The arguments are read from left to right. An option is given by its name, and its value, if it has one,
stands behind an equals sign or is the next argument; a next argument that begins with a hyphen is no value.
What follows `--` is no option. The first argument that is wrong, or that asks for the version or for help,
decides; only then are the rules and the server found to exclude each other.

* `Options` is what the arguments ask for;
* `Request.ofArguments` reads them.
-/

namespace DepartureRules.CommandLine
open DepartureRules.Text
set_option autoImplicit false

/-- What the arguments ask for. Nothing is set twice. -/
structure Options where
  /-- The file of an airport document to check against. -/
  rules : Option String := none
  server : Option String := none
  engineType : Option Char := none
  aircraftType : Option Char := none
  /-- How many seconds to wait for the rule server. -/
  waitSeconds : Option Nat := none
  json : Bool := false
  deriving DecidableEq, Repr, Inhabited

/-- The seconds to wait when the arguments do not say. -/
def defaultWait : Nat := 30

/-- What a command line comes to. -/
inductive Request
  | check (options : Options)
  | version
  | help
  /-- The arguments are wrong. -/
  | rejected
  deriving DecidableEq, Repr, Inhabited

/-- The options that have a value. -/
inductive ValueOption
  | server
  | engineType
  | aircraftType
  | waitSeconds
  deriving DecidableEq, Repr

/-- The option of a name. -/
def ValueOption.ofName? (name : String) : Option ValueOption :=
  match name with
  | "server" => some .server
  | "engine-type" => some .engineType
  | "aircraft-type" => some .aircraftType
  | "wait-secs" => some .waitSeconds
  | _ => none

/-- A text of a single character. -/
def singleChar? (text : String) : Option Char :=
  match text.toList with
  | [c] => some c
  | _ => none

/-- Sets what is not set yet to a value that could be read. -/
def setOnce {α : Type} (old new : Option α) : Option α :=
  if old.isSome then none else new

namespace Options

/-- The options with a value set; none if the value is wrong or there is one already. -/
def setValue (o : Options) (option : ValueOption) (value : String) : Option Options :=
  match option with
  | .server => (setOnce o.server (some value)).map fun server => { o with server := some server }
  | .engineType => (setOnce o.engineType (singleChar? value)).map fun c => { o with engineType := some c }
  | .aircraftType =>
    (setOnce o.aircraftType (singleChar? value)).map fun c => { o with aircraftType := some c }
  | .waitSeconds =>
    (setOnce o.waitSeconds (settingNumber? value)).map fun n => { o with waitSeconds := some n }

/-- The options with the report in a document; none if it is asked for already. -/
def setJson (o : Options) : Option Options :=
  if o.json then none else some { o with json := true }

/-- The options with a file of rules; none if there is one already or the name is empty. -/
def setRules (o : Options) (file : String) : Option Options :=
  if o.rules.isSome || file.isEmpty then none else some { o with rules := some file }

/-- What the options come to when all arguments are read. -/
def complete (o : Options) : Request :=
  if o.rules.isSome && o.server.isSome then .rejected else .check o

end Options

/-- An argument by its form. -/
inductive Argument
  /-- `--`, after which there are no options. -/
  | separator
  /-- A name behind two hyphens, and the value behind its equals sign if it has one. -/
  | long (name : String) (value : Option String)
  /-- Letters behind a single hyphen. -/
  | short (first : Char)
  | plain (text : String)
  deriving DecidableEq, Repr

/-- The form of an argument. -/
def Argument.ofText (text : String) : Argument :=
  match text.toList with
  | ['-', '-'] => .separator
  | '-' :: '-' :: body =>
    let name := body.takeWhile (· != '=')
    match body.dropWhile (· != '=') with
    | [] => .long (String.ofList name) none
    | _ :: value => .long (String.ofList name) (some (String.ofList value))
  | '-' :: c :: _ => .short c
  | _ => .plain text

namespace Request

/-- Goes on with the options that an argument led to. -/
def proceed (o : Option Options) (next : Options → Request) : Request :=
  match o with
  | some o => next o
  | none => .rejected

/-- Reads arguments of which none is an option. -/
def ofPlain (o : Options) : List String → Request
  | [] => o.complete
  | text :: arguments => proceed (o.setRules text) fun o => ofPlain o arguments

/-- Reads arguments. -/
def read (o : Options) : List String → Request
  | [] => o.complete
  | text :: arguments =>
    match Argument.ofText text with
    | .separator => ofPlain o arguments
    | .plain file => proceed (o.setRules file) fun o => read o arguments
    | .short first => if first = 'V' then .version else if first = 'h' then .help else .rejected
    | .long name attached =>
      match ValueOption.ofName? name with
      | some option =>
        match attached with
        | some value => proceed (o.setValue option value) fun o => read o arguments
        | none =>
          match arguments with
          | [] => .rejected
          | next :: arguments =>
            match Argument.ofText next with
            | .plain value => proceed (o.setValue option value) fun o => read o arguments
            | _ => .rejected
      | none =>
        if attached.isSome then .rejected
        else if name = "version" then .version
        else if name = "help" then .help
        else if name = "json" then proceed o.setJson fun o => read o arguments
        else .rejected

/-- Reads the arguments of a command line. -/
def ofArguments (arguments : List String) : Request :=
  read {} arguments

end Request

end DepartureRules.CommandLine
