import AppMetadata.Settings
import AppMetadata.Text.Digits

/-!
# `AppMetadata.CommandLine.Arguments`: what the arguments ask for

The arguments name a command, a file and options. Options for all commands
may stand before the command or after it, and after it they count if they
stand in both places; each may be given once in either. An option may have its
value attached or as the next argument, and options of one letter may stand
together after one dash.

A value is looked at only when the next thing is read, so of two mistakes the
one that is found first is told (`Reading.settle`).
-/

set_option autoImplicit false

namespace AppMetadata.CommandLine

/-- The commands. -/
inductive Command
  | extract
  | check
  | models
deriving DecidableEq, Repr, Inhabited

/-- The word for a command. -/
def Command.name : Command → String
  | extract => "extract"
  | check => "check"
  | models => "models"

/-- The command that a word is for. -/
def Command.ofName? (name : String) : Option Command :=
  [extract, check, models].find? (·.name == name)

/-- What the arguments may set. -/
inductive Parameter
  | verbose
  | quiet
  | noColor
  | config
  | factory
  | modelWrapper
  | maxDepth
  | out
  | compact
  | file
deriving DecidableEq, Repr

namespace Parameter

/-- Whether a parameter is set by being there, without a value. -/
def isFlag : Parameter → Bool
  | verbose | quiet | noColor | compact => true
  | _ => false

end Parameter

/-- Why the arguments lead to no run of a command. The first two are answers
and no mistakes. -/
inductive Usage
  | displayHelp
  | displayVersion
  | unknownArgument
  | invalidValue
  | valueValidation
  | missingRequiredArgument
  | missingSubcommand
  | invalidSubcommand
  | argumentConflict
  | tooManyValues
  | displayHelpOnMissingArgumentOrSubcommand
deriving DecidableEq, Repr

namespace Usage

/-- The wording of a mistake in the arguments, or what is answered. -/
def message : Usage → String
  | displayHelp => "help was asked for"
  | displayVersion => "the version was asked for"
  | unknownArgument => "an argument is not known"
  | invalidValue => "an option has no value, or an empty one"
  | valueValidation => "an option has a value that cannot be read"
  | missingRequiredArgument => "the file is missing"
  | missingSubcommand => "the command is missing"
  | invalidSubcommand => "the command is not known"
  | argumentConflict => "options are repeated or exclude one another"
  | tooManyValues => "an option takes no value"
  | displayHelpOnMissingArgumentOrSubcommand => "there are no arguments"

/-- The status that the program ends with. -/
def exitCode : Usage → Nat
  | displayHelp | displayVersion => 0
  | _ => 2

end Usage

/-- What an option is for. -/
inductive Switch
  | help
  | version
  | parameter (parameter : Parameter)
deriving DecidableEq, Repr

/-- The option of a long name, after a command or before it. -/
def longSwitch? (command : Option Command) (name : String) : Option Switch :=
  match command, name with
  | _, "help" => some .help
  | none, "version" => some .version
  | _, "verbose" => some (.parameter .verbose)
  | _, "quiet" => some (.parameter .quiet)
  | _, "no-color" => some (.parameter .noColor)
  | _, "config" => some (.parameter .config)
  | _, "factory" => some (.parameter .factory)
  | _, "model-wrapper" => some (.parameter .modelWrapper)
  | _, "max-depth" => some (.parameter .maxDepth)
  | some .extract, "out" => some (.parameter .out)
  | some .extract, "compact" => some (.parameter .compact)
  | _, _ => none

/-- The option of one letter, after a command or before it. -/
def shortSwitch? (command : Option Command) (letter : Char) : Option Switch :=
  match command, letter with
  | _, 'h' => some .help
  | none, 'V' => some .version
  | _, 'v' => some (.parameter .verbose)
  | _, 'q' => some (.parameter .quiet)
  | _, 'c' => some (.parameter .config)
  | some .extract, 'o' => some (.parameter .out)
  | _, _ => none

/-- The greatest nesting that `text` asks for. -/
def depth? (text : String) : Option Nat :=
  (Text.signedNatural? text.toList).filter (· < Settings.depthBound)

/-- Refuses a value that the parameter cannot have. -/
def Parameter.validate (parameter : Parameter) (value : String) : Except Usage Unit :=
  match parameter with
  | .config | .out | .file => if value.isEmpty then .error .invalidValue else .ok ()
  | .maxDepth => if (depth? value).isNone then .error .valueValidation else .ok ()
  | _ => .ok ()

/-! ### Reading arguments one after the other -/

/-- What has been read at one place, before or after the command. -/
structure Reading where
  /-- The parameters and their values; flags have the empty text. -/
  given : List (Parameter × String) := []
  /-- A parameter that has no value yet, or one that was not looked at. -/
  pending : Option (Parameter × Option String) := none
  /-- Whether two dashes ended the options. -/
  operandsOnly : Bool := false
deriving Repr, Inhabited

namespace Reading

/-- The value of a parameter. -/
def value? (reading : Reading) (parameter : Parameter) : Option String :=
  reading.given.lookup parameter

/-- Whether a parameter has been given. -/
def has (reading : Reading) (parameter : Parameter) : Bool :=
  (reading.value? parameter).isSome

/-- Gives a value to a parameter that has none. -/
def give (parameter : Parameter) (value : String) (reading : Reading) :
    Except Usage Reading := do
  if reading.has parameter then
    throw .argumentConflict
  parameter.validate value
  return { reading with given := (parameter, value) :: reading.given }

/-- Looks at the value that was read last. -/
def settle (reading : Reading) : Except Usage Reading :=
  match reading.pending with
  | none => .ok reading
  | some (_, none) => .error .invalidValue
  | some (parameter, some value) => { reading with pending := none }.give parameter value

/-- Sets a parameter, whose value may be attached to its name. A flag has
none, and an option without one takes the next argument. -/
def setParameter (parameter : Parameter) (attached : Option String) (reading : Reading) :
    Except Usage Reading := do
  if parameter.isFlag && attached.isSome then
    throw .tooManyValues
  let reading ← reading.settle
  match attached with
  | some value => reading.give parameter value
  | none =>
    if parameter.isFlag then reading.give parameter ""
    else return { reading with pending := some (parameter, none) }

/-- Follows an option. -/
def follow (switch : Switch) (attached : Option String) (reading : Reading) :
    Except Usage Reading := do
  match switch with
  | .parameter parameter => reading.setParameter parameter attached
  | .help | .version =>
    if attached.isSome then
      throw .tooManyValues
    discard reading.settle
    throw (if switch = .help then .displayHelp else .displayVersion)

/-- Reads a long option without its dashes. -/
def long (command : Option Command) (text : List Char) (reading : Reading) :
    Except Usage Reading :=
  let name := String.ofList (text.takeWhile (· != '='))
  let attached :=
    match text.dropWhile (· != '=') with
    | [] => none
    | _ :: value => some (String.ofList value)
  match longSwitch? command name with
  | some switch => reading.follow switch attached
  | none => .error .unknownArgument

/-- The value attached to a letter: all that follows, without an equals
sign. -/
def attachedTo : List Char → Option String
  | [] => none
  | '=' :: value => some (String.ofList value)
  | value => some (String.ofList value)

/-- Reads options of one letter that stand together. -/
def short (command : Option Command) : List Char → Reading → Except Usage Reading
  | [], reading => .ok reading
  | letter :: letters, reading =>
    match shortSwitch? command letter with
    | none => .error .unknownArgument
    | some (.parameter parameter) =>
      if parameter.isFlag then do short command letters (← reading.setParameter parameter none)
      else reading.setParameter parameter (attachedTo letters)
    | some switch => reading.follow switch none

/-- Reads an argument that belongs to no option. A command takes one, its
file; before a command there is none. -/
def operand (command : Option Command) (argument : String) (reading : Reading) :
    Except Usage Reading := do
  match command with
  | none =>
    if reading.operandsOnly &&
        ((Command.ofName? argument).isSome || argument == "help") then
      throw .unknownArgument
    throw .invalidSubcommand
  | some _ =>
    let isFile := fun (entry : Parameter × Option String) => entry.1 == .file
    if reading.has .file || reading.pending.any isFile then
      throw .unknownArgument
    let reading ← reading.settle
    return { reading with pending := some (.file, some argument) }

/-- Reads an argument that names no command. -/
def argument (command : Option Command) (text : String) (reading : Reading) :
    Except Usage Reading :=
  if reading.operandsOnly then reading.operand command text
  else
    match text.toList, reading.pending with
    | ['-', '-'], _ => .ok { reading with operandsOnly := true }
    | '-' :: '-' :: cs, _ => reading.long command cs
    | '-' :: c :: cs, _ => reading.short command (c :: cs)
    | _, some (parameter, none) => .ok { reading with pending := some (parameter, some text) }
    | _, _ => reading.operand command text

/-- Whether the next argument may name a command: it is no value. -/
def mayBeCommand (reading : Reading) : Bool :=
  !reading.operandsOnly &&
    match reading.pending with
    | some (_, none) => false
    | _ => true

end Reading

/-! ### All arguments -/

/-- Reads the arguments after a command. -/
def readAfter (command : Command) (arguments : List String) : Except Usage Reading := do
  let start : Reading := {}
  let reading ← arguments.foldlM (fun reading text => reading.argument (some command) text) start
  let reading ← reading.settle
  if reading.has .verbose && reading.has .quiet then
    throw .argumentConflict
  if !reading.has .file then
    throw .missingRequiredArgument
  return reading

/-- The answer to a question for help about the command that `names`
names. -/
def helpAbout (names : List String) : Usage :=
  match names with
  | [] => .displayHelp
  | [name] =>
    if (Command.ofName? name).isSome || name == "help" then .displayHelp else .invalidSubcommand
  | _ => .invalidSubcommand

/-- Ends the reading of the arguments before a command, if there is none. -/
def withoutCommand (reading : Reading) : Except Usage (Command × Reading × Reading) := do
  let reading ← reading.settle
  throw (if reading.given.isEmpty then .displayHelpOnMissingArgumentOrSubcommand
    else .missingSubcommand)

/-- Reads arguments up to the command and those after it. Answers the
command, what stood before it and what stood after. -/
def readFrom (reading : Reading) : List String → Except Usage (Command × Reading × Reading)
  | [] => withoutCommand reading
  | text :: rest => do
    if reading.mayBeCommand then
      if text == "help" then
        throw (helpAbout rest)
      if let some command := Command.ofName? text then
        let after ← readAfter command rest
        let before ← reading.settle
        if before.has .verbose && before.has .quiet then
          throw .argumentConflict
        return (command, before, after)
    readFrom (← reading.argument none text) rest

/-- A run that the arguments ask for. -/
structure Invocation where
  command : Command
  /-- The file that declares the application. -/
  file : String
  /-- Whether to tell more, or less; nothing depends on it. -/
  verbose : Bool := false
  quiet : Bool := false
  noColor : Bool := false
  /-- The configuration file, if it is not the usual one. -/
  config : Option String := none
  factory : Option String := none
  modelWrapper : Option String := none
  maxDepth : Option Nat := none
  /-- The file to write to, if not to the standard output. -/
  out : Option String := none
  /-- Whether to write all on one line. -/
  compact : Bool := false
deriving DecidableEq, Repr

/-- Reads all arguments. -/
def read (arguments : List String) : Except Usage Invocation := do
  let (command, before, after) ← readFrom {} arguments
  let value? (parameter : Parameter) : Option String :=
    after.value? parameter <|> before.value? parameter
  return {
    command
    file := (value? .file).getD ""
    verbose := (value? .verbose).isSome
    quiet := (value? .quiet).isSome
    noColor := (value? .noColor).isSome
    config := value? .config
    factory := value? .factory
    modelWrapper := value? .modelWrapper
    maxDepth := (value? .maxDepth).bind depth?
    out := value? .out
    compact := (value? .compact).isSome }

end AppMetadata.CommandLine
