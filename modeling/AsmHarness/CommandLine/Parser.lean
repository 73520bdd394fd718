import AsmHarness.CommandLine.Grammar

/-!
# Reading command lines

Arguments are read one by one, first up to a command and then behind it. An option that takes a
value waits for it; its value is looked at when the next option comes or the arguments end, and that
is also when it is noticed that there is none, or that the option was given before. Behind two
dashes no argument is an option any more.
-/

namespace AsmHarness.CommandLine

/-- How far a part of the command line has been read. -/
structure Reading where
  /-- The options given so far, each with its value. -/
  given : List (Opt × String) := []
  /-- The option given last, if it takes a value and that has not been looked at. The value is none
  while it is waited for. -/
  pending : Option (Opt × Option String) := none
  /-- Whether two dashes have been read. -/
  trailing : Bool := false
  deriving DecidableEq, Repr

namespace Reading

/-- Notes that an option is given. -/
def give (r : Reading) (o : Opt) (value : String) : Except CommandLineError Reading :=
  if (r.given.lookup o).isSome then .error .argumentConflict
  else do
    o.check value
    return { r with given := r.given ++ [(o, value)] }

/-- Looks at the value of the option given last. -/
def settle (r : Reading) : Except CommandLineError Reading :=
  match r.pending with
  | none => .ok r
  | some (_, none) => .error .invalidValue
  | some (o, some value) => { r with pending := none }.give o value

/-- Reads an option, with a value if one is attached to it. -/
def option (r : Reading) (o : Opt) (attached : Option String) :
    Except CommandLineError Reading := do
  if o.takesValue then
    let r ← r.settle
    match attached with
    | some value => r.give o value
    | none => return { r with pending := some (o, none) }
  else if attached.isSome then .error .tooManyValues
  else
    let r ← r.settle
    match o with
    | .help => .error .helpRequested
    | .version => .error .versionRequested
    | _ => r.give o ""

/-- Reads the letters behind a dash: options that take no value, and possibly one that takes what
follows its letter as its value. -/
def letters (options : List Opt) (r : Reading) : List Char → Except CommandLineError Reading
  | [] => .ok r
  | c :: rest => do
    match options.find? (·.short? = some c) with
    | none => .error .unknownArgument
    | some o =>
      if o.takesValue then
        match rest with
        | [] => r.option o none
        | '=' :: value => r.option o (some (.ofList value))
        | value => r.option o (some (.ofList value))
      else letters options (← r.option o none) rest

/-- Reads the name of an option behind two dashes. A value may be attached to it by an equals sign.
-/
def longName (options : List Opt) (r : Reading) (text : List Char) :
    Except CommandLineError Reading :=
  let name := String.ofList (text.takeWhile (· ≠ '='))
  let attached := match text.dropWhile (· ≠ '=') with
    | [] => none
    | _ :: value => some (String.ofList value)
  match options.find? (·.long = name) with
  | none => .error .unknownArgument
  | some o => r.option o attached

/-- Whether an option waits for its value. -/
def isWaiting (r : Reading) : Bool :=
  match r.pending with
  | some (_, none) => true
  | _ => false

/-- The value that an option waits for. -/
def value (r : Reading) (text : String) : Reading :=
  { r with pending := r.pending.map fun (o, _) => (o, some text) }

end Reading

/-- What an argument is, where no command is expected. -/
inductive Argument where
  /-- Two dashes. -/
  | escape
  /-- The name of an option, behind two dashes. -/
  | long (text : List Char)
  /-- Letters of options, behind a dash. -/
  | short (letters : List Char)
  /-- Anything else, a lone dash included. -/
  | plain
  deriving DecidableEq, Repr

/-- What an argument is. -/
def Argument.of (text : String) : Argument :=
  match text.toList with
  | ['-', '-'] => .escape
  | '-' :: '-' :: name => .long name
  | '-' :: c :: rest => .short (c :: rest)
  | _ => .plain

/-- The error for an argument that means nothing. Where a command may stand it is taken for one,
unless it is one and stands behind two dashes. -/
def strayArgument (verb : Option Verb) (r : Reading) (text : String) : CommandLineError :=
  match verb with
  | some _ => .unknownArgument
  | none =>
    if r.trailing && (text = "help" || (Verb.ofName? text).isSome) then .unknownArgument
    else .invalidSubcommand

/-- The error that stands for a request for help on a command. -/
def helpOn : List String → CommandLineError
  | [] => .helpRequested
  | [name] =>
    if name = "help" ∨ (Verb.ofName? name).isSome then .helpRequested else .invalidSubcommand
  | _ => .invalidSubcommand

/-- Reads arguments up to a command, or all of them if there is none or one has been read. -/
def readArguments (verb : Option Verb) :
    List String → Reading → Except CommandLineError (Reading × Option (Verb × List String))
  | [], r => .ok (r, none)
  | text :: rest, r =>
    if r.trailing then .error (strayArgument verb r text)
    else match if verb.isNone && !r.isWaiting then Verb.ofName? text else none with
    | some named => .ok (r, some (named, rest))
    | none =>
      if verb.isNone && !r.isWaiting && text = "help" then .error (helpOn rest)
      else match Argument.of text with
      | .escape => readArguments verb rest { r with trailing := true }
      | .long name => do readArguments verb rest (← r.longName (optionsOf verb) name)
      | .short letters => do readArguments verb rest (← r.letters (optionsOf verb) letters)
      | .plain =>
        if r.isWaiting then readArguments verb rest (r.value text)
        else .error (strayArgument verb r text)

/-- The value of an option that is given behind the command, or else before it. -/
def valueOf (before behind : List (Opt × String)) (o : Opt) : Option String :=
  (behind.lookup o).or (before.lookup o)

/-- What is known about a new test from the options given. -/
def scaffoldOf (id : String) (value? : Opt → Option String) : Scaffold :=
  let default : Scaffold := { id }
  { id
    description := (value? .description).getD default.description
    format := (value? .format).getD default.format
    source := value? .source
    option := (value? .option).getD default.option
    reference := value? .reference
    errorMode := (value? .error).bind Scaffold.errorMode?
    output := (value? .output).getD default.output
    stdout := (value? .stdout).getD default.stdout
    stderr := (value? .stderr).getD default.stderr }

/-- What is to be done for a command with the options given. -/
def commandOf (verb : Verb) (value? : Opt → Option String) : Except CommandLineError Command :=
  match verb with
  | .run => .ok (.run (value? .test) ((value? .stop).bind fun answer => (yesNo answer).toOption))
  | .update => .ok (.update (value? .test))
  | .list => .ok .list
  | .new =>
    match value? .id with
    | some id => .ok (.new (scaffoldOf id value?))
    | none => .error .missingRequiredArgument

/-- Reads the arguments of a command line. What is wrong behind the command is noticed before the
last option in front of it is looked at. -/
def ofArguments (arguments : List String) : Except CommandLineError CommandLine := do
  match ← readArguments none arguments {} with
  | (r, none) =>
    let r ← r.settle
    .error (if r.given.isEmpty then .nothingGiven else .missingSubcommand)
  | (r, some (verb, rest)) =>
    let (behind, _) ← readArguments (some verb) rest {}
    let behind ← behind.settle
    let command ← commandOf verb fun o => behind.given.lookup o
    let before ← r.settle
    let value? := valueOf before.given behind.given
    return { directory := value? .directory
             assembler := value? .assembler
             config := value? .config
             verbose := (value? .verbose).isSome
             command }

end AsmHarness.CommandLine
