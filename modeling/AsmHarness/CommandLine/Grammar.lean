import AsmHarness.CommandLine.Basic
import AsmHarness.Config.Basic

/-!
# Options

Which options there are, how they are written, where they may stand and which values they take.
-/

namespace AsmHarness.CommandLine

/-- An option. -/
inductive Opt where
  /-- The folder with the tests. -/
  | directory
  /-- The assembler. -/
  | assembler
  /-- The configuration file. -/
  | config
  /-- Asks for the log in full. -/
  | verbose
  /-- Asks for help. -/
  | help
  /-- Asks for the version. -/
  | version
  /-- The file with the tests. -/
  | test
  /-- Whether the first failure that counts ends the pass. -/
  | stop
  /-- What a new test is named. -/
  | id
  /-- What a new test is about. -/
  | description
  /-- The format of a new test. -/
  | format
  /-- The source of a new test. -/
  | source
  /-- The options for the assembler of a new test. -/
  | option
  /-- The test that a new one refers to. -/
  | reference
  /-- What a new test says about failure. -/
  | error
  /-- The output of a new test. -/
  | output
  /-- The reference for the regular output of a new test. -/
  | stdout
  /-- The reference for the messages of a new test. -/
  | stderr
  deriving DecidableEq, Repr

namespace Opt

/-- The name of an option, behind two dashes. -/
def long : Opt → String
  | .directory => "directory"
  | .assembler => "nasm"
  | .config => "config"
  | .verbose => "verbose"
  | .help => "help"
  | .version => "version"
  | .test => "test"
  | .stop => "stop"
  | .id => "id"
  | .description => "description"
  | .format => "format"
  | .source => "source"
  | .option => "option"
  | .reference => "ref"
  | .error => "error"
  | .output => "output"
  | .stdout => "stdout"
  | .stderr => "stderr"

/-- The letter of an option, behind one dash. -/
def short? : Opt → Option Char
  | .directory => some 'd'
  | .verbose => some 'v'
  | .help => some 'h'
  | .version => some 'V'
  | .test => some 't'
  | _ => none

/-- Whether an option takes a value. -/
def takesValue : Opt → Bool
  | .verbose | .help | .version => false
  | _ => true

/-- Refuses values that an option cannot have. A path must not be empty. -/
def check (o : Opt) (value : String) : Except CommandLineError Unit :=
  match o with
  | .directory | .assembler | .config | .test =>
    if value = "" then .error .invalidValue else .ok ()
  | .stop =>
    match yesNo value with
    | .ok _ => .ok ()
    | .error _ => .error .valueValidation
  | .error => if ["y", "i"].contains value then .ok () else .error .invalidValue
  | _ => .ok ()

end Opt

/-- The commands. -/
inductive Verb where
  /-- Runs tests. -/
  | run
  /-- Replaces references. -/
  | update
  /-- Lists tests. -/
  | list
  /-- Makes a new test. -/
  | new
  deriving DecidableEq, Repr

/-- The command of a name. -/
def Verb.ofName? : String → Option Verb
  | "run" => some .run
  | "update" => some .update
  | "list" => some .list
  | "new" => some .new
  | _ => none

/-- The options that may stand anywhere. -/
def commonOptions : List Opt := [.directory, .assembler, .config, .verbose, .help]

/-- The options that may stand behind a command, or before it. -/
def optionsOf : Option Verb → List Opt
  | none => commonOptions ++ [.version]
  | some .run => commonOptions ++ [.test, .stop]
  | some .update => commonOptions ++ [.test]
  | some .list => commonOptions
  | some .new => commonOptions ++ [.id, .description, .format, .source, .option, .reference, .error,
      .output, .stdout, .stderr]

end AsmHarness.CommandLine
