import AsmHarness.Path
import AsmHarness.Scaffold

/-!
# Command lines

What the harness can be asked for, and why a command line does not ask for anything.
-/

namespace AsmHarness

/-- What the harness is asked to do. -/
inductive Command where
  /-- To run all tests, or those of one file. -/
  | run (test : Option Path) (stop : Option Bool)
  /-- To replace the references of all tests, or of those of one file. -/
  | update (test : Option Path)
  /-- To list the tests. -/
  | list
  /-- To make a new test. -/
  | new (scaffold : Scaffold)
  deriving DecidableEq, Repr

/-- A command line. -/
structure CommandLine where
  /-- The folder with the tests. -/
  directory : Option Path
  /-- The assembler. -/
  assembler : Option Path
  /-- The configuration file. -/
  config : Option Path
  /-- Whether the log is wanted in full. -/
  verbose : Bool
  /-- What is to be done. -/
  command : Command
  deriving DecidableEq, Repr

/-- Why nothing is done for a command line. -/
inductive CommandLineError where
  /-- An argument means nothing where it stands. -/
  | unknownArgument
  /-- An option has no value, or one that it does not know. -/
  | invalidValue
  /-- The value of an option cannot be read. -/
  | valueValidation
  /-- An option has a value that takes none. -/
  | tooManyValues
  /-- An option is given twice. -/
  | argumentConflict
  /-- An option that must be given is not. -/
  | missingRequiredArgument
  /-- There is no command of the name. -/
  | invalidSubcommand
  /-- There is no command. -/
  | missingSubcommand
  /-- There is nothing at all. -/
  | nothingGiven
  /-- Help is asked for. -/
  | helpRequested
  /-- The version is asked for. -/
  | versionRequested
  deriving DecidableEq, Repr

/-- The exit code of the harness when nothing is done; to ask for help or for the version is no
mistake. -/
def CommandLineError.exitCode : CommandLineError → Nat
  | .helpRequested | .versionRequested => 0
  | _ => 2

end AsmHarness
