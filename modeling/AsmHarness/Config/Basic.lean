import AsmHarness.Path
import AsmHarness.Text.Quoted

/-!
# Configuration

What the harness needs to know before it starts: where the tests are, which assembler to call, and
whether to go on after a failure. Each setting is taken from the command line, else from a file,
else from the defaults.
-/

namespace AsmHarness

/-- The configuration of the harness. -/
structure Config where
  /-- The folder with the tests. -/
  directory : Path := "./travis/test"
  /-- The assembler. -/
  assembler : Path := "./nasm"
  /-- Whether the first failure that counts ends the pass. -/
  stopOnFailure : Bool := true
  deriving DecidableEq, Repr

/-- Settings of which each may be given or not. -/
structure Settings where
  /-- The folder with the tests. -/
  directory : Option Path := none
  /-- The assembler. -/
  assembler : Option Path := none
  /-- Whether the first failure that counts ends the pass. -/
  stop : Option Bool := none
  deriving DecidableEq, Repr

namespace Config

/-- The configuration that follows from the settings on the command line and in a file. -/
def resolve (file given : Settings) : Config :=
  let default : Config := {}
  { directory := (given.directory.or file.directory).getD default.directory
    assembler := (given.assembler.or file.assembler).getD default.assembler
    stopOnFailure := (given.stop.or file.stop).getD default.stopOnFailure }

end Config

/-- The answers that mean yes. -/
def yesWords : List String := ["y", "yes", "true", "1"]

/-- The answers that mean no. -/
def noWords : List String := ["n", "no", "false", "0"]

/-- Reads an answer to a question of yes or no, in small or capital letters. -/
def yesNo (answer : String) : Except String Bool :=
  let answer := answer.map Char.toLower
  if yesWords.contains answer then .ok true
  else if noWords.contains answer then .ok false
  else .error ("expected \"y\" or \"n\", got " ++ Text.quoted answer)

end AsmHarness
