import AsmHarness.Environment
import AsmHarness.Filter
import AsmHarness.Path
import AsmHarness.Stream

/-!
# Descriptors

A descriptor is a test: how the assembler is to be called, how it should end, and which of its
outputs are to be compared with which references.
-/

namespace AsmHarness

/-- What a descriptor says about failure. -/
inductive ErrorMode where
  /-- The assembler is to reject the source. -/
  | expected
  /-- A failure of the test is reported, but does not count. -/
  | tolerated
  deriving DecidableEq, Repr

/-- The error mode of a name. -/
def ErrorMode.ofName? : String → Option ErrorMode
  | "expected" => some .expected
  | "over" => some .tolerated
  | _ => none

/-- What is compared with a reference. -/
inductive Subject where
  /-- A file the assembler writes, byte for byte. The assembler may be given options for it. -/
  | artifact (output reference : String) (option : Option String)
  /-- A captured stream, as text. -/
  | capture (stream : Stream) (reference : String)
  deriving DecidableEq, Repr

/-- Something a descriptor compares. -/
structure Target where
  /-- What is compared. -/
  subject : Subject
  /-- What is applied to captured text before it is compared. -/
  filter : Option Filter

/-- A test. -/
structure Descriptor where
  /-- The name of the test. -/
  name : String
  /-- What the test is about. -/
  description : String
  /-- The folder that paths of the test start from. -/
  baseDir : Path
  /-- The name of the file that describes the test. -/
  fileName : String
  /-- The output format to ask the assembler for. -/
  format : Option String
  /-- The source to assemble. -/
  source : Option String
  /-- Options for the assembler. -/
  option : Option String
  /-- What is said about failure. -/
  errorMode : Option ErrorMode
  /-- Whether the references may be replaced. -/
  update : Bool
  /-- Why the test is not to be run, if it is not. -/
  disabled : Option String
  /-- The changes to the environment of the assembler, sorted by name. -/
  environ : List Change
  /-- What is compared, in order. -/
  targets : List Target

namespace Descriptor

/-- The path that leads from the folder of the test. -/
def resolve (d : Descriptor) (path : Path) : Path := d.baseDir.join path

/-- Whether the assembler is to reject the source. -/
def expectsFailure (d : Descriptor) : Bool := d.errorMode = some .expected

/-- Whether a failure of the test does not count. -/
def toleratesFailure (d : Descriptor) : Bool := d.errorMode = some .tolerated

/-- The code the assembler is to end with. -/
def expectedExitCode (d : Descriptor) : Int := if d.expectsFailure then 1 else 0

end Descriptor

end AsmHarness
