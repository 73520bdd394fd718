import AsmHarness.Descriptor.Basic

/-!
# Calls of the assembler

A descriptor is turned into a call: the program, its arguments and the changes to its environment.
-/

namespace AsmHarness

/-- A call of a program. -/
structure Invocation where
  /-- The program. -/
  program : Path
  /-- Its arguments. -/
  args : List String
  /-- The changes to its environment, in the order in which they are made. -/
  changes : List Change
  deriving DecidableEq, Repr

/-- The words of a text between its blanks. -/
def words (text : String) : List String :=
  ((text.toList.splitOn ' ').filter (· ≠ [])).map String.ofList

namespace Descriptor

/-- The outputs of the artifacts of a descriptor, in order. -/
def outputs (d : Descriptor) : List String :=
  d.targets.filterMap fun target =>
    match target.subject with
    | .artifact output _ _ => some output
    | .capture .. => none

/-- The options that go with the artifacts of a descriptor, in order. -/
def artifactOptions (d : Descriptor) : List String :=
  d.targets.flatMap fun target =>
    match target.subject with
    | .artifact _ _ option => option.elim [] words
    | .capture .. => []

/-- The file the assembler is told to write: the output of the last artifact, or one named after the
test if there is none. -/
def outputPath (d : Descriptor) : Path :=
  match d.outputs.getLast? with
  | some output => d.resolve output
  | none => d.name ++ ".out"

/-- The arguments of the assembler. -/
def arguments (d : Descriptor) : List String :=
  d.format.elim [] (["-f", ·]) ++ d.option.elim [] words ++ d.artifactOptions ++
    ["-o", d.outputPath, "-L+", "-l", d.outputPath ++ ".lst"] ++
    (d.source.map d.resolve).toList

/-- The change that makes the output independent of time and place. -/
def reproducible : Change := ("NASMENV", some "--reproducible")

/-- The call of an assembler for a descriptor. -/
def invocation (d : Descriptor) (assembler : Path) : Invocation :=
  ⟨assembler, d.arguments, reproducible :: d.environ⟩

end Descriptor

/-- A call on one line. -/
def Invocation.commandLine (call : Invocation) : String :=
  " ".intercalate (call.program :: call.args)

end AsmHarness
