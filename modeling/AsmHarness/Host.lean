import AsmHarness.Environment
import AsmHarness.FileTree.Basic
import AsmHarness.OsError
import AsmHarness.Path

/-!
# What the harness runs on

The harness knows nothing about the programs it starts. A host says what comes of starting one: that
it cannot be started, or how it ended, what it wrote to its output streams and what files it left.
-/

namespace AsmHarness

/-- A program about to be started. -/
structure Launch where
  /-- The program: a path, or a name to be looked for. -/
  program : Path
  /-- Its arguments. -/
  args : List String
  /-- Its environment. -/
  environment : Environment
  deriving DecidableEq, Repr

/-- How a program ended. -/
inductive Ending where
  /-- It ended by itself, with a code. -/
  | exited (code : Nat)
  /-- It was ended by a signal. -/
  | killed (signal : Nat)
  deriving DecidableEq, Repr

/-- The exit code of a program; that of a signal is negative. -/
def Ending.code : Ending → Int
  | .exited code => code
  | .killed signal => -signal

/-- What came of a program that was started. -/
structure Finished where
  /-- How it ended. -/
  ending : Ending
  /-- What it wrote to its regular output. -/
  stdout : ByteArray
  /-- What it wrote to its output for messages. -/
  stderr : ByteArray
  /-- The files it left. -/
  files : FileTree

/-- The same, with the files seen from another working directory. -/
def Finished.seenFrom (finished : Finished) (origin : Location) : Finished :=
  { finished with files := finished.files.seenFrom origin }

/-- What the harness runs on. -/
structure Host where
  /-- The environment of the harness, which programs inherit. A name can be there twice. -/
  environment : List (String × String)
  /-- What comes of starting a program. It finds some files. -/
  start : Launch → FileTree → Except OsError Finished

end AsmHarness
