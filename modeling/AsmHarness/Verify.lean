import AsmHarness.FileTree.Access
import AsmHarness.Outcome

/-!
# Running a test

The assembler is started, and every target is compared with its reference, in order, until one does
not match. A captured stream is used up when it has been compared; what is left of the streams at
the end must be empty. Comparing changes no file.
-/

namespace AsmHarness

/-- The content of a file. -/
def readFile (files : FileTree) (path : Path) : Except Failure ByteArray :=
  (files.read path).mapError (.unreadable path)

/-- Compares an output with its reference, byte for byte. -/
def compareArtifact (files : FileTree) (reference output : Path) : ExceptT Failure Noted Unit := do
  let expected ← liftExcept (readFile files reference)
  let actual ← liftExcept (readFile files output)
  if expected.data ≠ actual.data then
    Noted.report (.binaryMismatch reference expected output actual)
    throw (.artifactMismatch reference output)

/-- What a target makes of captured text. -/
def filtered (name : String) (stream : Stream) (text : String) : Option Filter → Noted String
  | none => pure text
  | some filter => do
    Noted.log (.filtering name stream filter.pattern.source)
    return filter.apply text

/-- Compares captured text with its reference. -/
def compareStream (files : FileTree) (d : Descriptor) (filter : Option Filter) (stream : Stream)
    (reference : String) (text : String) : ExceptT Failure Noted Unit := do
  let path := d.resolve reference
  let expected := Utf8.decode (← liftExcept (readFile files path))
  let actual ← filtered d.name stream text filter
  if expected ≠ actual then
    Noted.report (.textMismatch path expected stream.name actual)
    throw (.streamMismatch stream)

/-- Compares one target with its reference; the result is what is left of the streams. Outputs are
not looked at where the source is to be rejected, since there are none then. -/
def checkTarget (files : FileTree) (d : Descriptor) (target : Target) (left : Captured) :
    ExceptT Failure Noted Captured := do
  match target.subject with
  | .artifact output reference _ =>
    if d.expectsFailure then return left
    else
      let output := d.resolve output
      let reference := d.resolve reference
      Noted.report (.comparingFiles output reference)
      compareArtifact files reference output
      return left
  | .capture stream reference =>
    Noted.report (.comparingStream stream.name)
    compareStream files d target.filter stream reference (left.text stream)
    return left.clear stream

/-- Compares some targets with their references, in order. -/
def checkTargets (files : FileTree) (d : Descriptor) :
    List Target → Captured → ExceptT Failure Noted Captured
  | [], left => pure left
  | target :: rest, left => do
    checkTargets files d rest (← checkTarget files d target left)

/-- Refuses text that has not been used up. -/
def checkLeft (stream : Stream) (text : String) : ExceptT Failure Noted Unit := do
  if text ≠ "" then
    Noted.report (.shown stream.name text)
    throw (.unconsumed stream)

/-- Compares everything that an assembler has left with its references. -/
def check (files : FileTree) (d : Descriptor) (captured : Captured) :
    ExceptT Failure Noted Unit := do
  let left ← checkTargets files d d.targets captured
  checkLeft .stdout left.stdout
  checkLeft .stderr left.stderr

/-- Runs a test. -/
def verify (host : Host) (assembler : Path) (d : Descriptor) : Activity Outcome := do
  note (.running d.name)
  match d.disabled with
  | some reason => return .skipped reason
  | none =>
    note (.processing d.name)
    match ← (execute host (d.invocation assembler) d.expectedExitCode).run with
    | .error cause => return .failed (.exec cause)
    | .ok captured =>
      match ← (check (← get) d captured).run with
      | .error failure => return .failed failure
      | .ok () => return .done

end AsmHarness
