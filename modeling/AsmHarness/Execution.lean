import AsmHarness.Host
import AsmHarness.Invocation
import AsmHarness.Journal
import AsmHarness.Text.Utf8

/-!
# Starting the assembler

An assembler is started, what it writes to its output streams is captured, and the code it ends with
is compared with the expected one. Where it ends otherwise, the report shows what it wrote.
-/

namespace AsmHarness

/-- Something the harness does: it finds some files, leaves some, and notes what it does. -/
abbrev Activity := StateT FileTree Noted

/-- Writes an entry of the report. -/
def note (entry : Report.Entry) : Activity Unit := Noted.report entry

/-- What an assembler that has ended leaves to be compared. -/
structure Captured where
  /-- The code it ended with. -/
  exitCode : Int
  /-- The text of its regular output. -/
  stdout : String
  /-- The text of its output for messages. -/
  stderr : String
  deriving DecidableEq, Repr

namespace Captured

/-- The text of a stream. -/
def text (c : Captured) : Stream → String
  | .stdout => c.stdout
  | .stderr => c.stderr

/-- Nothing is left of a stream. -/
def clear (c : Captured) : Stream → Captured
  | .stdout => { c with stdout := "" }
  | .stderr => { c with stderr := "" }

end Captured

/-- Why an assembler did not do its work. -/
inductive ExecError where
  /-- It could not be started. -/
  | launchFailed (program : Path) (cause : OsError)
  /-- It did not end with the expected code. -/
  | unexpectedExitCode (captured : Captured)
  deriving DecidableEq, Repr

/-- The cause in words. -/
def ExecError.message : ExecError → String
  | .launchFailed program cause => "Unable to execute " ++ program ++ ": " ++ cause.message
  | .unexpectedExitCode captured => "Unexpected ret code: " ++ toString captured.exitCode

/-- How many bytes of a stream are kept. -/
def captureLimit : Nat := 4194304

/-- The text of what was written to a stream, cut off at the limit. -/
def capture (bytes : ByteArray) : Noted String := do
  if captureLimit < bytes.size then
    Noted.log (.truncated captureLimit (bytes.size - captureLimit))
  return Utf8.decode (bytes.extract 0 captureLimit)

/-- What is started for a call. -/
def Invocation.launch (call : Invocation) (inherited : List (String × String)) : Launch :=
  ⟨call.program, call.args, (Environment.ofEntries inherited).apply call.changes⟩

/-- Whether a text has a zero character in it. -/
def hasNul (text : String) : Bool := text.toList.contains '\x00'

/-- Whether something about a program has a zero character in it, which no program can be given. -/
def Launch.hasNul (launch : Launch) : Bool :=
  AsmHarness.hasNul launch.program || launch.args.any AsmHarness.hasNul ||
    launch.environment.entries.any fun (name, value) =>
      AsmHarness.hasNul name || AsmHarness.hasNul value

namespace Host

/-- Starts a program, if it can be given what it is to be given. Wherever it goes, the working
directory of the harness stays what it was. -/
def launch (host : Host) (launch : Launch) (files : FileTree) : Except OsError Finished :=
  if launch.hasNul then .error .nulInData
  else (host.start launch files).map (·.seenFrom files.origin)

end Host

/-- Shows the text of a stream, unless it is empty. -/
def showStream (stream : Stream) (text : String) : Activity Unit :=
  if text = "" then pure () else note (.shown stream.name text)

/-- Makes a call and compares the code it ends with to the expected one. -/
def execute (host : Host) (call : Invocation) (expected : Int) :
    ExceptT ExecError Activity Captured := do
  note (.executing call.commandLine)
  Noted.log (.spawning call.program)
  match host.launch (call.launch host.environment) (← get) with
  | .error cause => throw (.launchFailed call.program cause)
  | .ok finished =>
    set finished.files
    let stdout ← capture finished.stdout
    let stderr ← capture finished.stderr
    let captured : Captured := ⟨finished.ending.code, stdout, stderr⟩
    if captured.exitCode = expected then return captured
    else
      showStream .stdout stdout
      showStream .stderr stderr
      throw (.unexpectedExitCode captured)

end AsmHarness
