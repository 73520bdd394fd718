import AsmHarness.Execution
import Mathlib.Control.Lawful

/-!
# What comes of starting the assembler

An activity finds some files and ends with a value, the files it leaves and a journal. Starting the
assembler has three ends: it could not be started, it ended with another code than expected, or it
did its work. Each of them is read off what the host makes of the launch.
-/

namespace AsmHarness

/-- What is captured of an assembler that has ended: the beginning of each stream, as text. -/
def Finished.captured (finished : Finished) : Captured where
  exitCode := finished.ending.code
  stdout := Utf8.decode (finished.stdout.extract 0 captureLimit)
  stderr := Utf8.decode (finished.stderr.extract 0 captureLimit)

/-- The entry that shows the text of a stream, unless it is empty. -/
def Report.shownStream (stream : Stream) (text : String) : List Report.Entry :=
  if text = "" then [] else [.shown stream.name text]

section Activities

variable {ε : Type} (files next : FileTree) (entry : Report.Entry) (stream : Stream) (text : String)
  (bytes : ByteArray)

@[simp] theorem run_get : (ExceptT.run (get : ExceptT ε Activity FileTree)).run files =
    pure (.ok files, files) := rfl

@[simp] theorem run_set : (ExceptT.run (set next : ExceptT ε Activity PUnit)).run files =
    pure (.ok ⟨⟩, next) := rfl

@[simp] theorem value_run_note : ((note entry).run files).value = ((), files) := rfl

@[simp] theorem journal_run_note : ((note entry).run files).journal = ⟨[entry], []⟩ := rfl

@[simp] theorem value_run_showStream :
    ((showStream stream text).run files).value = ((), files) := by
  unfold showStream
  split <;> rfl

@[simp] theorem report_run_showStream :
    ((showStream stream text).run files).journal.report = Report.shownStream stream text := by
  unfold showStream Report.shownStream
  split <;> rfl

@[simp] theorem value_capture :
    (capture bytes).value = Utf8.decode (bytes.extract 0 captureLimit) := by
  unfold capture
  split <;> rfl

@[simp] theorem report_capture : (capture bytes).journal.report = [] := by
  unfold capture
  split <;> rfl

end Activities

section Execute

variable {host : Host} {call : Invocation} {expected : Int} {files : FileTree}

/-- An assembler that cannot be started changes nothing. -/
theorem value_execute_of_error {cause : OsError}
    (h : host.launch (call.launch host.environment) files = .error cause) :
    ((execute host call expected).run.run files).value =
      (.error (.launchFailed call.program cause), files) := by
  simp [execute, h]

theorem report_execute_of_error {cause : OsError}
    (h : host.launch (call.launch host.environment) files = .error cause) :
    ((execute host call expected).run.run files).journal.report =
      [.executing call.commandLine] := by
  simp [execute, h]

/-- An assembler that has ended leaves its files, whatever the code it ended with. -/
theorem value_execute_of_ok {finished : Finished}
    (h : host.launch (call.launch host.environment) files = .ok finished) :
    ((execute host call expected).run.run files).value =
      (if finished.ending.code = expected then .ok finished.captured
        else .error (.unexpectedExitCode finished.captured), finished.files) := by
  by_cases hcode : finished.ending.code = expected <;>
    simp [execute, h, hcode, Finished.captured, Except.map]

/-- What was written is shown where the code is another one than expected. -/
theorem report_execute_of_ok {finished : Finished}
    (h : host.launch (call.launch host.environment) files = .ok finished) :
    ((execute host call expected).run.run files).journal.report =
      .executing call.commandLine :: if finished.ending.code = expected then []
        else Report.shownStream .stdout finished.captured.stdout ++
          Report.shownStream .stderr finished.captured.stderr := by
  by_cases hcode : finished.ending.code = expected <;>
    simp [execute, h, hcode, Finished.captured]

end Execute

end AsmHarness
