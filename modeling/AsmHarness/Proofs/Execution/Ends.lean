import AsmHarness.Proofs.Utf8.Lossy
import AsmHarness.Proofs.Verify

/-!
# How a run of the assembler ends

An assembler cannot be started, or it ends with a code or by a signal, having written any bytes to
its streams. It has done its work only if it ended by itself with the expected code. Whether or not
it did, the same is kept of what it wrote: the text of the first bytes of each stream. The limit can
cut a character in two, and then the last character of that text is a replacement character that the
text of the whole stream does not have.
-/

namespace AsmHarness

open Utf8 (Lossy)

/-- A text is kept of the bytes of a stream. -/
structure Keeps (bytes : List UInt8) (text : String) : Prop where
  /-- It is what the first bytes are read as. -/
  first : Lossy (bytes.take captureLimit) text.toList
  /-- Nothing is lost of bytes within the limit. -/
  whole : bytes.length ≤ captureLimit → Lossy bytes text.toList
  /-- Of more bytes, the text of all of them begins with it, except for its last character. -/
  cut : captureLimit < bytes.length → ∃ all, Lossy bytes all ∧ text.toList.dropLast <+: all

namespace Finished

/-- Something is captured of an assembler that has ended with a code. -/
structure Leaves (finished : Finished) (code : Int) (captured : Captured) : Prop where
  exitCode : captured.exitCode = code
  keeps : ∀ stream, Keeps (finished.written stream).data.toList (captured.text stream)

/-- What was written to the streams is shown, regular output first, except for streams that nothing
was written to. -/
def shown (finished : Finished) (captured : Captured) : List Report.Entry :=
  ([.stdout, .stderr].filter fun stream => (finished.written stream).size ≠ 0).map fun stream =>
    .shown stream.name (captured.text stream)

end Finished

/-- How a call ends whose assembler is expected to end with a code: with a result, the files that
are left, and what is reported. -/
inductive Ends (host : Host) (call : Invocation) (expected : Int) (files : FileTree) :
    Except ExecError Captured → FileTree → List Report.Entry → Prop where
  /-- The assembler cannot be started. -/
  | refused {cause : OsError}
      (refused : host.launch (call.launch host.environment) files = .error cause) :
      Ends host call expected files (.error (.launchFailed call.program cause)) files
        [.executing call.commandLine]
  /-- It ended by itself with the expected code. -/
  | done {finished : Finished} {code : Nat} {captured : Captured}
      (started : host.launch (call.launch host.environment) files = .ok finished)
      (exited : finished.ending = .exited code) (met : code = expected)
      (left : finished.Leaves code captured) :
      Ends host call expected files (.ok captured) finished.files [.executing call.commandLine]
  /-- It ended by itself with another code. -/
  | other {finished : Finished} {code : Nat} {captured : Captured}
      (started : host.launch (call.launch host.environment) files = .ok finished)
      (exited : finished.ending = .exited code) (missed : code ≠ expected)
      (left : finished.Leaves code captured) :
      Ends host call expected files (.error (.unexpectedExitCode captured)) finished.files
        (.executing call.commandLine :: finished.shown captured)
  /-- It was ended by a signal, whatever code was expected. -/
  | killed {finished : Finished} {signal : Nat} {captured : Captured}
      (started : host.launch (call.launch host.environment) files = .ok finished)
      (killed : finished.ending = .killed signal) (left : finished.Leaves (-signal) captured) :
      Ends host call expected files (.error (.unexpectedExitCode captured)) finished.files
        (.executing call.commandLine :: finished.shown captured)

/-! ## What is kept -/

section Keeps

variable {bytes : List UInt8} {text other : String}

theorem keeps_decode (bytes : ByteArray) :
    Keeps bytes.data.toList (Utf8.decode (bytes.extract 0 captureLimit)) := by
  have hfirst := Utf8.lossy_decode (bytes.extract 0 captureLimit)
  rw [ByteArray.data_extract, Array.toList_extract, List.extract_eq_take_drop, List.drop_zero,
    Nat.sub_zero] at hfirst
  refine ⟨hfirst, fun hwhole => ?_, fun _ => ?_⟩
  · rwa [List.take_of_length_le hwhole] at hfirst
  · have hall := Utf8.lossy_decode bytes
    exact ⟨_, hall, Utf8.dropLast_prefix_of_lossy (List.take_prefix _ _) hfirst hall⟩

theorem Keeps.unique (h : Keeps bytes text) (h' : Keeps bytes other) : text = other :=
  String.toList_inj.1 (h.first.unique h'.first)

theorem Keeps.eq_empty_iff (h : Keeps bytes text) : text = "" ↔ bytes = [] := by
  rw [← String.toList_inj]
  constructor
  · intro htext
    have hfirst := h.first
    rw [htext] at hfirst
    have htake := Utf8.lossy_nil_iff.1 hfirst
    rw [List.take_eq_nil_iff] at htake
    exact htake.resolve_left (by decide)
  · rintro rfl
    exact h.first.unique .nil

end Keeps

namespace Finished

variable {finished : Finished} {captured : Captured}

theorem leaves_captured (finished : Finished) :
    finished.Leaves finished.ending.code finished.captured :=
  ⟨rfl, fun stream => by cases stream <;> exact keeps_decode _⟩

theorem Leaves.eq_captured {code : Int} (h : finished.Leaves code captured)
    (hcode : finished.ending.code = code) : captured = finished.captured := by
  subst hcode
  obtain ⟨exitCode, stdout, stderr⟩ := captured
  obtain ⟨rfl, hkeeps⟩ := h
  have hsame : ∀ stream, Captured.text ⟨_, stdout, stderr⟩ stream = finished.captured.text stream :=
    fun stream => (hkeeps stream).unique (finished.leaves_captured.keeps stream)
  rw [show stdout = _ from hsame .stdout, show stderr = _ from hsame .stderr]
  rfl

/-- A stream is shown if something was written to it. -/
theorem shownStream_eq (finished : Finished) (stream : Stream) :
    Report.shownStream stream (finished.captured.text stream) =
      if (finished.written stream).size ≠ 0 then
        [.shown stream.name (finished.captured.text stream)] else [] := by
  have hempty : finished.captured.text stream = "" ↔ (finished.written stream).size = 0 := by
    rw [(finished.leaves_captured.keeps stream).eq_empty_iff, ← List.length_eq_zero_iff]
    rfl
  simp only [Report.shownStream, hempty, ite_not]

theorem shown_captured (finished : Finished) : finished.shown finished.captured =
    Report.shownStream .stdout finished.captured.stdout ++
      Report.shownStream .stderr finished.captured.stderr := by
  rw [show finished.captured.stdout = finished.captured.text .stdout from rfl,
    show finished.captured.stderr = finished.captured.text .stderr from rfl,
    shownStream_eq, shownStream_eq, shown]
  simp only [List.filter_cons, List.filter_nil, decide_eq_true_eq]
  split_ifs <;> rfl

end Finished

/-! ## How a call ends -/

theorem Descriptor.expectedExitCode_nonneg (d : Descriptor) : 0 ≤ d.expectedExitCode := by
  unfold Descriptor.expectedExitCode
  split <;> decide

section Ends

variable {host : Host} {call : Invocation} {d : Descriptor} {files next : FileTree}
  {finished : Finished} {expected : Int} {result : Except ExecError Captured}
  {report : List Report.Entry}

/-- An assembler that ended with the expected code is not reported on. -/
theorem run_execute_of_code
    (hstart : host.launch (call.launch host.environment) files = .ok finished)
    (hcode : finished.ending.code = expected) :
    ((execute host call expected).run.run files).value =
        (.ok finished.captured, finished.files) ∧
      ((execute host call expected).run.run files).journal.report =
        [.executing call.commandLine] := by
  rw [value_execute_of_ok hstart, report_execute_of_ok hstart, if_pos hcode, if_pos hcode]
  exact ⟨rfl, rfl⟩

/-- What was written is shown of one that ended with another code. -/
theorem run_execute_of_code_ne
    (hstart : host.launch (call.launch host.environment) files = .ok finished)
    (hcode : finished.ending.code ≠ expected) :
    ((execute host call expected).run.run files).value =
        (.error (.unexpectedExitCode finished.captured), finished.files) ∧
      ((execute host call expected).run.run files).journal.report =
        .executing call.commandLine :: finished.shown finished.captured := by
  rw [value_execute_of_ok hstart, report_execute_of_ok hstart, if_neg hcode, if_neg hcode,
    finished.shown_captured]
  exact ⟨rfl, rfl⟩

section Signals

variable (hsignals : ∀ finished,
  host.launch (call.launch host.environment) files = .ok finished → finished.ending ≠ .killed 0)

include hsignals

/-- No test expects the code of a signal: it is negative. -/
theorem code_ne_of_killed {signal : Nat}
    (hstart : host.launch (call.launch host.environment) files = .ok finished)
    (hending : finished.ending = .killed signal) : finished.ending.code ≠ d.expectedExitCode := by
  have hsignal : signal ≠ 0 := by
    rintro rfl
    exact hsignals finished hstart hending
  have hcode : finished.ending.code = -signal := by rw [hending, Ending.code]
  have hexpected := d.expectedExitCode_nonneg
  omega

theorem ends_of_run_execute
    (hvalue : ((execute host call d.expectedExitCode).run.run files).value = (result, next))
    (hreport : ((execute host call d.expectedExitCode).run.run files).journal.report = report) :
    Ends host call d.expectedExitCode files result next report := by
  cases hstart : host.launch (call.launch host.environment) files with
  | error cause =>
    rw [value_execute_of_error hstart] at hvalue
    rw [report_execute_of_error hstart] at hreport
    obtain ⟨rfl, rfl⟩ := Prod.mk.inj hvalue
    exact hreport ▸ .refused hstart
  | ok finished =>
    have hleaves := finished.leaves_captured
    by_cases hcode : finished.ending.code = d.expectedExitCode
    · obtain ⟨hvalue', hreport'⟩ := run_execute_of_code hstart hcode
      obtain ⟨rfl, rfl⟩ := Prod.mk.inj (hvalue'.symm.trans hvalue)
      obtain rfl := hreport'.symm.trans hreport
      cases hending : finished.ending with
      | exited code =>
        rw [hending] at hcode hleaves
        exact .done hstart hending hcode hleaves
      | killed signal => exact absurd hcode (code_ne_of_killed hsignals hstart hending)
    · obtain ⟨hvalue', hreport'⟩ := run_execute_of_code_ne hstart hcode
      obtain ⟨rfl, rfl⟩ := Prod.mk.inj (hvalue'.symm.trans hvalue)
      obtain rfl := hreport'.symm.trans hreport
      cases hending : finished.ending with
      | exited code =>
        rw [hending] at hcode hleaves
        exact .other hstart hending hcode hleaves
      | killed signal =>
        rw [hending] at hleaves
        exact .killed hstart hending hleaves

theorem Ends.run_execute (h : Ends host call d.expectedExitCode files result next report) :
    ((execute host call d.expectedExitCode).run.run files).value = (result, next) ∧
      ((execute host call d.expectedExitCode).run.run files).journal.report = report := by
  cases h with
  | refused hstart => exact ⟨value_execute_of_error hstart, report_execute_of_error hstart⟩
  | @done finished code captured hstart hending hmet hleaves =>
    have hcode : finished.ending.code = code := by rw [hending, Ending.code]
    rw [hleaves.eq_captured hcode]
    exact run_execute_of_code hstart (hcode.trans hmet)
  | @other finished code captured hstart hending hmissed hleaves =>
    have hcode : finished.ending.code = code := by rw [hending, Ending.code]
    rw [hleaves.eq_captured hcode]
    exact run_execute_of_code_ne hstart fun heq => hmissed (hcode.symm.trans heq)
  | @killed finished signal captured hstart hending hleaves =>
    have hcode : finished.ending.code = -signal := by rw [hending, Ending.code]
    rw [hleaves.eq_captured hcode]
    exact run_execute_of_code_ne hstart (code_ne_of_killed hsignals hstart hending)

end Signals

end Ends

/-! ## An assembler that crashes -/

namespace Sample

/-- A host on which every program is ended by a signal in the middle of a character. -/
def crashing : Host where
  environment := []
  start _ files := .ok ⟨.killed 9, ⟨#[0x68, 0xC3]⟩, ⟨#[]⟩, files⟩

end Sample

/-! ## Main result -/

/-- A call ends so, whatever the assembler does, whatever it writes and whatever code its test
expects. Signals are numbered from one. -/
theorem execute_ends (host : Host) (call : Invocation) (d : Descriptor) (files next : FileTree)
    (result : Except ExecError Captured) (report : List Report.Entry)
    (hsignals : ∀ finished, host.launch (call.launch host.environment) files = .ok finished →
      finished.ending ≠ .killed 0) :
    ((execute host call d.expectedExitCode).run.run files).value = (result, next) ∧
        ((execute host call d.expectedExitCode).run.run files).journal.report = report ↔
      Ends host call d.expectedExitCode files result next report :=
  ⟨fun ⟨hvalue, hreport⟩ => ends_of_run_execute hsignals hvalue hreport,
    fun h => h.run_execute hsignals⟩

theorem execute_ends_crashing :
    (∀ finished, Sample.crashing.launch (Invocation.launch ⟨"nasm", ["-v"], []⟩ []) Sample.files =
        .ok finished → finished.ending ≠ .killed 0) ∧
      Ends Sample.crashing ⟨"nasm", ["-v"], []⟩ 0 Sample.files
        (.error (.unexpectedExitCode ⟨-9, "h\ufffd", ""⟩)) Sample.files
        [.executing "nasm -v", .shown "stdout" "h\ufffd"] := by
  have hsignals : ∀ finished,
      Sample.crashing.launch (Invocation.launch ⟨"nasm", ["-v"], []⟩ []) Sample.files =
        .ok finished → finished.ending ≠ .killed 0 := by
    rintro finished ⟨⟩
    decide
  exact ⟨hsignals, (execute_ends Sample.crashing ⟨"nasm", ["-v"], []⟩ (Sample.test [])
    Sample.files Sample.files _ _ hsignals).1 ⟨rfl, rfl⟩⟩

end AsmHarness
