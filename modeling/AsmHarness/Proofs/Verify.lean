import AsmHarness.Proofs.Check
import AsmHarness.Proofs.Execution

/-!
# When a test passes

A test that is not disabled passes if the assembler could be started, ended with the expected code
and left everything as the targets ask. Otherwise it fails, with the first thing that is wrong.
-/

namespace AsmHarness

/-- What comes of starting the assembler for a test. -/
def Descriptor.start (d : Descriptor) (host : Host) (assembler : Path) (files : FileTree) :
    Except OsError Finished :=
  host.launch ((d.invocation assembler).launch host.environment) files

/-- The working directory stays where it is when the assembler runs. -/
theorem origin_of_start {host : Host} {assembler : Path} {d : Descriptor} {files : FileTree}
    {finished : Finished} (h : d.start host assembler files = .ok finished) :
    finished.files.origin = files.origin := by
  unfold Descriptor.start Host.launch at h
  split_ifs at h
  cases hstart : host.start ((d.invocation assembler).launch host.environment) files with
  | error cause => simp [hstart, Except.map] at h
  | ok started =>
    rw [hstart] at h
    cases h
    rfl

namespace Finished

/-- All that an assembler wrote to a stream. -/
def written (finished : Finished) : Stream → ByteArray
  | .stdout => finished.stdout
  | .stderr => finished.stderr

/-- Something was written to a stream that no target captures. -/
def Unconsumed (finished : Finished) (d : Descriptor) (stream : Stream) : Prop :=
  (∀ target ∈ d.targets, target.captures stream = false) ∧ finished.captured.text stream ≠ ""

/-- An assembler has ended as a test asks. -/
structure Meets (finished : Finished) (d : Descriptor) : Prop where
  /-- It ended with the expected code. -/
  code : finished.ending.code = d.expectedExitCode
  /-- Every target is met. -/
  targets : AllMet finished.files d finished.captured d.targets
  /-- Every stream without a target is empty. -/
  streams : ∀ stream, ¬ finished.Unconsumed d stream

end Finished

/-- The first thing that is wrong with a run of a test: with the start of the assembler, with the
code it ended with, with its targets in order, and with what it wrote to streams without a target,
regular output first. -/
inductive FirstFault (host : Host) (assembler : Path) (d : Descriptor) (files : FileTree) :
    Failure → Prop where
  /-- The assembler cannot be started. -/
  | start {cause : OsError} (refused : d.start host assembler files = .error cause) :
    FirstFault host assembler d files (.exec (.launchFailed assembler cause))
  /-- It ended with another code. -/
  | code {finished : Finished} (started : d.start host assembler files = .ok finished)
    (other : finished.ending.code ≠ d.expectedExitCode) :
    FirstFault host assembler d files (.exec (.unexpectedExitCode finished.captured))
  /-- A target is not met, while those before it are. -/
  | target {finished : Finished} {i : Nat} {target : Target} {failure : Failure}
    (started : d.start host assembler files = .ok finished)
    (code : finished.ending.code = d.expectedExitCode)
    (before : AllMet finished.files d finished.captured (d.targets.take i))
    (found : d.targets[i]? = some target)
    (fault : target.Fault finished.files d (finished.captured.left (d.targets.take i)) failure) :
    FirstFault host assembler d files failure
  /-- Something was written to a stream without a target. -/
  | stream {finished : Finished} {stream : Stream}
    (started : d.start host assembler files = .ok finished)
    (code : finished.ending.code = d.expectedExitCode)
    (targets : AllMet finished.files d finished.captured d.targets)
    (unconsumed : finished.Unconsumed d stream)
    (first : stream = .stderr → ¬ finished.Unconsumed d .stdout) :
    FirstFault host assembler d files (.unconsumed stream)

/-- How a test ends, given the result of what was done last. -/
def Outcome.ofResult : Except Failure Unit → Outcome
  | .ok () => .done
  | .error failure => .failed failure

/-- What is captured of a stream that is not cut off is the text of all of it. -/
theorem text_captured_of_le {finished : Finished} {stream : Stream}
    (h : (finished.written stream).size ≤ captureLimit) :
    finished.captured.text stream = Utf8.decode (finished.written stream) := by
  have hextract : (finished.written stream).extract 0 captureLimit = finished.written stream := by
    refine ByteArray.ext ?_
    rw [ByteArray.data_extract]
    exact Array.extract_eq_self_iff.2 (.inr ⟨rfl, h⟩)
  cases stream <;> exact congrArg Utf8.decode hextract

/-- What is captured depends on the code and on what was written. -/
theorem captured_congr {finished other : Finished} (hcode : finished.ending.code = other.ending.code)
    (hwritten : ∀ stream, finished.written stream = other.written stream) :
    finished.captured = other.captured := by
  have hstdout : finished.stdout = other.stdout := hwritten .stdout
  have hstderr : finished.stderr = other.stderr := hwritten .stderr
  rw [Finished.captured, Finished.captured, hcode, hstdout, hstderr]

section Verify

variable {host : Host} {assembler : Path} {d : Descriptor} {files : FileTree} {finished : Finished}
  {cause : OsError} {failure : Failure}

@[simp] theorem program_invocation (d : Descriptor) (assembler : Path) :
    (d.invocation assembler).program = assembler := rfl

theorem value_verify_of_error (hd : d.disabled = none)
    (h : d.start host assembler files = .error cause) :
    ((verify host assembler d).run files).value =
      (.failed (.exec (.launchFailed assembler cause)), files) := by
  simp [verify, hd, value_execute_of_error h]

theorem value_verify_of_ok (hd : d.disabled = none)
    (h : d.start host assembler files = .ok finished) :
    ((verify host assembler d).run files).value =
      (if finished.ending.code = d.expectedExitCode then
          .ofResult (check finished.files d finished.captured).run.value
        else .failed (.exec (.unexpectedExitCode finished.captured)), finished.files) := by
  by_cases hcode : finished.ending.code = d.expectedExitCode
  · cases hcheck : (check finished.files d finished.captured).run.value <;>
      simp [verify, hd, value_execute_of_ok h, hcode, hcheck, Outcome.ofResult]
  · simp [verify, hd, value_execute_of_ok h, hcode]

theorem report_verify_of_error (hd : d.disabled = none)
    (h : d.start host assembler files = .error cause) :
    ((verify host assembler d).run files).journal.report =
      [.running d.name, .processing d.name, .executing (d.invocation assembler).commandLine] := by
  simp [verify, hd, value_execute_of_error h, report_execute_of_error h]

theorem report_verify_of_code (hd : d.disabled = none)
    (h : d.start host assembler files = .ok finished)
    (hcode : finished.ending.code ≠ d.expectedExitCode) :
    ((verify host assembler d).run files).journal.report =
      [.running d.name, .processing d.name, .executing (d.invocation assembler).commandLine] ++
        (Report.shownStream .stdout finished.captured.stdout ++
          Report.shownStream .stderr finished.captured.stderr) := by
  simp [verify, hd, value_execute_of_ok h, report_execute_of_ok h, hcode]

theorem outcome_verify_of_code (hd : d.disabled = none)
    (h : d.start host assembler files = .ok finished)
    (hcode : finished.ending.code = d.expectedExitCode) :
    ((verify host assembler d).run files).value.1 =
      .ofResult (check finished.files d finished.captured).run.value := by
  rw [value_verify_of_ok hd h, if_pos hcode]

/-- Text is left of a stream in the end if it was written to one that no target captures. -/
theorem left_ne_empty {stream : Stream} :
    finished.captured.left d.targets stream ≠ "" ↔ finished.Unconsumed d stream := by
  rw [Ne, left_eq_empty, Classical.not_imp]
  rfl

theorem check_eq_ok_iff_meets (hcode : finished.ending.code = d.expectedExitCode) :
    (check finished.files d finished.captured).run.value = .ok () ↔ finished.Meets d := by
  rw [check_eq_ok]
  constructor
  · rintro ⟨htargets, hleft⟩
    exact ⟨hcode, htargets, fun stream hstream => left_ne_empty.2 hstream (hleft stream)⟩
  · rintro ⟨-, htargets, hstreams⟩
    exact ⟨htargets, fun stream =>
      Classical.not_not.1 (mt left_ne_empty.1 (hstreams stream))⟩

/-- A test passes if and only if the assembler could be started and ended as the test asks. -/
theorem verify_eq_done (hd : d.disabled = none) :
    ((verify host assembler d).run files).value.1 = .done ↔
      ∃ finished, d.start host assembler files = .ok finished ∧ finished.Meets d := by
  cases hstart : d.start host assembler files with
  | error cause => simp [value_verify_of_error hd hstart]
  | ok finished =>
    by_cases hcode : finished.ending.code = d.expectedExitCode
    · rw [outcome_verify_of_code hd hstart hcode]
      simp only [Except.ok.injEq, exists_eq_left', ← check_eq_ok_iff_meets hcode]
      cases (check finished.files d finished.captured).run.value <;> simp [Outcome.ofResult]
    · have hnot : ¬ finished.Meets d := fun h => hcode h.code
      simp [value_verify_of_ok hd hstart, hcode, hnot]

theorem check_eq_error_iff_firstFault (hstart : d.start host assembler files = .ok finished)
    (hcode : finished.ending.code = d.expectedExitCode) :
    (check finished.files d finished.captured).run.value = .error failure ↔
      FirstFault host assembler d files failure := by
  rw [check_eq_error]
  constructor
  · rintro (⟨i, target, hfound, hbefore, hfault⟩ | ⟨hmet, stream, rfl, hleft, hfirst⟩)
    · exact .target hstart hcode hbefore hfound hfault
    · refine .stream hstart hcode hmet (left_ne_empty.1 hleft) fun hstream hstdout => ?_
      exact left_ne_empty.2 hstdout (hfirst hstream)
  · intro h
    cases h with
    | start hrefused => cases hstart.symm.trans hrefused
    | code hstarted hother =>
      obtain rfl := Except.ok.inj (hstart.symm.trans hstarted)
      exact absurd hcode hother
    | target hstarted _ hbefore hfound hfault =>
      obtain rfl := Except.ok.inj (hstart.symm.trans hstarted)
      exact .inl ⟨_, _, hfound, hbefore, hfault⟩
    | stream hstarted _ hmet hunconsumed hfirst =>
      obtain rfl := Except.ok.inj (hstart.symm.trans hstarted)
      refine .inr ⟨hmet, _, rfl, left_ne_empty.2 hunconsumed, fun hstream => ?_⟩
      exact Classical.not_not.1 (mt left_ne_empty.1 (hfirst hstream))

/-- It fails with the first thing that is wrong. -/
theorem verify_eq_failed (hd : d.disabled = none) :
    ((verify host assembler d).run files).value.1 = .failed failure ↔
      FirstFault host assembler d files failure := by
  cases hstart : d.start host assembler files with
  | error cause =>
    rw [value_verify_of_error hd hstart]
    constructor
    · rintro ⟨⟩
      exact .start hstart
    · intro h
      cases h with
      | start hrefused => rw [Except.error.inj (hstart.symm.trans hrefused)]
      | code hstarted => cases hstart.symm.trans hstarted
      | target hstarted => cases hstart.symm.trans hstarted
      | stream hstarted => cases hstart.symm.trans hstarted
  | ok finished =>
    by_cases hcode : finished.ending.code = d.expectedExitCode
    · rw [outcome_verify_of_code hd hstart hcode, ← check_eq_error_iff_firstFault hstart hcode]
      cases (check finished.files d finished.captured).run.value <;> simp [Outcome.ofResult]
    · rw [value_verify_of_ok hd hstart, if_neg hcode]
      constructor
      · rintro ⟨⟩
        exact .code hstart hcode
      · intro h
        cases h with
        | start hrefused => cases hstart.symm.trans hrefused
        | code hstarted => rw [Except.ok.inj (hstart.symm.trans hstarted)]
        | target hstarted hcode' =>
          obtain rfl := Except.ok.inj (hstart.symm.trans hstarted)
          exact absurd hcode' hcode
        | stream hstarted hcode' =>
          obtain rfl := Except.ok.inj (hstart.symm.trans hstarted)
          exact absurd hcode' hcode

theorem captures_iff {target : Target} {stream : Stream} :
    target.captures stream = true ↔ ∃ reference, target.subject = .capture stream reference := by
  unfold Target.captures
  cases target.subject <;> simp

/-- A target makes the same of what is left of a stream as of all that was written, unless the
stream has been used up or was cut off. -/
theorem view_left_eq_iff {target : Target} {done : List Target} {stream : Stream} :
    target.view (finished.captured.left done stream) =
        target.view (Utf8.decode (finished.written stream)) ↔
      (done.any (·.captures stream) = true →
        target.view "" = target.view (Utf8.decode (finished.written stream))) ∧
      (done.any (·.captures stream) = false → captureLimit < (finished.written stream).size →
        target.view (finished.captured.text stream) =
          target.view (Utf8.decode (finished.written stream))) := by
  unfold Captured.left
  cases hused : done.any (·.captures stream) with
  | true => simp
  | false =>
    simp only [Bool.false_eq_true, if_false, false_imp_iff, true_and, forall_const]
    refine ⟨fun h _ => h, fun h => ?_⟩
    by_cases hlong : captureLimit < (finished.written stream).size
    · exact h hlong
    · rw [text_captured_of_le (Nat.le_of_not_lt hlong)]

/-- An entry that says that something is compared with a reference. -/
def Report.Entry.isComparison : Report.Entry → Bool
  | .comparingFiles .. | .comparingStream .. => true
  | _ => false

theorem not_isComparison_of_shown {stream : Stream} {text : String} {entry : Report.Entry}
    (h : entry ∈ Report.shownStream stream text) : entry.isComparison = false := by
  unfold Report.shownStream at h
  split_ifs at h
  · cases h
  · rw [List.mem_singleton.1 h]
    rfl

/-- No target is looked at when the assembler did not do its work. -/
theorem not_isComparison_of_exec (hd : d.disabled = none) {cause : ExecError}
    (h : ((verify host assembler d).run files).value.1 = .failed (.exec cause))
    {entry : Report.Entry}
    (hentry : entry ∈ ((verify host assembler d).run files).journal.report) :
    entry.isComparison = false := by
  cases hstart : d.start host assembler files with
  | error refused =>
    rw [report_verify_of_error hd hstart] at hentry
    simp only [List.mem_cons, List.not_mem_nil, or_false] at hentry
    rcases hentry with rfl | rfl | rfl <;> rfl
  | ok finished =>
    have hcode : finished.ending.code ≠ d.expectedExitCode := by
      intro hcode
      have hfault := verify_eq_failed hd |>.1 h
      cases hfault with
      | start hrefused => cases hstart.symm.trans hrefused
      | code hstarted hother =>
        obtain rfl := Except.ok.inj (hstart.symm.trans hstarted)
        exact hother hcode
      | target _ _ _ _ hfault => cases hfault
    rw [report_verify_of_code hd hstart hcode] at hentry
    simp only [List.cons_append, List.nil_append, List.mem_cons, List.mem_append] at hentry
    rcases hentry with rfl | rfl | rfl | hentry | hentry
    · rfl
    · rfl
    · rfl
    · exact not_isComparison_of_shown hentry
    · exact not_isComparison_of_shown hentry

theorem disabled_eq_none_of_done (h : ((verify host assembler d).run files).value.1 = .done) :
    d.disabled = none := by
  cases hd : d.disabled with
  | none => rfl
  | some reason => simp [verify, hd] at h

theorem verify_ne_skipped (hd : d.disabled = none) (reason : String) :
    ((verify host assembler d).run files).value.1 ≠ .skipped reason := by
  cases hstart : d.start host assembler files with
  | error cause => simp [value_verify_of_error hd hstart]
  | ok finished =>
    rw [value_verify_of_ok hd hstart]
    split_ifs
    · cases (check finished.files d finished.captured).run.value <;> simp [Outcome.ofResult]
    · simp

end Verify

/-! ## A small test -/

namespace Sample

/-- A host on which every program writes the same files and the same text and ends in the same way.
-/
def host (ending : Ending) (stdout stderr : String) (written : List (Path × String)) : Host where
  environment := []
  start _ files := .ok ⟨ending, stdout.toUTF8, stderr.toUTF8, written.foldl
    (fun files (path, text) => (files.write path text.toUTF8).toOption.getD files) files⟩

/-- A test in the folder `t`. -/
def test (targets : List Target) : Descriptor where
  name := "t/a"
  description := "a sample"
  baseDir := "t"
  fileName := "a.json"
  format := none
  source := none
  option := none
  errorMode := none
  update := true
  disabled := none
  environ := []
  targets := targets

/-- Files with some references of that test. -/
def files : FileTree where
  entries := [("t", .folder [("a.out", .file "hi".toUTF8 {}), ("b.out", .file "".toUTF8 {}),
    ("a.bin.t", .file "code".toUTF8 {})] .folder)]

/-- An output with its reference. -/
def binary : Target := ⟨.artifact "a.bin" "a.bin.t" none, none⟩

/-- Regular output with some reference. -/
def regular (reference : String) : Target := ⟨.capture .stdout reference, none⟩

end Sample

/-! ## Main results -/

/-- A test that is not disabled ends in one of two ways. It passes if and only if the assembler
could be started, ended with the expected code, left every target met and every stream without a
target empty; else it fails, with the first thing that is wrong. No target is looked at after a
failure of the assembler itself. -/
theorem verify_outcome (host : Host) (assembler : Path) (d : Descriptor) (files : FileTree)
    (hd : d.disabled = none) :
    (((verify host assembler d).run files).value.1 = .done ↔
      ∃ finished, d.start host assembler files = .ok finished ∧ finished.Meets d) ∧
    (∀ failure, ((verify host assembler d).run files).value.1 = .failed failure ↔
      FirstFault host assembler d files failure) ∧
    (∀ reason, ((verify host assembler d).run files).value.1 ≠ .skipped reason) ∧
    ∀ cause, ((verify host assembler d).run files).value.1 = .failed (.exec cause) →
      ∀ entry ∈ ((verify host assembler d).run files).journal.report, entry.isComparison = false :=
  ⟨verify_eq_done hd, fun _ => verify_eq_failed hd, verify_ne_skipped hd,
    fun _ hcause _ hentry => not_isComparison_of_exec hd hcause hentry⟩

/-- One output and two references of the same stream: the second reference is compared with nothing.
-/
theorem verify_outcome_second_capture :
    (Sample.test [Sample.binary, Sample.regular "a.out", Sample.regular "a.out"]).disabled = none ∧
      FirstFault (Sample.host (.exited 0) "hi" "" [("t/a.bin", "code")]) "nasm"
        (Sample.test [Sample.binary, Sample.regular "a.out", Sample.regular "a.out"]) Sample.files
        (.streamMismatch .stdout) := by
  have hdone := verify_outcome (Sample.host (.exited 0) "hi" "" [("t/a.bin", "code")]) "nasm"
    (Sample.test [Sample.binary, Sample.regular "a.out", Sample.regular "a.out"]) Sample.files rfl
  exact ⟨rfl, (hdone.2.1 _).1 (by decide +kernel)⟩

/-- When a test has passed, the references of its streams agree with all that was written there
under exactly one condition. It concerns the references after the first one of a stream, which are
compared with nothing instead, and the first one of a stream that was cut off. -/
theorem captures_match_iff (host : Host) (assembler : Path) (d : Descriptor) (files : FileTree)
    (hdone : ((verify host assembler d).run files).value.1 = .done) :
    ∃ finished, d.start host assembler files = .ok finished ∧
      ((∀ target ∈ d.targets, ∀ stream reference, target.subject = .capture stream reference →
          ∃ bytes, finished.files.read (d.resolve reference) = .ok bytes ∧
            Utf8.decode bytes = target.view (Utf8.decode (finished.written stream))) ↔
        ∀ i target stream, d.targets[i]? = some target → target.captures stream = true →
          ((d.targets.take i).any (·.captures stream) = true →
            target.view "" = target.view (Utf8.decode (finished.written stream))) ∧
          ((d.targets.take i).any (·.captures stream) = false →
            captureLimit < (finished.written stream).size →
            target.view (finished.captured.text stream) =
              target.view (Utf8.decode (finished.written stream)))) := by
  have hd := disabled_eq_none_of_done hdone
  obtain ⟨finished, hstart, hmeets⟩ := (verify_eq_done hd).1 hdone
  refine ⟨finished, hstart, ?_⟩
  -- what the comparison of a stream has established, whatever was left of it
  have hmet : ∀ i (target : Target) stream reference, d.targets[i]? = some target →
      target.subject = .capture stream reference →
      ∃ bytes, finished.files.read (d.resolve reference) = .ok bytes ∧
        Utf8.decode bytes = target.view (finished.captured.left (d.targets.take i) stream) := by
    intro i target stream reference hi hsubject
    simpa [Target.Met, hsubject] using hmeets.targets i target hi
  constructor
  · intro hall i target stream hi hcaptures
    obtain ⟨reference, hsubject⟩ := captures_iff.1 hcaptures
    obtain ⟨bytes, hread, hleft⟩ := hmet i target stream reference hi hsubject
    obtain ⟨bytes', hread', hwhole⟩ :=
      hall target (List.mem_of_getElem? hi) stream reference hsubject
    obtain rfl := Except.ok.inj (hread.symm.trans hread')
    exact view_left_eq_iff.1 (hleft.symm.trans hwhole)
  · intro hcond target htarget stream reference hsubject
    obtain ⟨i, hi⟩ := List.mem_iff_getElem?.1 htarget
    obtain ⟨bytes, hread, hleft⟩ := hmet i target stream reference hi hsubject
    have hcaptures : target.captures stream = true := captures_iff.2 ⟨reference, hsubject⟩
    have hview := view_left_eq_iff.2 (hcond i target stream hi hcaptures)
    exact ⟨bytes, hread, hleft.trans hview⟩

/-- One reference of a short stream agrees with all of it. -/
theorem captures_match_iff_single :
    ((verify (Sample.host (.exited 0) "hi" "" []) "nasm" (Sample.test [Sample.regular "a.out"])).run
        Sample.files).value.1 = .done ∧
      ∃ finished, (Sample.test [Sample.regular "a.out"]).start
          (Sample.host (.exited 0) "hi" "" []) "nasm" Sample.files = .ok finished ∧
        ∃ bytes, finished.files.read "t/a.out" = .ok bytes ∧
          Utf8.decode bytes = Utf8.decode (finished.written .stdout) := by
  have hdone : ((verify (Sample.host (.exited 0) "hi" "" []) "nasm"
      (Sample.test [Sample.regular "a.out"])).run Sample.files).value.1 = .done := by decide +kernel
  obtain ⟨finished, hstart, hiff⟩ := captures_match_iff _ _ _ _ hdone
  refine ⟨hdone, finished, hstart, hiff.2 ?_ (Sample.regular "a.out")
    (List.mem_singleton.2 rfl) .stdout "a.out" rfl⟩
  intro i target stream hi hcaptures
  cases i with
  | zero =>
    refine ⟨fun hused => by simp at hused, fun _ hlong => absurd hlong ?_⟩
    cases hstart
    cases stream <;> decide +kernel
  | succ i => simp [Sample.test] at hi

/-- A test passes although the reference of a stream holds something else than what was written
there: it is the second one of that stream. -/
theorem not_captures_match :
    ¬ ∀ (host : Host) (assembler : Path) (d : Descriptor) (files : FileTree) (finished : Finished),
      ((verify host assembler d).run files).value.1 = .done →
      d.start host assembler files = .ok finished →
      ∀ target ∈ d.targets, ∀ stream reference, target.subject = .capture stream reference →
        ∃ bytes, finished.files.read (d.resolve reference) = .ok bytes ∧
          Utf8.decode bytes = target.view (Utf8.decode (finished.written stream)) := by
  intro hall
  have hdone : ((verify (Sample.host (.exited 0) "hi" "" []) "nasm"
      (Sample.test [Sample.regular "a.out", Sample.regular "b.out"])).run Sample.files).value.1 =
        .done := by
    decide +kernel
  obtain ⟨bytes, hread, htext⟩ := hall _ _ _ _ ⟨.exited 0, "hi".toUTF8, "".toUTF8, Sample.files⟩
    hdone rfl (Sample.regular "b.out") (by simp [Sample.test]) .stdout "b.out" rfl
  have hempty : Sample.files.read "t/b.out" = .ok "".toUTF8 := rfl
  obtain rfl := Except.ok.inj (hempty.symm.trans hread)
  exact absurd htext (by decide +kernel)

end AsmHarness
