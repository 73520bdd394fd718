import AsmHarness.Proofs.Report
import AsmHarness.Proofs.Update

/-!
# What is reported of a test

Before the verdict on a test is given, the report says what is being done. Names, paths and options
come from the descriptor, and so does what a failure is about. If none of them has a line feed, then
what is reported cannot be read in another way, whatever the assembler writes and whatever stands
in the files.
-/

namespace AsmHarness

open Text (OneLine)

/-- A subject without line feeds in its paths and options. -/
def Subject.OneLine : Subject → Prop
  | .artifact output reference option =>
    Text.OneLine output ∧ Text.OneLine reference ∧ ∀ text ∈ option, Text.OneLine text
  | .capture _ reference => Text.OneLine reference

/-- A test with no line feed in any text that is reported of it. -/
structure Descriptor.OneLine (d : Descriptor) : Prop where
  name : Text.OneLine d.name
  baseDir : Text.OneLine d.baseDir
  format : ∀ text ∈ d.format, Text.OneLine text
  source : ∀ text ∈ d.source, Text.OneLine text
  option : ∀ text ∈ d.option, Text.OneLine text
  disabled : ∀ reason ∈ d.disabled, Text.OneLine reason
  targets : ∀ target ∈ d.targets, target.subject.OneLine

/-- Everything that is reported is of a kind. -/
def Noted.Reports {α : Type} (P : Report.Entry → Prop) (x : Noted α) : Prop :=
  ∀ entry ∈ x.journal.report, P entry

section Reports

variable {ε α β : Type} {P : Report.Entry → Prop}

theorem reports_report {entry : Report.Entry} (h : P entry) : (Noted.report entry).Reports P := by
  intro other hmem
  rwa [List.mem_singleton.1 hmem]

theorem reports_of_report_eq_nil {x : Noted α} (h : x.journal.report = []) : x.Reports P := by
  intro entry hmem
  rw [h] at hmem
  cases hmem

theorem reports_run_bind {x : ExceptT ε Noted α} {f : α → ExceptT ε Noted β}
    (hx : x.run.Reports P) (hf : ∀ a, (f a).run.Reports P) : (x >>= f).run.Reports P := by
  intro entry hmem
  rw [ExceptT.run_bind, Noted.journal_bind, Journal.report_append] at hmem
  rcases List.mem_append.1 hmem with hfirst | hsecond
  · exact hx entry hfirst
  · revert hsecond
    cases x.run.value with
    | error e => intro hsecond; cases hsecond
    | ok a => exact hf a entry

theorem reports_run_liftM {x : Noted α} (h : x.Reports P) :
    (liftM x : ExceptT ε Noted α).run.Reports P := by
  intro entry hmem
  rw [report_run_liftM] at hmem
  exact h entry hmem

theorem reports_run_liftExcept (x : Except ε α) :
    (liftExcept x : ExceptT ε Noted α).run.Reports P :=
  reports_of_report_eq_nil (report_run_liftExcept x)

end Reports

/-! ## Texts -/

section Texts

variable {d : Descriptor} {assembler : Path}

theorem oneLine_of_mem_words {text word : String} (h : OneLine text) (hword : word ∈ words text) :
    OneLine word := by
  obtain ⟨piece, hpiece, rfl⟩ := List.mem_map.1 hword
  refine OneLine.ofList fun hmem => h ?_
  exact (mem_of_mem_splitOn (List.mem_filter.1 hpiece).1 hmem).1

theorem oneLine_join {base relative : Path} (hbase : OneLine base) (hrelative : OneLine relative) :
    OneLine (base.join relative) := by
  have hslash : OneLine "/" := by decide
  unfold Path.join
  split
  · exact hrelative
  · split
    · exact hrelative
    · exact hbase.append hrelative
    · exact (hbase.append hslash).append hrelative

theorem Descriptor.OneLine.resolve (h : d.OneLine) {path : Path} (hpath : Text.OneLine path) :
    Text.OneLine (d.resolve path) :=
  oneLine_join h.baseDir hpath

theorem Descriptor.OneLine.outputPath (h : d.OneLine) : Text.OneLine d.outputPath := by
  have hextension : Text.OneLine ".out" := by decide
  unfold Descriptor.outputPath
  cases hlast : d.outputs.getLast? with
  | none => exact h.name.append hextension
  | some output =>
    obtain ⟨target, htarget, houtput⟩ := List.mem_filterMap.1 (List.mem_of_getLast? hlast)
    have hsubject := h.targets target htarget
    unfold Subject.OneLine at hsubject
    cases hkind : target.subject with
    | artifact written reference option =>
      simp only [hkind, Option.some.injEq] at houtput hsubject
      exact h.resolve (houtput ▸ hsubject.1)
    | capture stream reference => simp [hkind] at houtput

theorem Descriptor.OneLine.artifactOptions (h : d.OneLine) :
    ∀ word ∈ d.artifactOptions, Text.OneLine word := by
  intro word hword
  obtain ⟨target, htarget, hmem⟩ := List.mem_flatMap.1 hword
  have hsubject := h.targets target htarget
  unfold Subject.OneLine at hsubject
  cases hkind : target.subject with
  | artifact output reference option =>
    simp only [hkind] at hmem hsubject
    cases option with
    | none => cases hmem
    | some text => exact oneLine_of_mem_words (hsubject.2.2 text rfl) hmem
  | capture stream reference => simp [hkind] at hmem

theorem Descriptor.OneLine.arguments (h : d.OneLine) :
    ∀ argument ∈ d.arguments, Text.OneLine argument := by
  have hlist : Text.OneLine ".lst" := by decide
  intro argument hmem
  simp only [Descriptor.arguments, List.mem_append] at hmem
  rcases hmem with (((hformat | hoption) | hartifact) | hfixed) | hsource
  · cases hd : d.format with
    | none => simp [hd] at hformat
    | some format =>
      simp only [hd, Option.elim_some, List.mem_cons, List.not_mem_nil, or_false] at hformat
      rcases hformat with rfl | rfl
      · decide
      · exact h.format _ hd
  · cases hd : d.option with
    | none => simp [hd] at hoption
    | some option =>
      rw [hd] at hoption
      exact oneLine_of_mem_words (h.option _ hd) hoption
  · exact h.artifactOptions argument hartifact
  · simp only [List.mem_cons, List.not_mem_nil, or_false] at hfixed
    rcases hfixed with rfl | rfl | rfl | rfl | rfl
    · decide
    · exact h.outputPath
    · decide
    · decide
    · exact h.outputPath.append hlist
  · obtain ⟨source, hd, rfl⟩ := Option.map_eq_some_iff.1 (Option.mem_toList.1 hsource)
    exact h.resolve (h.source _ hd)

theorem Descriptor.OneLine.commandLine (h : d.OneLine) (hassembler : Text.OneLine assembler) :
    Text.OneLine (d.invocation assembler).commandLine := by
  refine Text.oneLine_intercalate (by decide) ?_
  rw [List.forall_mem_cons]
  exact ⟨hassembler, h.arguments⟩

theorem oneLine_message (cause : OsError) : OneLine cause.message := by
  have htext : OneLine cause.text := by cases cause <;> decide
  have hopen : OneLine " (os error " := by decide
  have hclose : OneLine ")" := by decide
  unfold OsError.message
  split
  · exact ((htext.append hopen).append (Text.oneLine_toString_nat _)).append hclose
  · exact htext

theorem oneLine_streamName (stream : Stream) : OneLine stream.name := by
  cases stream <;> decide

end Texts

/-! ## Failures -/

section Failures

variable {host : Host} {assembler : Path} {d : Descriptor} {files next : FileTree}
  {captured : Captured} {target : Target} {targets : List Target} {failure : Failure}

theorem oneLine_unreadable {path : Path} (hpath : OneLine path) (cause : OsError) :
    OneLine (Failure.unreadable path cause).message := by
  have hopen : OneLine "Can't read " := by decide
  have hcolon : OneLine ": " := by decide
  exact ((hopen.append hpath).append hcolon).append (oneLine_message cause)

theorem oneLine_launchFailed (hassembler : OneLine assembler) (cause : OsError) :
    OneLine (Failure.exec (.launchFailed assembler cause)).message := by
  have hopen : OneLine "Unable to execute " := by decide
  have hcolon : OneLine ": " := by decide
  exact ((hopen.append hassembler).append hcolon).append (oneLine_message cause)

theorem oneLine_unexpectedExitCode (captured : Captured) :
    OneLine (Failure.exec (.unexpectedExitCode captured)).message := by
  have hopen : OneLine "Unexpected ret code: " := by decide
  exact hopen.append (Text.oneLine_toString_int _)

theorem oneLine_of_fault {left : Stream → String} (h : d.OneLine) (htarget : target ∈ d.targets)
    (hfault : target.Fault files d left failure) : OneLine failure.message := by
  have hsubject := h.targets target htarget
  unfold Subject.OneLine at hsubject
  cases hfault with
  | referenceOfOutput subject =>
    rw [subject] at hsubject
    exact oneLine_unreadable (h.resolve hsubject.2.1) _
  | output subject =>
    rw [subject] at hsubject
    exact oneLine_unreadable (h.resolve hsubject.1) _
  | bytes subject =>
    have hand : OneLine " and " := by decide
    have hdiffer : OneLine " files are different" := by decide
    rw [subject] at hsubject
    exact (((h.resolve hsubject.2.1).append hand).append (h.resolve hsubject.1)).append hdiffer
  | referenceOfStream subject =>
    rw [subject] at hsubject
    exact oneLine_unreadable (h.resolve hsubject) _
  | text subject =>
    have hmismatch : OneLine " mismatch" := by decide
    exact (oneLine_streamName _).append hmismatch

/-- The first thing that is wrong with a run is told on one line. -/
theorem oneLine_of_firstFault (h : d.OneLine) (hassembler : OneLine assembler)
    (hfault : FirstFault host assembler d files failure) : OneLine failure.message := by
  cases hfault with
  | start => exact oneLine_launchFailed hassembler _
  | code => exact oneLine_unexpectedExitCode _
  | target _ _ _ found fault => exact oneLine_of_fault h (List.mem_of_getElem? found) fault
  | stream =>
    have hempty : OneLine " is not empty" := by decide
    exact (oneLine_streamName _).append hempty

theorem mapError_eq_error {ε ε' α : Type} {f : ε → ε'} {x : Except ε α} {e : ε'} :
    x.mapError f = .error e ↔ ∃ cause, x = .error cause ∧ f cause = e := by
  cases x <;> simp [Except.mapError]

theorem oneLine_of_stored (h : d.OneLine) (htarget : target.subject.OneLine)
    (hstored : target.stored d captured files = .error failure) : OneLine failure.message := by
  have hcolon : OneLine ": " := by decide
  unfold Subject.OneLine at htarget
  unfold Target.stored at hstored
  cases hsubject : target.subject with
  | artifact output reference option =>
    simp only [hsubject] at hstored htarget
    split at hstored
    · cases hstored
    · have hopen : OneLine "Failed to move output onto " := by decide
      obtain ⟨cause, -, rfl⟩ := mapError_eq_error.1 hstored
      exact ((hopen.append (h.resolve htarget.2.1)).append hcolon).append (oneLine_message cause)
  | capture stream reference =>
    have hopen : OneLine "Failed to write " := by decide
    simp only [hsubject] at hstored htarget
    obtain ⟨cause, -, rfl⟩ := mapError_eq_error.1 hstored
    exact ((hopen.append (h.resolve htarget)).append hcolon).append (oneLine_message cause)

theorem oneLine_of_storeTargets (h : d.OneLine)
    (htargets : ∀ target ∈ targets, target.subject.OneLine)
    (hstored : ((storeTargets d captured targets).run.run files).value = (.error failure, next)) :
    OneLine failure.message := by
  induction targets generalizing files with
  | nil => cases hstored
  | cons target rest ih =>
    rw [List.forall_mem_cons] at htargets
    rw [storeTargets, value_run_run_bind, value_storeTarget] at hstored
    cases hfirst : target.stored d captured files with
    | error first =>
      rw [hfirst] at hstored
      obtain ⟨rfl, -⟩ : first = failure ∧ files = next := by simpa [afterChange] using hstored
      exact oneLine_of_stored h htargets.1 hfirst
    | ok mid =>
      rw [hfirst] at hstored
      exact ih htargets.2 hstored

theorem oneLine_of_verify (h : d.OneLine) (hassembler : OneLine assembler)
    (hfailed : ((verify host assembler d).run files).value.1 = .failed failure) :
    OneLine failure.message := by
  cases hd : d.disabled with
  | some reason => simp [verify, hd] at hfailed
  | none => exact oneLine_of_firstFault h hassembler ((verify_eq_failed hd).1 hfailed)

theorem oneLine_of_update (h : d.OneLine) (hassembler : OneLine assembler)
    (hfailed : ((update host assembler d).run files).value.1 = .failed failure) :
    OneLine failure.message := by
  cases hupdate : d.update with
  | false => simp [update, hupdate] at hfailed
  | true =>
    cases hd : d.disabled with
    | some reason => simp [update, hupdate, hd] at hfailed
    | none =>
      cases hstart : d.start host assembler files with
      | error cause =>
        rw [value_update_of_error hupdate hd hstart] at hfailed
        cases hfailed
        exact oneLine_launchFailed hassembler cause
      | ok finished =>
        by_cases hcode : finished.ending.code = d.expectedExitCode
        · rw [value_update_of_ok hupdate hd hstart hcode] at hfailed
          rcases hstored : ((storeTargets d finished.captured d.targets).run.run
            finished.files).value with ⟨other | done, after⟩
          · rw [hstored] at hfailed
            cases hfailed
            exact oneLine_of_storeTargets h h.targets hstored
          · rw [hstored] at hfailed
            cases hfailed
        · rw [value_update_of_code hupdate hd hstart hcode] at hfailed
          cases hfailed
          exact oneLine_unexpectedExitCode _

/-- The reason for passing over a test is told on one line. -/
theorem oneLine_of_verify_skipped (h : d.OneLine) {reason : String}
    (hskipped : ((verify host assembler d).run files).value.1 = .skipped reason) :
    OneLine reason := by
  cases hd : d.disabled with
  | none => exact absurd hskipped (verify_ne_skipped hd reason)
  | some given =>
    have hreason : given = reason := by simpa [verify, hd] using hskipped
    exact h.disabled reason (hreason ▸ hd)

theorem oneLine_of_update_skipped (h : d.OneLine) {reason : String}
    (hskipped : ((update host assembler d).run files).value.1 = .skipped reason) :
    OneLine reason := by
  cases hupdate : d.update with
  | false =>
    have hreason : "No output provided" = reason := by simpa [update, hupdate] using hskipped
    exact hreason ▸ by decide
  | true =>
    cases hd : d.disabled with
    | some given =>
      have hreason : given = reason := by simpa [update, hupdate, hd] using hskipped
      exact h.disabled reason (hreason ▸ hd)
    | none =>
      cases hstart : d.start host assembler files with
      | error cause =>
        rw [value_update_of_error hupdate hd hstart] at hskipped
        cases hskipped
      | ok finished =>
        by_cases hcode : finished.ending.code = d.expectedExitCode
        · rw [value_update_of_ok hupdate hd hstart hcode] at hskipped
          rcases hstored : ((storeTargets d finished.captured d.targets).run.run
            finished.files).value with ⟨_ | _, _⟩ <;>
            simp [hstored, Outcome.ofResult] at hskipped
        · rw [value_update_of_code hupdate hd hstart hcode] at hskipped
          cases hskipped

end Failures

/-! ## Entries -/

section Entries

open Report.Entry (Quiet)

variable {host : Host} {assembler : Path} {d : Descriptor} {files : FileTree}
  {captured left : Captured} {target : Target} {targets : List Target}

theorem quiet_of_mem_shownStream {stream : Stream} {text : String} {entry : Report.Entry}
    (h : entry ∈ Report.shownStream stream text) : entry.Quiet := by
  unfold Report.shownStream at h
  split at h
  · cases h
  · rw [List.mem_singleton.1 h]
    exact oneLine_streamName stream

theorem reports_execute {call : Invocation} (hcall : OneLine call.commandLine) (expected : Int) :
    ((execute host call expected).run.run files).Reports Quiet := by
  intro entry hmem
  cases hlaunch : host.launch (call.launch host.environment) files with
  | error cause =>
    rw [report_execute_of_error hlaunch] at hmem
    rw [List.mem_singleton.1 hmem]
    exact hcall
  | ok finished =>
    rw [report_execute_of_ok hlaunch] at hmem
    rcases List.mem_cons.1 hmem with rfl | hshown
    · exact hcall
    · split at hshown
      · cases hshown
      · rcases List.mem_append.1 hshown with hstdout | hstderr
        · exact quiet_of_mem_shownStream hstdout
        · exact quiet_of_mem_shownStream hstderr

theorem reports_compareArtifact {reference output : Path} (hreference : OneLine reference)
    (houtput : OneLine output) : (compareArtifact files reference output).run.Reports Quiet := by
  unfold compareArtifact
  refine reports_run_bind (reports_run_liftExcept _) fun expected => ?_
  refine reports_run_bind (reports_run_liftExcept _) fun actual => ?_
  split
  · refine reports_run_bind (reports_run_liftM (reports_report ⟨hreference, houtput⟩)) fun _ => ?_
    exact reports_of_report_eq_nil rfl
  · exact reports_of_report_eq_nil rfl

theorem reports_compareStream {filter : Option Filter} {stream : Stream} {reference text : String}
    (hreference : OneLine (d.resolve reference)) :
    (compareStream files d filter stream reference text).run.Reports Quiet := by
  have hfiltered : (filtered d.name stream text filter).Reports Quiet := by
    cases filter with
    | none => exact reports_of_report_eq_nil rfl
    | some filter => exact reports_of_report_eq_nil rfl
  unfold compareStream
  refine reports_run_bind (reports_run_liftExcept _) fun expected => ?_
  refine reports_run_bind (reports_run_liftM hfiltered) fun actual => ?_
  split
  · refine reports_run_bind
      (reports_run_liftM (reports_report ⟨hreference, oneLine_streamName stream⟩)) fun _ => ?_
    exact reports_of_report_eq_nil rfl
  · exact reports_of_report_eq_nil rfl

theorem reports_checkTarget (h : d.OneLine) (htarget : target.subject.OneLine) :
    (checkTarget files d target left).run.Reports Quiet := by
  unfold Subject.OneLine at htarget
  cases hsubject : target.subject with
  | artifact output reference option =>
    simp only [checkTarget, hsubject] at htarget ⊢
    have houtput := h.resolve htarget.1
    have hreference := h.resolve htarget.2.1
    split
    · exact reports_of_report_eq_nil rfl
    · refine reports_run_bind
        (reports_run_liftM (reports_report ⟨houtput, hreference⟩)) fun _ => ?_
      refine reports_run_bind (reports_compareArtifact hreference houtput) fun _ => ?_
      exact reports_of_report_eq_nil rfl
  | capture stream reference =>
    simp only [checkTarget, hsubject] at htarget ⊢
    refine reports_run_bind
      (reports_run_liftM (reports_report (oneLine_streamName stream))) fun _ => ?_
    refine reports_run_bind (reports_compareStream (h.resolve htarget)) fun _ => ?_
    exact reports_of_report_eq_nil rfl

theorem reports_checkTargets (h : d.OneLine)
    (htargets : ∀ target ∈ targets, target.subject.OneLine) :
    (checkTargets files d targets left).run.Reports Quiet := by
  induction targets generalizing left with
  | nil => exact reports_of_report_eq_nil rfl
  | cons target rest ih =>
    rw [List.forall_mem_cons] at htargets
    rw [checkTargets]
    exact reports_run_bind (reports_checkTarget h htargets.1) fun _ => ih htargets.2

theorem reports_checkLeft (stream : Stream) (text : String) :
    (checkLeft stream text).run.Reports Quiet := by
  unfold checkLeft
  split
  · refine reports_run_bind
      (reports_run_liftM (reports_report (oneLine_streamName stream))) fun _ => ?_
    exact reports_of_report_eq_nil rfl
  · exact reports_of_report_eq_nil rfl

theorem reports_check (h : d.OneLine) : (check files d captured).run.Reports Quiet := by
  unfold check
  refine reports_run_bind (reports_checkTargets h h.targets) fun left => ?_
  refine reports_run_bind (reports_checkLeft .stdout left.stdout) fun _ => ?_
  exact reports_checkLeft .stderr left.stderr

theorem report_changeFiles (request : FileTree → Except OsError FileTree)
    (failure : OsError → Failure) :
    ((changeFiles request failure).run.run files).journal.report = [] := by
  unfold changeFiles
  cases h : request files <;> simp [h]

theorem reports_storeTarget (h : d.OneLine) (htarget : target.subject.OneLine) :
    ((storeTarget d captured target).run.run files).Reports Quiet := by
  unfold Subject.OneLine at htarget
  intro entry hmem
  cases hsubject : target.subject with
  | artifact output reference option =>
    simp only [hsubject] at htarget
    cases hwanted : d.expectsFailure with
    | true => simp [storeTarget, hsubject, hwanted] at hmem
    | false =>
      obtain rfl : entry = .moving (d.resolve output) (d.resolve reference) := by
        simpa [storeTarget, hsubject, hwanted, report_changeFiles] using hmem
      exact ⟨h.resolve htarget.1, h.resolve htarget.2.1⟩
  | capture stream reference =>
    simp only [hsubject] at htarget
    obtain rfl : entry = .moving stream.name (d.resolve reference) := by
      simpa [storeTarget, hsubject, report_changeFiles] using hmem
    exact ⟨oneLine_streamName stream, h.resolve htarget⟩

theorem reports_storeTargets (h : d.OneLine)
    (htargets : ∀ target ∈ targets, target.subject.OneLine) :
    ((storeTargets d captured targets).run.run files).Reports Quiet := by
  induction targets generalizing files with
  | nil => exact reports_of_report_eq_nil rfl
  | cons target rest ih =>
    rw [List.forall_mem_cons] at htargets
    intro entry hmem
    rw [storeTargets, ExceptT.run_bind, StateT.run_bind, Noted.journal_bind,
      Journal.report_append] at hmem
    rcases List.mem_append.1 hmem with hfirst | hlater
    · exact reports_storeTarget h htargets.1 entry hfirst
    · revert hlater
      rcases ((storeTarget d captured target).run.run files).value with ⟨failure | _, next⟩
      · intro hlater
        cases hlater
      · exact ih htargets.2 entry

/-- What is reported when the assembler has been run, and something was done with what it leaves. -/
theorem quiet_of_mem_run (host : Host) (files : FileTree) (h : d.OneLine)
    (hassembler : OneLine assembler) {opening entry : Report.Entry} (hopening : opening.Quiet)
    (later : List Report.Entry) (hlater : ∀ entry ∈ later, entry.Quiet)
    (hmem : entry ∈ opening :: .processing d.name ::
      ((execute host (d.invocation assembler) d.expectedExitCode).run.run files).journal.report ++
        later) : entry.Quiet := by
  have hexecute : ((execute host (d.invocation assembler) d.expectedExitCode).run.run
      files).Reports Quiet :=
    reports_execute (h.commandLine hassembler) d.expectedExitCode
  rcases List.mem_append.1 hmem with hrun | hrest
  · rcases List.mem_cons.1 hrun with rfl | hrun
    · exact hopening
    · rcases List.mem_cons.1 hrun with rfl | hrun
      · exact h.name
      · exact hexecute entry hrun
  · exact hlater entry hrest

/-- Running a test reports nothing but what is being done. -/
theorem reports_verify (h : d.OneLine) (hassembler : OneLine assembler) :
    ((verify host assembler d).run files).Reports Quiet := by
  intro entry hmem
  have hopening : (Report.Entry.running d.name).Quiet := h.name
  cases hd : d.disabled with
  | some reason =>
    obtain rfl : entry = .running d.name := by simpa [verify, hd] using hmem
    exact hopening
  | none =>
    rcases hrun : ((execute host (d.invocation assembler) d.expectedExitCode).run.run files).value
      with ⟨cause | captured, next⟩
    · refine quiet_of_mem_run host files h hassembler hopening [] (by simp) ?_
      simpa [verify, hd, hrun] using hmem
    · have hlater : (check next d captured).run.Reports Quiet := reports_check h
      refine quiet_of_mem_run host files h hassembler hopening _ hlater ?_
      cases hcheck : (check next d captured).run.value <;>
        simpa [verify, hd, hrun, hcheck] using hmem

/-- Replacing the references of a test reports nothing but what is being done. -/
theorem reports_update (h : d.OneLine) (hassembler : OneLine assembler) :
    ((update host assembler d).run files).Reports Quiet := by
  intro entry hmem
  have hopening : (Report.Entry.updating d.name).Quiet := h.name
  cases hupdate : d.update with
  | false =>
    obtain rfl : entry = .updating d.name := by simpa [update, hupdate] using hmem
    exact hopening
  | true =>
    cases hd : d.disabled with
    | some reason =>
      obtain rfl : entry = .updating d.name := by simpa [update, hupdate, hd] using hmem
      exact hopening
    | none =>
      rcases hrun : ((execute host (d.invocation assembler) d.expectedExitCode).run.run
        files).value with ⟨cause | captured, next⟩
      · refine quiet_of_mem_run host files h hassembler hopening [] (by simp) ?_
        simpa [update, hupdate, hd, hrun] using hmem
      · have hlater : ((storeTargets d captured d.targets).run.run next).Reports Quiet :=
          reports_storeTargets h h.targets
        refine quiet_of_mem_run host files h hassembler hopening _ hlater ?_
        rcases hstore : ((storeTargets d captured d.targets).run.run next).value with
          ⟨failure | done, after⟩ <;>
          simpa [update, hupdate, hd, hrun, hstore] using hmem

end Entries

end AsmHarness
