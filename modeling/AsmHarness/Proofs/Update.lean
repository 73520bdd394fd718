import AsmHarness.Proofs.Execution
import AsmHarness.Proofs.FileTree.Access
import AsmHarness.Proofs.Verify
import AsmHarness.Update

/-!
# What an update comes to

An update that is not held up stores every target in turn, each in the files that those before it
leave. What it comes to is read off the start of the assembler and the requests that are made of the
files.
-/

namespace AsmHarness

/-! ## Targets and their files -/

namespace Target

/-- What a target is compared with. -/
def reference (target : Target) : String :=
  match target.subject with
  | .artifact _ reference _ => reference
  | .capture _ reference => reference

/-- The file that a target compares, if it does not compare a stream. -/
def output? (target : Target) : Option String :=
  match target.subject with
  | .artifact output _ _ => some output
  | .capture .. => none

section Subject

variable {target : Target} {output reference : String} {option : Option String} {stream : Stream}

theorem reference_of_artifact (h : target.subject = .artifact output reference option) :
    target.reference = reference := by
  rw [Target.reference, h]

theorem reference_of_capture (h : target.subject = .capture stream reference) :
    target.reference = reference := by
  rw [Target.reference, h]

theorem output?_of_artifact (h : target.subject = .artifact output reference option) :
    target.output? = some output := by
  rw [output?, h]

theorem output?_of_capture (h : target.subject = .capture stream reference) :
    target.output? = none := by
  rw [output?, h]

end Subject

/-- The files once a target has been stored. -/
def stored (d : Descriptor) (captured : Captured) (target : Target) (files : FileTree) :
    Except Failure FileTree :=
  match target.subject with
  | .artifact output reference _ =>
    if d.expectsFailure then .ok files
    else (files.rename (d.resolve output) (d.resolve reference)).mapError
      (.notMoved (d.resolve reference))
  | .capture stream reference =>
    (files.write (d.resolve reference) (captured.text stream).toUTF8).mapError
      (.notWritten (d.resolve reference))

end Target

/-- The files once some targets have been stored, in order. -/
def storedAll (d : Descriptor) (captured : Captured) :
    List Target → FileTree → Except Failure FileTree
  | [], files => .ok files
  | target :: rest, files => (target.stored d captured files).bind (storedAll d captured rest)

/-- The result of a change of the files, and the files it leaves: they are as they were if it was
turned down. -/
def afterChange (files : FileTree) : Except Failure FileTree → Except Failure Unit × FileTree
  | .ok next => (.ok (), next)
  | .error failure => (.error failure, files)

theorem mapError_eq_ok {ε ε' α : Type} {f : ε → ε'} {x : Except ε α} {a : α} :
    x.mapError f = .ok a ↔ x = .ok a := by
  cases x <;> simp [Except.mapError]

section Activities

variable {host : Host} {assembler : Path} {d : Descriptor} {files next : FileTree}
  {captured : Captured} {target : Target} {targets : List Target} {finished : Finished}

theorem value_run_run_bind {ε α β : Type} (x : ExceptT ε Activity α)
    (f : α → ExceptT ε Activity β) :
    ((x >>= f).run.run files).value =
      match (x.run.run files).value with
      | (.ok a, next) => ((f a).run.run next).value
      | (.error e, next) => (.error e, next) := by
  rw [ExceptT.run_bind, StateT.run_bind, Noted.value_bind]
  rcases (x.run.run files).value with ⟨_ | _, next⟩ <;> rfl

theorem value_changeFiles (request : FileTree → Except OsError FileTree)
    (failure : OsError → Failure) :
    ((changeFiles request failure).run.run files).value =
      afterChange files ((request files).mapError failure) := by
  unfold changeFiles
  cases h : request files <;> simp [h, afterChange, Except.mapError]

theorem value_storeTarget : ((storeTarget d captured target).run.run files).value =
    afterChange files (target.stored d captured files) := by
  unfold storeTarget Target.stored
  cases target.subject with
  | artifact output reference option =>
    cases d.expectsFailure with
    | true => rfl
    | false => simp [value_changeFiles]
  | capture stream reference => simp [value_changeFiles]

/-- The working directory stays where it is when a target is stored. -/
theorem origin_of_stored (h : target.stored d captured files = .ok next) :
    next.origin = files.origin := by
  unfold Target.stored at h
  cases hsubject : target.subject with
  | artifact output reference option =>
    rw [hsubject] at h
    cases hwanted : d.expectsFailure with
    | true =>
      simp only [hwanted, if_true, Except.ok.injEq] at h
      rw [h]
    | false =>
      simp only [hwanted, Bool.false_eq_true, if_false, mapError_eq_ok] at h
      exact FileTree.origin_rename h
  | capture stream reference =>
    rw [hsubject] at h
    exact FileTree.origin_write (mapError_eq_ok.1 h)

/-- All targets are stored if each of them can be, in the files that those before it leave. -/
theorem storeTargets_eq_ok :
    ((storeTargets d captured targets).run.run files).value = (.ok (), next) ↔
      storedAll d captured targets files = .ok next := by
  induction targets generalizing files with
  | nil => simp [storeTargets, storedAll]
  | cons target rest ih =>
    rw [storedAll, storeTargets, value_run_run_bind, value_storeTarget]
    cases target.stored d captured files with
    | error failure => simp [afterChange, Except.bind]
    | ok mid => exact ih

theorem value_update_of_error (hupdate : d.update = true) (hd : d.disabled = none)
    {cause : OsError} (h : d.start host assembler files = .error cause) :
    ((update host assembler d).run files).value =
      (.failed (.exec (.launchFailed assembler cause)), files) := by
  simp [update, hupdate, hd, value_execute_of_error h]

theorem value_update_of_code (hupdate : d.update = true) (hd : d.disabled = none)
    (h : d.start host assembler files = .ok finished)
    (hcode : finished.ending.code ≠ d.expectedExitCode) :
    ((update host assembler d).run files).value =
      (.failed (.exec (.unexpectedExitCode finished.captured)), finished.files) := by
  simp [update, hupdate, hd, value_execute_of_ok h, hcode]

theorem value_update_of_ok (hupdate : d.update = true) (hd : d.disabled = none)
    (h : d.start host assembler files = .ok finished)
    (hcode : finished.ending.code = d.expectedExitCode) :
    ((update host assembler d).run files).value =
      ((storeTargets d finished.captured d.targets).run.run finished.files).value.map
        .ofResult id := by
  rcases hstored : ((storeTargets d finished.captured d.targets).run.run finished.files).value with
    ⟨_ | _, next⟩ <;>
    simp [update, hupdate, hd, value_execute_of_ok h, hcode, hstored, Outcome.ofResult]

/-- The references have been replaced if the assembler could be started, ended with the expected
code, and every target could be stored. -/
theorem update_eq_done (hupdate : d.update = true) (hd : d.disabled = none) :
    ((update host assembler d).run files).value = (.done, next) ↔
      ∃ finished, d.start host assembler files = .ok finished ∧
        finished.ending.code = d.expectedExitCode ∧
        storedAll d finished.captured d.targets finished.files = .ok next := by
  cases hstart : d.start host assembler files with
  | error cause => simp [value_update_of_error hupdate hd hstart]
  | ok finished =>
    by_cases hcode : finished.ending.code = d.expectedExitCode
    · rw [value_update_of_ok hupdate hd hstart hcode]
      simp only [Except.ok.injEq, exists_eq_left', hcode, true_and, ← storeTargets_eq_ok]
      rcases ((storeTargets d finished.captured d.targets).run.run finished.files).value with
        ⟨_ | _, _⟩ <;> simp [Outcome.ofResult]
    · simp [value_update_of_code hupdate hd hstart hcode, hcode]

end Activities

end AsmHarness
