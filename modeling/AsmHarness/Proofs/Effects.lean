import AsmHarness.Proofs.FileTree.Content
import AsmHarness.Proofs.Pass
import AsmHarness.Proofs.Update

/-!
# What a pass does to the files

Two kinds of things happen to the files during a pass: the assembler is started, and leaves what it
leaves, and references are replaced. So a pass is read as a sequence of starts. Between them nothing
happens when tests are run, and when references are replaced, nothing happens elsewhere than at the
outputs and the references.
-/

namespace AsmHarness

/-! ## Starts of the assembler -/

/-- A task starts the assembler for a test that is not disabled and, if references are to be
replaced, whose references may be replaced. -/
def Task.Wants (task : Task) (d : Descriptor) : Prop :=
  d.disabled = none ∧ (task = .update → d.update = true)

instance (task : Task) (d : Descriptor) : Decidable (task.Wants d) :=
  inferInstanceAs (Decidable (_ ∧ _))

/-- The assembler is started for a test. -/
structure Start where
  /-- The test. -/
  descriptor : Descriptor
  /-- The files that the assembler finds. -/
  found : FileTree
  /-- What comes of it. -/
  result : Except OsError Finished

/-- The files that the assembler leaves; if it cannot be started, those that are there. -/
def Start.left (start : Start) : FileTree :=
  match start.result with
  | .ok finished => finished.files
  | .error _ => start.found

/-- The assembler is started for a test when there are some files. -/
def Descriptor.started (d : Descriptor) (host : Host) (assembler : Path) (files : FileTree) :
    Start :=
  ⟨d, files, d.start host assembler files⟩

/-- The starts of the assembler in some stages, of which the first finds the given files. -/
def Task.starts (task : Task) (host : Host) (assembler : Path) : FileTree → List Stage → List Start
  | _, [] => []
  | files, stage :: rest =>
    let later := task.starts host assembler stage.files rest
    if task.Wants stage.descriptor then stage.descriptor.started host assembler files :: later
    else later

/-- A relation holds of the files before and after each stretch of time in which the assembler does
not run: from the beginning to the first start, from what each start leaves to what the next one
finds, and from what the last one leaves to the end. -/
def Between (R : FileTree → FileTree → Prop) : FileTree → List Start → FileTree → Prop
  | files, [], final => R files final
  | files, start :: rest, final => R files start.found ∧ Between R start.left rest final

theorem Between.trans_left {R : FileTree → FileTree → Prop} {a b final : FileTree}
    {starts : List Start} (htrans : ∀ {x y z}, R x y → R y z → R x z) (hab : R a b)
    (h : Between R b starts final) : Between R a starts final := by
  cases starts with
  | nil => exact htrans hab h
  | cons start rest => exact ⟨htrans hab h.1, h.2⟩

section Perform

variable {task : Task} {host other : Host} {assembler : Path} {d : Descriptor} {files : FileTree}

theorem run_execute_congr {call : Invocation} {expected : Int}
    (henv : other.environment = host.environment)
    (hlaunch : other.launch (call.launch host.environment) files =
      host.launch (call.launch host.environment) files) :
    (execute other call expected).run.run files = (execute host call expected).run.run files := by
  apply Noted.ext <;> simp [execute, henv, hlaunch]

/-- What is done with a test depends on the host in no other way than through the start of the
assembler, and not even so if the assembler is not started. -/
theorem run_perform_congr (henv : other.environment = host.environment)
    (h : task.Wants d → d.start other assembler files = d.start host assembler files) :
    (task.perform other assembler d).run files = (task.perform host assembler d).run files := by
  have hexecute : task.Wants d →
      (execute other (d.invocation assembler) d.expectedExitCode).run.run files =
        (execute host (d.invocation assembler) d.expectedExitCode).run.run files := by
    intro hwants
    have hstart := h hwants
    rw [Descriptor.start, henv] at hstart
    exact run_execute_congr henv hstart
  cases hd : d.disabled with
  | some reason =>
    cases task with
    | verify => simp only [Task.perform, verify, hd]
    | update => simp only [Task.perform, update, hd]
  | none =>
    cases task with
    | verify =>
      have hrun := hexecute ⟨hd, by simp⟩
      apply Noted.ext <;> simp [Task.perform, verify, hd, hrun]
    | update =>
      cases hupdate : d.update with
      | false => simp [Task.perform, update, hupdate]
      | true =>
        have hrun := hexecute ⟨hd, fun _ => hupdate⟩
        apply Noted.ext <;> simp [Task.perform, update, hd, hupdate, hrun]

theorem files_perform_of_not_wants (h : ¬ task.Wants d) :
    ((task.perform host assembler d).run files).value.2 = files := by
  cases hd : d.disabled with
  | some reason =>
    cases task with
    | verify => simp [Task.perform, verify, hd]
    | update => cases hupdate : d.update <;> simp [Task.perform, update, hd, hupdate]
  | none =>
    cases task with
    | verify => exact absurd ⟨hd, by simp⟩ h
    | update =>
      cases hupdate : d.update with
      | false => simp [Task.perform, update, hupdate]
      | true => exact absurd ⟨hd, fun _ => hupdate⟩ h

/-- The working directory stays where it is when the assembler runs. -/
theorem origin_left (d : Descriptor) (host : Host) (assembler : Path) (files : FileTree) :
    (d.started host assembler files).left.origin = files.origin := by
  unfold Start.left Descriptor.started
  cases hstart : d.start host assembler files with
  | error cause => rfl
  | ok finished => exact origin_of_start hstart

/-- Running a test leaves the files that the assembler leaves. -/
theorem files_verify (hd : d.disabled = none) :
    ((verify host assembler d).run files).value.2 = (d.started host assembler files).left := by
  unfold Start.left Descriptor.started
  cases hstart : d.start host assembler files with
  | error cause => rw [value_verify_of_error hd hstart]
  | ok finished => rw [value_verify_of_ok hd hstart]

end Perform

/-! ## What replacing references touches -/

/-- A location is touched when a target is stored: what is moved may be a folder, with all that lies
below it, and what is written is a file. -/
def Target.Touches (d : Descriptor) (origin location : Location) (target : Target) : Prop :=
  match target.subject with
  | .artifact output reference _ =>
    d.expectsFailure = false ∧
      ((d.resolve output).Covers origin location ∨ (d.resolve reference).Covers origin location)
  | .capture _ reference => (d.resolve reference).place origin = location

/-- A location is touched when the references of a test are replaced. -/
def Descriptor.Touches (d : Descriptor) (origin location : Location) : Prop :=
  ∃ target ∈ d.targets, target.Touches d origin location

section Stored

variable {host : Host} {assembler : Path} {d : Descriptor} {files next : FileTree}
  {captured : Captured} {target : Target} {targets : List Target} {location : Location}

theorem content?_stored (h : target.stored d captured files = .ok next)
    (hother : ¬ target.Touches d files.origin location) :
    next.content? location = files.content? location := by
  unfold Target.stored at h
  unfold Target.Touches at hother
  cases hsubject : target.subject with
  | artifact output reference option =>
    cases hwanted : d.expectsFailure with
    | true =>
      simp only [hsubject, hwanted, if_true, Except.ok.injEq] at h
      rw [h]
    | false =>
      simp only [hsubject, hwanted, Bool.false_eq_true, if_false] at h
      simp only [hsubject, hwanted, true_and, not_or] at hother
      exact FileTree.content?_rename (mapError_eq_ok.1 h) hother.1 hother.2
  | capture stream reference =>
    simp only [hsubject] at h hother
    exact FileTree.content?_write (mapError_eq_ok.1 h) hother

/-- The working directory stays where it is when targets are stored, also when one of them cannot
be. -/
theorem origin_storeTargets :
    ((storeTargets d captured targets).run.run files).value.2.origin = files.origin := by
  induction targets generalizing files with
  | nil => rfl
  | cons target rest ih =>
    rw [storeTargets, value_run_run_bind, value_storeTarget]
    cases hstored : target.stored d captured files with
    | error failure => rfl
    | ok next => exact ih.trans (origin_of_stored hstored)

/-- Storing some targets leaves other locations as they are, also when one of them cannot be
stored. -/
theorem content?_storeTargets
    (hother : ∀ target ∈ targets, ¬ target.Touches d files.origin location) :
    ((storeTargets d captured targets).run.run files).value.2.content? location =
      files.content? location := by
  induction targets generalizing files with
  | nil => rfl
  | cons target rest ih =>
    rw [List.forall_mem_cons] at hother
    rw [storeTargets, value_run_run_bind, value_storeTarget]
    cases hstored : target.stored d captured files with
    | error failure => rfl
    | ok next =>
      have hfirst := content?_stored hstored hother.1
      exact (ih ((origin_of_stored hstored).symm ▸ hother.2)).trans hfirst

/-- Replacing the references of a test leaves other locations as the assembler leaves them. -/
theorem content?_update (hupdate : d.update = true) (hd : d.disabled = none)
    (hother : ¬ d.Touches files.origin location) :
    ((update host assembler d).run files).value.2.content? location =
      (d.started host assembler files).left.content? location := by
  unfold Start.left Descriptor.started
  cases hstart : d.start host assembler files with
  | error cause => rw [value_update_of_error hupdate hd hstart]
  | ok finished =>
    by_cases hcode : finished.ending.code = d.expectedExitCode
    · rw [value_update_of_ok hupdate hd hstart hcode]
      refine content?_storeTargets fun target hmem htouches => hother ⟨target, hmem, ?_⟩
      rwa [origin_of_start hstart] at htouches
    · rw [value_update_of_code hupdate hd hstart hcode]

theorem origin_update (hupdate : d.update = true) (hd : d.disabled = none) :
    ((update host assembler d).run files).value.2.origin = files.origin := by
  cases hstart : d.start host assembler files with
  | error cause => rw [value_update_of_error hupdate hd hstart]
  | ok finished =>
    by_cases hcode : finished.ending.code = d.expectedExitCode
    · rw [value_update_of_ok hupdate hd hstart hcode]
      exact origin_storeTargets.trans (origin_of_start hstart)
    · rw [value_update_of_code hupdate hd hstart hcode]
      exact origin_of_start hstart

/-- The working directory stays where it is, whatever is done with a test. -/
theorem origin_perform (task : Task) (host : Host) (assembler : Path) (d : Descriptor)
    (files : FileTree) :
    ((task.perform host assembler d).run files).value.2.origin = files.origin := by
  by_cases hwants : task.Wants d
  · cases task with
    | verify =>
      have hfiles : ((Task.verify.perform host assembler d).run files).value.2 =
          (d.started host assembler files).left := files_verify hwants.1
      rw [hfiles, origin_left]
    | update => exact origin_update (hwants.2 rfl) hwants.1
  · rw [files_perform_of_not_wants hwants]

end Stored

/-! ## A whole pass -/

section Passes

variable {task : Task} {host other : Host} {assembler : Path} {stop : Bool} {files final : FileTree}
  {d : Descriptor} {descriptors : List Descriptor} {later : List Stage}
  {R : FileTree → FileTree → Prop}

theorem processed_cons (stop : Bool) (stage : Stage) (rest : List Stage) :
    processed stop (stage :: rest) =
      stage :: if stop ∧ stage.verdict = .fail then [] else processed stop rest := by
  rw [processed]
  split_ifs <;> rfl

theorem starts_cons_of_wants (h : task.Wants d) (later : List Stage) :
    task.starts host assembler files (task.stage host assembler d files :: later) =
      d.started host assembler files ::
        task.starts host assembler (task.stage host assembler d files).files later :=
  if_pos h

theorem starts_cons_of_not_wants (h : ¬ task.Wants d) (later : List Stage) :
    task.starts host assembler files (task.stage host assembler d files :: later) =
      task.starts host assembler (task.stage host assembler d files).files later :=
  if_neg h

/-- One stage more in front: between its start and the next one the files change as they do after
the assembler has run. -/
theorem between_stage (hrefl : ∀ x, R x x) (htrans : ∀ {x y z}, R x y → R y z → R x z)
    (hstage : task.Wants d →
      R (d.started host assembler files).left (task.stage host assembler d files).files)
    (hlater : Between R (task.stage host assembler d files).files
      (task.starts host assembler (task.stage host assembler d files).files later) final) :
    Between R files (task.starts host assembler files (task.stage host assembler d files :: later))
      final := by
  by_cases hwants : task.Wants d
  · rw [starts_cons_of_wants hwants]
    exact ⟨hrefl files, hlater.trans_left htrans (hstage hwants)⟩
  · have hfiles : (task.stage host assembler d files).files = files :=
      files_perform_of_not_wants hwants
    rw [starts_cons_of_not_wants hwants]
    rw [hfiles] at hlater ⊢
    exact hlater

/-- What holds between the starts of every test holds between those of a pass. -/
theorem between_starts (hrefl : ∀ x, R x x) (htrans : ∀ {x y z}, R x y → R y z → R x z)
    (hstage : ∀ stage ∈ processed stop (task.stages host assembler descriptors files),
      task.Wants stage.descriptor → ∀ found : FileTree, found.origin = files.origin →
        R (stage.descriptor.started host assembler found).left
          (task.stage host assembler stage.descriptor found).files) :
    Between R files
      (task.starts host assembler files
        (processed stop (task.stages host assembler descriptors files)))
      (filesAfter files (processed stop (task.stages host assembler descriptors files))) := by
  induction descriptors generalizing files with
  | nil => exact hrefl files
  | cons d rest ih =>
    rw [Task.stages, processed_cons] at hstage ⊢
    rw [List.forall_mem_cons] at hstage
    refine between_stage hrefl htrans (fun hwants => hstage.1 hwants files rfl) ?_
    split_ifs at hstage ⊢ with hends
    · exact hrefl _
    · refine ih fun stage hmem hwants found hfound => hstage.2 stage hmem hwants found ?_
      exact hfound.trans (origin_perform task host assembler d files)

/-- A pass goes through the same stages on every host that answers its starts alike. -/
theorem processed_congr (henv : other.environment = host.environment)
    (h : ∀ start ∈ task.starts host assembler files
        (processed stop (task.stages host assembler descriptors files)),
      start.descriptor.start other assembler start.found = start.result) :
    processed stop (task.stages other assembler descriptors files) =
      processed stop (task.stages host assembler descriptors files) := by
  induction descriptors generalizing files with
  | nil => rfl
  | cons d rest ih =>
    rw [Task.stages, processed_cons] at h
    have hstart : task.Wants d → d.start other assembler files = d.start host assembler files := by
      intro hwants
      rw [starts_cons_of_wants hwants, List.forall_mem_cons] at h
      exact h.1
    have hstage : task.stage other assembler d files = task.stage host assembler d files := by
      rw [Task.stage, Task.stage, run_perform_congr henv hstart]
    have hlater : ∀ start ∈ task.starts host assembler (task.stage host assembler d files).files
        (if stop ∧ (task.stage host assembler d files).verdict = .fail then []
          else processed stop (task.stages host assembler rest
            (task.stage host assembler d files).files)),
        start.descriptor.start other assembler start.found = start.result := by
      by_cases hwants : task.Wants d
      · rw [starts_cons_of_wants hwants, List.forall_mem_cons] at h
        exact h.2
      · rw [starts_cons_of_not_wants hwants] at h
        exact h
    rw [Task.stages, Task.stages, processed_cons, processed_cons, hstage]
    split_ifs at hlater ⊢ with hends
    · rfl
    · rw [ih hlater]

theorem mem_starts {start : Start} {stages : List Stage}
    (h : start ∈ task.starts host assembler files stages) :
    task.Wants start.descriptor ∧ ∃ stage ∈ stages, start.descriptor = stage.descriptor := by
  induction stages generalizing files with
  | nil => cases h
  | cons stage rest ih =>
    have hrest : start ∈ task.starts host assembler stage.files rest →
        task.Wants start.descriptor ∧
          ∃ other ∈ stage :: rest, start.descriptor = other.descriptor := by
      intro hmem
      obtain ⟨hwants, other, hother, heq⟩ := ih hmem
      exact ⟨hwants, other, List.mem_cons_of_mem _ hother, heq⟩
    rw [Task.starts] at h
    by_cases hwants : task.Wants stage.descriptor
    · rw [if_pos hwants] at h
      rcases List.mem_cons.1 h with rfl | hmem
      · exact ⟨hwants, stage, List.mem_cons_self .., rfl⟩
      · exact hrest hmem
    · rw [if_neg hwants] at h
      exact hrest h

end Passes

/-- What a pass does to the files, beside starting the assembler. It is started for tests that the
pass comes to and that are not disabled, and if references are replaced, only for tests that allow
it; whatever else the host does has no influence on the pass. A pass that runs tests changes no file
at all: every start finds what the last one left, and so does whoever looks at the files in the end.
A pass that replaces references leaves the content as it is at every location that it does not
touch: which neither is nor lies below the place of an output or of its reference, and is not the
place of the reference of a stream, of a test whose references are replaced. -/
theorem passAll_keeps (task : Task) (host : Host) (config : Config) (descriptors : List Descriptor)
    (files : FileTree) :
    let pass := (passAll task host config descriptors).run files
    let done := processed config.stopOnFailure
      (task.stages host config.assembler descriptors files)
    let starts := task.starts host config.assembler files done
    (∀ start ∈ starts, start.descriptor.disabled = none ∧
      (task = .update → start.descriptor.update = true) ∧
      ∃ stage ∈ done, start.descriptor = stage.descriptor) ∧
    (∀ other : Host, other.environment = host.environment →
      (∀ start ∈ starts, start.descriptor.start other config.assembler start.found = start.result) →
      (passAll task other config descriptors).run files = pass) ∧
    (task = .verify → Between (fun before after => after = before) files starts pass.value.2) ∧
    ∀ location,
      (∀ stage ∈ done, stage.descriptor.update = true → stage.descriptor.disabled = none →
        ¬ stage.descriptor.Touches files.origin location) →
      Between (fun before after => after.content? location = before.content? location) files starts
        pass.value.2 := by
  intro pass done starts
  have hfinal : pass.value.2 = filesAfter files done :=
    congrArg (·.value.2) (run_passFrom descriptors)
  refine ⟨?_, ?_, ?_, ?_⟩
  · intro start hmem
    obtain ⟨⟨hd, hupdate⟩, hstage⟩ := mem_starts hmem
    exact ⟨hd, hupdate, hstage⟩
  · intro other henv hagree
    have hdone := processed_congr henv hagree
    rw [passAll, run_passFrom, hdone]
    exact (run_passFrom descriptors).symm
  · rintro rfl
    rw [hfinal]
    refine between_starts (fun _ => rfl) (fun h h' => h'.trans h) ?_
    intro stage hmem hwants found _
    exact files_verify hwants.1
  · intro location hother
    rw [hfinal]
    refine between_starts (fun _ => rfl) (fun h h' => h'.trans h) ?_
    intro stage hmem hwants found hfound
    cases task with
    | verify => exact congrArg (·.content? location) (files_verify hwants.1)
    | update =>
      have hupdate := hwants.2 rfl
      exact content?_update hupdate hwants.1 (hfound ▸ hother stage hmem hupdate hwants.1)

/-- Files with a folder where a test has its output. -/
def Sample.withFolder : FileTree where
  entries := [("t", .folder [("a.bin", .folder [("x", .file "hi".toUTF8 {})] .folder)] .folder)]

/-- The content changes at a place that is neither an output nor a reference: a file in a folder
that stands where an output is expected goes where the folder is moved. -/
theorem not_keeps_other_places :
    ¬ ∀ (host : Host) (config : Config) (descriptors : List Descriptor) (files : FileTree)
      (location : Location),
      let done := processed config.stopOnFailure
        (Task.update.stages host config.assembler descriptors files)
      (∀ stage ∈ done, stage.descriptor.update = true → stage.descriptor.disabled = none →
        ∀ target ∈ stage.descriptor.targets,
          files.place (stage.descriptor.resolve target.reference) ≠ location ∧
            ∀ output, target.output? = some output →
              files.place (stage.descriptor.resolve output) ≠ location) →
      Between (fun before after => after.content? location = before.content? location) files
        (Task.update.starts host config.assembler files done)
        ((passAll .update host config descriptors).run files).value.2 := by
  intro hall
  let host := Sample.host (.exited 0) "" "" []
  let d := Sample.test [Sample.binary]
  have hdone : processed true (Task.update.stages host "nasm" [d] Sample.withFolder) =
      [Task.update.stage host "nasm" d Sample.withFolder] := by
    rw [Task.stages, Task.stages, processed_cons, processed, ite_self]
  have hwants : Task.update.Wants d := ⟨rfl, fun _ => rfl⟩
  have hbetween := hall host { assembler := "nasm" } [d] Sample.withFolder ["t", "a.bin", "x"]
  simp only [hdone, starts_cons_of_wants hwants] at hbetween
  have hother : ∀ stage ∈ [Task.update.stage host "nasm" d Sample.withFolder],
      stage.descriptor.update = true → stage.descriptor.disabled = none →
      ∀ target ∈ stage.descriptor.targets,
        Sample.withFolder.place (stage.descriptor.resolve target.reference) ≠
            ["t", "a.bin", "x"] ∧
          ∀ output, target.output? = some output →
            Sample.withFolder.place (stage.descriptor.resolve output) ≠ ["t", "a.bin", "x"] := by
    intro stage hmem _ _ target htarget
    obtain rfl := List.mem_singleton.1 hmem
    obtain rfl := List.mem_singleton.1 htarget
    refine ⟨by decide +kernel, ?_⟩
    rintro output ⟨⟩
    decide +kernel
  have hkept : ((passAll .update host { assembler := "nasm" } [d]).run
      Sample.withFolder).value.2.content? ["t", "a.bin", "x"] =
        (d.started host "nasm" Sample.withFolder).left.content? ["t", "a.bin", "x"] :=
    (hbetween hother).2
  exact absurd hkept (by decide +kernel)

end AsmHarness
