import AsmHarness.Proofs.Execution
import AsmHarness.Pass
import Mathlib.Data.List.Induction
import Mathlib.Tactic.SplitIfs

/-!
# What a pass has done when it ends

A pass performs its task on one test after the other, each with the files that the one before has
left. So what a pass can do at most is known beforehand: the stages of performing the task on every
test. It is cut off behind the first failure that counts, if the configuration says so. The files,
the journal and the summary of a pass are all read off the stages that it went through.
-/

namespace AsmHarness

/-! ## Stages -/

/-- What came of performing a task on a test. -/
structure Stage where
  /-- The test. -/
  descriptor : Descriptor
  /-- How it ended. -/
  outcome : Outcome
  /-- The files it left. -/
  files : FileTree
  /-- What was noted on the way. -/
  journal : Journal

namespace Stage

/-- How the end of the test counts. -/
def verdict (stage : Stage) : Verdict := .of stage.descriptor stage.outcome

/-- The test failed, and its descriptor does not tolerate that. -/
def FailsHard (stage : Stage) : Prop :=
  (∃ failure, stage.outcome = .failed failure) ∧ stage.descriptor.toleratesFailure = false

/-- What a pass writes when the test has ended. -/
def banners (task : Task) (stop : Bool) (stage : Stage) : List Report.Entry :=
  match stage.outcome with
  | .done => [.banner task.mark stage.descriptor.name none]
  | .skipped reason => [.banner .skip stage.descriptor.name (some reason)]
  | .failed failure =>
    .banner .fail stage.descriptor.name (some failure.message) ::
      if stage.descriptor.toleratesFailure then [.banner .errorOver stage.descriptor.name none]
      else if stop then [.banner .abort stage.descriptor.name (some "Error detected")]
      else []

/-- All that is noted of the test. -/
def noted (task : Task) (stop : Bool) (stage : Stage) : Journal :=
  stage.journal ++ ⟨stage.banners task stop, []⟩

/-- The summary with the test counted. -/
def counted (task : Task) (stop : Bool) (s : Summary) (stage : Stage) : Summary :=
  match stage.verdict with
  | .pass => s.addDone task
  | .skip => s.addSkipped
  | .tolerated => s.addTolerated
  | .fail => s.addFailed stop

theorem verdict_eq_fail {stage : Stage} : stage.verdict = .fail ↔ stage.FailsHard := by
  unfold verdict Verdict.of Verdict.ofFailure FailsHard
  cases stage.outcome <;> simp

end Stage

/-- What comes of performing a task on a test. -/
def Task.stage (task : Task) (host : Host) (assembler : Path) (d : Descriptor) (files : FileTree) :
    Stage :=
  let ended := (task.perform host assembler d).run files
  ⟨d, ended.value.1, ended.value.2, ended.journal⟩

/-- What comes of performing a task on every test, in order. -/
def Task.stages (task : Task) (host : Host) (assembler : Path) :
    List Descriptor → FileTree → List Stage
  | [], _ => []
  | d :: rest, files =>
    let stage := task.stage host assembler d files
    stage :: task.stages host assembler rest stage.files

/-- The stages that a pass goes through: it may stop at a failure that counts. -/
def processed (stop : Bool) : List Stage → List Stage
  | [] => []
  | stage :: rest => if stop ∧ stage.verdict = .fail then [stage] else stage :: processed stop rest

/-- The files that some stages leave. -/
def filesAfter (files : FileTree) (stages : List Stage) : FileTree :=
  stages.foldl (fun _ stage => stage.files) files

/-- All that is noted of some stages. -/
def notedOf (task : Task) (stop : Bool) (stages : List Stage) : Journal :=
  stages.foldr (fun stage journal => stage.noted task stop ++ journal) .empty

/-! ## A pass and its stages -/

section Run

variable {task : Task} {host : Host} {config : Config} {s : Summary} {files : FileTree}

/-- What a pass does with the first of its tests, and how it goes on. -/
theorem run_passFrom_cons (d : Descriptor) (rest : List Descriptor) :
    (passFrom task host config s (d :: rest)).run files =
      let stage := task.stage host config.assembler d files
      let s := stage.counted task config.stopOnFailure s
      let next : Noted (Summary × FileTree) :=
        if config.stopOnFailure ∧ stage.verdict = .fail then pure (s, stage.files)
        else (passFrom task host config s rest).run stage.files
      ⟨next.value, stage.noted task config.stopOnFailure ++ next.journal⟩ := by
  obtain ⟨stage, hstage⟩ : ∃ stage, task.stage host config.assembler d files = stage := ⟨_, rfl⟩
  have hrun : (task.perform host config.assembler d).run files =
      ⟨(stage.outcome, stage.files), stage.journal⟩ := hstage ▸ rfl
  obtain rfl : stage.descriptor = d := hstage ▸ rfl
  rw [passFrom, StateT.run_bind, hrun, hstage]
  cases houtcome : stage.outcome with
  | done =>
    simp [Noted.ext_iff, houtcome, Stage.counted, Stage.verdict, Verdict.of, Stage.noted,
      Stage.banners, Journal.ext_iff]
  | skipped reason =>
    simp [Noted.ext_iff, houtcome, Stage.counted, Stage.verdict, Verdict.of, Stage.noted,
      Stage.banners, Journal.ext_iff]
  | failed failure =>
    cases htolerates : stage.descriptor.toleratesFailure with
    | true =>
      simp [Noted.ext_iff, houtcome, htolerates, Stage.counted, Stage.verdict, Verdict.of,
        Verdict.ofFailure, Stage.noted, Stage.banners, Journal.ext_iff]
    | false =>
      cases config.stopOnFailure <;>
        simp [Noted.ext_iff, houtcome, htolerates, Stage.counted, Stage.verdict, Verdict.of,
          Verdict.ofFailure, Stage.noted, Stage.banners, Journal.ext_iff]

/-- A pass leaves the files of the last stage it went through, counts every stage and notes what is
noted of them. -/
theorem run_passFrom (descriptors : List Descriptor) :
    (passFrom task host config s descriptors).run files =
      let done :=
        processed config.stopOnFailure (task.stages host config.assembler descriptors files)
      ⟨(done.foldl (Stage.counted task config.stopOnFailure) s, filesAfter files done),
        notedOf task config.stopOnFailure done⟩ := by
  induction descriptors generalizing s files with
  | nil => rfl
  | cons d rest ih =>
    rw [run_passFrom_cons, Task.stages, processed]
    by_cases hends : config.stopOnFailure ∧
        (task.stage host config.assembler d files).verdict = .fail
    · simp [hends, filesAfter, notedOf]
    · simp [hends, filesAfter, notedOf, ih]

end Run

/-! ## Which stages a pass goes through -/

section Processed

variable {stop : Bool} {stages : List Stage} {stage : Stage}

theorem descriptor_stages (task : Task) (host : Host) (assembler : Path)
    (descriptors : List Descriptor) (files : FileTree) :
    (task.stages host assembler descriptors files).map (·.descriptor) = descriptors := by
  induction descriptors generalizing files with
  | nil => rfl
  | cons d rest ih =>
    rw [Task.stages, List.map_cons, ih]
    rfl

/-- A pass begins at the first stage and leaves none out. -/
theorem processed_eq_take (stop : Bool) (stages : List Stage) :
    processed stop stages = stages.take (processed stop stages).length := by
  induction stages with
  | nil => rfl
  | cons stage stages ih =>
    rw [processed]
    split_ifs
    · rfl
    · rw [List.length_cons, List.take_succ_cons, ← ih]

/-- It goes through all stages if it does not stop at failures, or meets none that counts. -/
theorem processed_eq_self
    (h : stop = false ∨ ∀ stage ∈ processed stop stages, ¬ stage.FailsHard) :
    processed stop stages = stages := by
  induction stages with
  | nil => rfl
  | cons stage stages ih =>
    rw [processed] at h ⊢
    split_ifs at h ⊢ with hends
    · rcases h with hstop | hnone
      · simp [hstop] at hends
      · exact absurd (Stage.verdict_eq_fail.1 hends.2) (hnone stage (List.mem_singleton.2 rfl))
    · rw [ih (h.imp_right fun hnone other hother => hnone other (List.mem_cons_of_mem _ hother))]

/-- A failure that counts is the last stage of a pass that stops at failures, and the first one of
its kind. -/
theorem processed_eq_concat (hmem : stage ∈ processed true stages) (hfails : stage.FailsHard) :
    ∃ before, processed true stages = before ++ [stage] ∧
      ∀ earlier ∈ before, ¬ earlier.FailsHard := by
  induction stages with
  | nil => cases hmem
  | cons head stages ih =>
    rw [processed] at hmem ⊢
    split_ifs at hmem ⊢ with hends
    · obtain rfl := List.mem_singleton.1 hmem
      exact ⟨[], rfl, by simp⟩
    · have hhead : ¬ head.FailsHard := fun h => hends ⟨rfl, Stage.verdict_eq_fail.2 h⟩
      rcases List.mem_cons.1 hmem with rfl | hlater
      · exact absurd hfails hhead
      · obtain ⟨before, hbefore, hnone⟩ := ih hlater
        refine ⟨head :: before, by rw [hbefore, List.cons_append], ?_⟩
        rw [List.forall_mem_cons]
        exact ⟨hhead, hnone⟩

end Processed

/-! ## What a summary counts -/

/-- How many stages count in a way. -/
def countOf (verdict : Verdict) (stages : List Stage) : Nat :=
  stages.countP (·.verdict = verdict)

/-- The summary of a pass that went through some stages. -/
def Summary.ofStages (task : Task) (stop : Bool) (stages : List Stage) : Summary where
  passed := if task = .verify then countOf .pass stages else 0
  updated := if task = .update then countOf .pass stages else 0
  failed := countOf .fail stages
  skipped := countOf .skip stages
  tolerated := countOf .tolerated stages
  aborted := stop && 0 < countOf .fail stages

section Counts

variable {task : Task} {stop : Bool} {stages : List Stage} {stage : Stage}

theorem countOf_concat (verdict : Verdict) :
    countOf verdict (stages ++ [stage]) =
      countOf verdict stages + if stage.verdict = verdict then 1 else 0 := by
  simp [countOf, List.countP_append, List.countP_singleton]

theorem counted_ofStages :
    stage.counted task stop (.ofStages task stop stages) =
      .ofStages task stop (stages ++ [stage]) := by
  unfold Stage.counted Summary.ofStages
  cases hverdict : stage.verdict with
  | pass => cases task <;> simp [countOf_concat, hverdict, Summary.addDone]
  | fail => cases stop <;> simp [countOf_concat, hverdict, Summary.addFailed]
  | skip => simp [countOf_concat, hverdict, Summary.addSkipped]
  | tolerated => simp [countOf_concat, hverdict, Summary.addTolerated]

/-- Counting stages one after the other amounts to counting them all. -/
theorem foldl_counted :
    stages.foldl (Stage.counted task stop) {} = Summary.ofStages task stop stages := by
  induction stages using List.reverseRecOn with
  | nil => simp [Summary.ofStages, countOf]
  | append_singleton stages stage ih =>
    rw [List.foldl_append, ih, List.foldl_cons, List.foldl_nil]
    exact counted_ofStages

/-- Every stage counts in one way. -/
theorem countOf_total (stages : List Stage) :
    countOf .pass stages + countOf .skip stages + countOf .fail stages + countOf .tolerated stages =
      stages.length := by
  induction stages using List.reverseRecOn with
  | nil => rfl
  | append_singleton stages stage ih =>
    simp only [countOf_concat, List.length_append, List.length_singleton]
    cases stage.verdict <;> simp <;> omega

theorem countOf_fail_pos : 0 < countOf .fail stages ↔ ∃ stage ∈ stages, stage.FailsHard := by
  simp [countOf, List.countP_pos_iff, Stage.verdict_eq_fail]

theorem countOf_fail_eq_zero : countOf .fail stages = 0 ↔ ∀ stage ∈ stages, ¬ stage.FailsHard := by
  simp [countOf, List.countP_eq_zero, Stage.verdict_eq_fail]

theorem status_eq_failure {s : Summary} : s.status = .failure ↔ 0 < s.failed := by
  unfold Summary.status
  split_ifs with hfailed <;> simp [hfailed]

end Counts

/-- What the summary of a pass says, given the stages it could go through and those it went through.
-/
structure Summary.Describes (s : Summary) (task : Task) (stop : Bool) (all done : List Stage) :
    Prop where
  /-- The pass begins at the first stage and leaves none out. -/
  inOrder : done = all.take done.length
  /-- It goes through all stages if it does not stop at failures, or meets none that counts. -/
  whole : stop = false ∨ (∀ stage ∈ done, ¬ stage.FailsHard) → done = all
  /-- Else it ends with the first failure that counts. -/
  cut : stop = true → ∀ stage ∈ done, stage.FailsHard →
    ∃ before, done = before ++ [stage] ∧ ∀ earlier ∈ before, ¬ earlier.FailsHard
  /-- Tests that were run with success. -/
  passed : s.passed = if task = .verify then countOf .pass done else 0
  /-- Tests whose references were replaced. -/
  updated : s.updated = if task = .update then countOf .pass done else 0
  /-- Tests that were passed over. -/
  skipped : s.skipped = countOf .skip done
  /-- Failures that count. -/
  failed : s.failed = countOf .fail done
  /-- Failures that are tolerated. -/
  tolerated : s.tolerated = countOf .tolerated done
  /-- Every test is counted once. -/
  total : s.passed + s.updated + s.skipped + s.failed + s.tolerated = done.length
  /-- The pass was ended by a failure if it stops at failures and met one that counts. -/
  aborted : s.aborted = true ↔ stop = true ∧ 0 < s.failed
  /-- In that case it is the only one. -/
  single : s.aborted = true → s.failed = 1
  /-- The status is that of a failure if there was one that counts. -/
  status : s.status = .failure ↔ 0 < s.failed
  /-- Failures that are tolerated do not change it. -/
  status_iff : s.status = .failure ↔ ∃ stage ∈ done, stage.FailsHard

theorem ofStages_describes (task : Task) (stop : Bool) (stages : List Stage) :
    (Summary.ofStages task stop (processed stop stages)).Describes task stop stages
      (processed stop stages) where
  inOrder := processed_eq_take stop stages
  whole := processed_eq_self
  cut := by
    rintro rfl stage hmem hfails
    exact processed_eq_concat hmem hfails
  passed := rfl
  updated := rfl
  skipped := rfl
  failed := rfl
  tolerated := rfl
  total := by
    have htotal := countOf_total (processed stop stages)
    cases task <;> simp [Summary.ofStages] <;> omega
  aborted := by simp [Summary.ofStages]
  single := by
    intro haborted
    simp only [Summary.ofStages, Bool.and_eq_true, decide_eq_true_eq] at haborted ⊢
    obtain ⟨rfl, hpos⟩ := haborted
    obtain ⟨stage, hmem, hfails⟩ := countOf_fail_pos.1 hpos
    obtain ⟨before, hbefore, hnone⟩ := processed_eq_concat hmem hfails
    rw [hbefore, countOf_concat, countOf_fail_eq_zero.2 hnone,
      if_pos (Stage.verdict_eq_fail.2 hfails)]
  status := status_eq_failure
  status_iff := status_eq_failure.trans countOf_fail_pos

/-- A pass performs its task on the tests in order, each with the files that the one before has
left, up to the first failure that counts if the configuration says so. It leaves the files of the
last test, notes what is noted of each, and its summary says how many ended in which way. -/
theorem passAll_describes (task : Task) (host : Host) (config : Config)
    (descriptors : List Descriptor) (files : FileTree) :
    ∃ done s,
      (passAll task host config descriptors).run files =
        ⟨(s, filesAfter files done), notedOf task config.stopOnFailure done⟩ ∧
      done.map (·.descriptor) = descriptors.take done.length ∧
      s.Describes task config.stopOnFailure
        (task.stages host config.assembler descriptors files) done := by
  refine ⟨_, _, run_passFrom descriptors, ?_, ?_⟩
  · have htake := processed_eq_take config.stopOnFailure
      (task.stages host config.assembler descriptors files)
    exact (congrArg (List.map _) htake).trans (by rw [List.map_take, descriptor_stages])
  · rw [foldl_counted]
    exact ofStages_describes task config.stopOnFailure _

end AsmHarness
