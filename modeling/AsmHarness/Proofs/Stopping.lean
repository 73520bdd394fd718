import AsmHarness.Proofs.Pass
import AsmHarness.Proofs.Report

/-!
# Stopping at the first failure

Whether a pass stops at failures has no say in what it does with a test, only in whether it goes on.
So a pass that stops does, up to the first failure that counts, what a pass that goes on does, and
then writes that it stops. The two are compared at the moment at which the first failure that counts
has been reported; what a pass has written, counted and left by then is what it writes, counts and
leaves if it is given no tests beyond that one.
-/

namespace AsmHarness

/-! ## One part of a pass after the other -/

section Parts

variable {task : Task} {host : Host} {config : Config} {s : Summary} {files : FileTree}

theorem stages_append {assembler : Path} (before after : List Descriptor) :
    task.stages host assembler (before ++ after) files =
      task.stages host assembler before files ++
        task.stages host assembler after
          (filesAfter files (task.stages host assembler before files)) := by
  induction before generalizing files with
  | nil => rfl
  | cons d rest ih =>
    rw [List.cons_append, Task.stages, ih]
    rfl

theorem filesAfter_append (files : FileTree) (first second : List Stage) :
    filesAfter files (first ++ second) = filesAfter (filesAfter files first) second :=
  List.foldl_append

theorem notedOf_append (task : Task) (stop : Bool) (first second : List Stage) :
    notedOf task stop (first ++ second) =
      notedOf task stop first ++ notedOf task stop second := by
  induction first with
  | nil => exact (Journal.empty_append _).symm
  | cons stage rest ih =>
    have hcons : ∀ stages, notedOf task stop (stage :: stages) =
        stage.noted task stop ++ notedOf task stop stages := fun _ => rfl
    rw [List.cons_append, hcons, hcons, ih, Journal.append_assoc]

theorem notedOf_singleton (task : Task) (stop : Bool) (stage : Stage) :
    notedOf task stop [stage] = stage.noted task stop :=
  Journal.append_empty _

/-- A pass that does not stop takes up some tests with the summary and the files that it has made of
the tests before them. -/
theorem run_passFrom_append (hgoes : config.stopOnFailure = false)
    (before after : List Descriptor) :
    (passFrom task host config s (before ++ after)).run files =
      let first := (passFrom task host config s before).run files
      let next := (passFrom task host config first.value.1 after).run first.value.2
      ⟨next.value, first.journal ++ next.journal⟩ := by
  simp only [run_passFrom, processed_eq_self (.inl hgoes), stages_append, List.foldl_append,
    filesAfter_append, notedOf_append]

end Parts

/-! ## What stopping changes -/

section Changes

variable {task : Task} {stage : Stage} {stages : List Stage}

/-- Nothing, where a test does not fail in a way that counts. -/
theorem noted_eq_of_not_failsHard (stop other : Bool) (h : ¬ stage.FailsHard) :
    stage.noted task stop = stage.noted task other := by
  unfold Stage.noted Stage.banners
  cases houtcome : stage.outcome with
  | done => rfl
  | skipped reason => rfl
  | failed failure =>
    have htolerates : stage.descriptor.toleratesFailure = true := by
      rw [← Bool.not_eq_false]
      exact fun hcounts => h ⟨⟨failure, houtcome⟩, hcounts⟩
    simp only [htolerates, if_true]

theorem counted_eq_of_not_failsHard (stop other : Bool) (s : Summary) (h : ¬ stage.FailsHard) :
    stage.counted task stop s = stage.counted task other s := by
  unfold Stage.counted
  cases hverdict : stage.verdict with
  | pass => rfl
  | skip => rfl
  | tolerated => rfl
  | fail => exact absurd (Stage.verdict_eq_fail.1 hverdict) h

theorem notedOf_eq_of_none (stop other : Bool) (h : ∀ stage ∈ stages, ¬ stage.FailsHard) :
    notedOf task stop stages = notedOf task other stages := by
  induction stages with
  | nil => rfl
  | cons stage rest ih =>
    rw [List.forall_mem_cons] at h
    exact congrArg₂ Journal.append (noted_eq_of_not_failsHard stop other h.1) (ih h.2)

theorem foldl_counted_eq_of_none (stop other : Bool) (s : Summary)
    (h : ∀ stage ∈ stages, ¬ stage.FailsHard) :
    stages.foldl (Stage.counted task stop) s = stages.foldl (Stage.counted task other) s := by
  induction stages generalizing s with
  | nil => rfl
  | cons stage rest ih =>
    rw [List.forall_mem_cons] at h
    rw [List.foldl_cons, List.foldl_cons, counted_eq_of_not_failsHard stop other s h.1, ih _ h.2]

/-- At a failure that counts, the pass also writes that it stops, and why. -/
theorem noted_of_failsHard (h : stage.FailsHard) :
    stage.noted task true = stage.noted task false ++
      ⟨[.banner .abort stage.descriptor.name (some "Error detected")], []⟩ := by
  obtain ⟨⟨failure, hfailed⟩, hcounts⟩ := h
  rw [Stage.noted, Stage.noted, Journal.append_assoc]
  unfold Stage.banners
  simp only [hfailed, hcounts, Bool.false_eq_true, if_false, if_true]
  rfl

/-- Its summary says so, and counts the same. -/
theorem counted_of_failsHard (s : Summary) (h : stage.FailsHard) :
    stage.counted task true s = { stage.counted task false s with aborted := true } := by
  unfold Stage.counted
  simp only [Stage.verdict_eq_fail.2 h, Summary.addFailed, Bool.or_true]

/-- It goes through the stages up to this one. -/
theorem processed_of_first {before after : List Stage} (h : stage.FailsHard)
    (hnone : ∀ earlier ∈ before, ¬ earlier.FailsHard) :
    processed true (before ++ stage :: after) = before ++ [stage] := by
  induction before with
  | nil => rw [List.nil_append, processed, if_pos ⟨rfl, Stage.verdict_eq_fail.2 h⟩, List.nil_append]
  | cons first rest ih =>
    rw [List.forall_mem_cons] at hnone
    have hon : ¬ (true ∧ first.verdict = .fail) :=
      fun hends => hnone.1 (Stage.verdict_eq_fail.1 hends.2)
    rw [List.cons_append, processed, if_neg hon, ih hnone.2, List.cons_append]

end Changes

/-! ## The first failure that counts -/

/-- A test, `d`, is the first of a pass to fail in a way that counts. -/
structure FirstHardFailure (task : Task) (host : Host) (assembler : Path) (files : FileTree)
    (before : List Descriptor) (d : Descriptor) (failure : Failure) : Prop where
  /-- Of the tests before it none fails in a way that counts. -/
  earlier : ∀ stage ∈ task.stages host assembler before files, ¬ stage.FailsHard
  /-- It fails, given the files that those tests have left. -/
  failed : ((task.perform host assembler d).run
    (filesAfter files (task.stages host assembler before files))).value.1 = .failed failure
  /-- The failure is not tolerated. -/
  counts : d.toleratesFailure = false

/-- If a test fails in a way that counts, then one is the first to do so. -/
theorem exists_firstHardFailure (task : Task) (host : Host) (assembler : Path)
    (descriptors : List Descriptor) (files : FileTree) :
    (∀ stage ∈ task.stages host assembler descriptors files, ¬ stage.FailsHard) ∨
      ∃ before d after failure, descriptors = before ++ d :: after ∧
        FirstHardFailure task host assembler files before d failure := by
  induction descriptors generalizing files with
  | nil => exact .inl (by simp [Task.stages])
  | cons d rest ih =>
    by_cases hfails : (task.stage host assembler d files).FailsHard
    · obtain ⟨⟨failure, hfailed⟩, hcounts⟩ := hfails
      exact .inr ⟨[], d, rest, failure, rfl, by simp [Task.stages], hfailed, hcounts⟩
    · rcases ih (task.stage host assembler d files).files with hnone |
        ⟨before, e, after, failure, rfl, hfirst⟩
      · refine .inl ?_
        rw [Task.stages, List.forall_mem_cons]
        exact ⟨hfails, hnone⟩
      · refine .inr ⟨d :: before, e, after, failure, rfl, ?_, hfirst.failed, hfirst.counts⟩
        rw [Task.stages, List.forall_mem_cons]
        exact ⟨hfails, hfirst.earlier⟩

/-! ## The two passes -/

/-- The configuration with a decision on whether a failure that counts ends the pass. -/
def Config.stopping (config : Config) (stop : Bool) : Config :=
  { config with stopOnFailure := stop }

section Passes

variable {task : Task} {host : Host} {config : Config} {files : FileTree}

/-- Without a failure that counts, a pass is the same whether or not it would stop at one. -/
theorem run_passAll_of_none {descriptors : List Descriptor}
    (h : ∀ stage ∈ task.stages host config.assembler descriptors files, ¬ stage.FailsHard) :
    (passAll task host (config.stopping true) descriptors).run files =
      (passAll task host (config.stopping false) descriptors).run files := by
  have hprocessed : ∀ stop, processed stop
      (task.stages host config.assembler descriptors files) =
        task.stages host config.assembler descriptors files :=
    fun stop => processed_eq_self
      (.inr fun stage hmem => h stage (List.mem_of_mem_take (processed_eq_take stop _ ▸ hmem)))
  simp only [passAll, run_passFrom, Config.stopping, hprocessed, notedOf_eq_of_none true false h,
    foldl_counted_eq_of_none true false _ h]

variable {before after : List Descriptor} {d : Descriptor} {failure : Failure}

/-- The stage of the first failure that counts, and the stages before and behind it. -/
theorem FirstHardFailure.exists_stage
    (h : FirstHardFailure task host config.assembler files before d failure)
    (after : List Descriptor) :
    ∃ earlier stage later, stage.FailsHard ∧ stage.descriptor = d ∧
      stage.outcome = .failed failure ∧ (∀ other ∈ earlier, ¬ other.FailsHard) ∧
      task.stages host config.assembler (before ++ [d]) files = earlier ++ [stage] ∧
      task.stages host config.assembler (before ++ d :: after) files =
        earlier ++ stage :: later :=
  ⟨_, task.stage host config.assembler d _, _, ⟨⟨failure, h.failed⟩, h.counts⟩, rfl, h.failed,
    h.earlier, stages_append before [d], stages_append before (d :: after)⟩

/-- At the first failure that counts, a pass has just written the banner of that failure. -/
theorem FirstHardFailure.banner_last
    (h : FirstHardFailure task host config.assembler files before d failure) :
    ∃ earlier, ((passAll task host (config.stopping false) (before ++ [d])).run
        files).journal.report =
      earlier ++ [.banner .fail d.name (some failure.message)] := by
  obtain ⟨earlier, stage, -, hfails, rfl, hfailed, -, hstages, -⟩ := h.exists_stage []
  refine ⟨(notedOf task false earlier).report ++ stage.journal.report, ?_⟩
  have hbanners : stage.banners task false =
      [.banner .fail stage.descriptor.name (some failure.message)] := by
    unfold Stage.banners
    simp [hfailed, hfails.2]
  simp only [passAll, run_passFrom, Config.stopping, hstages, processed_eq_self (.inl rfl),
    notedOf_append, notedOf_singleton, Stage.noted, hbanners, Journal.report_append,
    List.append_assoc]

/-- A pass that stops ends there, with the banner that says so. -/
theorem FirstHardFailure.run_passAll
    (h : FirstHardFailure task host config.assembler files before d failure)
    (after : List Descriptor) :
    (passAll task host (config.stopping true) (before ++ d :: after)).run files =
      let moment := (passAll task host (config.stopping false) (before ++ [d])).run files
      ⟨({ moment.value.1 with aborted := true }, moment.value.2),
        moment.journal ++ ⟨[.banner .abort d.name (some "Error detected")], []⟩⟩ := by
  obtain ⟨earlier, stage, later, hfails, rfl, -, hnone, hmoment, hwhole⟩ := h.exists_stage after
  simp only [passAll, run_passFrom, Config.stopping, hmoment, hwhole,
    processed_of_first hfails hnone, processed_eq_self (.inl rfl), List.foldl_append,
    List.foldl_cons, List.foldl_nil, notedOf_append, notedOf_singleton, noted_of_failsHard hfails,
    counted_of_failsHard _ hfails, notedOf_eq_of_none true false hnone,
    foldl_counted_eq_of_none true false _ hnone, Journal.append_assoc]

end Passes

namespace Report

/-- A banner with a reason is a line that gives the reason and a line that gives the verdict. -/
theorem render_banner (mark : Mark) (name reason : String) :
    render [.banner mark name (some reason)] =
      "\t" ++ name ++ ": " ++ reason ++ "\n=== Test " ++ name ++ " " ++ mark.word ++ " ===\n" := by
  rw [← String.toList_inj]
  simp [render, Entry.lines, indented]

end Report

/-- A pass that stops at failures, next to the same pass that does not. If no test fails in a way
that counts, the two are the same: they write, count and leave the same. Else let `d` be the first
test that fails so. The pass that goes on comes to a moment at which it has written the banner of
that failure, and has counted and left something; then it takes up the other tests. The pass that
stops writes what the other has written by then and two lines more, which say that it stops at `d`;
it has counted the same, and leaves the same files. -/
theorem passAll_stopping (task : Task) (host : Host) (config : Config)
    (descriptors : List Descriptor) (files : FileTree) :
    let whole := (passAll task host (config.stopping false) descriptors).run files
    let stopped := (passAll task host (config.stopping true) descriptors).run files
    ((∀ stage ∈ task.stages host config.assembler descriptors files, ¬ stage.FailsHard) ∧
      stopped = whole) ∨
    ∃ before d after failure, descriptors = before ++ d :: after ∧
      FirstHardFailure task host config.assembler files before d failure ∧
      let moment := (passAll task host (config.stopping false) (before ++ [d])).run files
      let rest := (passFrom task host (config.stopping false) moment.value.1 after).run
        moment.value.2
      (∃ earlier, moment.journal.report =
        earlier ++ [.banner .fail d.name (some failure.message)]) ∧
      whole = ⟨rest.value, moment.journal ++ rest.journal⟩ ∧
      stopped.journal = moment.journal ++
        ⟨[.banner .abort d.name (some "Error detected")], []⟩ ∧
      Report.render stopped.journal.report = Report.render moment.journal.report ++
        ("\t" ++ d.name ++ ": Error detected\n=== Test " ++ d.name ++ " ABORT ===\n") ∧
      stopped.value.1 = { moment.value.1 with aborted := true } ∧
      stopped.value.2 = moment.value.2 := by
  intro whole stopped
  rcases exists_firstHardFailure task host config.assembler descriptors files with hnone |
    ⟨before, d, after, failure, hsplit, hfirst⟩
  · exact .inl ⟨hnone, run_passAll_of_none hnone⟩
  · subst hsplit
    have hstopped := hfirst.run_passAll after
    have hwhole :
        (passFrom task host (config.stopping false) {} (before ++ [d] ++ after)).run files = _ :=
      run_passFrom_append rfl (before ++ [d]) after
    rw [List.append_assoc, List.singleton_append] at hwhole
    have hjournal : stopped.journal = _ := congrArg Noted.journal hstopped
    refine .inr ⟨before, d, after, failure, rfl, hfirst, hfirst.banner_last, hwhole, hjournal, ?_,
      congrArg (·.value.1) hstopped, congrArg (·.value.2) hstopped⟩
    rw [hjournal, Journal.report_append, Report.render_append, Report.render_banner]
    simp only [Report.Mark.word, String.append_assoc]
    rfl

end AsmHarness
