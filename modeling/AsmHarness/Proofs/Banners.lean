import AsmHarness.Proofs.Pass
import AsmHarness.Proofs.Reported
import Mathlib.Data.List.Forall2

/-!
# Whether the banners can be trusted

Scripts look for the banners of a report: lines that begin and end in a certain way. As long as the
descriptors have no line feeds in what is reported of them, the only such lines are the banners that
a pass writes, and there are as many of each as the summary says.
-/

namespace AsmHarness

open Text (OneLine)

namespace Report

/-- A line is read as a banner with a mark: it begins and ends like one. -/
def Mark.IsBanner (mark : Mark) (line : String) : Prop :=
  "=== Test ".toList <+: line.toList ∧ (" " ++ mark.word ++ " ===").toList <:+ line.toList

instance (mark : Mark) (line : String) : Decidable (mark.IsBanner line) :=
  inferInstanceAs (Decidable (_ ∧ _))

/-- How many lines of a report are read as banners with a mark. -/
def bannerCount (mark : Mark) (report : String) : Nat :=
  (Text.lines report).countP (mark.IsBanner ·)

variable {mark other : Mark} {entry : Entry} {line : String}

/-- No word of a banner is the end of another. -/
theorem eq_of_suffix_words (h : (" " ++ other.word ++ " ===").toList <:+
    (" " ++ mark.word ++ " ===").toList) : other = mark := by
  revert h
  cases other <;> cases mark <;> decide

/-- A banner is read as what it is, whatever the name. -/
theorem isBanner_banner_iff (name : String) :
    other.IsBanner ("=== Test " ++ name ++ " " ++ mark.word ++ " ===") ↔ other = mark := by
  have hend : (" " ++ mark.word ++ " ===").toList <:+
      ("=== Test " ++ name ++ " " ++ mark.word ++ " ===").toList := by
    simp only [String.toList_append, List.append_assoc]
    exact (List.suffix_append _ _).trans (List.suffix_append _ _)
  constructor
  · rintro ⟨-, hother⟩
    rcases List.suffix_or_suffix_of_suffix hother hend with h | h
    · exact eq_of_suffix_words h
    · exact (eq_of_suffix_words h).symm
  · rintro rfl
    refine ⟨?_, hend⟩
    simp only [String.toList_append, List.append_assoc]
    exact List.prefix_append _ _

theorem IndentedLine.not_isBanner (h : IndentedLine line) : ¬ mark.IsBanner line := by
  rintro ⟨hopen, -⟩
  obtain ⟨text, -, rfl⟩ := h
  obtain ⟨rest, hrest⟩ := hopen
  have hhead := congrArg List.head? hrest
  simp [indented] at hhead

theorem Entry.Quiet.not_isBanner (h : entry.Quiet) (hline : line ∈ entry.lines) :
    ¬ mark.IsBanner line := by
  rcases h.line_cases hline with hindented | ⟨name, -, rfl | rfl⟩
  · exact hindented.not_isBanner
  · rintro ⟨⟨rest, hrest⟩, -⟩
    have hfifth := congrArg (·[4]?) hrest
    simp at hfifth
  · rintro ⟨⟨rest, hrest⟩, -⟩
    have hfifth := congrArg (·[4]?) hrest
    simp at hfifth

theorem countP_quiet (mark : Mark) {entries : List Entry} (h : ∀ entry ∈ entries, entry.Quiet) :
    (entries.flatMap (·.lines)).countP (mark.IsBanner ·) = 0 := by
  rw [List.countP_eq_zero]
  intro line hline
  obtain ⟨entry, hentry, hmem⟩ := List.mem_flatMap.1 hline
  simpa using (h entry hentry).not_isBanner hmem

/-- An entry is a banner with a mark, and no text in it has a line feed. -/
def Entry.Gives (mark : Mark) (entry : Entry) : Prop :=
  ∃ name reason, entry = .banner mark name reason ∧ OneLine name ∧ ∀ text ∈ reason, OneLine text

theorem gives_plain (mark : Mark) {name : String} (hname : OneLine name) :
    (Entry.banner mark name none).Gives mark :=
  ⟨name, none, rfl, hname, by simp⟩

theorem gives_reasoned (mark : Mark) {name reason : String} (hname : OneLine name)
    (hreason : OneLine reason) : (Entry.banner mark name (some reason)).Gives mark :=
  ⟨name, some reason, rfl, hname, by simpa using hreason⟩

/-- Such an entry is one line that is read as a banner, and a reason before it that is not. -/
theorem Entry.Gives.countP_lines (h : entry.Gives mark) :
    entry.lines.countP (other.IsBanner ·) = [mark].count other := by
  obtain ⟨name, reason, rfl, hname, hreason⟩ := h
  have hcolon : OneLine ": " := by decide
  have hverdict : [("=== Test " ++ name ++ " " ++ mark.word ++ " ===")].countP
      (other.IsBanner ·) = [mark].count other := by
    rw [List.countP_singleton, List.count_singleton]
    by_cases hmark : other = mark
    · simp [isBanner_banner_iff, hmark]
    · simp [isBanner_banner_iff, hmark, Ne.symm hmark]
  cases reason with
  | none => exact hverdict
  | some text =>
    have hindented : IndentedLine (indented (name ++ ": " ++ text)) :=
      indentedLine ((hname.append hcolon).append (hreason text rfl))
    have hlines : (Entry.banner mark name (some text)).lines =
        [indented (name ++ ": " ++ text), "=== Test " ++ name ++ " " ++ mark.word ++ " ==="] := rfl
    rw [hlines, List.countP_cons_of_neg (by simpa using hindented.not_isBanner)]
    exact hverdict

theorem Entry.Gives.oneLine (h : entry.Gives mark) (hline : line ∈ entry.lines) :
    OneLine line := by
  obtain ⟨name, reason, rfl, hname, hreason⟩ := h
  have hcolon : OneLine ": " := by decide
  have hopen : OneLine "=== Test " := by decide
  have hblank : OneLine " " := by decide
  have hclose : OneLine " ===" := by decide
  have hword : OneLine mark.word := by cases mark <;> decide
  rcases List.mem_append.1 hline with hmem | hmem
  · obtain ⟨text, htext, rfl⟩ := List.mem_map.1 hmem
    have htext := hreason text (Option.mem_toList.1 htext)
    exact (indentedLine ((hname.append hcolon).append htext)).oneLine
  · rw [List.mem_singleton.1 hmem]
    exact (((hopen.append hname).append hblank).append hword).append hclose

theorem countP_of_gives {marks : List Mark} {entries : List Entry}
    (h : List.Forall₂ (fun mark entry => entry.Gives mark) marks entries) :
    (entries.flatMap (·.lines)).countP (other.IsBanner ·) = marks.count other := by
  induction h with
  | nil => rfl
  | cons hfirst hrest ih =>
    rw [List.flatMap_cons, List.countP_append, hfirst.countP_lines, ih, ← List.count_append]
    rfl

theorem oneLine_of_gives {marks : List Mark} {entries : List Entry}
    (h : List.Forall₂ (fun mark entry => entry.Gives mark) marks entries)
    (hentry : entry ∈ entries) (hline : line ∈ entry.lines) : OneLine line := by
  induction h with
  | nil => cases hentry
  | cons hfirst hrest ih =>
    rcases List.mem_cons.1 hentry with rfl | hlater
    · exact hfirst.oneLine hline
    · exact ih hlater

end Report

/-! ## Stages -/

/-- The banners that a test ends with, by how it counts. -/
def Verdict.marks (task : Task) (stop : Bool) : Verdict → List Report.Mark
  | .pass => [task.mark]
  | .skip => [.skip]
  | .tolerated => [.fail, .errorOver]
  | .fail => if stop then [.fail, .abort] else [.fail]

/-- How many banners of a mark a summary speaks of. -/
def Summary.tally (s : Summary) : Report.Mark → Nat
  | .pass => s.passed
  | .fail => s.failed + s.tolerated
  | .skip => s.skipped
  | .abort => if s.aborted then 1 else 0
  | .errorOver => s.tolerated
  | .updated => s.updated

/-- What is noted of a test can be read in one way: the lines before the verdict are no banners, and
what the verdict says has no line feed. -/
structure Stage.Readable (stage : Stage) : Prop where
  name : OneLine stage.descriptor.name
  quiet : ∀ entry ∈ stage.journal.report, entry.Quiet
  skipped : ∀ reason, stage.outcome = .skipped reason → OneLine reason
  failed : ∀ failure, stage.outcome = .failed failure → OneLine failure.message

section Stages

variable {task : Task} {stop : Bool} {stage : Stage} {stages : List Stage} {mark : Report.Mark}
  {host : Host} {assembler : Path} {d : Descriptor} {files : FileTree}

theorem readable_stage (h : d.OneLine) (hassembler : OneLine assembler) :
    (task.stage host assembler d files).Readable where
  name := h.name
  quiet := by
    cases task with
    | verify => exact reports_verify h hassembler
    | update => exact reports_update h hassembler
  skipped := by
    intro reason hskipped
    cases task with
    | verify => exact oneLine_of_verify_skipped h hskipped
    | update => exact oneLine_of_update_skipped h hskipped
  failed := by
    intro failure hfailed
    cases task with
    | verify => exact oneLine_of_verify h hassembler hfailed
    | update => exact oneLine_of_update h hassembler hfailed

theorem readable_of_mem_stages {descriptors : List Descriptor} (hassembler : OneLine assembler)
    (hd : ∀ d ∈ descriptors, d.OneLine)
    (hstage : stage ∈ task.stages host assembler descriptors files) : stage.Readable := by
  induction descriptors generalizing files with
  | nil => cases hstage
  | cons d rest ih =>
    rw [List.forall_mem_cons] at hd
    rcases List.mem_cons.1 hstage with rfl | hlater
    · exact readable_stage hd.1 hassembler
    · exact ih hd.2 hlater

theorem mem_of_mem_processed (h : stage ∈ processed stop stages) : stage ∈ stages := by
  rw [processed_eq_take] at h
  exact List.mem_of_mem_take h

/-- The banners of a test are those that go with how it counts. -/
theorem forall₂_banners (h : stage.Readable) :
    List.Forall₂ (fun mark entry => Report.Entry.Gives mark entry)
      (stage.verdict.marks task stop) (stage.banners task stop) := by
  unfold Stage.banners Stage.verdict Verdict.of Verdict.ofFailure
  cases houtcome : stage.outcome with
  | done => exact .cons (Report.gives_plain _ h.name) .nil
  | skipped reason =>
    have hreason := h.skipped reason houtcome
    exact .cons (Report.gives_reasoned _ h.name hreason) .nil
  | failed failure =>
    have hfail := Report.gives_reasoned .fail h.name (h.failed failure houtcome)
    have hdetected : OneLine "Error detected" := by decide
    have habort := Report.gives_reasoned .abort h.name hdetected
    cases stage.descriptor.toleratesFailure with
    | true => exact .cons hfail (.cons (Report.gives_plain _ h.name) .nil)
    | false =>
      cases stop with
      | true => exact .cons hfail (.cons habort .nil)
      | false => exact .cons hfail .nil

/-- All banners of some stages are those that go with how the tests count. -/
theorem countP_noted (h : ∀ stage ∈ stages, stage.Readable) :
    ((notedOf task stop stages).report.flatMap (·.lines)).countP (mark.IsBanner ·) =
      (stages.flatMap fun stage => stage.verdict.marks task stop).count mark := by
  induction stages with
  | nil => rfl
  | cons stage rest ih =>
    rw [List.forall_mem_cons] at h
    have hjournal := Report.countP_quiet mark h.1.quiet
    have hreport : (notedOf task stop (stage :: rest)).report =
        stage.journal.report ++ stage.banners task stop ++ (notedOf task stop rest).report := rfl
    rw [hreport, List.flatMap_append, List.flatMap_append, List.countP_append, List.countP_append,
      hjournal, Report.countP_of_gives (forall₂_banners h.1), ih h.2, List.flatMap_cons,
      List.count_append]
    omega

theorem oneLine_of_mem_noted (h : ∀ stage ∈ stages, stage.Readable) {entry : Report.Entry}
    {line : String} (hentry : entry ∈ (notedOf task stop stages).report)
    (hline : line ∈ entry.lines) : OneLine line := by
  induction stages with
  | nil => cases hentry
  | cons stage rest ih =>
    rw [List.forall_mem_cons] at h
    rcases List.mem_append.1 hentry with hstage | hlater
    · rcases List.mem_append.1 hstage with hquiet | hbanner
      · exact (h.1.quiet entry hquiet).oneLine hline
      · exact Report.oneLine_of_gives (forall₂_banners h.1) hbanner hline
    · exact ih h.2 hlater

theorem countOf_cons (verdict : Verdict) :
    countOf verdict (stage :: stages) =
      countOf verdict stages + if stage.verdict = verdict then 1 else 0 := by
  simp [countOf, List.countP_cons]

/-- What goes with how each of some tests counts can be counted verdict by verdict. -/
theorem count_flatMap_verdict (marks : Verdict → List Report.Mark) (stages : List Stage) :
    (stages.flatMap fun stage => marks stage.verdict).count mark =
      countOf .pass stages * (marks .pass).count mark +
        countOf .skip stages * (marks .skip).count mark +
        countOf .fail stages * (marks .fail).count mark +
        countOf .tolerated stages * (marks .tolerated).count mark := by
  induction stages with
  | nil => simp [countOf]
  | cons stage rest ih =>
    rw [List.flatMap_cons, List.count_append, ih]
    simp only [countOf_cons]
    cases stage.verdict <;> simp [Nat.add_mul] <;> omega

/-- The banners that go with some stages are as many as their summary says, if at most one failure
that counts is among them when the pass stops at such a failure. -/
theorem count_marks (hsingle : stop = true → countOf .fail stages ≤ 1) :
    (stages.flatMap fun stage => stage.verdict.marks task stop).count mark =
      (Summary.ofStages task stop stages).tally mark := by
  rw [count_flatMap_verdict fun verdict => verdict.marks task stop]
  cases mark with
  | abort =>
    cases stop with
    | false => cases task <;> simp [Verdict.marks, Summary.tally, Summary.ofStages, Task.mark]
    | true =>
      have hone : countOf .fail stages ≤ 1 := hsingle rfl
      by_cases hnone : countOf .fail stages = 0
      · cases task <;> simp [Verdict.marks, Summary.tally, Summary.ofStages, Task.mark, hnone]
      · have hsome : countOf .fail stages = 1 := by omega
        cases task <;> simp [Verdict.marks, Summary.tally, Summary.ofStages, Task.mark, hsome]
  | _ =>
    cases task <;> cases stop <;>
      simp [Verdict.marks, Summary.tally, Summary.ofStages, Task.mark]

end Stages

/-! ## Main results -/

/-- As long as neither the assembler nor a test has a line feed in what is reported, the lines of
the report of a pass that are read as banners are as many of each mark as the summary says, whatever
the assembler writes and whatever stands in the files. -/
theorem bannerCount_passAll (task : Task) (host : Host) (config : Config)
    (descriptors : List Descriptor) (files : FileTree) (hassembler : OneLine config.assembler)
    (hd : ∀ d ∈ descriptors, d.OneLine) (mark : Report.Mark) :
    let pass := (passAll task host config descriptors).run files
    Report.bannerCount mark (Report.render pass.journal.report) = pass.value.1.tally mark := by
  intro pass
  obtain ⟨done, hdone⟩ : ∃ done, done = processed config.stopOnFailure
      (task.stages host config.assembler descriptors files) := ⟨_, rfl⟩
  have hsummary : pass.value.1 = .ofStages task config.stopOnFailure done := by
    rw [hdone, ← foldl_counted]
    exact congrArg (·.value.1) (run_passFrom descriptors)
  have hjournal : pass.journal = notedOf task config.stopOnFailure done := by
    rw [hdone]
    exact congrArg (·.journal) (run_passFrom descriptors)
  have hreadable : ∀ stage ∈ done, stage.Readable := by
    intro stage hmem
    rw [hdone] at hmem
    exact readable_of_mem_stages hassembler hd (mem_of_mem_processed hmem)
  have hdescribes := ofStages_describes task config.stopOnFailure
    (task.stages host config.assembler descriptors files)
  have hsingle : config.stopOnFailure = true → countOf .fail done ≤ 1 := by
    intro hstop
    rw [hdone]
    by_contra hmany
    have haborted := hdescribes.aborted.2 ⟨hstop, by simp only [Summary.ofStages]; omega⟩
    have hone := hdescribes.single haborted
    simp only [Summary.ofStages] at hone
    omega
  have hlines : Text.lines (Report.render pass.journal.report) =
      pass.journal.report.flatMap (·.lines) ++ [""] := by
    refine Report.lines_render fun entry hentry line hline => ?_
    rw [hjournal] at hentry
    exact oneLine_of_mem_noted hreadable hentry hline
  have hempty : [""].countP (mark.IsBanner ·) = 0 := by
    cases mark <;> decide
  rw [Report.bannerCount, hlines, List.countP_append, hempty, hjournal, countP_noted hreadable,
    count_marks hsingle, hsummary, Nat.add_zero]

/-- An assembler that writes a banner does not make a test pass, nor does it seem so. -/
theorem bannerCount_passAll_written :
    OneLine "nasm" ∧ (Sample.test []).OneLine ∧
      let pass := (passAll .verify (Sample.host (.exited 0) "=== Test t/a PASS ===\n" "" [])
        { assembler := "nasm" } [Sample.test []]).run Sample.files
      Report.bannerCount .pass (Report.render pass.journal.report) = 0 ∧
        Report.bannerCount .fail (Report.render pass.journal.report) = 1 := by
  have hassembler : OneLine "nasm" := by decide
  have hd : (Sample.test []).OneLine :=
    ⟨by decide, by decide, by simp [Sample.test], by simp [Sample.test], by simp [Sample.test],
      by simp [Sample.test], by simp [Sample.test]⟩
  have hcount := bannerCount_passAll .verify
    (Sample.host (.exited 0) "=== Test t/a PASS ===\n" "" []) { assembler := "nasm" }
    [Sample.test []] Sample.files hassembler (by simpa using hd)
  refine ⟨hassembler, hd, (hcount .pass).trans ?_, (hcount .fail).trans ?_⟩
  · decide +kernel
  · decide +kernel

/-- The reason that a test is disabled for may have a line that is read as a banner of another test:
the report of a pass that runs none has one that says that a test passed. -/
theorem not_bannerCount_passAll :
    ¬ ∀ (task : Task) (host : Host) (config : Config) (descriptors : List Descriptor)
      (files : FileTree) (mark : Report.Mark),
      let pass := (passAll task host config descriptors).run files
      Report.bannerCount mark (Report.render pass.journal.report) = pass.value.1.tally mark := by
  intro hall
  let d : Descriptor :=
    { Sample.test [] with disabled := some "later\n=== Test t/b PASS ===" }
  have hcount := hall .verify (Sample.host (.exited 0) "" "" []) { assembler := "nasm" } [d]
    Sample.files .pass
  exact absurd hcount (by decide +kernel)

end AsmHarness
