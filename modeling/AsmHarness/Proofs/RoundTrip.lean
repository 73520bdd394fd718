import AsmHarness.Proofs.Update.Stored
import AsmHarness.Proofs.Utf8

/-!
# Running a test whose references have just been replaced

What an update stores is what the next run compares, if the assembler does the same again: the bytes
of an output, and the text of a stream. Filters stand between the two, since an update stores text
as it is and a run filters it, and so does the rule that a stream is used up by its first target. To
compare files, a run must read them, for which an update has no need.
-/

namespace AsmHarness

/-- An assembler that is started again for a test, when the references have been replaced, does what
it did before. -/
structure Finished.Repeats (first second : Finished) (d : Descriptor) (between : FileTree) :
    Prop where
  /-- It ends with the same code. -/
  code : second.ending.code = first.ending.code
  /-- It writes the same to each stream. -/
  written : ∀ stream, second.written stream = first.written stream
  /-- It leaves the same bytes in every output, unless it is to reject the source. -/
  outputs : d.expectsFailure = false → ∀ target ∈ d.targets, ∀ output,
    target.output? = some output → ∃ bytes, first.files.Holds (d.resolve output) bytes ∧
      second.files.Holds (d.resolve output) bytes
  /-- It writes no reference: what is in these files has been there before. -/
  references : ∀ target ∈ d.targets,
    second.files.content? (between.place (d.resolve target.reference)) =
      between.content? (between.place (d.resolve target.reference))

/-- The targets of a test make of captured text what an update has stored of it. -/
structure Descriptor.ComesBack (d : Descriptor) (text : Stream → String) : Prop where
  /-- The first target of a stream leaves its text as it is. -/
  first : ∀ i target stream, d.targets[i]? = some target → target.captures stream = true →
    (d.targets.take i).any (·.captures stream) = false → target.view (text stream) = text stream
  /-- Every further one makes the same text of nothing. -/
  further : ∀ i target stream, d.targets[i]? = some target → target.captures stream = true →
    (d.targets.take i).any (·.captures stream) = true → target.view "" = text stream
  /-- A stream without a target was empty. -/
  others : ∀ stream, (∀ target ∈ d.targets, target.captures stream = false) → text stream = ""

/-- The files that a target compares can be read: its reference, and its output if it has one. Where
the source is to be rejected, an output is not compared. -/
def Target.Readable (files : FileTree) (d : Descriptor) (target : Target) : Prop :=
  target.Counts d → (∃ bytes, files.read (d.resolve target.reference) = .ok bytes) ∧
    ∀ output, target.output? = some output → ∃ bytes, files.read (d.resolve output) = .ok bytes

section RoundTrip

variable {host : Host} {assembler : Path} {d : Descriptor} {files between : FileTree}
  {first second : Finished} {target : Target} {left : Stream → String} {content bytes : ByteArray}

namespace Finished.Repeats

theorem captured_eq (h : first.Repeats second d between) : second.captured = first.captured :=
  captured_congr h.code h.written

/-- What an output held at first is what it holds again. -/
theorem holds_output (h : first.Repeats second d between) (hwanted : d.expectsFailure = false)
    (htarget : target ∈ d.targets) {output : String} (houtput : target.output? = some output) :
    first.files.Holds (d.resolve output) (first.files.bytesAt (d.resolve output)) ∧
      second.files.Holds (d.resolve output) (first.files.bytesAt (d.resolve output)) := by
  obtain ⟨bytes, hfirst, hsecond⟩ := h.outputs hwanted target htarget output houtput
  rw [hfirst.bytesAt_eq]
  exact ⟨hfirst, hsecond⟩

/-- What the assembler has made at first is there to be stored. -/
theorem clear (h : first.Repeats second d between)
    (hapart : ∀ target ∈ d.targets, ∀ other ∈ d.targets,
      other.Avoids d first.files.origin (d.resolve target.reference)) :
    Clear d first.files.bytesAt first.files d.targets where
  apart := hapart
  outputs _ htarget _ houtput hwanted := (h.holds_output hwanted htarget houtput).1.nothingBut

/-- What can be read of a reference is what was stored there. -/
theorem read_reference (h : first.Repeats second d between) (htarget : target ∈ d.targets)
    (horigin : second.files.origin = between.origin)
    (hstored : between.content? (between.place (d.resolve target.reference)) = some bytes)
    (hread : second.files.read (d.resolve target.reference) = .ok content) : content = bytes := by
  have hcontent := (FileTree.Holds.of_read hread).content?_eq
  rw [FileTree.place_congr horigin, h.references target htarget, hstored] at hcontent
  exact (Option.some_inj.1 hcontent).symm

end Finished.Repeats

/-- A target is met when the assembler is started again if its files can be read, and if it makes of
what is left of its stream what was captured at first. -/
theorem met_iff_view (hrepeats : first.Repeats second d between) (htarget : target ∈ d.targets)
    (horigin : second.files.origin = between.origin)
    (hstored : ∀ bytes, target.product d first.captured first.files.bytesAt = some bytes →
      between.content? (between.place (d.resolve target.reference)) = some bytes) :
    target.Met second.files d left ↔ target.Readable second.files d ∧
      ∀ stream, target.captures stream = true →
        target.view (left stream) = first.captured.text stream := by
  unfold Target.Met Target.Readable
  cases hsubject : target.subject with
  | artifact output reference option =>
    have hreference := Target.reference_of_artifact hsubject
    have houtput := Target.output?_of_artifact hsubject
    have hno : ∀ stream, target.captures stream = false := by simp [Target.captures, hsubject]
    simp only [Target.counts_of_artifact hsubject, hreference, houtput, hno, Option.some_inj,
      forall_eq', Bool.false_eq_true, false_implies, implies_true, and_true]
    refine forall_congr' fun hwanted => ⟨?_, ?_⟩
    · rintro ⟨bytes, hread, hmade⟩
      exact ⟨⟨bytes, hread⟩, bytes, hmade⟩
    · rintro ⟨⟨bytes, hread⟩, made, hmade⟩
      have hproduct : target.product d first.captured first.files.bytesAt =
          some (first.files.bytesAt (d.resolve output)) := by
        simp [Target.product, hsubject, hwanted]
      have hagain := (hrepeats.holds_output hwanted htarget houtput).2.eq_of_read hmade
      rw [← hreference] at hread ⊢
      have hsame := hrepeats.read_reference htarget horigin (hstored _ hproduct) hread
      exact ⟨bytes, hread, by rw [hmade, hsame, hagain]⟩
  | capture stream reference =>
    have hreference := Target.reference_of_capture hsubject
    have hproduct : target.product d first.captured first.files.bytesAt =
        some (first.captured.text stream).toUTF8 := by
      simp [Target.product, hsubject]
    have hcaptures : ∀ other, target.captures other = true ↔ stream = other := by
      simp [Target.captures, hsubject]
    simp only [Target.counts_of_capture hsubject, Target.output?_of_capture hsubject, hcaptures,
      forall_eq', forall_const, reduceCtorEq, false_implies, and_true, ← hreference]
    constructor
    · rintro ⟨bytes, hread, hview⟩
      have hsame := hrepeats.read_reference htarget horigin (hstored _ hproduct) hread
      refine ⟨⟨bytes, hread⟩, ?_⟩
      rw [← hview, hsame, Utf8.decode_toUTF8]
    · rintro ⟨⟨bytes, hread⟩, hview⟩
      have hsame := hrepeats.read_reference htarget horigin (hstored _ hproduct) hread
      refine ⟨bytes, hread, ?_⟩
      rw [hview, hsame, Utf8.decode_toUTF8]

/-- All targets are met if and only if their files can be read and they make of captured text what
has been stored of it. -/
theorem meets_iff_comesBack (hrepeats : first.Repeats second d between)
    (hcode : first.ending.code = d.expectedExitCode)
    (horigin : second.files.origin = between.origin)
    (hstored : ∀ target ∈ d.targets, ∀ bytes,
      target.product d first.captured first.files.bytesAt = some bytes →
        between.content? (between.place (d.resolve target.reference)) = some bytes) :
    second.Meets d ↔ d.ComesBack first.captured.text ∧
      ∀ target ∈ d.targets, target.Readable second.files d := by
  have hmet : ∀ i (target : Target), d.targets[i]? = some target →
      (target.Met second.files d (second.captured.left (d.targets.take i)) ↔
        target.Readable second.files d ∧ ∀ stream, target.captures stream = true →
          target.view (first.captured.left (d.targets.take i) stream) =
            first.captured.text stream) := by
    intro i target hi
    have htarget := List.mem_of_getElem? hi
    rw [hrepeats.captured_eq]
    exact met_iff_view hrepeats htarget horigin (hstored target htarget)
  constructor
  · intro h
    refine ⟨⟨fun i target stream hi hcaptures hnew => ?_,
      fun i target stream hi hcaptures hused => ?_, fun stream hnone => ?_⟩,
      fun target htarget => ?_⟩
    · have hview := ((hmet i target hi).1 (h.targets i target hi)).2 stream hcaptures
      rwa [Captured.left, hnew] at hview
    · have hview := ((hmet i target hi).1 (h.targets i target hi)).2 stream hcaptures
      rwa [Captured.left, hused] at hview
    · by_cases hempty : first.captured.text stream = ""
      · exact hempty
      · rw [← hrepeats.captured_eq] at hempty
        exact absurd ⟨hnone, hempty⟩ (h.streams stream)
    · obtain ⟨i, hi⟩ := List.mem_iff_getElem?.1 htarget
      exact ((hmet i target hi).1 (h.targets i target hi)).1
  · rintro ⟨h, hreadable⟩
    refine ⟨hrepeats.code.trans hcode, fun i target hi => (hmet i target hi).2 ?_,
      fun stream hstream => ?_⟩
    · refine ⟨hreadable target (List.mem_of_getElem? hi), fun stream hcaptures => ?_⟩
      unfold Captured.left
      cases hused : (d.targets.take i).any (·.captures stream) with
      | true => exact h.further i target stream hi hcaptures hused
      | false => exact h.first i target stream hi hcaptures hused
    · obtain ⟨hnone, hne⟩ := hstream
      rw [hrepeats.captured_eq] at hne
      exact hne (h.others stream hnone)

/-- A run right after an update passes if and only if the targets make of captured text what has
been stored of it (the first target of each stream leaves it as it is, every further one makes it of
nothing, and a stream without a target was empty), and the files that are compared can be read. The
assembler must do the same when it is started again and write no reference, and the references must
be files of their own. -/
theorem verify_after_update (host : Host) (assembler : Path) (d : Descriptor)
    (files between : FileTree) (first second : Finished)
    (hsep : d.Separate files.origin d.targets) (hfirst : d.start host assembler files = .ok first)
    (hdone : ((update host assembler d).run files).value = (.done, between))
    (hsecond : d.start host assembler between = .ok second)
    (hrepeats : first.Repeats second d between) :
    ((verify host assembler d).run between).value.1 = .done ↔
      d.ComesBack first.captured.text ∧ ∀ target ∈ d.targets, target.Readable second.files d := by
  cases updateEnds_of_value hdone with
  | @stored finished _ _ hd hstart hcode hall =>
    obtain rfl := Except.ok.inj (hfirst.symm.trans hstart)
    rw [← origin_of_start hfirst] at hsep
    have hstored : ∀ target ∈ d.targets, ∀ bytes,
        target.product d first.captured first.files.bytesAt = some bytes →
          between.content? (between.place (d.resolve target.reference)) = some bytes :=
      fun target htarget bytes =>
        hall.content?_reference (hrepeats.clear hsep.outputs) hsep htarget
    rw [verify_eq_done hd,
      ← meets_iff_comesBack hrepeats hcode (origin_of_start hsecond) hstored]
    constructor
    · rintro ⟨started, hstarted, hmeets⟩
      obtain rfl := Except.ok.inj (hsecond.symm.trans hstarted)
      exact hmeets
    · exact fun hmeets => ⟨second, hsecond, hmeets⟩

end RoundTrip

namespace Sample

/-! ## Small tests -/

section Speaker

variable {d : Descriptor} {change : FileTree → FileTree} {found between : FileTree}

/-- A host on which every program writes some text and changes the files in one way. -/
def speaker (change : FileTree → FileTree) : Host where
  environment := []
  start _ files := .ok ⟨.exited 0, "hi".toUTF8, "".toUTF8, change files⟩

/-- What comes of a program that finds some files there. -/
def spoken (change : FileTree → FileTree) (found : FileTree) : Finished :=
  ⟨.exited 0, "hi".toUTF8, "".toUTF8, (change found).seenFrom found.origin⟩

theorem start_speaker (hnul : ((d.invocation "nasm").launch []).hasNul = false)
    (change : FileTree → FileTree) (found : FileTree) :
    d.start (speaker change) "nasm" found = .ok (spoken change found) := by
  have henvironment : (speaker change).environment = [] := rfl
  rw [Descriptor.start, Host.launch, henvironment, hnul]
  rfl

theorem repeats_spoken
    (outputs : ∀ target ∈ d.targets, ∀ output, target.output? = some output → ∃ bytes,
      (spoken change found).files.Holds (d.resolve output) bytes ∧
        (spoken change between).files.Holds (d.resolve output) bytes)
    (references : ∀ target ∈ d.targets,
      (spoken change between).files.content? (between.place (d.resolve target.reference)) =
        between.content? (between.place (d.resolve target.reference))) :
    (spoken change found).Repeats (spoken change between) d between where
  code := rfl
  written stream := by cases stream <;> rfl
  outputs := fun _ => outputs
  references := references

/-- A test that compares regular output. -/
def one (reference : String) : Descriptor := test [regular reference]

theorem eq_regular {reference : String} {target : Target}
    (h : target ∈ (one reference).targets) : target = regular reference :=
  List.mem_singleton.1 h

theorem separate_one (reference : String) (origin : Location) :
    (one reference).Separate origin (one reference).targets where
  references := List.pairwise_singleton ..
  outputs := by
    rintro _ _ other hother output houtput
    obtain rfl := eq_regular hother
    cases houtput

theorem repeats_one {reference : String}
    (hreference : (spoken change between).files.content?
        (between.place ((one reference).resolve reference)) =
      between.content? (between.place ((one reference).resolve reference))) :
    (spoken change found).Repeats (spoken change between) (one reference) between := by
  refine repeats_spoken ?_ ?_
  · rintro target htarget output houtput
    obtain rfl := eq_regular htarget
    cases houtput
  · rintro target htarget
    obtain rfl := eq_regular htarget
    exact hreference

theorem comesBack_one (reference : String) (change : FileTree → FileTree) (found : FileTree) :
    (one reference).ComesBack (spoken change found).captured.text where
  first := by
    intro i target stream hi _ _
    obtain rfl := eq_regular (List.mem_of_getElem? hi)
    rfl
  further := by
    intro i target stream hi _ hused
    match i with
    | 0 => cases hused
    | _ + 1 => cases hi
  others := by
    intro stream hnone
    cases stream with
    | stdout => cases hnone (regular reference) (List.mem_singleton_self _)
    | stderr =>
      have hempty : Utf8.decode ("".toUTF8.extract 0 captureLimit) = "" := by decide +kernel
      exact hempty

end Speaker

/-- A host on which every program writes some text and one output. -/
def writer : Host :=
  speaker fun files => (files.write "t/a.bin" "code".toUTF8).toOption.getD files

/-- What comes of a program that finds some files there. -/
def finished (found : FileTree) : Finished :=
  spoken (fun files => (files.write "t/a.bin" "code".toUTF8).toOption.getD files) found

/-- A test that compares both. -/
def both : Descriptor := test [binary, regular "a.out"]

/-- The files when its references have been replaced. -/
def updated : FileTree := ((update writer "nasm" both).run files).value.2

theorem mem_both {target : Target} (h : target ∈ both.targets) :
    target = binary ∨ target = regular "a.out" := by
  simpa [both, test] using h

theorem separate_both : both.Separate files.origin both.targets where
  references := by decide +kernel
  outputs := by
    intro target htarget other hother output houtput
    rcases mem_both hother with rfl | rfl
    · obtain rfl : "a.bin" = output := Option.some_inj.1 houtput
      rcases mem_both htarget with rfl | rfl <;> decide +kernel
    · cases houtput

theorem repeats_both : (finished files).Repeats (finished updated) both updated := by
  refine repeats_spoken ?_ ?_
  · intro target htarget output houtput
    rcases mem_both htarget with rfl | rfl
    · obtain rfl : "a.bin" = output := Option.some_inj.1 houtput
      exact ⟨"code".toUTF8, .of_read (eq_ok_of_toOption (by decide +kernel)),
        .of_read (eq_ok_of_toOption (by decide +kernel))⟩
    · cases houtput
  · intro target htarget
    rcases mem_both htarget with rfl | rfl <;> decide +kernel

theorem comesBack_both : both.ComesBack (finished files).captured.text where
  first := by
    intro i target stream hi _ _
    rcases mem_both (List.mem_of_getElem? hi) with rfl | rfl <;> rfl
  further := by
    intro i target stream hi hcaptures hused
    match i with
    | 0 => cases hused
    | 1 => cases hused
    | _ + 2 => cases hi
  others := by
    intro stream hnone
    cases stream with
    | stdout => cases hnone (regular "a.out") (by simp [both, test])
    | stderr => decide +kernel

theorem readable_both : ∀ target ∈ both.targets, target.Readable (finished updated).files both := by
  intro target htarget _
  rcases mem_both htarget with rfl | rfl
  · refine ⟨⟨"code".toUTF8, eq_ok_of_toOption (by decide +kernel)⟩, fun output houtput => ?_⟩
    obtain rfl : "a.bin" = output := Option.some_inj.1 houtput
    exact ⟨"code".toUTF8, eq_ok_of_toOption (by decide +kernel)⟩
  · exact ⟨⟨"hi".toUTF8, eq_ok_of_toOption (by decide +kernel)⟩, fun _ houtput => by cases houtput⟩

end Sample

/-- The output and the text of a small test come back. -/
theorem verify_after_update_both :
    ((update Sample.writer "nasm" Sample.both).run Sample.files).value = (.done, Sample.updated) ∧
      ((verify Sample.writer "nasm" Sample.both).run Sample.updated).value.1 = .done := by
  have hdone : ((update Sample.writer "nasm" Sample.both).run Sample.files).value =
      (.done, Sample.updated) := by
    have houtcome :
        ((update Sample.writer "nasm" Sample.both).run Sample.files).value.1 = .done := by
      decide +kernel
    rw [Sample.updated, ← houtcome]
  have hstart := Sample.start_speaker (d := Sample.both) (by decide +kernel)
  exact ⟨hdone, (verify_after_update _ _ _ _ _ _ _ Sample.separate_both (hstart _ _) hdone
    (hstart _ _) Sample.repeats_both).2 ⟨Sample.comesBack_both, Sample.readable_both⟩⟩

namespace Sample

/-- Files with a reference that may be written but not read. -/
def unreadable : FileTree where
  entries := [("t", .folder [("a.out", .file "".toUTF8 { readable := false })] .folder)]

/-- Folders without files. -/
def bare : FileTree where
  entries := [("t", .folder [("y", .emptyFolder)] .folder)]

/-- Moves one folder aside and another one to its place, as far as they are there. -/
def shift (files : FileTree) : FileTree :=
  let aside := (files.rename "t/x" "t/w").toOption.getD files
  (aside.rename "t/y" "t/x").toOption.getD aside

end Sample

/-- A run right after an update need not pass though all text comes back: a reference that is written
need not be one that can be read. -/
theorem not_verify_after_update :
    ¬ ∀ (host : Host) (assembler : Path) (d : Descriptor) (files between : FileTree)
      (first second : Finished), d.update = true → d.disabled = none →
      d.Separate files.origin d.targets → d.start host assembler files = .ok first →
      ((update host assembler d).run files).value = (.done, between) →
      d.start host assembler between = .ok second → first.Repeats second d between →
      (((verify host assembler d).run between).value.1 = .done ↔
        d.ComesBack first.captured.text) := by
  intro hall
  let d := Sample.one "a.out"
  let ended := ((update (Sample.speaker id) "nasm" d).run Sample.unreadable).value
  have hdone : ((update (Sample.speaker id) "nasm" d).run Sample.unreadable).value =
      (.done, ended.2) := by
    have houtcome : ended.1 = .done := by decide +kernel
    rw [← houtcome]
  have hstart := Sample.start_speaker (d := d) (by decide +kernel) id
  have hpasses := (hall _ _ d _ ended.2 _ _ rfl rfl (Sample.separate_one ..) (hstart _) hdone
    (hstart _) (Sample.repeats_one rfl)).2 (Sample.comesBack_one ..)
  exact absurd hpasses (by decide +kernel)

/-- A reference that may be read need not be found: the folder on the way to it has been moved when
the assembler has run again, though nothing has been written. -/
theorem not_verify_after_update_bare :
    let d := Sample.one "x/../a.out"
    let host := Sample.speaker Sample.shift
    let between := ((update host "nasm" d).run Sample.bare).value.2
    ((update host "nasm" d).run Sample.bare).value.1 = .done ∧
      (Sample.spoken Sample.shift Sample.bare).Repeats (Sample.spoken Sample.shift between) d
        between ∧
      d.ComesBack (Sample.spoken Sample.shift Sample.bare).captured.text ∧
      ((verify host "nasm" d).run between).value.1 ≠ .done := by
  refine ⟨by decide +kernel, Sample.repeats_one (by decide +kernel), Sample.comesBack_one ..,
    by decide +kernel⟩

end AsmHarness
