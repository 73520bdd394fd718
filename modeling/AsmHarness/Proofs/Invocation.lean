import AsmHarness.Proofs.Reported
import AsmHarness.Proofs.Update

/-!
# What the assembler is called with

The arguments follow from the descriptor one part after the other. The words of an option are the
runs of other characters than blanks in it. The output that the assembler is told to write is the
one that is compared or moved in the end; what is captured has no part in the call.
-/

namespace AsmHarness

/-! ## Words -/

/-- Some words stand in a text with blanks around them. Each is as long as it can be: it ends where
the text ends or at a blank, and only blanks stand before it. -/
inductive Words : List Char → List String → Prop where
  | blanks (n : Nat) : Words (List.replicate n ' ') []
  | word (n : Nat) {word : String} {rest : List Char} {more : List String} (nonempty : word ≠ "")
      (plain : ' ' ∉ word.toList) (ends : ∀ c ∈ rest.head?, c = ' ') (next : Words rest more) :
      Words (List.replicate n ' ' ++ word.toList ++ rest) (word :: more)

section Words

variable {text : List Char} {found : List String}

/-- The words of some characters. -/
def wordsOf (text : List Char) : List String :=
  ((text.splitOn ' ').filter (· ≠ [])).map String.ofList

theorem words_eq (text : String) : words text = wordsOf text.toList := rfl

theorem wordsOf_blank (text : List Char) : wordsOf (' ' :: text) = wordsOf text := by
  have hsplit : ([] ++ ' ' :: text).splitOn ' ' = [] :: text.splitOn ' ' :=
    List.splitOn_append_cons_self_of_not_mem List.not_mem_nil text
  rw [List.nil_append] at hsplit
  rw [wordsOf, hsplit, List.filter_cons_of_neg (by simp), wordsOf]

theorem wordsOf_blanks (n : Nat) (text : List Char) :
    wordsOf (List.replicate n ' ' ++ text) = wordsOf text := by
  induction n with
  | zero => rfl
  | succ n ih => rw [List.replicate_succ, List.cons_append, wordsOf_blank, ih]

/-- A word in front of a blank or at the end is the first word. -/
theorem wordsOf_word {word : String} {rest : List Char} (hne : word ≠ "")
    (hplain : ' ' ∉ word.toList) (hends : ∀ c ∈ rest.head?, c = ' ') :
    wordsOf (word.toList ++ rest) = word :: wordsOf rest := by
  have hchars : word.toList ≠ [] := by simpa using hne
  cases rest with
  | nil =>
    have hsplit : word.toList.splitOn ' ' = [word.toList] := List.splitOn_eq_singleton hplain
    rw [List.append_nil, wordsOf, hsplit]
    simp [wordsOf, hchars]
  | cons c rest =>
    obtain rfl : c = ' ' := hends c rfl
    rw [wordsOf_blank, wordsOf, List.splitOn_append_cons_self_of_not_mem hplain,
      List.filter_cons_of_pos (by simpa using hchars), List.map_cons, String.ofList_toList, wordsOf]

theorem Words.wordsOf_eq (h : Words text found) : wordsOf text = found := by
  induction h with
  | blanks n => exact List.append_nil (List.replicate n ' ') ▸ wordsOf_blanks n []
  | word n hne hplain hends _ ih =>
    rw [List.append_assoc, wordsOf_blanks, wordsOf_word hne hplain hends, ih]

/-- Every text has its words: a character either is one more blank in front, or begins a word, or
is put in front of the first word. -/
theorem exists_words (text : List Char) : ∃ found, Words text found := by
  induction text with
  | nil => exact ⟨[], .blanks 0⟩
  | cons c text ih =>
    obtain ⟨found, h⟩ := ih
    by_cases hc : c = ' '
    · subst hc
      cases h with
      | blanks n => exact ⟨[], .blanks (n + 1)⟩
      | word n hne hplain hends next => exact ⟨_, .word (n + 1) hne hplain hends next⟩
    · have hplain : ' ' ∉ (String.singleton c).toList := by simpa using Ne.symm hc
      by_cases hends : ∀ next ∈ text.head?, next = ' '
      · refine ⟨String.singleton c :: found, ?_⟩
        have hword := Words.word 0 (by simp) hplain hends h
        simpa using hword
      · cases h with
        | blanks n =>
          have hblank : ∀ next ∈ (List.replicate n ' ').head?, next = ' ' := fun next hnext =>
            List.eq_of_mem_replicate (List.mem_of_head? hnext)
          exact absurd hblank hends
        | @word n word rest more hne hinside hstop next =>
          cases n with
          | zero =>
            have hlonger : ' ' ∉ (String.singleton c ++ word).toList := by
              simpa [hc, Ne.symm hc] using hinside
            refine ⟨(String.singleton c ++ word) :: more, ?_⟩
            have hword := Words.word 0 (by simp) hlonger hstop next
            simpa using hword
          | succ n => exact absurd (by simp [List.replicate_succ]) hends

theorem words_iff (text : String) (found : List String) :
    words text = found ↔ Words text.toList found := by
  constructor
  · rintro rfl
    obtain ⟨found, h⟩ := exists_words text.toList
    rwa [words_eq, h.wordsOf_eq]
  · exact Words.wordsOf_eq

end Words

/-! ## Options -/

/-- The words of an option, if there is one. -/
inductive OptionWords : Option String → List String → Prop where
  | none : OptionWords none []
  | some {text : String} {found : List String} (words : Words text.toList found) :
      OptionWords (some text) found

/-- The words of the options that go with some targets, in the order of the targets. What is
captured has none. -/
inductive TargetWords : List Target → List String → Prop where
  | nil : TargetWords [] []
  | artifact {target : Target} {rest : List Target} {output reference : String}
      {option : Option String} {own more : List String}
      (subject : target.subject = .artifact output reference option)
      (words : OptionWords option own) (next : TargetWords rest more) :
      TargetWords (target :: rest) (own ++ more)
  | capture {target : Target} {rest : List Target} {stream : Stream} {reference : String}
      {more : List String} (subject : target.subject = .capture stream reference)
      (next : TargetWords rest more) : TargetWords (target :: rest) more

section Options

variable {option : Option String} {targets : List Target} {found : List String}

theorem optionWords_iff : option.elim [] words = found ↔ OptionWords option found := by
  cases option with
  | none =>
    constructor
    · rintro rfl
      exact .none
    · rintro ⟨⟩
      rfl
  | some text =>
    rw [Option.elim_some, words_iff]
    constructor
    · exact .some
    · rintro ⟨⟩
      assumption

/-- The words of the option that goes with a target. -/
def Target.words (target : Target) : List String :=
  match target.subject with
  | .artifact _ _ option => option.elim [] AsmHarness.words
  | .capture .. => []

theorem targetWords_iff : targets.flatMap Target.words = found ↔ TargetWords targets found := by
  constructor
  · rintro rfl
    induction targets with
    | nil => exact .nil
    | cons target rest ih =>
      rw [List.flatMap_cons, Target.words]
      cases hsubject : target.subject with
      | artifact => exact .artifact hsubject (optionWords_iff.1 rfl) ih
      | capture => exact .capture hsubject ih
  · intro h
    induction h with
    | nil => rfl
    | artifact hsubject hwords _ ih =>
      rw [List.flatMap_cons, ih, Target.words, hsubject]
      exact congrArg (· ++ _) (optionWords_iff.2 hwords)
    | capture hsubject _ ih => rw [List.flatMap_cons, ih, Target.words, hsubject, List.nil_append]

theorem artifactOptions_eq (d : Descriptor) : d.artifactOptions = d.targets.flatMap Target.words :=
  rfl

/-- What is captured has no words. -/
theorem flatMap_words_filter (targets : List Target) :
    (targets.filter (·.output?.isSome)).flatMap Target.words = targets.flatMap Target.words := by
  induction targets with
  | nil => rfl
  | cons target rest ih =>
    rw [List.filter_cons, List.flatMap_cons, ← ih, Target.output?, Target.words]
    cases hsubject : target.subject with
    | artifact => simp [hsubject, Target.words]
    | capture => simp

end Options

/-! ## The output -/

namespace Descriptor

/-- The file that the assembler is told to write. -/
inductive Outputs (d : Descriptor) : Path → Prop where
  /-- It is the output of the last target that has one. -/
  | last {before after : List Target} {target : Target} {output : String}
      (found : d.targets = before ++ target :: after) (names : target.output? = some output)
      (last : ∀ later ∈ after, later.output? = none) : Outputs d (d.resolve output)
  /-- No target has one, so it is named after the test. -/
  | unnamed (nothing : ∀ target ∈ d.targets, target.output? = none) : Outputs d (d.name ++ ".out")

/-- The arguments of the assembler. -/
inductive Arguments (d : Descriptor) : List String → Prop where
  | inOrder {own more : List String} {output : Path} (ownWords : OptionWords d.option own)
      (targetWords : TargetWords d.targets more) (outputs : Outputs d output) :
      Arguments d (d.format.elim [] (["-f", ·]) ++ own ++ more ++
        ["-o", output, "-L+", "-l", output ++ ".lst"] ++ (d.source.map d.resolve).toList)

section Arguments

variable {d : Descriptor} {output : Path} {args : List String} {targets before after : List Target}
  {target : Target}

theorem outputs_eq (d : Descriptor) : d.outputs = d.targets.filterMap Target.output? := rfl

/-- What is captured has no output. -/
theorem filterMap_output?_filter (targets : List Target) :
    (targets.filter (·.output?.isSome)).filterMap Target.output? =
      targets.filterMap Target.output? := by
  induction targets with
  | nil => rfl
  | cons target rest ih =>
    rw [List.filter_cons, List.filterMap_cons, ← ih]
    cases houtput : target.output? with
    | none => simp
    | some output => simp [houtput]

theorem outputPath_of_last {name : String} (hfound : d.targets = before ++ target :: after)
    (hnames : target.output? = some name) (hlast : ∀ later ∈ after, later.output? = none) :
    d.outputPath = d.resolve name := by
  have hnone : after.filterMap Target.output? = [] := List.filterMap_eq_nil_iff.2 hlast
  have houtputs : d.outputs = before.filterMap Target.output? ++ [name] := by
    rw [outputs_eq, hfound, List.filterMap_append, List.filterMap_cons_some hnames, hnone]
  rw [outputPath, houtputs, List.getLast?_concat]

theorem outputPath_of_nothing (h : ∀ target ∈ d.targets, target.output? = none) :
    d.outputPath = d.name ++ ".out" := by
  have houtputs : d.outputs = [] := List.filterMap_eq_nil_iff.2 h
  rw [outputPath, houtputs, List.getLast?_nil]

theorem outputPath_iff : d.outputPath = output ↔ d.Outputs output := by
  constructor
  · rintro rfl
    cases hlast : d.outputs.getLast? with
    | none =>
      have hnothing := List.filterMap_eq_nil_iff.1 (List.getLast?_eq_none_iff.1 hlast)
      rw [outputPath_of_nothing hnothing]
      exact .unnamed hnothing
    | some name =>
      obtain ⟨front, hfront⟩ := List.getLast?_eq_some_iff.1 hlast
      obtain ⟨before, rest, hfound, -, hrest⟩ := List.filterMap_eq_append_iff.1 hfront
      obtain ⟨between, target, after, rfl, hbetween, hnames, hafter⟩ :=
        List.filterMap_eq_cons_iff.1 hrest
      rw [← List.append_assoc] at hfound
      have hnone := List.filterMap_eq_nil_iff.1 hafter
      rw [outputPath_of_last hfound hnames hnone]
      exact .last hfound hnames hnone
  · intro h
    cases h with
    | last hfound hnames hlast => exact outputPath_of_last hfound hnames hlast
    | unnamed hnothing => exact outputPath_of_nothing hnothing

theorem arguments_iff : d.arguments = args ↔ d.Arguments args := by
  constructor
  · rintro rfl
    exact .inOrder (optionWords_iff.1 rfl) (targetWords_iff.1 rfl) (outputPath_iff.1 rfl)
  · rintro ⟨hown, hmore, houtput⟩
    rw [arguments, artifactOptions_eq, optionWords_iff.2 hown, targetWords_iff.2 hmore,
      outputPath_iff.2 houtput]

/-- What is captured has no part in the call. -/
theorem invocation_congr (assembler : Path)
    (h : targets.filter (·.output?.isSome) = d.targets.filter (·.output?.isSome)) :
    { d with targets := targets }.outputPath = d.outputPath ∧
      { d with targets := targets }.invocation assembler = d.invocation assembler := by
  have houtputs : targets.filterMap Target.output? = d.targets.filterMap Target.output? := by
    rw [← filterMap_output?_filter, h, filterMap_output?_filter]
  have hoptions : targets.flatMap Target.words = d.targets.flatMap Target.words := by
    rw [← flatMap_words_filter, h, flatMap_words_filter]
  have hpath : { d with targets := targets }.outputPath = d.outputPath := by
    unfold outputPath
    rw [outputs_eq, outputs_eq, houtputs]
    rfl
  refine ⟨hpath, ?_⟩
  unfold invocation arguments
  rw [hpath, artifactOptions_eq, artifactOptions_eq, hoptions]
  rfl

end Arguments

end Descriptor

/-! ## The use of the output -/

/-- The file at a path is what a target compares with a reference, and what takes its place. -/
structure Target.Uses (d : Descriptor) (target : Target) (path reference : Path) : Prop where
  /-- The target is met if both files can be read and have the same bytes. -/
  met : ∀ files left next, (checkTarget files d target left).run.value = .ok next ↔
    next = left ∧ ∃ bytes, files.read reference = .ok bytes ∧ files.read path = .ok bytes
  /-- It is a mismatch if their bytes differ. -/
  differs : ∀ files left, (checkTarget files d target left).run.value =
      .error (.artifactMismatch reference path) ↔
    ∃ expected actual, files.read reference = .ok expected ∧ files.read path = .ok actual ∧
      expected ≠ actual
  comparing : ∀ files left, (checkTarget files d target left).run.journal.report.head? =
    some (.comparingFiles path reference)
  /-- An update renames the file to the reference. -/
  moved : ∀ files next captured, ((storeTarget d captured target).run.run files).value =
    (.ok (), next) ↔ files.rename path reference = .ok next
  moving : ∀ files captured, ((storeTarget d captured target).run.run files).journal.report =
    [.moving path reference]

section Uses

variable {d : Descriptor} {target : Target} {output reference : String} {option : Option String}
  {files : FileTree} {left : Captured}

/-- What is decided about an output, given what can be read. -/
theorem value_checkTarget_of_artifact
    (hsubject : target.subject = .artifact output reference option)
    (hwanted : d.expectsFailure = false) : (checkTarget files d target left).run.value =
      match files.read (d.resolve reference), files.read (d.resolve output) with
      | .error cause, _ => .error (.unreadable (d.resolve reference) cause)
      | .ok _, .error cause => .error (.unreadable (d.resolve output) cause)
      | .ok expected, .ok actual =>
        if expected.data = actual.data then .ok left
        else .error (.artifactMismatch (d.resolve reference) (d.resolve output)) := by
  have hleaves : target.leaves left = left := by rw [Target.leaves, hsubject]
  rw [value_checkTarget, hleaves, Target.compared, hsubject]
  simp only [hwanted, Bool.false_eq_true, if_false, value_compareArtifact]
  cases hreference : files.read (d.resolve reference) with
  | error cause => rw [readFile_of_error hreference]; rfl
  | ok expected =>
    rw [readFile_of_ok hreference]
    cases houtput : files.read (d.resolve output) with
    | error cause => rw [readFile_of_error houtput]; rfl
    | ok actual =>
      rw [readFile_of_ok houtput]
      simp only [Except.bind]
      split_ifs <;> rfl

theorem report_checkTarget_of_artifact
    (hsubject : target.subject = .artifact output reference option)
    (hwanted : d.expectsFailure = false) :
    (checkTarget files d target left).run.journal.report.head? =
      some (.comparingFiles (d.resolve output) (d.resolve reference)) := by
  rw [checkTarget, hsubject]
  simp only [hwanted, Bool.false_eq_true, if_false]
  rfl

theorem value_storeTarget_of_artifact {next : FileTree} {captured : Captured}
    (hsubject : target.subject = .artifact output reference option)
    (hwanted : d.expectsFailure = false) :
    ((storeTarget d captured target).run.run files).value = (.ok (), next) ↔
      files.rename (d.resolve output) (d.resolve reference) = .ok next := by
  rw [value_storeTarget, Target.stored, hsubject]
  simp only [hwanted, Bool.false_eq_true, if_false]
  cases files.rename (d.resolve output) (d.resolve reference) <;>
    simp [afterChange, Except.mapError]

/-- A target with an output uses the file there, unless the source is to be rejected. -/
theorem Target.uses_of_artifact (hsubject : target.subject = .artifact output reference option)
    (hwanted : d.expectsFailure = false) :
    target.Uses d (d.resolve output) (d.resolve reference) where
  met files left next := by
    rw [value_checkTarget_of_artifact hsubject hwanted]
    cases files.read (d.resolve reference) with
    | error cause => simp
    | ok expected =>
      cases files.read (d.resolve output) with
      | error cause => simp
      | ok actual =>
        by_cases hsame : expected.data = actual.data
        · simp [ByteArray.ext hsame, eq_comm]
        · have hne : expected ≠ actual := mt (congrArg ByteArray.data) hsame
          simp [hsame, hne.symm]
  differs files left := by
    rw [value_checkTarget_of_artifact hsubject hwanted]
    cases files.read (d.resolve reference) with
    | error cause => simp
    | ok expected =>
      cases files.read (d.resolve output) with
      | error cause => simp
      | ok actual => simp [← ByteArray.ext_iff]
  comparing files left := report_checkTarget_of_artifact hsubject hwanted
  moved files next captured := value_storeTarget_of_artifact hsubject hwanted
  moving files captured := by
    simp [storeTarget, hsubject, hwanted, report_changeFiles]

end Uses

/-- The arguments of the assembler are the format, the words of the options, the output with its
listing and the source, in this order and with nothing else. The output is that of the last target
that has one, or named after the test; it is the file that this target compares with its reference
and that an update moves there. What is captured has no part in the call. -/
theorem invocation_arguments (d : Descriptor) (assembler : Path) :
    (∀ args, (d.invocation assembler).args = args ↔ d.Arguments args) ∧
    (∀ output, d.outputPath = output ↔ d.Outputs output) ∧
    (∀ (before after : List Target) (target : Target) (output reference : String)
      (option : Option String), d.targets = before ++ target :: after →
      target.subject = .artifact output reference option →
      (∀ later ∈ after, later.output? = none) → d.expectsFailure = false →
      target.Uses d d.outputPath (d.resolve reference)) ∧
    ∀ targets : List Target,
      targets.filter (·.output?.isSome) = d.targets.filter (·.output?.isSome) →
      { d with targets := targets }.outputPath = d.outputPath ∧
        { d with targets := targets }.invocation assembler = d.invocation assembler := by
  refine ⟨fun args => Descriptor.arguments_iff, fun output => Descriptor.outputPath_iff, ?_, ?_⟩
  · intro before after target output reference option hfound hsubject hlast hwanted
    have hnames := Target.output?_of_artifact hsubject
    rw [Descriptor.outputPath_of_last hfound hnames hlast]
    exact Target.uses_of_artifact hsubject hwanted
  · intro targets h
    exact Descriptor.invocation_congr assembler h

namespace Sample

/-- The last of two outputs, with an option of its own. -/
def listed : Target := ⟨.artifact "b.bin" "b.bin.t" (some " -DB"), none⟩

/-- Two outputs and a captured stream between them, with blanks here and there in the options. -/
def spaced : Descriptor :=
  { test [⟨.artifact "a.bin" "a.bin.t" (some "-DA"), none⟩, regular "a.out", listed] with
    format := some "elf64"
    option := some "-Ox  -w+all "
    source := some "a.asm" }

theorem arguments_spaced : (spaced.invocation "nasm").args = ["-f", "elf64", "-Ox", "-w+all", "-DA",
    "-DB", "-o", "t/b.bin", "-L+", "-l", "t/b.bin.lst", "t/a.asm"] := by
  decide +kernel

theorem outputPath_spaced : spaced.outputPath = "t/b.bin" := by
  decide +kernel

end Sample

/-- The output that is asked for is the second one, and it is the second one that is compared. -/
theorem invocation_arguments_spaced :
    Sample.spaced.Arguments ["-f", "elf64", "-Ox", "-w+all", "-DA", "-DB", "-o", "t/b.bin", "-L+",
        "-l", "t/b.bin.lst", "t/a.asm"] ∧
      Sample.spaced.expectsFailure = false ∧
      Sample.listed.Uses Sample.spaced "t/b.bin" (Sample.spaced.resolve "b.bin.t") := by
  obtain ⟨harguments, -, huses, -⟩ := invocation_arguments Sample.spaced "nasm"
  have hlisted := huses
    [⟨.artifact "a.bin" "a.bin.t" (some "-DA"), none⟩, Sample.regular "a.out"] [] Sample.listed
    "b.bin" "b.bin.t" (some " -DB") rfl rfl (by simp) rfl
  rw [Sample.outputPath_spaced] at hlisted
  exact ⟨(harguments _).1 Sample.arguments_spaced, rfl, hlisted⟩

end AsmHarness
