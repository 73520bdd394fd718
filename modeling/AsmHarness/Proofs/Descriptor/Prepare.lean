import AsmHarness.Descriptor.Prepare
import AsmHarness.Proofs.Descriptor.Record
import AsmHarness.Proofs.Environment
import AsmHarness.Proofs.Noted

/-!
# What becomes of a record

A value is rejected because it is no record, because it describes nothing, or because of the first
of its filters whose pattern is not well formed, in this order of precedence. Any other value
becomes a test, all of which is said by the record.
-/

namespace AsmHarness

/-! ## Targets -/

namespace TargetRecord

/-- What a target compares: the first of an output, regular output and messages that it names. -/
inductive Compares (r : TargetRecord) : Subject → Prop where
  | matched {output reference : String} (names : r.output = some output)
    (against : r.reference = some reference) : Compares r (.artifact output reference r.option)
  | unmatched {output : String} (names : r.output = some output) (against : r.reference = none) :
    Compares r (.artifact output (output ++ ".t") r.option)
  | stdout {reference : String} (noOutput : r.output = none) (names : r.stdout = some reference) :
    Compares r (.capture .stdout reference)
  | stderr {reference : String} (noOutput : r.output = none) (noStdout : r.stdout = none)
    (names : r.stderr = some reference) : Compares r (.capture .stderr reference)

/-- A target names nothing to compare. -/
def NamesNothing (r : TargetRecord) : Prop := r.output = none ∧ r.stdout = none ∧ r.stderr = none

/-- The filter of a target, if it has one. -/
inductive Filters (r : TargetRecord) : Option Filter → Prop where
  | none (unfiltered : r.filter = none) : Filters r none
  | some {pattern substitution : String} {compiled : Pattern}
    (written : r.filter = some ⟨pattern, substitution⟩)
    (wellFormed : Pattern.ofText? pattern = some compiled) :
    Filters r (some ⟨compiled, Pattern.parts (Substitution.template substitution.toList)⟩)

/-- The filter of a target has a pattern that is not well formed. -/
def Rejects (r : TargetRecord) (pattern : String) : Prop :=
  ∃ substitution, r.filter = some ⟨pattern, substitution⟩ ∧ Pattern.ofText? pattern = none

/-- What some targets become, in their order. One that names nothing is dropped, but its filter must
be well formed like any other. -/
inductive Become : List TargetRecord → List Target → Prop where
  | nil : Become [] []
  | kept {r : TargetRecord} {rest : List TargetRecord} {subject : Subject} {filter : Option Filter}
    {targets : List Target} (compares : r.Compares subject) (filters : r.Filters filter)
    (next : Become rest targets) : Become (r :: rest) (⟨subject, filter⟩ :: targets)
  | dropped {r : TargetRecord} {rest : List TargetRecord} {filter : Option Filter}
    {targets : List Target} (nothing : r.NamesNothing) (filters : r.Filters filter)
    (next : Become rest targets) : Become (r :: rest) targets

/-- The first pattern of some targets that is not well formed. -/
def FirstRejected (records : List TargetRecord) (pattern : String) : Prop :=
  ∃ before r after, records = before ++ r :: after ∧
    (∀ earlier ∈ before, ∃ filter, earlier.Filters filter) ∧ r.Rejects pattern

section Targets

variable {r : TargetRecord} {records : List TargetRecord} {targets : List Target}
  {failure : DescriptorError} {name : String} {index : Nat}

theorem subject?_eq_some_iff {subject : Subject} :
    r.subject? = some subject ↔ r.Compares subject := by
  constructor
  · intro h
    unfold subject? at h
    split at h
    · rename_i output _ _ houtput
      obtain rfl := Option.some_inj.1 h
      cases hreference : r.reference with
      | none => exact .unmatched houtput hreference
      | some reference => exact .matched houtput hreference
    · rename_i reference _ houtput hstdout
      obtain rfl := Option.some_inj.1 h
      exact .stdout houtput hstdout
    · rename_i reference houtput hstdout hstderr
      obtain rfl := Option.some_inj.1 h
      exact .stderr houtput hstdout hstderr
    · cases h
  · intro h
    cases h with
    | matched houtput hreference => simp [subject?, houtput, hreference]
    | unmatched houtput hreference => simp [subject?, houtput, hreference, referenceSuffix]
    | stdout houtput hstdout => simp [subject?, houtput, hstdout]
    | stderr houtput hstdout hstderr => simp [subject?, houtput, hstdout, hstderr]

theorem subject?_eq_none_iff : r.subject? = none ↔ r.NamesNothing := by
  unfold NamesNothing subject?
  cases r.output <;> cases r.stdout <;> cases r.stderr <;> simp

theorem filter?_eq_ok_iff {filter : Option Filter} : r.filter? = .ok filter ↔ r.Filters filter := by
  constructor
  · intro h
    unfold filter? at h
    split at h
    · rename_i hfilter
      obtain rfl := Except.ok.inj h
      exact .none hfilter
    · rename_i pattern substitution hfilter
      cases hpattern : Pattern.ofText? pattern with
      | none =>
        rw [Filter.ofText?, hpattern] at h
        cases h
      | some compiled =>
        rw [Filter.ofText?, hpattern] at h
        obtain rfl := Except.ok.inj h
        exact .some hfilter hpattern
  · intro h
    cases h with
    | none hfilter => simp [filter?, hfilter]
    | some hfilter hpattern => simp [filter?, hfilter, Filter.ofText?, hpattern]

theorem filter?_eq_error_iff : r.filter? = .error failure ↔
    ∃ pattern, failure = .invalidFilter pattern ∧ r.Rejects pattern := by
  constructor
  · intro h
    unfold filter? at h
    split at h
    · cases h
    · rename_i pattern substitution hfilter
      cases hpattern : Pattern.ofText? pattern with
      | none =>
        rw [Filter.ofText?, hpattern] at h
        obtain rfl := Except.error.inj h
        exact ⟨pattern, rfl, substitution, hfilter, hpattern⟩
      | some compiled =>
        rw [Filter.ofText?, hpattern] at h
        cases h
  · rintro ⟨pattern, rfl, substitution, hfilter, hpattern⟩
    simp [filter?, hfilter, Filter.ofText?, hpattern]

/-- The first target is dealt with before the others. -/
theorem value_targets_cons (name : String) (index : Nat) (r : TargetRecord)
    (rest : List TargetRecord) :
    (TargetRecord.targets name index (r :: rest)).run.value =
      r.filter?.bind fun filter =>
        (TargetRecord.targets name (index + 1) rest).run.value.map fun targets =>
          (r.subject?.map (⟨·, filter⟩)).toList ++ targets := by
  rw [TargetRecord.targets, value_run_bind, value_run_liftExcept]
  congr 1
  funext filter
  cases r.subject? with
  | none =>
    rw [value_run_bind]
    cases (TargetRecord.targets name (index + 1) rest).run.value <;> rfl
  | some subject =>
    rw [value_run_bind]
    cases (TargetRecord.targets name (index + 1) rest).run.value <;> rfl

theorem targets_eq_ok_iff :
    (TargetRecord.targets name index records).run.value = .ok targets ↔ Become records targets := by
  induction records generalizing index targets with
  | nil =>
    constructor
    · intro h
      obtain rfl : [] = targets := Except.ok.inj h
      exact .nil
    · rintro ⟨⟩
      rfl
  | cons r rest ih =>
    rw [value_targets_cons, bind_eq_ok]
    constructor
    · rintro ⟨filter, hfilter, h⟩
      rw [filter?_eq_ok_iff] at hfilter
      cases hrest : (TargetRecord.targets name (index + 1) rest).run.value with
      | error failure =>
        rw [hrest] at h
        cases h
      | ok more =>
        rw [hrest] at h
        obtain rfl := Except.ok.inj h
        cases hsubject : r.subject? with
        | none => exact .dropped (subject?_eq_none_iff.1 hsubject) hfilter (ih.1 hrest)
        | some subject => exact .kept (subject?_eq_some_iff.1 hsubject) hfilter (ih.1 hrest)
    · intro h
      cases h with
      | kept hcompares hfilters hnext =>
        refine ⟨_, filter?_eq_ok_iff.2 hfilters, ?_⟩
        rw [ih.2 hnext, subject?_eq_some_iff.2 hcompares]
        rfl
      | dropped hnothing hfilters hnext =>
        refine ⟨_, filter?_eq_ok_iff.2 hfilters, ?_⟩
        rw [ih.2 hnext, subject?_eq_none_iff.2 hnothing]
        rfl

theorem targets_eq_error_iff :
    (TargetRecord.targets name index records).run.value = .error failure ↔
      ∃ pattern, failure = .invalidFilter pattern ∧ FirstRejected records pattern := by
  induction records generalizing index with
  | nil =>
    constructor
    · intro h
      cases h
    · rintro ⟨pattern, -, before, r, after, hsplit, -⟩
      exact absurd hsplit.symm (by simp)
  | cons first rest ih =>
    rw [value_targets_cons, bind_eq_error]
    constructor
    · rintro (h | ⟨filter, hfilter, h⟩)
      · obtain ⟨pattern, rfl, hrejects⟩ := filter?_eq_error_iff.1 h
        exact ⟨pattern, rfl, [], first, rest, rfl, by simp, hrejects⟩
      · rw [filter?_eq_ok_iff] at hfilter
        have hrest : (TargetRecord.targets name (index + 1) rest).run.value = .error failure := by
          cases hvalue : (TargetRecord.targets name (index + 1) rest).run.value with
          | error other =>
            rw [hvalue] at h
            exact congrArg Except.error (Except.error.inj h)
          | ok more =>
            rw [hvalue] at h
            cases h
        obtain ⟨pattern, rfl, before, r, after, rfl, hbefore, hrejects⟩ := ih.1 hrest
        refine ⟨pattern, rfl, first :: before, r, after, rfl, fun earlier hearlier => ?_, hrejects⟩
        rcases List.mem_cons.1 hearlier with rfl | hearlier
        · exact ⟨filter, hfilter⟩
        · exact hbefore earlier hearlier
    · rintro ⟨pattern, rfl, before, r, after, hsplit, hbefore, hrejects⟩
      -- the pattern is that of the first target, or the first target has nothing against it
      cases before with
      | nil =>
        obtain ⟨rfl, rfl⟩ := List.cons.inj hsplit
        exact .inl (filter?_eq_error_iff.2 ⟨pattern, rfl, hrejects⟩)
      | cons head before =>
        rw [List.cons_append] at hsplit
        obtain ⟨rfl, hrest⟩ := List.cons.inj hsplit
        rw [List.forall_mem_cons] at hbefore
        obtain ⟨⟨filter, hfilter⟩, hbefore⟩ := hbefore
        have herror : (TargetRecord.targets name (index + 1) rest).run.value =
            .error (.invalidFilter pattern) :=
          ih.2 ⟨pattern, rfl, before, r, after, hrest, hbefore, hrejects⟩
        refine .inr ⟨filter, filter?_eq_ok_iff.2 hfilter, ?_⟩
        rw [herror]
        rfl

theorem Become.unique {others : List Target} (h : Become records targets)
    (hothers : Become records others) : targets = others := by
  have hvalue : (TargetRecord.targets "" 0 records).run.value = .ok targets :=
    targets_eq_ok_iff.2 h
  exact Except.ok.inj (hvalue.symm.trans (targets_eq_ok_iff.2 hothers))

/-- Nothing is compared if and only if no target names anything. -/
theorem Become.eq_nil_iff (h : Become records targets) :
    targets = [] ↔ ∀ r ∈ records, r.NamesNothing := by
  induction h with
  | nil => simp
  | kept hcompares _ _ _ =>
    have hnot := mt subject?_eq_none_iff.2 (by rw [subject?_eq_some_iff.2 hcompares]; simp)
    simp [hnot]
  | dropped hnothing _ _ ih => simp [hnothing, ih]

end Targets

end TargetRecord

/-! ## Descriptors -/

/-- What a record describes is a test, which is named after the place of the record. -/
structure Record.Describes (r : Record) (baseDir : Path) (fileName : String) (seq : Option Nat)
    (d : Descriptor) : Prop where
  name : d.name = Descriptor.nameOf baseDir fileName seq
  baseDir : d.baseDir = baseDir
  fileName : d.fileName = fileName
  description : r.description = some d.description
  /-- A test is described by more than nothing. -/
  described : d.description ≠ ""
  format : d.format = r.format
  source : d.source = r.source
  option : d.option = r.option
  disabled : d.disabled = r.disable
  targets : TargetRecord.Become (r.targets.getD []) d.targets
  /-- The assembler is to end with 1 where an error is expected, and else with 0. -/
  code : d.expectedExitCode = if r.error = some "expected" then 1 else 0
  tolerates : d.toleratesFailure = true ↔ r.error = some "over"
  /-- References may be replaced if there is a list of targets, unless this is ruled out. -/
  update : d.update = true ↔ r.targets ≠ none ∧ r.keepsReferences = false
  sorted : Change.Sorted d.environ
  /-- Of the entries that name one variable the last one counts. -/
  environ : ∀ change, change ∈ d.environ ↔ Change.LastSaid r.environ change

namespace Descriptor

/-- What becomes of a value. -/
inductive Prepared (value : Json) (baseDir : Path) (fileName : String) (seq : Option Nat) :
    Except DescriptorError Descriptor → Prop where
  /-- The value is no record. -/
  | invalidRecord (noRecord : ∀ r : Record, ¬ r.WrittenAs value) :
    Prepared value baseDir fileName seq (.error .invalidRecord)
  /-- It is a record without a description. -/
  | missingDescription {r : Record} (written : r.WrittenAs value)
    (undescribed : r.description = none ∨ r.description = some "") :
    Prepared value baseDir fileName seq (.error .missingDescription)
  /-- It is a record with a description, and the pattern of a filter is not well formed. -/
  | invalidFilter {r : Record} {description pattern : String} (written : r.WrittenAs value)
    (described : r.description = some description) (nonempty : description ≠ "")
    (first : TargetRecord.FirstRejected (r.targets.getD []) pattern) :
    Prepared value baseDir fileName seq (.error (.invalidFilter pattern))
  /-- It is a record that describes a test. -/
  | test {r : Record} {d : Descriptor} (written : r.WrittenAs value)
    (describes : r.Describes baseDir fileName seq d) : Prepared value baseDir fileName seq (.ok d)

section Prepare

variable {value : Json} {baseDir : Path} {fileName : String} {seq : Option Nat} {r : Record}
  {d other : Descriptor} {description : String} {targets : List Target}
  {result : Except DescriptorError Descriptor}

/-- What becomes of a record depends on what is read of it. -/
theorem prepare_congr {record other : Json} (h : Record.ofJson? other = Record.ofJson? record)
    (baseDir : Path) (fileName : String) (seq : Option Nat) :
    prepare other baseDir fileName seq = prepare record baseDir fileName seq := by
  unfold prepare
  rw [h]

theorem value_errorModeOf (name : String) (error : Option String) :
    (errorModeOf name error).value = error.bind ErrorMode.ofName? := by
  cases error with
  | none => rfl
  | some mode =>
    rw [Option.bind_some]
    cases hmode : ErrorMode.ofName? mode with
    | none =>
      simp only [errorModeOf, hmode]
      rfl
    | some known =>
      simp only [errorModeOf, hmode]
      rfl

theorem errorMode_eq_expected_iff {error : Option String} :
    error.bind ErrorMode.ofName? = some .expected ↔ error = some "expected" := by
  cases error with
  | none => simp
  | some mode =>
    rw [Option.bind_some, Option.some_inj]
    unfold ErrorMode.ofName?
    split <;> simp_all

theorem errorMode_eq_tolerated_iff {error : Option String} :
    error.bind ErrorMode.ofName? = some .tolerated ↔ error = some "over" := by
  cases error with
  | none => simp
  | some mode =>
    rw [Option.bind_some, Option.some_inj]
    unfold ErrorMode.ofName?
    split <;> simp_all

/-- The test that a record describes, given what becomes of its targets. -/
def ofRecord (r : Record) (baseDir : Path) (fileName : String) (seq : Option Nat)
    (description : String) (targets : List Target) : Descriptor where
  name := nameOf baseDir fileName seq
  description := description
  baseDir := baseDir
  fileName := fileName
  format := r.format
  source := r.source
  option := r.option
  errorMode := r.error.bind ErrorMode.ofName?
  update := r.targets.isSome && !r.keepsReferences
  disabled := r.disable
  environ := Change.byName (r.environ.map Change.ofEntry)
  targets := targets

theorem value_prepare_of_not_written (h : ∀ r : Record, ¬ r.WrittenAs value) :
    (prepare value baseDir fileName seq).run.value = .error .invalidRecord := by
  have hread : Record.ofJson? value = none := by
    rw [Option.eq_none_iff_forall_not_mem]
    intro r hr
    exact h r ((Record.ofJson?_eq_some_iff value r).1 hr)
  simp only [prepare, hread]
  rfl

theorem value_prepare_of_undescribed (h : r.WrittenAs value)
    (hnone : r.description = none ∨ r.description = some "") :
    (prepare value baseDir fileName seq).run.value = .error .missingDescription := by
  have hread := (Record.ofJson?_eq_some_iff value r).2 h
  have hfilter : r.description.filter (· ≠ "") = none := by
    rcases hnone with hnone | hempty
    · rw [hnone]
      rfl
    · rw [hempty]
      rfl
  simp only [prepare, hread, hfilter]
  rfl

/-- Nothing but the targets of a record with a description can be wrong. -/
theorem value_prepare_of_described (h : r.WrittenAs value)
    (hdescription : r.description = some description) (hne : description ≠ "") :
    (prepare value baseDir fileName seq).run.value =
      (TargetRecord.targets (nameOf baseDir fileName seq) 0 (r.targets.getD [])).run.value.map
        (ofRecord r baseDir fileName seq description) := by
  have hread := (Record.ofJson?_eq_some_iff value r).2 h
  have hfilter : r.description.filter (· ≠ "") = some description := by
    rw [hdescription, Option.filter_some, if_pos (decide_eq_true hne)]
  simp only [prepare, hread, hfilter, value_run_bind]
  cases (TargetRecord.targets (nameOf baseDir fileName seq) 0 (r.targets.getD [])).run.value with
  | error failure => rfl
  | ok targets =>
    simp only [Except.bind, Except.map, value_run_liftM, value_errorModeOf]
    rfl

theorem describes_ofRecord (hdescription : r.description = some description) (hne : description ≠ "")
    (htargets : TargetRecord.Become (r.targets.getD []) targets) :
    r.Describes baseDir fileName seq (ofRecord r baseDir fileName seq description targets) where
  name := rfl
  baseDir := rfl
  fileName := rfl
  description := hdescription
  described := hne
  format := rfl
  source := rfl
  option := rfl
  disabled := rfl
  targets := htargets
  code := by
    simp only [expectedExitCode, expectsFailure, ofRecord, decide_eq_true_eq,
      errorMode_eq_expected_iff]
  tolerates := by
    simp only [toleratesFailure, ofRecord, decide_eq_true_eq, errorMode_eq_tolerated_iff]
  update := by
    cases htargets : r.targets <;> simp [ofRecord, htargets]
  sorted := Change.sorted_byName _
  environ _ := Change.mem_byName_ofEntry

theorem errorMode_of_describes (h : r.Describes baseDir fileName seq d) :
    d.errorMode = r.error.bind ErrorMode.ofName? := by
  refine Option.ext fun mode => ?_
  cases mode with
  | expected =>
    rw [errorMode_eq_expected_iff]
    have hcode := h.code
    unfold expectedExitCode expectsFailure at hcode
    by_cases hmode : d.errorMode = some .expected <;> by_cases herror : r.error = some "expected" <;>
      simp_all
  | tolerated =>
    rw [errorMode_eq_tolerated_iff, ← h.tolerates, toleratesFailure, decide_eq_true_eq]

/-- A record describes one test only. -/
theorem eq_ofRecord_of_describes (h : r.Describes baseDir fileName seq d)
    (hdescription : r.description = some description)
    (htargets : TargetRecord.Become (r.targets.getD []) targets) :
    d = ofRecord r baseDir fileName seq description targets := by
  have hsame : r.Describes baseDir fileName seq
      (ofRecord r baseDir fileName seq d.description d.targets) :=
    describes_ofRecord h.description h.described h.targets
  have hmode := errorMode_of_describes h
  -- what is said of a truth value and of the environment determines them
  have hupdate : d.update = (r.targets.isSome && !r.keepsReferences) :=
    Bool.eq_iff_iff.2 (h.update.trans hsame.update.symm)
  have henviron : d.environ = Change.byName (r.environ.map Change.ofEntry) :=
    h.sorted.ext (Change.sorted_byName _) fun change =>
      (h.environ change).trans Change.mem_byName_ofEntry.symm
  obtain rfl := h.targets.unique htargets
  obtain rfl := Option.some_inj.1 (h.description.symm.trans hdescription)
  unfold ofRecord
  rw [← h.name, ← h.baseDir, ← h.fileName, ← h.format, ← h.source, ← h.option, ← h.disabled,
    ← hmode, ← hupdate, ← henviron]

/-- Every value becomes one of these. -/
theorem prepared_of_value (h : (prepare value baseDir fileName seq).run.value = result) :
    Prepared value baseDir fileName seq result := by
  subst h
  by_cases hwritten : ∃ r : Record, r.WrittenAs value
  · obtain ⟨r, hr⟩ := hwritten
    by_cases hnone : r.description = none ∨ r.description = some ""
    · rw [value_prepare_of_undescribed hr hnone]
      exact .missingDescription hr hnone
    · rw [not_or] at hnone
      obtain ⟨description, hdescription⟩ := Option.ne_none_iff_exists'.1 hnone.1
      have hne : description ≠ "" := fun heq => hnone.2 (heq ▸ hdescription)
      rw [value_prepare_of_described hr hdescription hne]
      cases htargets : (TargetRecord.targets (nameOf baseDir fileName seq) 0
          (r.targets.getD [])).run.value with
      | error failure =>
        obtain ⟨pattern, rfl, hfirst⟩ := TargetRecord.targets_eq_error_iff.1 htargets
        exact .invalidFilter hr hdescription hne hfirst
      | ok targets =>
        have hbecome := TargetRecord.targets_eq_ok_iff.1 htargets
        exact .test hr (describes_ofRecord hdescription hne hbecome)
  · rw [not_exists] at hwritten
    rw [value_prepare_of_not_written hwritten]
    exact .invalidRecord hwritten

theorem Prepared.value_eq (h : Prepared value baseDir fileName seq result) :
    (prepare value baseDir fileName seq).run.value = result := by
  cases h with
  | invalidRecord hnone => exact value_prepare_of_not_written hnone
  | missingDescription hr hnone => exact value_prepare_of_undescribed hr hnone
  | invalidFilter hr hdescription hne hfirst =>
    rw [value_prepare_of_described hr hdescription hne,
      TargetRecord.targets_eq_error_iff.2 ⟨_, rfl, hfirst⟩]
    rfl
  | test hr hd =>
    rw [value_prepare_of_described hr hd.description hd.described,
      TargetRecord.targets_eq_ok_iff.2 hd.targets]
    exact congrArg Except.ok (eq_ofRecord_of_describes hd hd.description hd.targets).symm

/-- A value is rejected if it is no record, else if it describes nothing, else if the pattern of a
filter is not well formed, and then for the first such pattern. Else it becomes the one test that
the record describes. -/
theorem prepare_outcome (value : Json) (baseDir : Path) (fileName : String) (seq : Option Nat)
    (result : Except DescriptorError Descriptor) :
    (prepare value baseDir fileName seq).run.value = result ↔
      Prepared value baseDir fileName seq result :=
  ⟨prepared_of_value, Prepared.value_eq⟩

end Prepare

end Descriptor

end AsmHarness
