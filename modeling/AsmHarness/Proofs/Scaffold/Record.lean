import AsmHarness.CommandLine.Parser
import AsmHarness.Descriptor.Load
import AsmHarness.Proofs.Descriptor.Prepare
import AsmHarness.Proofs.Descriptor.Read
import AsmHarness.Proofs.Json.Printer
import AsmHarness.Proofs.Template

/-!
# What is read of a new test

The descriptor file of a new test is read as one record, from which follows what was answered: what
was left empty is not set, and every file that was asked for is a target. The record may refer to
itself, which changes nothing, as the fields laid over each other are the same.
-/

namespace AsmHarness

/-! ## Records in general -/

namespace TargetRecord

/-- Targets without filters that all say what to compare. -/
theorem value_targets {name : String} {index : Nat} {records : List TargetRecord}
    {subjects : List Subject} (hsubjects : records.map subject? = subjects.map some)
    (hfilter : ∀ r ∈ records, r.filter = none) :
    (targets name index records).run.value = .ok (subjects.map (⟨·, none⟩)) := by
  induction records generalizing index subjects with
  | nil =>
    obtain rfl : subjects = [] := by simpa using hsubjects
    rfl
  | cons r rest ih =>
    obtain ⟨subject, subjects, rfl⟩ : ∃ subject more, subjects = subject :: more :=
      List.exists_cons_of_ne_nil (by rintro rfl; simp at hsubjects)
    rw [List.map_cons, List.map_cons, List.cons.injEq] at hsubjects
    rw [List.forall_mem_cons] at hfilter
    have hnone : r.filter? = .ok none := by rw [filter?, hfilter.1]
    rw [targets, value_run_bind, value_run_liftExcept, hnone, Except.bind, hsubjects.1]
    simp only [value_run_bind, ih hsubjects.2 hfilter.2]
    rfl

end TargetRecord

namespace Scaffold

/-! ## Answers -/

/-- The file that an answer asks for, if it asks for one. -/
inductive Asks (default : String) : String → Option String → Prop where
  /-- None is asked for. -/
  | no : Asks default "n" none
  /-- Nothing is answered. -/
  | empty : Asks default "" none
  /-- The usual one is asked for. -/
  | yes : Asks default "y" (some default)
  /-- A file is named. -/
  | named {answer : String} (ne_no : answer ≠ "n") (ne_empty : answer ≠ "")
    (ne_yes : answer ≠ "y") : Asks default answer (some answer)

/-- The error mode that an answer asks for, if it asks for one. -/
inductive AsksMode : Option String → Option ErrorMode → Prop where
  /-- The source is to be rejected. -/
  | expected : AsksMode (some "y") (some .expected)
  /-- Failures are to be ignored. -/
  | tolerated : AsksMode (some "i") (some .tolerated)
  /-- Nothing of the kind is answered. -/
  | none {answer : Option String} (ne_yes : answer ≠ some "y") (ne_ignore : answer ≠ some "i") :
    AsksMode answer none

theorem asks_fileName? (answer default : String) :
    Asks default answer (fileName? answer default) := by
  unfold fileName?
  split_ifs with hnone hyes
  · rcases hnone with rfl | rfl
    · exact .no
    · exact .empty
  · subst hyes
    exact .yes
  · obtain ⟨hno, hempty⟩ := not_or.1 hnone
    exact .named hno hempty hyes

theorem asksMode_errorMode? (answer : Option String) :
    AsksMode answer (answer.bind errorMode?) := by
  cases answer with
  | none => exact .none nofun nofun
  | some answer =>
    rw [Option.bind_some]
    unfold errorMode?
    split
    · exact .expected
    · exact .tolerated
    · rename_i hyes hignore
      exact .none (fun h => hyes (Option.some_inj.1 h)) fun h => hignore (Option.some_inj.1 h)

/-- What is compared if files of these names are asked for. -/
def subjectsOf (output stdout stderr : Option String) : List Subject :=
  (output.toList.map fun name => .artifact name (name ++ ".t") none) ++
    stdout.toList.map (.capture .stdout) ++ stderr.toList.map (.capture .stderr)

/-- A test that has been described by some answers. -/
structure Yields (s : Scaffold) (source : String) (baseDir : Path) (fileName : String)
    (d : Descriptor) : Prop where
  /-- It is named after its file, as the first of a list. -/
  name : d.name = Descriptor.nameOf baseDir fileName (some 1)
  /-- Its paths start from the folder of the file. -/
  baseDir : d.baseDir = baseDir
  /-- It is told which file describes it. -/
  fileName : d.fileName = fileName
  /-- The description is the one that was given. -/
  description : d.description = s.description
  /-- So is the source. -/
  source : d.source = some source
  /-- There is a format unless it was left empty. -/
  format : d.format = if s.format = "" then none else some s.format
  /-- There are options unless they were left empty. -/
  option : d.option = if s.option = "" then none else some s.option
  /-- Failure is treated as was asked for. -/
  errorMode : d.errorMode = s.errorMode
  /-- The environment is not changed. -/
  environ : d.environ = []
  /-- The test is not disabled. -/
  disabled : d.disabled = none
  /-- What was asked for is compared, unfiltered: the output before the streams, and regular output
  before messages. -/
  targets : ∃ output stdout stderr, Asks (s.id ++ extension s.format) s.output output ∧
    Asks (s.id ++ ".stdout") s.stdout stdout ∧ Asks (s.id ++ ".stderr") s.stderr stderr ∧
    d.targets = (subjectsOf output stdout stderr).map (⟨·, none⟩)
  /-- References may be replaced if there are any. -/
  update : d.update = true ↔ d.targets ≠ []

/-! ## The record -/

section Record

variable {s : Scaffold} {source : String}

/-- A text, unless it is empty. -/
def text? (text : String) : Option String := if text = "" then none else some text

/-- The keys of the record, each with what is written under it, if anything is. -/
def entries (s : Scaffold) (source : String) : List (String × Option Json) :=
  [("description", (text? s.description).map .string), ("id", some (.string s.id)),
    ("format", (text? s.format).map .string), ("source", some (.string source)),
    ("option", (text? s.option).map .string), ("ref", s.reference.map .string),
    ("error", (s.errorMode.map errorName).map .string),
    ("target", if s.targets = [] then none else some (.array s.targets))]

/-- The fields that are written. -/
def written (entries : List (String × Option Json)) : Json.Fields :=
  entries.filterMap fun entry => entry.2.map (entry.1, ·)

theorem written_cons (entry : String × Option Json) (rest : List (String × Option Json)) :
    written (entry :: rest) = entry.2.toList.map (entry.1, ·) ++ written rest := by
  obtain ⟨key, value⟩ := entry
  cases value <;> rfl

theorem textField_eq (key text : String) :
    textField key text = ((text? text).map Json.string).toList.map (key, ·) := by
  unfold textField text?
  split_ifs <;> rfl

theorem optionalField_eq (key : String) (text : Option String) :
    optionalField key text = (text.map Json.string).toList.map (key, ·) := by
  cases text <;> rfl

theorem fields_eq (s : Scaffold) (source : String) :
    s.fields source = written (s.entries source) := by
  have htarget : (if s.targets.isEmpty then [] else [("target", Json.array s.targets)]) =
      (if s.targets = [] then none else some (Json.array s.targets)).toList.map ("target", ·) := by
    cases s.targets <;> rfl
  unfold fields entries
  rw [htarget]
  simp only [written_cons, textField_eq, optionalField_eq, List.append_assoc]
  simp [written]

theorem keys_written (entries : List (String × Option Json)) :
    ((written entries).map (·.1)).Sublist (entries.map (·.1)) := by
  induction entries with
  | nil => exact .slnil
  | cons entry rest ih =>
    rw [written_cons, List.map_append, List.map_cons]
    cases entry.2 with
    | none => exact ih.cons _
    | some value => exact ih.cons_cons _

/-- What is written under a key is what is found there. -/
theorem get?_written {entries : List (String × Option Json)} (h : (entries.map (·.1)).Nodup)
    {key : String} {value : Option Json} (hmem : (key, value) ∈ entries) :
    (written entries).get? key = value := by
  induction entries with
  | nil => cases hmem
  | cons entry rest ih =>
    obtain ⟨hfirst, hrest⟩ := List.nodup_cons.1 h
    rw [written_cons, Json.Fields.get?_append]
    rcases List.mem_cons.1 hmem with rfl | hmem
    · have hnone : (written rest).get? key = none :=
        Json.Fields.get?_eq_none_iff.2 fun hkey => hfirst ((keys_written rest).subset hkey)
      rw [hnone]
      cases value with
      | none => rfl
      | some value => simp [Json.Fields.get?_cons]
    · have hne : entry.1 ≠ key := fun heq => hfirst (List.mem_map.2 ⟨_, hmem, heq.symm⟩)
      rw [ih hrest hmem]
      cases entry.2 with
      | none => rfl
      | some other => simp [Json.Fields.get?_cons, Json.Fields.get?_nil, hne]

theorem nodup_entries (s : Scaffold) (source : String) :
    ((s.entries source).map (·.1)).Nodup := by
  simp [entries]

/-- The names of the files that are asked for, each with the key of its target. -/
theorem targets_eq (s : Scaffold) :
    s.targets = ((fileName? s.output (s.id ++ extension s.format)).toList.map fun name =>
        .object [("output", .string name)]) ++
      ((fileName? s.stdout (s.id ++ ".stdout")).toList.map fun name =>
        .object [("stdout", .string name)]) ++
      ((fileName? s.stderr (s.id ++ ".stderr")).toList.map fun name =>
        .object [("stderr", .string name)]) := by
  unfold targets
  cases fileName? s.output (s.id ++ extension s.format) <;>
    cases fileName? s.stdout (s.id ++ ".stdout") <;>
    cases fileName? s.stderr (s.id ++ ".stderr") <;> rfl

theorem readable_targets (s : Scaffold) : ∀ item ∈ s.targets, Json.Readable 3 item := by
  have htarget : ∀ (key : String) (name : Option String),
      ∀ item ∈ name.toList.map fun name => Json.object [(key, .string name)],
        Json.Readable 3 item := by
    intro key name item hitem
    obtain ⟨name, -, rfl⟩ := List.mem_map.1 hitem
    simp [Json.maxDepth, Json.Fields.Distinct]
  rw [targets_eq, List.forall_mem_append, List.forall_mem_append]
  exact ⟨⟨htarget _ _, htarget _ _⟩, htarget _ _⟩

theorem readable_entries (s : Scaffold) (source : String) :
    ∀ entry ∈ s.entries source, ∀ value ∈ entry.2, Json.Readable 2 value := by
  have htext : ∀ text : Option String, ∀ value ∈ text.map Json.string, Json.Readable 2 value := by
    intro text value hvalue
    obtain ⟨text, -, rfl⟩ := Option.map_eq_some_iff.1 hvalue
    exact .string _
  have htarget : ∀ value ∈ (if s.targets = [] then none else some (Json.array s.targets)),
      Json.Readable 2 value := by
    intro value hvalue
    split_ifs at hvalue
    · cases hvalue
    · obtain rfl := Option.mem_some_iff.1 hvalue
      simpa [Json.maxDepth] using readable_targets s
  simp only [entries, List.forall_mem_cons]
  exact ⟨htext _, htext (some s.id), htext _, htext (some source), htext _, htext _, htext _,
    htarget, nofun⟩

theorem distinct_fields (s : Scaffold) (source : String) : (s.fields source).Distinct := by
  rw [fields_eq]
  exact (keys_written _).nodup (nodup_entries s source)

/-- The text of a new test can be read. -/
theorem readable_record (s : Scaffold) (source : String) :
    Json.Readable 0 (.array [.object (s.fields source)]) := by
  have hfields : ∀ field ∈ s.fields source, Json.Readable 2 field.2 := by
    intro field hfield
    rw [fields_eq] at hfield
    obtain ⟨entry, hentry, hvalue⟩ := List.mem_filterMap.1 hfield
    obtain ⟨value, hentry_eq, rfl⟩ := Option.map_eq_some_iff.1 hvalue
    exact readable_entries s source entry hentry value hentry_eq
  have hrecord : Json.Readable 1 (.object (s.fields source)) :=
    .object (by decide) (distinct_fields s source) hfields
  simpa [Json.maxDepth] using hrecord

/-! ## What is read of it -/

/-- What is read of the targets. -/
def targetRecords (s : Scaffold) : List TargetRecord :=
  ((fileName? s.output (s.id ++ extension s.format)).toList.map fun name =>
      ⟨some name, none, none, none, none, none⟩) ++
    ((fileName? s.stdout (s.id ++ ".stdout")).toList.map fun name =>
      ⟨none, none, none, some name, none, none⟩) ++
    ((fileName? s.stderr (s.id ++ ".stderr")).toList.map fun name =>
      ⟨none, none, none, none, some name, none⟩)

/-- What is read of the record. -/
def record (s : Scaffold) (source : String) : Record where
  description := text? s.description
  format := text? s.format
  source := some source
  option := text? s.option
  error := s.errorMode.map errorName
  disable := none
  keepsReferences := false
  environ := []
  targets := if s.targets = [] then none else some s.targetRecords

theorem mapM_targets (s : Scaffold) :
    s.targets.mapM TargetRecord.ofJson? = some s.targetRecords := by
  rw [targets_eq, targetRecords]
  cases fileName? s.output (s.id ++ extension s.format) <;>
    cases fileName? s.stdout (s.id ++ ".stdout") <;>
    cases fileName? s.stderr (s.id ++ ".stderr") <;> rfl

theorem targetRecords_eq_nil_iff (s : Scaffold) : s.targetRecords = [] ↔ s.targets = [] := by
  rw [targets_eq, targetRecords]
  simp

theorem optional?_string (text : Option String) :
    Record.optional? Record.string? (text.map .string) = some text := by
  cases text <;> rfl

/-- The record is read from all fields but the `id`. -/
theorem ofJson?_of_get? {fields : Json.Fields}
    (h : ∀ key, key ≠ "id" → fields.get? key = (s.fields source).get? key) :
    Record.ofJson? (.object fields) = some (s.record source) := by
  have hget : ∀ {key : String} {value : Option Json}, key ≠ "id" →
      (key, value) ∈ s.entries source → fields.get? key = value := by
    intro key value hne hmem
    rw [h key hne, fields_eq]
    exact get?_written (nodup_entries s source) hmem
  have hnone : ∀ {key : String}, key ∉ (s.entries source).map (·.1) → key ≠ "id" →
      fields.get? key = none := by
    intro key hkey hne
    rw [h key hne, fields_eq]
    exact Json.Fields.get?_eq_none_iff.2 fun hmem => hkey ((keys_written _).subset hmem)
  have htext : ∀ (key : String) (text : Option String), key ≠ "id" →
      (key, text.map .string) ∈ s.entries source →
        Record.optionalField? Record.string? fields key = some text := by
    intro key text hne hmem
    rw [Record.optionalField?, hget hne hmem, optional?_string]
  have hdescription := htext "description" (text? s.description) (by decide) (by simp [entries])
  have hformat := htext "format" (text? s.format) (by decide) (by simp [entries])
  have hsource := htext "source" (some source) (by decide) (by simp [entries])
  have hoption := htext "option" (text? s.option) (by decide) (by simp [entries])
  have herror := htext "error" (s.errorMode.map errorName) (by decide) (by simp [entries])
  have hdisable : Record.optionalField? Record.string? fields "disable" = some none := by
    rw [Record.optionalField?, hnone (by simp [entries]) (by decide)]
    rfl
  have hupdate : Record.optionalField? Record.isNo? fields "update" = some none := by
    rw [Record.optionalField?, hnone (by simp [entries]) (by decide)]
    rfl
  have henviron : fields.get? "environ" = none := hnone (by simp [entries]) (by decide)
  have htarget : Record.optionalField? (Record.list? TargetRecord.ofJson?) fields "target" =
      some (if s.targets = [] then none else some s.targetRecords) := by
    rw [Record.optionalField?, @hget "target"
      (if s.targets = [] then none else some (.array s.targets)) (by decide) (by simp [entries])]
    split_ifs
    · rfl
    · exact congrArg (Option.map some) (mapM_targets s)
  unfold Record.ofJson?
  simp only [Record.fields?, Option.bind_eq_bind, Option.bind_some, hdescription, hformat, hsource,
    hoption, herror, hdisable, hupdate, henviron, htarget]
  rfl

/-! ## What becomes of it -/

/-- What is read of a text is put together from records that may refer to each other. -/
def candidates (s : Scaffold) (source : String) : Option (List (Json × Option Nat)) :=
  (Json.parse? (s.render source)).bind Descriptor.records?

/-- One record is read, the first of a list, whatever it refers to. -/
theorem candidates_eq (s : Scaffold) (source : String) :
    ∃ record, s.candidates source = some [(record, some 1)] ∧
      Record.ofJson? record = some (s.record source) := by
  have hparse : Json.parse? (s.render source) = some (.array [.object (s.fields source)]) :=
    Json.parse?_pretty (readable_record s source)
  refine ⟨Template.expandRecord [.object (s.fields source)] (.object (s.fields source)), ?_, ?_⟩
  · rw [candidates, hparse, Option.bind_some, Descriptor.records?_array]
    rfl
  · have hkeys : ∀ fields : Json.Fields, .object fields ∈ [Json.object (s.fields source)] →
        fields.Distinct := by
      intro fields hmem
      obtain rfl : fields = s.fields source := by simpa using hmem
      exact distinct_fields s source
    have hexpands := Template.expands_expandRecord hkeys (List.mem_singleton_self _)
    -- The record can only refer to itself, as there is no other.
    generalize Template.expandRecord [.object (s.fields source)] (.object (s.fields source)) =
      result at hexpands
    cases hexpands with
    | unchanged => exact ofJson?_of_get? fun _ _ => rfl
    | @inherited _ template _ _ reference last distinct anonymous layered =>
      obtain rfl : template = s.fields source := by simpa using last.mem
      refine ofJson?_of_get? fun key hne => ?_
      rw [layered key hne, Option.or_self]

/-- What is compared. -/
def subjects (s : Scaffold) : List Subject :=
  subjectsOf (fileName? s.output (s.id ++ extension s.format))
    (fileName? s.stdout (s.id ++ ".stdout")) (fileName? s.stderr (s.id ++ ".stderr"))

theorem value_targetRecords (s : Scaffold) (name : String) :
    (TargetRecord.targets name 0 s.targetRecords).run.value = .ok (s.subjects.map (⟨·, none⟩)) := by
  refine TargetRecord.value_targets ?_ ?_
  · unfold targetRecords subjects subjectsOf
    cases fileName? s.output (s.id ++ extension s.format) <;>
      cases fileName? s.stdout (s.id ++ ".stdout") <;>
      cases fileName? s.stderr (s.id ++ ".stderr") <;> rfl
  · simp only [targetRecords, List.forall_mem_append, List.forall_mem_map, implies_true, and_self]

theorem value_errorModeOf (name : String) (mode : Option ErrorMode) :
    (Descriptor.errorModeOf name (mode.map errorName)).value = mode := by
  cases mode with
  | none => rfl
  | some mode => cases mode <;> rfl

/-- The test that is described. -/
def descriptor (s : Scaffold) (source : String) (baseDir : Path) (fileName : String) :
    Descriptor where
  name := Descriptor.nameOf baseDir fileName (some 1)
  description := s.description
  baseDir := baseDir
  fileName := fileName
  format := text? s.format
  source := some source
  option := text? s.option
  errorMode := s.errorMode
  update := !s.targets.isEmpty
  disabled := none
  environ := []
  targets := s.subjects.map (⟨·, none⟩)

/-- A record without a description is rejected, any other describes the test. -/
theorem value_prepare {record : Json} (h : Record.ofJson? record = some (s.record source))
    (baseDir : Path) (fileName : String) :
    (Descriptor.prepare record baseDir fileName (some 1)).run.value =
      if s.description = "" then .error .missingDescription
      else .ok (s.descriptor source baseDir fileName) := by
  unfold Descriptor.prepare
  simp only [h]
  split_ifs with hdescription
  · have hnone : (s.record source).description.filter (· ≠ "") = none := by
      simp [Scaffold.record, text?, hdescription]
    simp only [hnone]
    rfl
  · have hsome : (s.record source).description.filter (· ≠ "") = some s.description := by
      simp [Scaffold.record, text?, hdescription]
    have htargets : (s.record source).targets.getD [] = s.targetRecords := by
      by_cases hempty : s.targets = []
      · simp [Scaffold.record, hempty, (targetRecords_eq_nil_iff s).2 hempty]
      · simp [Scaffold.record, hempty]
    have hupdate : ((s.record source).targets.isSome && !(s.record source).keepsReferences) =
        !s.targets.isEmpty := by
      by_cases hempty : s.targets = [] <;> simp [Scaffold.record, hempty]
    have hmode : ∀ name, (Descriptor.errorModeOf name (s.record source).error).value =
        s.errorMode := fun name => value_errorModeOf name s.errorMode
    simp only [hsome, value_run_bind, htargets, value_targetRecords, Except.bind, hupdate,
      value_run_liftM, hmode]
    rfl

theorem yields_descriptor (s : Scaffold) (source : String) (baseDir : Path) (fileName : String) :
    s.Yields source baseDir fileName (s.descriptor source baseDir fileName) where
  name := rfl
  baseDir := rfl
  fileName := rfl
  description := rfl
  source := rfl
  format := rfl
  option := rfl
  errorMode := rfl
  environ := rfl
  disabled := rfl
  targets := ⟨_, _, _, asks_fileName? _ _, asks_fileName? _ _, asks_fileName? _ _, rfl⟩
  update := by
    have hempty : s.subjects = [] ↔ s.targets = [] := by
      rw [targets_eq, subjects, subjectsOf]
      simp
    simp [descriptor, hempty]

/-- The text of a new test holds one record, the first of a list. It is rejected if there is no
description, and else describes the test as was answered. What it refers to makes no difference. -/
theorem render_candidates (s : Scaffold) (source : String) :
    ∃ record, s.candidates source = some [(record, some 1)] ∧
      (∀ baseDir fileName,
        ((Descriptor.prepare record baseDir fileName (some 1)).run.value =
            .error .missingDescription ↔ s.description = "") ∧
          (s.description ≠ "" → ∃ d,
            (Descriptor.prepare record baseDir fileName (some 1)).run.value = .ok d ∧
              s.Yields source baseDir fileName d)) ∧
      (∀ reference, ∃ other,
        ({ s with reference } : Scaffold).candidates source = some [(other, some 1)] ∧
          ∀ baseDir fileName, Descriptor.prepare other baseDir fileName (some 1) =
            Descriptor.prepare record baseDir fileName (some 1)) ∧
      ∀ (id : String) (value? : CommandLine.Opt → Option String),
        AsksMode (value? .error) (CommandLine.scaffoldOf id value?).errorMode := by
  obtain ⟨record, hrecord, hread⟩ := candidates_eq s source
  refine ⟨record, hrecord, fun baseDir fileName => ?_, fun reference => ?_, fun id value? =>
    asksMode_errorMode? _⟩
  · rw [value_prepare hread]
    split_ifs with hdescription
    · exact ⟨⟨fun _ => hdescription, fun _ => rfl⟩, fun hne => absurd hdescription hne⟩
    · exact ⟨⟨nofun, fun hempty => absurd hempty hdescription⟩,
        fun _ => ⟨_, rfl, yields_descriptor s source baseDir fileName⟩⟩
  · obtain ⟨other, hother, hread'⟩ := candidates_eq { s with reference } source
    exact ⟨other, hother, fun baseDir fileName =>
      Descriptor.prepare_congr (hread'.trans hread.symm) baseDir fileName (some 1)⟩

/-- A test with quotes and a control character in its texts that refers to itself. -/
def quoted : Scaffold where
  id := "a\"b\\"
  description := "says \"no\"\x01"
  format := ""
  reference := some "a\"b\\"
  errorMode := some .tolerated
  stdout := "n"
  stderr := "messages\t"

/-- The test can be read as it was described. -/
theorem render_candidates_quoted :
    quoted.description ≠ "" ∧ ∃ record d, quoted.candidates "x.asm" = some [(record, some 1)] ∧
      (Descriptor.prepare record "t" "q.json" (some 1)).run.value = .ok d ∧
      quoted.Yields "x.asm" "t" "q.json" d ∧ d.format = none ∧ d.errorMode = some .tolerated := by
  have hdescription : quoted.description ≠ "" := by decide
  obtain ⟨record, hrecord, hprepare, -, -⟩ := render_candidates quoted "x.asm"
  obtain ⟨d, hd, hyields⟩ := (hprepare "t" "q.json").2 hdescription
  exact ⟨hdescription, record, d, hrecord, hd, hyields, hyields.format, hyields.errorMode⟩

end Record

end Scaffold

end AsmHarness
