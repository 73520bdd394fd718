import AsmHarness.Proofs.Descriptor.Prepare
import AsmHarness.Proofs.Update.Outcome

/-!
# When references may be replaced

A record permits it by having a list of targets, unless it is ruled out. It is not asked whether the
list says what to compare: a test may end up with a permission and without a reference. Updating it
starts the assembler and is counted, although there is nothing to replace.
-/

namespace AsmHarness

section Permission

variable {host : Host} {assembler : Path} {d : Descriptor} {files : FileTree} {finished : Finished}
  {r : Record} {baseDir : Path} {fileName : String} {seq : Option Nat}

/-- The assembler is not started for a test whose references may not be replaced. -/
theorem run_update_of_kept (h : d.update = false) :
    (update host assembler d).run files =
      ⟨(.skipped "No output provided", files), ⟨[.updating d.name], []⟩⟩ := by
  simp only [update, h]
  rfl

/-- Without a target, an update does nothing but start the assembler. -/
theorem value_update_of_nil (hupdate : d.update = true) (htargets : d.targets = [])
    (hd : d.disabled = none) (hstart : d.start host assembler files = .ok finished)
    (hcode : finished.ending.code = d.expectedExitCode) :
    ((update host assembler d).run files).value = (.done, finished.files) := by
  have hall : StoreAll d finished.captured d.targets finished.files finished.files := by
    rw [htargets]
    exact .nil
  exact (UpdateEnds.stored hupdate hd hstart hcode hall).value_eq

/-- The permission comes without a target where a list of targets names nothing to compare. -/
theorem update_and_nil_iff (h : r.Describes baseDir fileName seq d) :
    (d.update = true ∧ d.targets = []) ↔
      ∃ records, r.targets = some records ∧ r.keepsReferences = false ∧
        ∀ t ∈ records, t.NamesNothing := by
  rw [h.update, h.targets.eq_nil_iff]
  constructor
  · rintro ⟨⟨hsome, hkeeps⟩, hnothing⟩
    obtain ⟨records, hrecords⟩ := Option.ne_none_iff_exists'.1 hsome
    rw [hrecords, Option.getD_some] at hnothing
    exact ⟨records, hrecords, hkeeps, hnothing⟩
  · rintro ⟨records, hrecords, hkeeps, hnothing⟩
    refine ⟨⟨?_, hkeeps⟩, ?_⟩
    · rw [hrecords]
      exact Option.some_ne_none records
    · rw [hrecords]
      exact hnothing

end Permission

/-- A test may have its references replaced without having any exactly where its record has a list
of targets, none of which names anything to compare, and does not rule the replacing out. Then an
update is done as soon as the assembler ends as expected, with nothing replaced. Without the
permission the assembler is not even started. -/
theorem update_permission (value : Json) (baseDir : Path) (fileName : String) (seq : Option Nat)
    (d : Descriptor) (h : (Descriptor.prepare value baseDir fileName seq).run.value = .ok d) :
    ∃ r : Record, r.WrittenAs value ∧
      ((d.update = true ∧ d.targets = []) ↔
        ∃ records, r.targets = some records ∧ r.keepsReferences = false ∧
          ∀ t ∈ records, t.NamesNothing) ∧
      ∀ (host : Host) (assembler : Path) (files : FileTree),
        (d.update = false → (update host assembler d).run files =
          ⟨(.skipped "No output provided", files), ⟨[.updating d.name], []⟩⟩) ∧
        (d.update = true → d.targets = [] → d.disabled = none → ∀ finished,
          d.start host assembler files = .ok finished →
          finished.ending.code = d.expectedExitCode →
          ((update host assembler d).run files).value = (.done, finished.files)) := by
  cases Descriptor.prepared_of_value h with
  | @test r _ hwritten hdescribes =>
    refine ⟨r, hwritten, update_and_nil_iff hdescribes, fun host assembler files => ⟨?_, ?_⟩⟩
    · exact run_update_of_kept
    · intro hupdate htargets hd finished hstart hcode
      exact value_update_of_nil hupdate htargets hd hstart hcode

namespace Sample

/-- A record with a list of targets that is empty. -/
def listless : Json := .object [("description", .string "no references"), ("target", .array [])]

/-- The test that it describes. -/
def idle : Descriptor where
  name := "t/c"
  description := "no references"
  baseDir := "t"
  fileName := "c.json"
  format := none
  source := none
  option := none
  errorMode := none
  update := true
  disabled := none
  environ := []
  targets := []

theorem prepare_listless : (Descriptor.prepare listless "t" "c.json" none).run.value = .ok idle :=
  rfl

end Sample

/-- The assembler is started for a test without references, and the update is done. -/
theorem update_permission_listless :
    (Descriptor.prepare Sample.listless "t" "c.json" none).run.value = .ok Sample.idle ∧
      ((update (Sample.host (.exited 0) "" "" []) "nasm" Sample.idle).run Sample.files).value =
        (.done, Sample.files) := by
  obtain ⟨r, -, -, hends⟩ := update_permission _ _ _ _ _ Sample.prepare_listless
  exact ⟨Sample.prepare_listless, (hends _ _ _).2 rfl rfl rfl
    ⟨.exited 0, "".toUTF8, "".toUTF8, Sample.files⟩ rfl rfl⟩

/-- The references of a test may be replaced although it has none: the list of its targets is empty.
-/
theorem not_update_has_targets :
    ¬ ∀ (value : Json) (baseDir : Path) (fileName : String) (seq : Option Nat) (d : Descriptor),
      (Descriptor.prepare value baseDir fileName seq).run.value = .ok d →
      d.update = true → d.targets ≠ [] := by
  intro hall
  exact hall Sample.listless "t" "c.json" none Sample.idle Sample.prepare_listless rfl rfl

end AsmHarness
