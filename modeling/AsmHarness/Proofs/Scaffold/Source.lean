import AsmHarness.Command
import AsmHarness.Proofs.Execution
import AsmHarness.Proofs.Path.Steps
import AsmHarness.Proofs.Scaffold.Record
import AsmHarness.Proofs.Utf8

/-!
# The source of a new test

A new test is made of a source and a descriptor file, both put into the configured folder under the
names that were given. The test itself looks for its source from the folder of its descriptor file.
The two agree if the source is named by an absolute path, or if the descriptor file is an entry of
the configured folder; an `id` with a folder in it leads the test to a source that was never made.
-/

namespace AsmHarness

namespace Scaffold

/-- Where the source is made. -/
def sourcePath (s : Scaffold) (directory : Path) : Path := directory.join s.sourceName

/-- Where the descriptor file is made. -/
def descriptorPath (s : Scaffold) (directory : Path) : Path := directory.join (s.id ++ ".json")

/-! ## Making a test -/

/-- What comes of making a test, and the files that are left. -/
theorem value_createTest (directory : Path) (s : Scaffold) (files : FileTree) :
    ((createTest directory s).run.run files).value =
      match files.touch (s.sourcePath directory) with
      | .error cause => (.error (.notCreated (s.sourcePath directory) cause), files)
      | .ok touched =>
        match touched.write (s.descriptorPath directory) (s.render s.sourceName).toUTF8 with
        | .error cause => (.error (.notWritten (s.descriptorPath directory) cause), touched)
        | .ok written => (.ok (), written) := by
  unfold createTest
  generalize (s.render s.sourceName).toUTF8 = content
  rw [sourcePath, descriptorPath]
  cases htouch : files.touch (directory.join s.sourceName) with
  | error cause => simp [htouch]
  | ok touched =>
    cases hwrite : touched.write (directory.join (s.id ++ ".json")) content with
    | error cause => simp [htouch, hwrite]
    | ok written => simp [htouch, hwrite]

/-- A test has been made if the source could be touched, and then the descriptor file written. -/
theorem createTest_eq_ok {directory : Path} {s : Scaffold} {files written : FileTree}
    (h : ((createTest directory s).run.run files).value = (.ok (), written)) :
    ∃ touched, files.touch (s.sourcePath directory) = .ok touched ∧
      touched.write (s.descriptorPath directory) (s.render s.sourceName).toUTF8 = .ok written := by
  rw [value_createTest] at h
  cases htouch : files.touch (s.sourcePath directory) with
  | error cause => simp [htouch] at h
  | ok touched =>
    rw [htouch] at h
    dsimp only at h
    cases hwrite : touched.write (s.descriptorPath directory) (s.render s.sourceName).toUTF8 with
    | error cause =>
      rw [hwrite] at h
      cases h
    | ok files =>
      rw [hwrite] at h
      cases h
      exact ⟨touched, rfl, hwrite⟩

/-- The descriptor file of a new test, if it may be read, describes this test alone. -/
theorem value_read_of_read {s : Scaffold} {source : String} {files : FileTree} {path : Path}
    (hdescription : s.description ≠ "") (hread : files.read path = .ok (s.render source).toUTF8) :
    (Descriptor.read files path).run.value =
      .ok [s.descriptor source (path.parent?.getD "") (path.fileName?.getD "")] := by
  obtain ⟨record, hcandidates, hrecord⟩ := candidates_eq s source
  obtain ⟨value, hparse, hrecords⟩ := Option.bind_eq_some_iff.1 hcandidates
  have hprepare : (Descriptor.prepareAll path [(record, some 1)]).value =
      [s.descriptor source (path.parent?.getD "") (path.fileName?.getD "")] := by
    rw [Descriptor.value_prepareAll, List.filterMap_cons, Descriptor.value_prepareNoted,
      value_prepare hrecord, if_neg hdescription]
    rfl
  simp only [Descriptor.read, hread, Utf8.decode_toUTF8, hparse, hrecords]
  exact congrArg Except.ok hprepare

/-! ## Where the test looks for its source -/

theorem isPart_json {last : String} (hslash : '/' ∉ last.toList) :
    Path.IsPart (last ++ ".json") where
  ne_empty h := by simp at h
  ne_dot h := by
    have hlength := congrArg (fun text : String => text.toList.length) h
    simp at hlength
  ne_up h := by
    have hlength := congrArg (fun text : String => text.toList.length) h
    simp at hlength
  no_slash h := by simp [hslash] at h

/-- A test looks where its source was made if the source is absolute, or if the descriptor file is
an entry of the configured folder. -/
theorem steps_resolve_iff (s : Scaffold) (directory : Path) (source : Path) :
    ((((s.descriptorPath directory).parent?.getD "").join source).steps =
        (directory.join source).steps ↔
      source.isAbsolute ∨ (s.descriptorPath directory).IsEntryOf directory) ∧
    ('/' ∉ s.id.toList → (s.descriptorPath directory).IsEntryOf directory) := by
  obtain ⟨base, last, hpath, hlast, hbase⟩ :=
    Path.exists_join_eq directory s.id ".json" fun _ => isPart_json
  have hpart := isPart_json hlast
  rw [descriptorPath, hpath, Path.parent?_join hpart, Option.getD_some, Path.steps_join_eq_iff,
    Path.steps_trimmed, Path.isEntryOf_join_iff hpart]
  exact ⟨Iff.rfl, fun hslash => by rw [hbase hslash]⟩

/-- A test that has been made is the only one in its descriptor file, and its source exists. It
looks for the source where that was made, step by step, if and only if the source is named by an
absolute path or the descriptor file is an entry of the configured folder, as it is whenever there
is no slash in the `id`. -/
theorem createTest_source (directory : Path) (s : Scaffold) :
    (∀ d : Descriptor, d.baseDir = (s.descriptorPath directory).parent?.getD "" →
      ((d.resolve s.sourceName).steps = (s.sourcePath directory).steps ↔
        Path.isAbsolute s.sourceName ∨ (s.descriptorPath directory).IsEntryOf directory) ∧
      ((d.resolve s.sourceName).steps = (s.sourcePath directory).steps →
        ∀ origin, (d.resolve s.sourceName).place origin =
          (s.sourcePath directory).place origin)) ∧
    ('/' ∉ s.id.toList → (s.descriptorPath directory).IsEntryOf directory) ∧
    ∀ files written : FileTree,
      ((createTest directory s).run.run files).value = (.ok (), written) → s.description ≠ "" →
      files.MayRead (s.descriptorPath directory) →
        ∃ d, (Descriptor.read written (s.descriptorPath directory)).run.value = .ok [d] ∧
          d.baseDir = (s.descriptorPath directory).parent?.getD "" ∧
          d.source = some s.sourceName ∧ ∃ kept, written.Holds (s.sourcePath directory) kept := by
  obtain ⟨hsteps, hentry⟩ := steps_resolve_iff s directory s.sourceName
  refine ⟨fun d hbase => ?_, hentry, fun files written hcreate hdescription hmay => ?_⟩
  · rw [Descriptor.resolve, hbase]
    exact ⟨hsteps, Path.place_eq_of_steps_eq⟩
  · -- Touching the source leaves the descriptor file readable, even where they are the same file.
    obtain ⟨touched, htouch, hwrite⟩ := createTest_eq_ok hcreate
    have hread := FileTree.read_write hwrite (hmay.modify htouch)
    exact ⟨_, value_read_of_read hdescription hread, rfl, rfl,
      FileTree.exists_holds_of_touch htouch hwrite⟩

/-- A test whose `id` leads into a folder. -/
def nested : Scaffold where
  id := "sub/x"

/-- The configured folder, with the folder that the `id` leads into. -/
def nestedFiles : FileTree where
  entries := [("t", .folder [("sub", .emptyFolder)] .folder)]

theorem exists_createTest_nested :
    ∃ written, ((createTest "t" nested).run.run nestedFiles).value = (.ok (), written) := by
  rw [value_createTest]
  have htouch : nestedFiles.touch (nested.sourcePath "t") =
      .ok { nestedFiles with
        entries := [("t", .folder [("sub", .folder [("x.asm", .file .empty {})] .folder)] .folder)]
      } := rfl
  rw [htouch]
  generalize (nested.render nested.sourceName).toUTF8 = content
  exact ⟨_, rfl⟩

theorem mayRead_nested : nestedFiles.MayRead (nested.descriptorPath "t") := by
  have hplace : nestedFiles.place (nested.descriptorPath "t") = ["t", "sub", "x.json"] := rfl
  intro content mode hget
  rw [hplace] at hget
  cases hget

/-- The test is made, but looks for its source in a folder further down. -/
theorem createTest_source_nested :
    nested.description ≠ "" ∧ nestedFiles.MayRead (nested.descriptorPath "t") ∧
      ∃ written d, ((createTest "t" nested).run.run nestedFiles).value = (.ok (), written) ∧
        (Descriptor.read written "t/sub/x.json").run.value = .ok [d] ∧
        d.source = some "sub/x.asm" ∧ (∃ kept, written.Holds "t/sub/x.asm" kept) ∧
        (d.resolve "sub/x.asm").steps ≠ Path.steps "t/sub/x.asm" := by
  have hdescription : nested.description ≠ "" := by decide
  obtain ⟨written, hcreate⟩ := exists_createTest_nested
  obtain ⟨hresolve, -, hread⟩ := createTest_source "t" nested
  obtain ⟨d, hd, hbase, hsource, hkept⟩ := hread _ _ hcreate hdescription mayRead_nested
  refine ⟨hdescription, mayRead_nested, written, d, hcreate, hd, hsource, hkept, ?_⟩
  intro hsteps
  obtain habsolute | ⟨name, hname⟩ := (hresolve d hbase).1.1 hsteps
  · revert habsolute
    decide
  · -- From the configured folder to the descriptor file there are two steps.
    have hlength : (Path.steps "t/sub/x.json").2.length = (Path.steps "t").2.length + 1 := by
      have hsteps : Path.steps "t/sub/x.json" = _ := hname
      rw [hsteps, List.length_append, List.length_singleton]
    revert hlength
    decide

/-- A test does not always look for its source where that was made. -/
theorem not_resolve_place :
    ¬ ∀ (directory : Path) (s : Scaffold) (files written : FileTree) (d : Descriptor),
      ((createTest directory s).run.run files).value = (.ok (), written) → s.description ≠ "" →
      (Descriptor.read written (s.descriptorPath directory)).run.value = .ok [d] →
      files.place (d.resolve s.sourceName) = files.place (s.sourcePath directory) := by
  intro h
  obtain ⟨written, hcreate⟩ := exists_createTest_nested
  obtain ⟨touched, htouch, hwrite⟩ := createTest_eq_ok hcreate
  have hread := FileTree.read_write hwrite (mayRead_nested.modify htouch)
  have hdescription : nested.description ≠ "" := by decide
  have hplace := h "t" nested nestedFiles written _ hcreate hdescription
    (value_read_of_read hdescription hread)
  have hresolved : nestedFiles.place "t/sub/sub/x.asm" = ["t", "sub", "sub", "x.asm"] := rfl
  have hmade : nestedFiles.place "t/sub/x.asm" = ["t", "sub", "x.asm"] := rfl
  have hne : nestedFiles.place "t/sub/sub/x.asm" ≠ nestedFiles.place "t/sub/x.asm" := by
    rw [hresolved, hmade]
    decide
  exact hne hplace

end Scaffold

end AsmHarness
