import AsmHarness.Command
import AsmHarness.Proofs.Descriptor.Read
import AsmHarness.Proofs.Pass
import AsmHarness.Proofs.Scaffold.Source

/-!
# What a command ends with

Scripts tell three ends of a command by its exit code. A test that is named but cannot be found ends
it before anything is done; what cannot be configured or made, and a test that fails in a way that
counts, make it fail; all else is success, even if there are no tests at all.
-/

namespace AsmHarness

/-- The exit code that the result of a command leads to. -/
def exitCodeOf : Except CommandError Status → Nat
  | .ok status => status.exitCode
  | .error e => e.exitCode

/-- An exit code tells whether a test could not be found, and whether something failed. -/
structure Tells (code : Nat) (unresolved fails : Prop) : Prop where
  /-- A test could not be found. -/
  two : code = 2 ↔ unresolved
  /-- Something failed. -/
  one : code = 1 ↔ fails
  /-- There are no other codes but zero. -/
  le : code ≤ 2

namespace Tells

variable {code : Nat} {unresolved unresolved' fails fails' : Prop}

/-- In every other case it is zero. -/
theorem zero (h : Tells code unresolved fails) : code = 0 ↔ ¬ unresolved ∧ ¬ fails := by
  have hle := h.le
  rw [← h.two, ← h.one]
  omega

theorem congr (h : Tells code unresolved fails) (hunresolved : unresolved' ↔ unresolved)
    (hfails : fails' ↔ fails) : Tells code unresolved' fails' :=
  ⟨h.two.trans hunresolved.symm, h.one.trans hfails.symm, h.le⟩

theorem of_success (hunresolved : ¬ unresolved) (hfails : ¬ fails) : Tells 0 unresolved fails :=
  ⟨iff_of_false (by decide) hunresolved, iff_of_false (by decide) hfails, by decide⟩

theorem of_fails (hunresolved : ¬ unresolved) (hfails : fails) : Tells 1 unresolved fails :=
  ⟨iff_of_false (by decide) hunresolved, iff_of_true rfl hfails, by decide⟩

theorem of_unresolved (hunresolved : unresolved) (hfails : ¬ fails) : Tells 2 unresolved fails :=
  ⟨iff_of_true rfl hunresolved, iff_of_false (by decide) hfails, by decide⟩

end Tells

/-! ## Configuration -/

namespace Settings

variable {files : FileTree} {path : Path} {named : Option Path}

/-- A configuration file cannot be used. -/
inductive Unusable (files : FileTree) (path : Path) : Prop where
  /-- It cannot be read. -/
  | unreadable {cause : OsError} (read : files.read path = .error cause)
  /-- It is not written in the encoding of texts. -/
  | misencoded {content : ByteArray} (read : files.read path = .ok content)
    (decode : Utf8.decode? content = none)
  /-- It holds no settings. -/
  | invalid {content : ByteArray} {text : String} (read : files.read path = .ok content)
    (decode : Utf8.decode? content = some text) (parse : ofText? text = none)

/-- The configuration file that is used: the one that is named, or else the default one if that
exists. -/
def usedFile? (files : FileTree) (named : Option Path) : Option Path :=
  named.or (if files.contains defaultConfigFile then some defaultConfigFile else none)

theorem read_eq_error_iff :
    (∃ cause, (read files path).run.value = .error cause) ↔ Unusable files path := by
  unfold read
  constructor
  · rintro ⟨cause, h⟩
    cases hread : files.read path with
    | error cause => exact .unreadable hread
    | ok content =>
      cases hdecode : Utf8.decode? content with
      | none => exact .misencoded hread hdecode
      | some text =>
        cases hparse : ofText? text with
        | none => exact .invalid hread hdecode hparse
        | some settings =>
          simp only [hread, hdecode, hparse] at h
          cases h
  · rintro (hread | ⟨hread, hdecode⟩ | ⟨hread, hdecode, hparse⟩)
    · exact ⟨_, by simp only [hread]; rfl⟩
    · exact ⟨_, by simp only [hread, hdecode]; rfl⟩
    · exact ⟨_, by simp only [hread, hdecode, hparse]; rfl⟩

/-- Reading settings is noted in the log only. -/
theorem report_discover (files : FileTree) (named : Option Path) :
    (discover files named).run.journal.report = [] := by
  have hread : ∀ path, (read files path).run.journal.report = [] := by
    intro path
    unfold read
    split
    · rfl
    · split
      · rfl
      · split <;> rfl
  unfold discover
  split
  · exact hread _
  · split_ifs
    · exact hread _
    · rfl

/-- There are no settings if the configuration file that is used cannot be. -/
theorem discover_eq_error_iff : (∃ cause, (discover files named).run.value = .error cause) ↔
    ∃ path, usedFile? files named = some path ∧ Unusable files path := by
  cases named with
  | some path => simpa [usedFile?, discover] using read_eq_error_iff
  | none =>
    rw [usedFile?, discover, Option.none_or]
    split_ifs with hcontains
    · simpa using read_eq_error_iff
    · simp

end Settings

/-- The configuration that a command is carried out with, if the settings can be had. -/
def CommandLine.HasConfig (line : CommandLine) (files : FileTree) (config : Config) : Prop :=
  ∃ settings, (Settings.discover files line.config).run.value = .ok settings ∧
    config = Config.resolve settings line.settings

/-! ## Tests -/

/-- What a command does with tests, and the file it takes them from if it names one. -/
def Command.task? : Command → Option (Task × Option Path)
  | .run test _ => some (.verify, test)
  | .update test => some (.update, test)
  | .list | .new _ => none

/-- The tests of a file, or of all files below a folder. -/
def Descriptor.selected (files : FileTree) (directory : Path) (test : Option Path) :
    List Descriptor :=
  match test with
  | none => (loadDirectory files directory).value
  | some path => (loadFile files path).value

/-- What a pass over these tests goes through. -/
def Config.stages (config : Config) (task : Task) (host : Host) (test : Option Path)
    (files : FileTree) : List Stage :=
  processed config.stopOnFailure
    (task.stages host config.assembler (Descriptor.selected files config.directory test) files)

section Tasks

variable {task : Task} {host : Host} {config : Config} {test : Option Path} {path : Path}
  {files : FileTree}

/-- If there are no tests in the file that is named, nothing is done. -/
theorem run_runTask_of_nil (h : (Descriptor.loadFile files path).value = []) :
    (runTask task host config (some path)).run.run files =
      ⟨(.error (.unresolvable path), files), (Descriptor.loadFile files path).journal ++
        ⟨[.banner .abort path (some "Can't obtain test descriptors")], []⟩⟩ := by
  refine Noted.ext ?_ ?_ <;> simp [runTask, selectTests, h]

theorem value_selectTests
    (h : ∀ path, test = some path → (Descriptor.loadFile files path).value ≠ []) :
    ((selectTests config.directory test).run.run files).value =
      (.ok (Descriptor.selected files config.directory test), files) := by
  cases test with
  | none => simp [selectTests, Descriptor.selected]
  | some path => simp [selectTests, Descriptor.selected, h path rfl]

/-- Else the tests are gone through, and the command fails if one of them does in a way that counts.
-/
theorem value_runTask
    (h : ∀ path, test = some path → (Descriptor.loadFile files path).value ≠ []) :
    ((runTask task host config test).run.run files).value.1 =
      .ok (Summary.ofStages task config.stopOnFailure
        (config.stages task host test files)).status := by
  have hpass : ((passAll task host config (Descriptor.selected files config.directory test)).run
      files).value.1 = Summary.ofStages task config.stopOnFailure
        (config.stages task host test files) := by
    rw [passAll, run_passFrom]
    exact foldl_counted
  unfold runTask
  simp [value_selectTests h, hpass, Except.map]

theorem status_ofStages (task : Task) (stop : Bool) (stages : List Stage) :
    (Summary.ofStages task stop stages).status = .failure ↔ ∃ stage ∈ stages, stage.FailsHard :=
  status_eq_failure.trans countOf_fail_pos

/-- The end of a task over tests tells whether there were any in the file that is named, and whether
one failed in a way that counts. -/
theorem tells_runTask :
    Tells (exitCodeOf ((runTask task host config test).run.run files).value.1)
      (∃ path, test = some path ∧ (Descriptor.loadFile files path).value = [])
      (∃ stage ∈ config.stages task host test files, stage.FailsHard) := by
  by_cases hnone : ∃ path, test = some path ∧ (Descriptor.loadFile files path).value = []
  · have hstages : config.stages task host test files = [] := by
      obtain ⟨path, rfl, hnil⟩ := hnone
      rw [Config.stages, Descriptor.selected, hnil]
      rfl
    obtain ⟨path, rfl, hnil⟩ := hnone
    rw [run_runTask_of_nil hnil, hstages]
    exact .of_unresolved ⟨path, rfl, hnil⟩ (by simp)
  · have hstatus := status_ofStages task config.stopOnFailure (config.stages task host test files)
    rw [value_runTask fun path htest hnil => hnone ⟨path, htest, hnil⟩, ← hstatus, exitCodeOf]
    generalize (Summary.ofStages task config.stopOnFailure _).status = status
    cases status with
    | success => exact .of_success hnone (by decide)
    | failure => exact .of_fails hnone rfl

end Tasks

/-! ## Commands -/

/-- A new test cannot be made. -/
inductive Scaffold.Refused (s : Scaffold) (directory : Path) (files : FileTree) : Prop where
  /-- Its source can neither be kept nor made. -/
  | source {cause : OsError} (touch : files.touch (s.sourcePath directory) = .error cause)
  /-- Its descriptor file cannot be written. -/
  | descriptor {touched : FileTree} {cause : OsError}
    (touch : files.touch (s.sourcePath directory) = .ok touched)
    (write : touched.write (s.descriptorPath directory) (s.render s.sourceName).toUTF8 =
      .error cause)

namespace Command

/-- A command names a test that cannot be found. -/
def Unresolved (command : Command) (files : FileTree) (test : Path) : Prop :=
  (∃ task, command.task? = some (task, some test)) ∧ (Descriptor.loadFile files test).value = []

/-- A command fails with a configuration. -/
inductive Fails (command : Command) (host : Host) (config : Config) (files : FileTree) : Prop where
  /-- The new test cannot be made. -/
  | creation {s : Scaffold} (command_eq : command = .new s)
    (refused : s.Refused config.directory files)
  /-- One of the tests that are gone through fails, and its descriptor does not tolerate that. -/
  | test {task : Task} {test : Option Path} {stage : Stage}
    (task?_eq : command.task? = some (task, test))
    (mem : stage ∈ config.stages task host test files) (failsHard : stage.FailsHard)

/-- A command that does something with tests does nothing else. -/
theorem perform_of_task? {command : Command} {task : Task} {test : Option Path}
    (h : command.task? = some (task, test)) (host : Host) (config : Config) :
    command.perform host config = runTask task host config test := by
  cases command with
  | run named stop => cases h; rfl
  | update named => cases h; rfl
  | list => cases h
  | new s => cases h

/-- To list the tests is a success, whatever they are. -/
theorem value_perform_list (host : Host) (config : Config) (files : FileTree) :
    ((perform .list host config).run.run files).value.1 = .ok .success := by
  simp [perform, Except.map]

/-- A new test is made, or the command fails. -/
theorem tells_createTest (s : Scaffold) (host : Host) (config : Config) (files : FileTree) :
    Tells (exitCodeOf ((perform (.new s) host config).run.run files).value.1) False
      (s.Refused config.directory files) := by
  have hvalue : ((perform (.new s) host config).run.run files).value.1 =
      ((createTest config.directory s).run.run files).value.1.map fun _ => Status.success := by
    simp only [perform, ExceptT.run_bind, StateT.run_bind, Noted.value_bind]
    cases ((createTest config.directory s).run.run files).value.1 <;> rfl
  rw [hvalue, s.value_createTest]
  cases htouch : files.touch (s.sourcePath config.directory) with
  | error cause => exact .of_fails id (.source htouch)
  | ok touched =>
    cases hwrite : touched.write (s.descriptorPath config.directory)
        (s.render s.sourceName).toUTF8 with
    | error cause =>
      simp only [hwrite]
      exact .of_fails id (.descriptor htouch hwrite)
    | ok written =>
      simp only [hwrite]
      refine .of_success id ?_
      rintro (hsource | ⟨htouch', hdescriptor⟩)
      · cases htouch.symm.trans hsource
      · cases htouch.symm.trans htouch'
        cases hwrite.symm.trans hdescriptor

/-- The end of a command tells whether it names a test that cannot be found, and whether it fails.
-/
theorem tells_perform (command : Command) (host : Host) (config : Config) (files : FileTree) :
    Tells (exitCodeOf ((command.perform host config).run.run files).value.1)
      (∃ test, command.Unresolved files test) (command.Fails host config files) := by
  cases htask? : command.task? with
  | some pair =>
    obtain ⟨task, test⟩ := pair
    rw [perform_of_task? htask?]
    refine tells_runTask.congr ⟨?_, ?_⟩ ⟨?_, ?_⟩
    · rintro ⟨path, ⟨task', hpath⟩, hnil⟩
      cases htask?.symm.trans hpath
      exact ⟨path, rfl, hnil⟩
    · rintro ⟨path, rfl, hnil⟩
      exact ⟨path, ⟨task, htask?⟩, hnil⟩
    · rintro (⟨rfl, -⟩ | ⟨htask?', hmem, hfails⟩)
      · cases htask?
      · cases htask?.symm.trans htask?'
        exact ⟨_, hmem, hfails⟩
    · rintro ⟨stage, hmem, hfails⟩
      exact .test htask? hmem hfails
  | none =>
    -- Without tests, no test can be missed, and none can fail.
    have hunresolved : ¬ ∃ test, command.Unresolved files test := by
      rintro ⟨test, ⟨task, hnamed⟩, -⟩
      cases htask?.symm.trans hnamed
    cases command with
    | run test stop => cases htask?
    | update test => cases htask?
    | list =>
      rw [value_perform_list]
      refine .of_success hunresolved ?_
      rintro (⟨hcommand, -⟩ | ⟨hnamed, -⟩)
      · cases hcommand
      · cases hnamed
    | new s =>
      refine (tells_createTest s host config files).congr (iff_of_false hunresolved id)
        ⟨?_, .creation rfl⟩
      rintro (⟨hcommand, hrefused⟩ | ⟨hnamed, -⟩)
      · cases hcommand
        exact hrefused
      · cases hnamed

end Command

/-! ## Command lines -/

/-- Nothing is at a path but possibly a folder without entries. -/
inductive FileTree.Vacant (t : FileTree) (path : Path) : Prop where
  /-- Nothing is there. -/
  | missing {cause : OsError} (node : t.node path = .error cause)
  /-- A folder without entries is there. -/
  | empty {mode : Mode} (node : t.node path = .ok (.folder [] mode))

/-- There are no tests below such a folder. -/
theorem Descriptor.loadDirectory_of_vacant {files : FileTree} {directory : Path}
    (h : files.Vacant directory) : (loadDirectory files directory).value = [] := by
  have hfound : (loadFound files (discover files directory)).value = [] := by
    cases h with
    | missing hnode =>
      rw [discover, hnode]
      rfl
    | @empty mode hnode =>
      rw [discover, hnode]
      cases hreadable : mode.readable <;> cases hpassable : mode.executable <;>
        simp [foundAt, hreadable, hpassable, foundIn, inNameOrder, loadFound]
  simp [loadDirectory, sortByName, hfound]

namespace CommandLine

/-- A command line names a test that cannot be found. -/
def Unresolved (line : CommandLine) (files : FileTree) (test : Path) : Prop :=
  (∃ config, line.HasConfig files config) ∧ line.command.Unresolved files test

/-- What a command line asks for fails. -/
inductive Fails (line : CommandLine) (host : Host) (files : FileTree) : Prop where
  /-- The configuration file cannot be used. -/
  | config {path : Path} (used : Settings.usedFile? files line.config = some path)
    (unusable : Settings.Unusable files path)
  /-- The command fails with the configuration. -/
  | command {config : Config} (hasConfig : line.HasConfig files config)
    (fails : line.command.Fails host config files)

variable {line : CommandLine} {host : Host} {files : FileTree} {config : Config}

/-- Either the configuration file cannot be used, or there is one configuration. -/
theorem config_cases (line : CommandLine) (files : FileTree) :
    (∃ path, Settings.usedFile? files line.config = some path ∧ Settings.Unusable files path) ∨
      ∃ config, line.HasConfig files config := by
  cases hloaded : (Settings.discover files line.config).run.value with
  | error cause => exact .inl (Settings.discover_eq_error_iff.1 ⟨cause, hloaded⟩)
  | ok settings => exact .inr ⟨_, settings, hloaded, rfl⟩

theorem HasConfig.usable (h : line.HasConfig files config) :
    ¬ ∃ path, Settings.usedFile? files line.config = some path ∧ Settings.Unusable files path := by
  obtain ⟨settings, hloaded, -⟩ := h
  rintro hunusable
  obtain ⟨cause, herror⟩ := Settings.discover_eq_error_iff.2 hunusable
  cases hloaded.symm.trans herror

theorem HasConfig.unique {other : Config} (h : line.HasConfig files config)
    (hother : line.HasConfig files other) : other = config := by
  obtain ⟨settings, hloaded, rfl⟩ := h
  obtain ⟨settings', hloaded', rfl⟩ := hother
  cases hloaded.symm.trans hloaded'
  rfl

/-- With a configuration, a command line does what its command does. -/
theorem HasConfig.run_execute (h : line.HasConfig files config) :
    (line.execute host).run.run files =
      let ended := (line.command.perform host config).run.run files
      ⟨ended.value, (Settings.discover files line.config).run.journal ++ ended.journal⟩ := by
  obtain ⟨settings, hloaded, rfl⟩ := h
  unfold CommandLine.execute loadSettings
  refine Noted.ext ?_ ?_ <;> simp [hloaded]

/-- Without one it does nothing. -/
theorem value_execute_of_unusable (host : Host) {path : Path}
    (hused : Settings.usedFile? files line.config = some path)
    (hunusable : Settings.Unusable files path) :
    ∃ cause, ((line.execute host).run.run files).value = (.error (.config cause), files) := by
  obtain ⟨cause, herror⟩ := Settings.discover_eq_error_iff.2 ⟨path, hused, hunusable⟩
  refine ⟨cause, ?_⟩
  unfold CommandLine.execute loadSettings
  simp [herror]

/-- The exit code tells whether a command line names a test that cannot be found, and whether what
it asks for fails. -/
theorem tells_execute (line : CommandLine) (host : Host) (files : FileTree) :
    Tells (exitCodeOf ((line.execute host).run.run files).value.1)
      (∃ test, line.Unresolved files test) (line.Fails host files) := by
  rcases config_cases line files with ⟨path, hused, hunusable⟩ | ⟨config, hconfig⟩
  · obtain ⟨cause, hvalue⟩ := value_execute_of_unusable host hused hunusable
    rw [hvalue]
    refine .of_fails ?_ (.config hused hunusable)
    rintro ⟨test, ⟨config, hconfig⟩, -⟩
    exact hconfig.usable ⟨path, hused, hunusable⟩
  · rw [hconfig.run_execute]
    refine (line.command.tells_perform host config files).congr ⟨?_, ?_⟩ ⟨?_, .command hconfig⟩
    · rintro ⟨test, -, hunresolved⟩
      exact ⟨test, hunresolved⟩
    · rintro ⟨test, hunresolved⟩
      exact ⟨test, ⟨config, hconfig⟩, hunresolved⟩
    · rintro (⟨hused, hunusable⟩ | ⟨hconfig', hfails⟩)
      · exact absurd ⟨_, hused, hunusable⟩ hconfig.usable
      · cases hconfig.unique hconfig'
        exact hfails

/-- If the test that is named cannot be found, that is all that is said, and nothing is done. -/
theorem run_execute_of_unresolved {test : Path} (h : line.Unresolved files test) :
    (line.execute host).run.run files =
      ⟨(.error (.unresolvable test), files),
        (Settings.discover files line.config).run.journal ++
          ((Descriptor.loadFile files test).journal ++
            ⟨[.banner .abort test (some "Can't obtain test descriptors")], []⟩)⟩ := by
  obtain ⟨⟨config, hconfig⟩, ⟨task, htask?⟩, hnil⟩ := h
  rw [hconfig.run_execute, Command.perform_of_task? htask?, run_runTask_of_nil hnil]

theorem report_execute_of_unresolved {test : Path} (h : line.Unresolved files test) :
    ((line.execute host).run.run files).journal.report =
      [.banner .abort test (some "Can't obtain test descriptors")] := by
  rw [run_execute_of_unresolved h]
  simp [Settings.report_discover, Descriptor.loadFile, Descriptor.report_readUsable]

theorem exitCode_of_list (h : line.HasConfig files config) (hlist : line.command = .list) :
    exitCodeOf ((line.execute host).run.run files).value.1 = 0 := by
  rw [h.run_execute, hlist]
  exact congrArg exitCodeOf (Command.value_perform_list host config files)

/-- A pass over no tests at all is a success. -/
theorem exitCode_of_vacant {task : Task} (h : line.HasConfig files config)
    (htask? : line.command.task? = some (task, none)) (hvacant : files.Vacant config.directory) :
    exitCodeOf ((line.execute host).run.run files).value.1 = 0 := by
  have hstages : config.stages task host none files = [] := by
    rw [Config.stages, Descriptor.selected, Descriptor.loadDirectory_of_vacant hvacant]
    rfl
  have hunnamed : ∀ path, none = some path → (Descriptor.loadFile files path).value ≠ [] := nofun
  rw [h.run_execute, Command.perform_of_task? htask?, value_runTask hunnamed, hstages]
  rfl

/-- A command line ends with 2 if it names a test that cannot be found, and then that is all it
reports, the files are as they were, and no host makes a difference. It ends with 1 if what it asks
for fails, and with 0 in every other case: to list tests does not fail, nor does a pass where there
are none. -/
theorem execute_exitCode (line : CommandLine) (host : Host) (files : FileTree) :
    let ended := (line.execute host).run.run files
    let code := exitCodeOf ended.value.1
    (code = 2 ↔ ∃ test, line.Unresolved files test) ∧
    (code = 1 ↔ line.Fails host files) ∧
    (code = 0 ↔ (¬ ∃ test, line.Unresolved files test) ∧ ¬ line.Fails host files) ∧
    (∀ test, line.Unresolved files test →
      ended.value.2 = files ∧
      ended.journal.report = [.banner .abort test (some "Can't obtain test descriptors")] ∧
      Report.render ended.journal.report =
        "\t" ++ test ++ ": Can't obtain test descriptors\n=== Test " ++ test ++ " ABORT ===\n" ∧
      ∀ other : Host, (line.execute other).run.run files = ended) ∧
    (∀ config, line.HasConfig files config → line.command = .list → code = 0) ∧
    ∀ config task, line.HasConfig files config → line.command.task? = some (task, none) →
      files.Vacant config.directory → code = 0 := by
  have htells := tells_execute line host files
  refine ⟨htells.two, htells.one, htells.zero, fun test hunresolved => ⟨?_, ?_, ?_, ?_⟩,
    fun config => exitCode_of_list, fun config task => exitCode_of_vacant⟩
  · rw [run_execute_of_unresolved hunresolved]
  · exact report_execute_of_unresolved hunresolved
  · rw [report_execute_of_unresolved hunresolved, ← String.toList_inj]
    simp [Report.render, Report.Entry.lines, Report.indented, Report.Mark.word]
  · intro other
    rw [run_execute_of_unresolved hunresolved, run_execute_of_unresolved hunresolved]

/-- A command line that names a test where there are no files. -/
def missing : CommandLine where
  directory := none
  assembler := none
  config := none
  verbose := false
  command := .run (some "t/none") none

/-- The test cannot be found, whatever the host. -/
theorem execute_exitCode_missing :
    missing.Unresolved .empty "t/none" ∧
      let ended := (missing.execute ⟨[], fun _ _ => .error .notFound⟩).run.run .empty
      exitCodeOf ended.value.1 = 2 ∧ ended.value.2 = .empty ∧
        Report.render ended.journal.report =
          "\tt/none: Can't obtain test descriptors\n=== Test t/none ABORT ===\n" := by
  have hunresolved : missing.Unresolved .empty "t/none" :=
    ⟨⟨_, {}, rfl, rfl⟩, ⟨.verify, rfl⟩, Descriptor.Unusable.value_readUsable (.unreadable rfl)⟩
  obtain ⟨htwo, -, -, hends, -⟩ :=
    execute_exitCode missing ⟨[], fun _ _ => .error .notFound⟩ .empty
  obtain ⟨hfiles, -, hreport, -⟩ := hends _ hunresolved
  exact ⟨hunresolved, htwo.2 ⟨_, hunresolved⟩, hfiles, hreport⟩

end CommandLine

end AsmHarness
