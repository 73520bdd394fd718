import AsmHarness.Proofs.FileTree.Replace
import AsmHarness.Proofs.Reported
import AsmHarness.Proofs.Update

/-!
# How an update ends

An update is held up before the assembler is started, or by the assembler, or by a target that
cannot be stored. In the last case the targets before it have been stored and those after it have
not been touched. Only when every target has been stored have the references been replaced.
-/

namespace AsmHarness

open FileTree (Puts)

variable {host : Host} {assembler : Path} {d : Descriptor} {captured : Captured}
  {target : Target} {targets : List Target} {files next left : FileTree} {failure : Failure}
  {outcome : Outcome}

/-! ## One target -/

namespace Target

/-- What a target is compared with is stored as its reference. -/
inductive Stores (d : Descriptor) (captured : Captured) (target : Target) (files : FileTree) :
    FileTree → Prop where
  /-- The source is to be rejected, so that there is no output to be stored. -/
  | left {output reference : String} {option : Option String} :
      target.subject = .artifact output reference option → d.expectsFailure = true →
      Stores d captured target files files
  | moved {output reference : String} {option : Option String} {next : FileTree} :
      target.subject = .artifact output reference option → d.expectsFailure = false →
      files.rename (d.resolve output) (d.resolve reference) = .ok next →
      Stores d captured target files next
  /-- All of the captured text becomes the reference, without being filtered. -/
  | written {stream : Stream} {reference : String} {next : FileTree} :
      target.subject = .capture stream reference →
      files.write (d.resolve reference) (captured.text stream).toUTF8 = .ok next →
      Stores d captured target files next

/-- The reference of a target cannot be replaced. -/
inductive Refuses (d : Descriptor) (captured : Captured) (target : Target) (files : FileTree) :
    Failure → Prop where
  | notMoved {output reference : String} {option : Option String} {cause : OsError} :
      target.subject = .artifact output reference option → d.expectsFailure = false →
      files.rename (d.resolve output) (d.resolve reference) = .error cause →
      Refuses d captured target files (.notMoved (d.resolve reference) cause)
  | notWritten {stream : Stream} {reference : String} {cause : OsError} :
      target.subject = .capture stream reference →
      files.write (d.resolve reference) (captured.text stream).toUTF8 = .error cause →
      Refuses d captured target files (.notWritten (d.resolve reference) cause)

theorem stored_eq_ok_iff :
    target.stored d captured files = .ok next ↔ target.Stores d captured files next := by
  constructor
  · intro h
    unfold stored at h
    cases hsubject : target.subject with
    | artifact output reference option =>
      cases hwanted : d.expectsFailure with
      | true =>
        rw [hsubject] at h
        simp only [hwanted, if_true] at h
        exact Except.ok.inj h ▸ .left hsubject hwanted
      | false =>
        rw [hsubject] at h
        simp only [hwanted, Bool.false_eq_true, if_false, mapError_eq_ok] at h
        exact .moved hsubject hwanted h
    | capture stream reference =>
      rw [hsubject] at h
      exact .written hsubject (mapError_eq_ok.1 h)
  · intro h
    cases h with
    | left hsubject hwanted => simp only [stored, hsubject, hwanted, if_true]
    | moved hsubject hwanted hrename =>
      simp only [stored, hsubject, hwanted, Bool.false_eq_true, if_false]
      exact mapError_eq_ok.2 hrename
    | written hsubject hwrite =>
      simp only [stored, hsubject]
      exact mapError_eq_ok.2 hwrite

theorem stored_eq_error_iff :
    target.stored d captured files = .error failure ↔ target.Refuses d captured files failure := by
  constructor
  · intro h
    unfold stored at h
    cases hsubject : target.subject with
    | artifact output reference option =>
      rw [hsubject] at h
      cases hwanted : d.expectsFailure with
      | true => simp [hwanted] at h
      | false =>
        simp only [hwanted, Bool.false_eq_true, if_false, mapError_eq_error] at h
        obtain ⟨cause, hrename, rfl⟩ := h
        exact .notMoved hsubject hwanted hrename
    | capture stream reference =>
      rw [hsubject] at h
      obtain ⟨cause, hwrite, rfl⟩ := mapError_eq_error.1 h
      exact .notWritten hsubject hwrite
  · intro h
    cases h with
    | notMoved hsubject hwanted hrename =>
      simp only [stored, hsubject, hwanted, Bool.false_eq_true, if_false]
      exact mapError_eq_error.2 ⟨_, hrename, rfl⟩
    | notWritten hsubject hwrite =>
      simp only [stored, hsubject]
      exact mapError_eq_error.2 ⟨_, hwrite, rfl⟩

theorem stores_artifact_iff {output reference : String} {option : Option String}
    (hsubject : target.subject = .artifact output reference option)
    (hwanted : d.expectsFailure = false) : target.Stores d captured files next ↔
      files.rename (d.resolve output) (d.resolve reference) = .ok next := by
  rw [← stored_eq_ok_iff]
  simp only [stored, hsubject, hwanted, Bool.false_eq_true, if_false, mapError_eq_ok]

theorem stores_capture_iff {stream : Stream} {reference : String}
    (hsubject : target.subject = .capture stream reference) : target.Stores d captured files next ↔
      files.write (d.resolve reference) (captured.text stream).toUTF8 = .ok next := by
  rw [← stored_eq_ok_iff]
  simp only [stored, hsubject, mapError_eq_ok]

/-- The reference of a target is all that changes, and the output that is moved there, if there is
one. -/
def Renews (d : Descriptor) (captured : Captured) (target : Target) (files next : FileTree) : Prop :=
  match target.subject with
  | .artifact output reference _ =>
    if d.expectsFailure then next = files
    else ∀ content, files.Holds (d.resolve output) content →
      files.place (d.resolve output) ≠ files.place (d.resolve reference) →
      Puts files next (d.resolve reference) content (some (d.resolve output))
  | .capture stream reference =>
    Puts files next (d.resolve reference) (captured.text stream).toUTF8 none

theorem Stores.renews (h : target.Stores d captured files next) :
    target.Renews d captured files next := by
  unfold Renews
  cases h with
  | left hsubject hwanted => simp [hsubject, hwanted]
  | moved hsubject hwanted hrename =>
    simp only [hsubject, hwanted, Bool.false_eq_true, if_false]
    intro content hholds hne
    exact FileTree.puts_rename hrename hholds.nothingBut hne
  | written hsubject hwrite =>
    simp only [hsubject]
    exact FileTree.puts_write hwrite

end Target

/-! ## All targets -/

/-- Some targets are stored in order, each in the files that those before it leave. -/
inductive StoreAll (d : Descriptor) (captured : Captured) :
    List Target → FileTree → FileTree → Prop where
  | nil {files : FileTree} : StoreAll d captured [] files files
  | cons {target : Target} {rest : List Target} {files mid next : FileTree} :
      target.Stores d captured files mid → StoreAll d captured rest mid next →
      StoreAll d captured (target :: rest) files next

theorem storedAll_eq_ok_iff :
    storedAll d captured targets files = .ok next ↔ StoreAll d captured targets files next := by
  constructor
  · intro h
    induction targets generalizing files with
    | nil => exact Except.ok.inj h ▸ .nil
    | cons target rest ih =>
      obtain ⟨mid, htarget, hrest⟩ := bind_eq_ok.1 h
      exact .cons (Target.stored_eq_ok_iff.1 htarget) (ih hrest)
  · intro h
    induction h with
    | nil => rfl
    | cons htarget _ ih => exact bind_eq_ok.2 ⟨_, Target.stored_eq_ok_iff.2 htarget, ih⟩

/-- The first target that cannot be stored ends it all: the targets before it have been stored, and
nothing else has been done. -/
theorem storeTargets_eq_error :
    ((storeTargets d captured targets).run.run files).value = (.error failure, next) ↔
      ∃ before target after, targets = before ++ target :: after ∧
        StoreAll d captured before files next ∧ target.Refuses d captured next failure := by
  induction targets generalizing files with
  | nil => simp [storeTargets]
  | cons first rest ih =>
    rw [storeTargets, value_run_run_bind, value_storeTarget]
    cases hfirst : first.stored d captured files with
    | error cause =>
      have hrefuses := Target.stored_eq_error_iff.1 hfirst
      constructor
      · intro h
        obtain ⟨rfl, rfl⟩ : cause = failure ∧ files = next := by simpa [afterChange] using h
        exact ⟨[], first, rest, rfl, .nil, hrefuses⟩
      · rintro ⟨before, target, after, hsplit, hbefore, hrefused⟩
        -- the first target has been refused, so it is not among those that have been stored
        cases hbefore with
        | nil =>
          obtain ⟨rfl, -⟩ := List.cons.inj hsplit
          have hsame := hfirst.symm.trans (Target.stored_eq_error_iff.2 hrefused)
          rw [afterChange, Except.error.inj hsame]
        | cons hstores _ =>
          obtain ⟨rfl, -⟩ := List.cons.inj hsplit
          have hok := Target.stored_eq_ok_iff.2 hstores
          cases hfirst.symm.trans hok
    | ok mid =>
      have hstores := Target.stored_eq_ok_iff.1 hfirst
      rw [afterChange, ih]
      constructor
      · rintro ⟨before, target, after, rfl, hbefore, hrefused⟩
        exact ⟨first :: before, target, after, rfl, .cons hstores hbefore, hrefused⟩
      · rintro ⟨before, target, after, hsplit, hbefore, hrefused⟩
        -- the first target has been stored, so another one has been refused
        cases hbefore with
        | nil =>
          obtain ⟨rfl, -⟩ := List.cons.inj hsplit
          have herror := Target.stored_eq_error_iff.2 hrefused
          cases hfirst.symm.trans herror
        | cons hother hlater =>
          obtain ⟨rfl, rfl⟩ := List.cons.inj hsplit
          have hsame := hfirst.symm.trans (Target.stored_eq_ok_iff.2 hother)
          obtain rfl := Except.ok.inj hsame
          exact ⟨_, target, after, rfl, hlater, hrefused⟩

/-! ## The whole update -/

/-- An update of a test ends in some way and leaves some files. -/
inductive UpdateEnds (host : Host) (assembler : Path) (d : Descriptor) (files : FileTree) :
    Outcome → FileTree → Prop where
  | kept : d.update = false → UpdateEnds host assembler d files (.skipped "No output provided") files
  | disabled {reason : String} : d.update = true → d.disabled = some reason →
      UpdateEnds host assembler d files (.skipped reason) files
  | notStarted {cause : OsError} : d.update = true → d.disabled = none →
      d.start host assembler files = .error cause →
      UpdateEnds host assembler d files (.failed (.exec (.launchFailed assembler cause))) files
  | code {finished : Finished} : d.update = true → d.disabled = none →
      d.start host assembler files = .ok finished → finished.ending.code ≠ d.expectedExitCode →
      UpdateEnds host assembler d files (.failed (.exec (.unexpectedExitCode finished.captured)))
        finished.files
  | stored {finished : Finished} {next : FileTree} : d.update = true → d.disabled = none →
      d.start host assembler files = .ok finished → finished.ending.code = d.expectedExitCode →
      StoreAll d finished.captured d.targets finished.files next →
      UpdateEnds host assembler d files .done next
  /-- A target could not be stored. Those before it have been, and those after it have not been
  touched. -/
  | refused {finished : Finished} {next : FileTree} {failure : Failure}
      {before after : List Target} {target : Target} : d.update = true → d.disabled = none →
      d.start host assembler files = .ok finished → finished.ending.code = d.expectedExitCode →
      d.targets = before ++ target :: after →
      StoreAll d finished.captured before finished.files next →
      target.Refuses d finished.captured next failure →
      UpdateEnds host assembler d files (.failed failure) next

theorem value_update_of_kept (h : d.update = false) :
    ((update host assembler d).run files).value = (.skipped "No output provided", files) := by
  simp [update, h]

theorem value_update_of_disabled {reason : String} (hupdate : d.update = true)
    (h : d.disabled = some reason) :
    ((update host assembler d).run files).value = (.skipped reason, files) := by
  simp [update, hupdate, h]

theorem updateEnds_of_value (h : ((update host assembler d).run files).value = (outcome, left)) :
    UpdateEnds host assembler d files outcome left := by
  -- the cases follow the order in which an update can be held up
  cases hupdate : d.update with
  | false =>
    obtain ⟨rfl, rfl⟩ := Prod.mk.inj ((value_update_of_kept hupdate).symm.trans h)
    exact .kept hupdate
  | true =>
  cases hd : d.disabled with
  | some reason =>
    obtain ⟨rfl, rfl⟩ := Prod.mk.inj ((value_update_of_disabled hupdate hd).symm.trans h)
    exact .disabled hupdate hd
  | none =>
  cases hstart : d.start host assembler files with
  | error cause =>
    obtain ⟨rfl, rfl⟩ := Prod.mk.inj ((value_update_of_error hupdate hd hstart).symm.trans h)
    exact .notStarted hupdate hd hstart
  | ok finished =>
  by_cases hcode : finished.ending.code = d.expectedExitCode
  · rw [value_update_of_ok hupdate hd hstart hcode] at h
    rcases hvalue : ((storeTargets d finished.captured d.targets).run.run finished.files).value with
      ⟨result, next⟩
    rw [hvalue] at h
    obtain ⟨rfl, rfl⟩ := Prod.mk.inj h
    cases result with
    | ok =>
      have hall := storedAll_eq_ok_iff.1 (storeTargets_eq_ok.1 hvalue)
      exact .stored hupdate hd hstart hcode hall
    | error failure =>
      obtain ⟨before, target, after, hsplit, hbefore, hrefused⟩ := storeTargets_eq_error.1 hvalue
      exact .refused hupdate hd hstart hcode hsplit hbefore hrefused
  · obtain ⟨rfl, rfl⟩ := Prod.mk.inj ((value_update_of_code hupdate hd hstart hcode).symm.trans h)
    exact .code hupdate hd hstart hcode

theorem UpdateEnds.value_eq (h : UpdateEnds host assembler d files outcome left) :
    ((update host assembler d).run files).value = (outcome, left) := by
  cases h with
  | kept hupdate => exact value_update_of_kept hupdate
  | disabled hupdate hd => exact value_update_of_disabled hupdate hd
  | notStarted hupdate hd hstart => exact value_update_of_error hupdate hd hstart
  | code hupdate hd hstart hcode => exact value_update_of_code hupdate hd hstart hcode
  | stored hupdate hd hstart hcode hall =>
    have hvalue := storeTargets_eq_ok.2 (storedAll_eq_ok_iff.2 hall)
    rw [value_update_of_ok hupdate hd hstart hcode, hvalue]
    rfl
  | refused hupdate hd hstart hcode hsplit hbefore hrefused =>
    have hvalue := storeTargets_eq_error.2 ⟨_, _, _, hsplit, hbefore, hrefused⟩
    rw [value_update_of_ok hupdate hd hstart hcode, hvalue]
    rfl

/-- How an update ends and which files it leaves, whatever the test, the files and the assembler
are. Storing a target changes nothing but its reference, which holds the bytes of the output or all
of the captured text afterwards, and the output that is moved away. -/
theorem update_ends (host : Host) (assembler : Path) (d : Descriptor) (files left : FileTree)
    (outcome : Outcome) :
    (((update host assembler d).run files).value = (outcome, left) ↔
      UpdateEnds host assembler d files outcome left) ∧
    ∀ (captured : Captured) (target : Target) (before after : FileTree),
      target.Stores d captured before after → target.Renews d captured before after := by
  refine ⟨⟨updateEnds_of_value, UpdateEnds.value_eq⟩, ?_⟩
  intro captured target before after hstores
  exact hstores.renews

end AsmHarness
