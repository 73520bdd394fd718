import AsmHarness.Proofs.Noted
import AsmHarness.Verify
import Mathlib.Tactic.SplitIfs

/-!
# What the comparison of the targets decides

A target is met, or there is one thing wrong with it that is found first. Each check is read as the
rule it decides, both where it is content and where it fails. The targets are compared in order, so
the failure is that of the first target that is not met; a stream is used up by the first target
that captures it.
-/

namespace AsmHarness

/-! ## Rules -/

namespace Target

/-- Whether a target is compared with a stream. -/
def captures (target : Target) (stream : Stream) : Bool :=
  match target.subject with
  | .artifact .. => false
  | .capture captured _ => captured = stream

/-- What a target makes of captured text. -/
def view (target : Target) (text : String) : String := target.filter.elim text (·.apply text)

/-- A target is met, given what is left of the streams. -/
def Met (files : FileTree) (d : Descriptor) (left : Stream → String) (target : Target) : Prop :=
  match target.subject with
  | .artifact output reference _ =>
    d.expectsFailure = false →
      ∃ bytes, files.read (d.resolve reference) = .ok bytes ∧
        files.read (d.resolve output) = .ok bytes
  | .capture stream reference =>
    ∃ bytes, files.read (d.resolve reference) = .ok bytes ∧
      Utf8.decode bytes = target.view (left stream)

/-- What is wrong with a target, given what is left of the streams. The reference is read before the
output. -/
inductive Fault (files : FileTree) (d : Descriptor) (left : Stream → String) (target : Target) :
    Failure → Prop where
  /-- The reference of an output cannot be read. -/
  | referenceOfOutput {output reference : String} {option : Option String} {cause : OsError}
    (subject : target.subject = .artifact output reference option)
    (wanted : d.expectsFailure = false)
    (unread : files.read (d.resolve reference) = .error cause) :
    Fault files d left target (.unreadable (d.resolve reference) cause)
  /-- An output cannot be read. -/
  | output {output reference : String} {option : Option String} {expected : ByteArray}
    {cause : OsError}
    (subject : target.subject = .artifact output reference option)
    (wanted : d.expectsFailure = false)
    (read : files.read (d.resolve reference) = .ok expected)
    (unread : files.read (d.resolve output) = .error cause) :
    Fault files d left target (.unreadable (d.resolve output) cause)
  /-- An output and its reference differ. -/
  | bytes {output reference : String} {option : Option String} {expected actual : ByteArray}
    (subject : target.subject = .artifact output reference option)
    (wanted : d.expectsFailure = false)
    (readReference : files.read (d.resolve reference) = .ok expected)
    (readOutput : files.read (d.resolve output) = .ok actual)
    (differ : expected ≠ actual) :
    Fault files d left target (.artifactMismatch (d.resolve reference) (d.resolve output))
  /-- The reference of a stream cannot be read. -/
  | referenceOfStream {stream : Stream} {reference : String} {cause : OsError}
    (subject : target.subject = .capture stream reference)
    (unread : files.read (d.resolve reference) = .error cause) :
    Fault files d left target (.unreadable (d.resolve reference) cause)
  /-- What is left of a stream, filtered, and the text of its reference differ. -/
  | text {stream : Stream} {reference : String} {expected : ByteArray}
    (subject : target.subject = .capture stream reference)
    (read : files.read (d.resolve reference) = .ok expected)
    (differ : Utf8.decode expected ≠ target.view (left stream)) :
    Fault files d left target (.streamMismatch stream)

/-- What is left of the captured text when a target has been compared. -/
def leaves (target : Target) (left : Captured) : Captured :=
  match target.subject with
  | .artifact .. => left
  | .capture stream _ => left.clear stream

end Target

/-- What is left of a stream when some targets have been compared. -/
def Captured.left (captured : Captured) (done : List Target) (stream : Stream) : String :=
  if done.any (·.captures stream) then "" else captured.text stream

/-! ## Checks -/

section Checks

variable {files : FileTree} {d : Descriptor} {target : Target} {left left' : Captured}
  {failure : Failure}

theorem readFile_of_ok {path : Path} {bytes : ByteArray} (h : files.read path = .ok bytes) :
    readFile files path = .ok bytes := by
  simp [readFile, h, Except.mapError]

theorem readFile_of_error {path : Path} {cause : OsError} (h : files.read path = .error cause) :
    readFile files path = .error (.unreadable path cause) := by
  simp [readFile, h, Except.mapError]

theorem value_compareArtifact (reference output : Path) :
    (compareArtifact files reference output).run.value =
      (readFile files reference).bind fun expected => (readFile files output).bind fun actual =>
        if expected.data = actual.data then .ok ()
        else .error (.artifactMismatch reference output) := by
  simp only [compareArtifact, value_run_bind, value_run_liftExcept]
  congr 1
  funext expected
  congr 1
  funext actual
  by_cases h : expected.data = actual.data <;> simp [h]

theorem value_compareStream (target : Target) (stream : Stream) (reference text : String) :
    (compareStream files d target.filter stream reference text).run.value =
      (readFile files (d.resolve reference)).bind fun expected =>
        if Utf8.decode expected = target.view text then .ok ()
        else .error (.streamMismatch stream) := by
  have hview : (filtered d.name stream text target.filter).value = target.view text := by
    cases h : target.filter <;> simp [filtered, Target.view, h]
  simp only [compareStream, value_run_bind, value_run_liftExcept]
  congr 1
  funext expected
  by_cases h : Utf8.decode expected = target.view text <;> simp [hview, h, Except.bind]

/-- The comparison of a target, without what is noted on the way. -/
def Target.compared (files : FileTree) (d : Descriptor) (left : Stream → String)
    (target : Target) : Except Failure Unit :=
  match target.subject with
  | .artifact output reference _ =>
    if d.expectsFailure then .ok ()
    else (compareArtifact files (d.resolve reference) (d.resolve output)).run.value
  | .capture stream reference =>
    (compareStream files d target.filter stream reference (left stream)).run.value

theorem value_checkTarget : (checkTarget files d target left).run.value =
    (target.compared files d left.text).map fun _ => target.leaves left := by
  unfold checkTarget Target.compared Target.leaves
  cases target.subject with
  | artifact output reference option =>
    cases d.expectsFailure with
    | true => rfl
    | false => exact (value_run_bind ..).trans (value_run_bind ..)
  | capture stream reference => exact (value_run_bind ..).trans (value_run_bind ..)

/-- A target that is met is passed over, and no other. -/
theorem compared_eq_ok {left : Stream → String} :
    target.compared files d left = .ok () ↔ target.Met files d left := by
  unfold Target.compared Target.Met
  cases target.subject with
  | artifact output reference option =>
    simp only [value_compareArtifact]
    cases d.expectsFailure with
    | true => simp
    | false =>
      cases hreference : files.read (d.resolve reference) with
      | error cause => simp [readFile_of_error hreference, Except.bind]
      | ok expected =>
        cases houtput : files.read (d.resolve output) with
        | error cause =>
          simp [readFile_of_ok hreference, readFile_of_error houtput, Except.bind]
        | ok actual =>
          have hsame : expected.data = actual.data ↔ actual = expected :=
            ByteArray.ext_iff.symm.trans eq_comm
          simp [readFile_of_ok hreference, readFile_of_ok houtput, Except.bind, hsame]
  | capture stream reference =>
    simp only [value_compareStream]
    cases hreference : files.read (d.resolve reference) with
    | error cause => simp [readFile_of_error hreference, Except.bind]
    | ok expected => simp [readFile_of_ok hreference, Except.bind]

/-- A comparison fails with what is wrong with the target. -/
theorem compared_eq_error {left : Stream → String} :
    target.compared files d left = .error failure ↔ target.Fault files d left failure := by
  constructor
  · intro h
    unfold Target.compared at h
    cases hsubject : target.subject with
    | artifact output reference option =>
      simp only [hsubject, value_compareArtifact] at h
      cases hwanted : d.expectsFailure with
      | true => simp [hwanted] at h
      | false =>
        cases hreference : files.read (d.resolve reference) with
        | error cause =>
          simp [hwanted, readFile_of_error hreference, Except.bind] at h
          exact h ▸ .referenceOfOutput hsubject hwanted hreference
        | ok expected =>
          cases houtput : files.read (d.resolve output) with
          | error cause =>
            simp [hwanted, readFile_of_ok hreference, readFile_of_error houtput, Except.bind] at h
            exact h ▸ .output hsubject hwanted hreference houtput
          | ok actual =>
            simp only [hwanted, readFile_of_ok hreference, readFile_of_ok houtput, Except.bind,
              Bool.false_eq_true, if_false] at h
            split_ifs at h with hsame
            cases h
            exact .bytes hsubject hwanted hreference houtput (mt ByteArray.ext_iff.1 hsame)
    | capture stream reference =>
      simp only [hsubject, value_compareStream] at h
      cases hreference : files.read (d.resolve reference) with
      | error cause =>
        simp only [readFile_of_error hreference, Except.bind, Except.error.injEq] at h
        exact h ▸ .referenceOfStream hsubject hreference
      | ok expected =>
        simp only [readFile_of_ok hreference, Except.bind] at h
        split_ifs at h with hsame
        cases h
        exact .text hsubject hreference hsame
  · intro h
    cases h with
    | referenceOfOutput hsubject hwanted hunread =>
      simp [Target.compared, hsubject, hwanted, value_compareArtifact, readFile_of_error hunread,
        Except.bind]
    | output hsubject hwanted hread hunread =>
      simp [Target.compared, hsubject, hwanted, value_compareArtifact, readFile_of_ok hread,
        readFile_of_error hunread, Except.bind]
    | bytes hsubject hwanted hreference houtput hdiffer =>
      simp [Target.compared, hsubject, hwanted, value_compareArtifact, readFile_of_ok hreference,
        readFile_of_ok houtput, mt ByteArray.ext hdiffer, Except.bind]
    | referenceOfStream hsubject hunread =>
      simp [Target.compared, hsubject, value_compareStream, readFile_of_error hunread, Except.bind]
    | text hsubject hread hdiffer =>
      simp [Target.compared, hsubject, value_compareStream, readFile_of_ok hread, hdiffer,
        Except.bind]

end Checks

/-! ## All targets -/

section Targets

variable {files : FileTree} {d : Descriptor} {captured left' : Captured} {failure : Failure}

theorem left_cons (captured : Captured) (target : Target) (done : List Target) :
    captured.left (target :: done) = (target.leaves captured).left done := by
  funext stream
  unfold Captured.left Target.leaves
  rw [List.any_cons]
  cases hsubject : target.subject with
  | artifact => simp [Target.captures, hsubject]
  | capture used reference =>
    by_cases hused : used = stream
    · subst hused
      cases used <;> simp [Target.captures, hsubject, Captured.clear, Captured.text]
    · cases used <;> cases stream <;>
        simp_all [Target.captures, Captured.clear, Captured.text]

/-- What is left of the captured text when some targets have been compared. -/
def Captured.leftOf (captured : Captured) (done : List Target) : Captured :=
  done.foldl (fun left target => target.leaves left) captured

theorem leftOf_cons (captured : Captured) (target : Target) (done : List Target) :
    captured.leftOf (target :: done) = (target.leaves captured).leftOf done := rfl

theorem text_leftOf (captured : Captured) (done : List Target) :
    (captured.leftOf done).text = captured.left done := by
  induction done generalizing captured with
  | nil => rfl
  | cons target rest ih => rw [left_cons, leftOf_cons, ih]

/-- Targets are met one after the other, each with what those before it have left. -/
def AllMet (files : FileTree) (d : Descriptor) (captured : Captured) (targets : List Target) :
    Prop :=
  ∀ i (target : Target), targets[i]? = some target →
    target.Met files d (captured.left (targets.take i))

theorem allMet_nil : AllMet files d captured [] := by
  intro i target h
  simp at h

theorem allMet_cons {target : Target} {rest : List Target} :
    AllMet files d captured (target :: rest) ↔
      target.Met files d captured.text ∧ AllMet files d (target.leaves captured) rest := by
  constructor
  · intro h
    refine ⟨h 0 target rfl, fun i next hnext => ?_⟩
    rw [← left_cons]
    exact h (i + 1) next hnext
  · rintro ⟨hfirst, hrest⟩ i next hnext
    cases i with
    | zero =>
      obtain rfl : target = next := by simpa using hnext
      exact hfirst
    | succ i =>
      rw [List.take_succ_cons, left_cons]
      exact hrest i next (by simpa using hnext)

theorem checkTargets_eq_ok {targets : List Target} :
    (checkTargets files d targets captured).run.value = .ok left' ↔
      AllMet files d captured targets ∧ left' = captured.leftOf targets := by
  induction targets generalizing captured with
  | nil => simp [checkTargets, allMet_nil, Captured.leftOf, eq_comm]
  | cons target rest ih =>
    rw [checkTargets, value_run_bind, value_checkTarget, bind_eq_ok, allMet_cons, leftOf_cons]
    cases hcompared : target.compared files d captured.text with
    | error failure =>
      have hnot : ¬ target.Met files d captured.text := by
        rw [← compared_eq_ok, hcompared]
        simp
      simp [Except.map, hnot]
    | ok _ =>
      have hmet : target.Met files d captured.text := compared_eq_ok.1 hcompared
      simpa [Except.map, hmet] using ih

/-- The failure is that of the first target that is not met. -/
theorem checkTargets_eq_error {targets : List Target} :
    (checkTargets files d targets captured).run.value = .error failure ↔
      ∃ i target, targets[i]? = some target ∧ AllMet files d captured (targets.take i) ∧
        target.Fault files d (captured.left (targets.take i)) failure := by
  induction targets generalizing captured with
  | nil => simp [checkTargets]
  | cons target rest ih =>
    rw [checkTargets, value_run_bind, value_checkTarget, bind_eq_error]
    cases hcompared : target.compared files d captured.text with
    | error first =>
      have hfirst : target.Fault files d captured.text first := compared_eq_error.1 hcompared
      have hnot : ¬ target.Met files d captured.text := by
        rw [← compared_eq_ok, hcompared]
        simp
      simp only [Except.map, Except.error.injEq, reduceCtorEq, false_and, exists_false, or_false]
      constructor
      · rintro rfl
        exact ⟨0, target, rfl, allMet_nil, hfirst⟩
      · rintro ⟨i, next, hnext, hbefore, hfault⟩
        cases i with
        | zero =>
          obtain rfl : target = next := by simpa using hnext
          exact Except.error.inj (hcompared.symm.trans (compared_eq_error.2 hfault))
        | succ i => exact absurd (allMet_cons.1 hbefore).1 hnot
    | ok _ =>
      have hmet : target.Met files d captured.text := compared_eq_ok.1 hcompared
      simp only [Except.map, reduceCtorEq, Except.ok.injEq, exists_eq_left', false_or, ih]
      constructor
      · rintro ⟨i, next, hnext, hbefore, hfault⟩
        refine ⟨i + 1, next, hnext, allMet_cons.2 ⟨hmet, hbefore⟩, ?_⟩
        rwa [List.take_succ_cons, left_cons]
      · rintro ⟨i, next, hnext, hbefore, hfault⟩
        cases i with
        | zero =>
          obtain rfl : target = next := by simpa using hnext
          exact absurd (hcompared.symm.trans (compared_eq_error.2 hfault)) (by simp)
        | succ i =>
          rw [List.take_succ_cons, left_cons] at hfault
          exact ⟨i, next, by simpa using hnext, (allMet_cons.1 hbefore).2, hfault⟩

theorem value_checkLeft (stream : Stream) (text : String) :
    (checkLeft stream text).run.value =
      if text = "" then .ok () else .error (.unconsumed stream) := by
  by_cases h : text = "" <;> simp [checkLeft, h]

/-- What is left of the streams in the end is refused, regular output first. -/
theorem value_check : (check files d captured).run.value =
    (checkTargets files d d.targets captured).run.value.bind fun left =>
      if left.text .stdout = "" then
        if left.text .stderr = "" then .ok () else .error (.unconsumed .stderr)
      else .error (.unconsumed .stdout) := by
  simp only [check, value_run_bind, value_checkLeft]
  congr 1
  funext left
  by_cases hstdout : left.stdout = "" <;> by_cases hstderr : left.stderr = "" <;>
    simp [Captured.text, hstdout, hstderr, Except.bind]

/-- Nothing is left of a stream that is captured, and all of one that is not. -/
theorem left_eq_empty {targets : List Target} {stream : Stream} :
    captured.left targets stream = "" ↔
      ((∀ target ∈ targets, target.captures stream = false) → captured.text stream = "") := by
  unfold Captured.left
  split_ifs with hany
  · obtain ⟨target, hmem, hcaptures⟩ := List.any_eq_true.1 hany
    simp only [true_iff]
    intro hnone
    rw [hnone target hmem] at hcaptures
    cases hcaptures
  · have hnone : ∀ target ∈ targets, target.captures stream = false := by
      simpa using hany
    exact ⟨fun h _ => h, fun h => h hnone⟩

theorem check_eq_ok : (check files d captured).run.value = .ok () ↔
    AllMet files d captured d.targets ∧ ∀ stream, captured.left d.targets stream = "" := by
  rw [value_check, bind_eq_ok]
  constructor
  · rintro ⟨left, hleft, hempty⟩
    obtain ⟨hmet, rfl⟩ := checkTargets_eq_ok.1 hleft
    rw [text_leftOf] at hempty
    split_ifs at hempty with hstdout hstderr
    refine ⟨hmet, fun stream => ?_⟩
    cases stream with
    | stdout => exact hstdout
    | stderr => exact hstderr
  · rintro ⟨hmet, hempty⟩
    refine ⟨_, checkTargets_eq_ok.2 ⟨hmet, rfl⟩, ?_⟩
    rw [text_leftOf, if_pos (hempty .stdout), if_pos (hempty .stderr)]

theorem check_eq_error : (check files d captured).run.value = .error failure ↔
    (∃ i target, d.targets[i]? = some target ∧ AllMet files d captured (d.targets.take i) ∧
      target.Fault files d (captured.left (d.targets.take i)) failure) ∨
    (AllMet files d captured d.targets ∧ ∃ stream, failure = .unconsumed stream ∧
      captured.left d.targets stream ≠ "" ∧
      (stream = .stderr → captured.left d.targets .stdout = "")) := by
  rw [value_check, bind_eq_error, checkTargets_eq_error]
  refine or_congr_right ⟨?_, ?_⟩
  · rintro ⟨left, hleft, herror⟩
    obtain ⟨hmet, rfl⟩ := checkTargets_eq_ok.1 hleft
    rw [text_leftOf] at herror
    split_ifs at herror with hstdout hstderr
    · cases herror
      exact ⟨hmet, .stderr, rfl, hstderr, fun _ => hstdout⟩
    · cases herror
      exact ⟨hmet, .stdout, rfl, hstdout, fun h => by cases h⟩
  · rintro ⟨hmet, stream, rfl, hleft, hearlier⟩
    refine ⟨_, checkTargets_eq_ok.2 ⟨hmet, rfl⟩, ?_⟩
    rw [text_leftOf]
    cases stream with
    | stdout => rw [if_neg hleft]
    | stderr => rw [if_pos (hearlier rfl), if_neg hleft]

end Targets

end AsmHarness
