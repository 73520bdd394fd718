import AsmHarness.Proofs.RoundTrip

/-!
# Replacing the references twice

An update moves the outputs away and overwrites the references, so that a second one finds other
files. If the assembler makes the same again, it finds the outputs again where the first one found
them, and files where the first one has left references. Whatever is stored in a place is determined
by what the assembler has made, so a second update ends with what the first one has left. Nothing
can hold it up but that a reference is not found any more, or that something is protected; an output
that is moved takes its protection along.
-/

namespace AsmHarness

section Again

variable {assembler : Path} {d : Descriptor} {captured : Captured}
  {made : Path → ByteArray} {target : Target} {targets rest : List Target}
  {files mid next again midAgain last between : FileTree} {path : Path} {origin : Location}
  {before : ByteArray} {first second : Finished}

/-! ## What must not be protected -/

namespace Target

/-- Nothing that has to be changed to store a target is protected: the folders of an output and its
reference, which get other entries, or the reference of a stream, which gets another content. -/
def Permitted (d : Descriptor) (origin : Location) (may : Location → Bool) (target : Target) :
    Prop :=
  match target.subject with
  | .artifact output reference _ => d.expectsFailure = false →
    may ((d.resolve output).place origin).dropLast = true ∧
      may ((d.resolve reference).place origin).dropLast = true
  | .capture _ reference => may ((d.resolve reference).place origin) = true

/-- What may be changed once a target has been stored, where `may` tells it of the time before: an
output that is moved takes along whether it may be changed. -/
def handOver (d : Descriptor) (origin : Location) (may : Location → Bool) (target : Target) :
    Location → Bool :=
  match target.subject with
  | .artifact output reference _ =>
    if d.expectsFailure then may
    else Function.update (Function.update may ((d.resolve output).place origin) false)
      ((d.resolve reference).place origin) (may ((d.resolve output).place origin))
  | .capture .. => may

/-- The reference of a target is found if the target counts. -/
def Reached (files : FileTree) (d : Descriptor) (target : Target) : Prop :=
  target.Counts d → ∃ bytes, files.Holds (d.resolve target.reference) bytes

end Target

/-- Nothing that has to be changed to store some targets in order is protected. -/
def Permits (d : Descriptor) (origin : Location) : (Location → Bool) → List Target → Prop
  | _, [] => True
  | may, target :: rest =>
    target.Permitted d origin may ∧ Permits d origin (target.handOver d origin may) rest

instance (d : Descriptor) (origin : Location) (may : Location → Bool) :
    (target : Target) → Decidable (target.Permitted d origin may)
  | ⟨.artifact .., _⟩ => inferInstanceAs (Decidable (_ → _ ∧ _))
  | ⟨.capture .., _⟩ => inferInstanceAs (Decidable (_ = true))

instance decidablePermits (d : Descriptor) (origin : Location) (may : Location → Bool) :
    (targets : List Target) → Decidable (Permits d origin may targets)
  | [] => inferInstanceAs (Decidable True)
  | target :: rest =>
    have := decidablePermits d origin (target.handOver d origin may) rest
    inferInstanceAs (Decidable (_ ∧ _))

/-- A file that is there is found if its path leads to an entry. -/
theorem FileTree.exists_holds_iff (hslash : path.endsInSlash = false)
    (hthere : files.content? (files.place path) ≠ none) :
    (∃ bytes, files.Holds path bytes) ↔ ∃ folder name, files.LeadsTo path folder name := by
  constructor
  · rintro ⟨bytes, hbytes⟩
    obtain ⟨folder, name, hleads, -⟩ := FileTree.holds_iff.1 hbytes
    exact ⟨folder, name, hleads⟩
  · rintro ⟨folder, name, hleads⟩
    obtain ⟨bytes, hbytes⟩ := Option.ne_none_iff_exists'.1 hthere
    exact ⟨bytes, FileTree.holds_iff.2 ⟨folder, name, hleads, hslash, hleads.place_eq ▸ hbytes⟩⟩

/-! ## Storing again -/

/-- What has been stored from some files is stored from other files. -/
structure Ready (d : Descriptor) (made : Path → ByteArray) (files again : FileTree)
    (targets : List Target) : Prop where
  first : Clear d made files targets
  second : Clear d made again targets
  origin : again.origin = files.origin
  /-- An output that is there is there again. -/
  outputs : ∀ target ∈ targets, ∀ output, target.output? = some output →
    d.expectsFailure = false → files.get? (files.place (d.resolve output)) ≠ none →
      again.Holds (d.resolve output) (made (d.resolve output))
  /-- There are references to be replaced, whether or not they are found. -/
  references : ∀ target ∈ targets, target.Counts d →
    (d.resolve target.reference).endsInSlash = false ∧
      again.content? (again.place (d.resolve target.reference)) ≠ none

namespace Ready

/-- A target that has been stored can be stored again if its reference is found and nothing is
protected. -/
theorem exists_stores_iff (h : Ready d made files again (target :: rest))
    (hstores : target.Stores d captured files mid) :
    (∃ next, target.Stores d captured again next) ↔
      target.Reached again d ∧ target.Permitted d again.origin again.mayChange := by
  have hhead : target ∈ target :: rest := List.mem_cons_self
  have hreference := h.references target hhead
  unfold Target.Reached Target.Permitted
  cases hstores with
  | left hsubject hrejected =>
    refine iff_of_true ⟨again, .left hsubject hrejected⟩ ?_
    simp [Target.counts_of_artifact hsubject, hsubject, hrejected]
  | @moved output reference _ _ hsubject hwanted hrename =>
    have houtput := Target.output?_of_artifact hsubject
    have hne := (h.second.apart target hhead target hhead output houtput).symm
    have hthere : files.get? (files.place (d.resolve output)) ≠ none := by
      obtain ⟨fromFolder, fromName, -, -, moved, hfrom, -, hmoved, -⟩ :=
        FileTree.rename_eq_ok_iff.1 hrename
      rw [hfrom.place_eq, hmoved]
      exact Option.some_ne_none moved
    have hsource := h.outputs target hhead output houtput hwanted hthere
    have hcounts := (Target.counts_of_artifact hsubject).2 hwanted
    obtain ⟨hslash, hold⟩ := hreference hcounts
    rw [Target.reference_of_artifact hsubject] at hne hslash hold ⊢
    simp only [Target.stores_artifact_iff hsubject hwanted, hcounts, hsubject, hwanted,
      forall_const]
    constructor
    · rintro ⟨next, hnext⟩
      obtain ⟨-, -, folder, name, -, -, hleads, -⟩ := FileTree.rename_eq_ok_iff.1 hnext
      obtain ⟨before, hbefore⟩ := (FileTree.exists_holds_iff hslash hold).2 ⟨folder, name, hleads⟩
      exact ⟨⟨before, hbefore⟩, (hsource.exists_rename_iff hbefore hne).1 ⟨next, hnext⟩⟩
    · rintro ⟨⟨before, hbefore⟩, hmay⟩
      exact (hsource.exists_rename_iff hbefore hne).2 hmay
  | @written stream reference _ hsubject hwrite =>
    have hcounts : target.Counts d := Target.counts_of_capture hsubject
    obtain ⟨hslash, hold⟩ := hreference hcounts
    rw [Target.reference_of_capture hsubject] at hslash hold ⊢
    simp only [Target.stores_capture_iff hsubject, hcounts, hsubject, forall_const]
    constructor
    · rintro ⟨next, hnext⟩
      obtain ⟨folder, name, -, hleads, -⟩ := FileTree.write_eq_ok hnext
      obtain ⟨before, hbefore⟩ := (FileTree.exists_holds_iff hslash hold).2 ⟨folder, name, hleads⟩
      exact ⟨⟨before, hbefore⟩, hbefore.exists_write_iff.1 ⟨next, hnext⟩⟩
    · rintro ⟨⟨before, hbefore⟩, hmay⟩
      exact hbefore.exists_write_iff.2 hmay

/-- Storing a target again hands over what may be done with the output. -/
theorem mayChange_eq (h : Ready d made files again (target :: rest))
    (hagain : target.Stores d captured again midAgain) :
    midAgain.mayChange = target.handOver d again.origin again.mayChange := by
  have hhead : target ∈ target :: rest := List.mem_cons_self
  unfold Target.handOver
  cases hagain with
  | left hsubject hrejected => simp only [hsubject, hrejected, if_true]
  | @moved output reference _ _ hsubject hwanted hrename =>
    have houtput := Target.output?_of_artifact hsubject
    have hne := (h.second.apart target hhead target hhead output houtput).symm
    rw [Target.reference_of_artifact hsubject] at hne
    simp only [hsubject, hwanted, Bool.false_eq_true, if_false]
    exact FileTree.mayChange_rename hrename (h.second.outputs target hhead output houtput hwanted)
      hne
  | @written stream reference _ hsubject hwrite =>
    obtain ⟨-, hold⟩ := h.references target hhead (Target.counts_of_capture hsubject)
    rw [Target.reference_of_capture hsubject] at hold
    simp only [hsubject]
    refine FileTree.mayChange_write hwrite fun hnone => hold ?_
    rw [FileTree.content?, hnone, Option.bind_none]

/-- When a target has been stored from both files, the others can still be. -/
theorem step (h : Ready d made files again (target :: rest))
    (hstores : target.Stores d captured files mid)
    (hagain : target.Stores d captured again midAgain) : Ready d made mid midAgain rest where
  first := h.first.step hstores
  second := h.second.step hagain
  origin := by rw [hstores.origin_eq, hagain.origin_eq, h.origin]
  outputs other hother output houtput hwanted hthere := by
    have hlater := List.mem_cons_of_mem target hother
    have hbefore := h.outputs other hlater output houtput hwanted
    have havoids := h.first.apart target List.mem_cons_self other hlater output houtput
    have havoidsAgain := h.second.apart target List.mem_cons_self other hlater output houtput
    rw [FileTree.place_congr hstores.origin_eq] at hthere
    rcases h.first.cases hstores with ⟨-, hnone, rfl⟩ | ⟨_, -, hputs⟩
    · rcases h.second.cases hagain with ⟨-, -, rfl⟩ | ⟨_, hsome, -⟩
      · exact hbefore hthere
      · cases hnone.symm.trans hsome
    · -- what is still there has not been taken away the first time, nor is it the second time
      obtain ⟨node, hnode⟩ := Option.ne_none_iff_exists'.1 hthere
      obtain ⟨hnotTaken, earlier, hearlier, -⟩ := hputs.still_there havoids hnode
      have hstill := hbefore (hearlier ▸ Option.some_ne_none earlier)
      rcases h.second.cases hagain with ⟨-, -, rfl⟩ | ⟨_, -, hputsAgain⟩
      · exact hstill
      · refine hputsAgain.holds_elsewhere havoidsAgain (fun source hsource => ?_) hstill
        rw [FileTree.place_congr h.origin, FileTree.place_congr h.origin]
        exact hnotTaken source hsource
  references other hother hcounts := by
    obtain ⟨hslash, hold⟩ := h.references other (List.mem_cons_of_mem _ hother) hcounts
    have havoids := h.second.apart other (List.mem_cons_of_mem _ hother) target List.mem_cons_self
    refine ⟨hslash, ?_⟩
    rw [FileTree.place_congr hagain.origin_eq]
    rcases h.second.cases hagain with ⟨-, -, rfl⟩ | ⟨content, -, hputs⟩
    · exact hold
    · by_cases hsame : again.place (d.resolve target.reference) =
          again.place (d.resolve other.reference)
      · have hcontent := hputs.holds.content?_eq
        rw [hputs.place_eq, hsame] at hcontent
        rw [hcontent]
        exact Option.some_ne_none content
      · rwa [hputs.content?_elsewhere hsame havoids.not_taken]

/-- A reference that is found is still found when another target has been stored again. -/
theorem reached_iff {other : Target} (h : Ready d made files again (target :: rest))
    (hstores : target.Stores d captured files mid)
    (hagain : target.Stores d captured again midAgain) (hother : other ∈ rest) :
    other.Reached midAgain d ↔ other.Reached again d := by
  refine forall_congr' fun hcounts => ?_
  obtain ⟨hslash, hold⟩ := h.references other (List.mem_cons_of_mem _ hother) hcounts
  obtain ⟨-, hlater⟩ := (h.step hstores hagain).references other hother hcounts
  rw [FileTree.exists_holds_iff hslash hold, FileTree.exists_holds_iff hslash hlater]
  simp only [h.second.leads hagain]

end Ready

namespace StoreAll

/-- All targets can be stored again if and only if the references are found and nothing is
protected. -/
theorem exists_again_iff (h : StoreAll d captured targets files next)
    (hready : Ready d made files again targets) :
    (∃ last, StoreAll d captured targets again last) ↔
      (∀ target ∈ targets, target.Reached again d) ∧
        Permits d again.origin again.mayChange targets := by
  induction h generalizing again with
  | nil => exact iff_of_true ⟨again, .nil⟩ ⟨by simp, trivial⟩
  | @cons target rest files mid next hstores _ ih =>
    rw [List.forall_mem_cons, Permits]
    constructor
    · rintro ⟨last, hlast⟩
      cases hlast with
      | cons hagain hlater =>
        obtain ⟨hreached, hpermits⟩ := (ih (hready.step hstores hagain)).1 ⟨last, hlater⟩
        obtain ⟨hfound, hpermitted⟩ := (hready.exists_stores_iff hstores).1 ⟨_, hagain⟩
        rw [hready.mayChange_eq hagain, hagain.origin_eq] at hpermits
        refine ⟨⟨hfound, fun other hother => ?_⟩, hpermitted, hpermits⟩
        exact (hready.reached_iff hstores hagain hother).1 (hreached other hother)
    · rintro ⟨⟨hfound, hreached⟩, hpermitted, hpermits⟩
      obtain ⟨midAgain, hagain⟩ := (hready.exists_stores_iff hstores).2 ⟨hfound, hpermitted⟩
      rw [← hready.mayChange_eq hagain, ← hagain.origin_eq] at hpermits
      have hlater : ∀ other ∈ rest, other.Reached midAgain d := fun other hother =>
        (hready.reached_iff hstores hagain hother).2 (hreached other hother)
      obtain ⟨last, hlast⟩ := (ih (hready.step hstores hagain)).2 ⟨hlater, hpermits⟩
      exact ⟨last, .cons hagain hlast⟩

/-- What is at the place of a reference is the same when everything has been stored again if it was
the same before that. -/
theorem content?_again (h : StoreAll d captured targets files next)
    (hagain : StoreAll d captured targets again last)
    (hready : Ready d made files again targets) (htarget : target ∈ targets)
    (hkept : again.content? (again.place (d.resolve target.reference)) =
      next.content? (next.place (d.resolve target.reference))) :
    last.content? (last.place (d.resolve target.reference)) =
      next.content? (next.place (d.resolve target.reference)) := by
  have hnext := h.place_eq (d.resolve target.reference)
  have hfound := FileTree.place_congr hready.origin (d.resolve target.reference)
  have hlast := (hagain.place_eq (d.resolve target.reference)).trans hfound
  have hfirst := h.content?_eq hready.first (hready.first.apart target htarget)
  have hsecond := hagain.content?_eq hready.second (hready.second.apart target htarget)
  rw [hfound, hready.origin] at hsecond
  rw [hfound, hnext] at hkept
  rw [hlast, hnext, hsecond]
  -- what is stored last has been there since the first time
  cases hstored : lastProduct d captured made files.origin
      (files.place (d.resolve target.reference)) targets with
  | none => rw [Option.none_or, hkept]
  | some bytes => rw [hfirst, hstored, Option.some_or, Option.some_or]

end StoreAll

/-! ## Updating again -/

/-- What has been stored after the first start is ready to be stored after the second one. -/
theorem Finished.Repeats.ready (h : first.Repeats second d between)
    (hapart : ∀ target ∈ d.targets, ∀ other ∈ d.targets,
      other.Avoids d first.files.origin (d.resolve target.reference))
    (hall : StoreAll d captured d.targets first.files between)
    (horigin : second.files.origin = between.origin) :
    Ready d first.files.bytesAt first.files second.files d.targets := by
  have hsame : second.files.origin = first.files.origin := horigin.trans hall.origin_eq
  have hclear := h.clear hapart
  refine ⟨hclear, ⟨?_, ?_⟩, hsame, ?_, ?_⟩
  · rw [hsame]
    exact hapart
  · intro target htarget output houtput hwanted
    exact (h.holds_output hwanted htarget houtput).2.nothingBut
  · intro target htarget output houtput hwanted _
    exact (h.holds_output hwanted htarget houtput).2
  · intro target htarget hcounts
    obtain ⟨bytes, -, hbytes⟩ := hall.holds_reference hclear htarget hcounts
    obtain ⟨folder, name, -, hslash, -⟩ := FileTree.holds_iff.1 hbytes
    refine ⟨hslash, ?_⟩
    rw [FileTree.place_congr horigin, h.references target htarget, hbytes.content?_eq]
    exact Option.some_ne_none bytes

/-- An update that has been done can be done again right away if and only if the references are still
found and nothing that it has to change is protected; then it leaves every reference with the bytes
that it had after the first one. The assembler must make the same again and write no reference, and
no reference may be an output, but targets may share a reference. -/
theorem update_again (host : Host) (assembler : Path) (d : Descriptor) (files between : FileTree)
    (first second : Finished)
    (hapart : ∀ target ∈ d.targets, ∀ other ∈ d.targets,
      other.Avoids d files.origin (d.resolve target.reference))
    (hfirst : d.start host assembler files = .ok first)
    (hdone : ((update host assembler d).run files).value = (.done, between))
    (hsecond : d.start host assembler between = .ok second)
    (hrepeats : first.Repeats second d between) :
    ((∃ after, ((update host assembler d).run between).value = (.done, after)) ↔
      (∀ target ∈ d.targets, target.Reached second.files d) ∧
        Permits d files.origin second.files.mayChange d.targets) ∧
    ∀ after, ((update host assembler d).run between).value = (.done, after) →
      ∀ target ∈ d.targets, after.content? (after.place (d.resolve target.reference)) =
        between.content? (between.place (d.resolve target.reference)) := by
  cases updateEnds_of_value hdone with
  | @stored finished _ hupdate hd hstart hcode hall =>
    obtain rfl := Except.ok.inj (hfirst.symm.trans hstart)
    have horigin := origin_of_start hfirst
    rw [← horigin] at hapart ⊢
    have hready := hrepeats.ready hapart hall (origin_of_start hsecond)
    have hvalue : ∀ after, ((update host assembler d).run between).value = (.done, after) ↔
        StoreAll d first.captured d.targets second.files after := by
      intro after
      rw [update_eq_done hupdate hd, ← storedAll_eq_ok_iff,
        ← captured_congr hrepeats.code hrepeats.written]
      constructor
      · rintro ⟨started, hstarted, -, hstored⟩
        obtain rfl := Except.ok.inj (hsecond.symm.trans hstarted)
        exact hstored
      · exact fun hstored => ⟨second, hsecond, hrepeats.code.trans hcode, hstored⟩
    simp only [hvalue]
    refine ⟨?_, fun after hafter target htarget => ?_⟩
    · rw [hall.exists_again_iff hready, hready.origin]
    · refine hall.content?_again hafter hready htarget ?_
      rw [FileTree.place_congr (origin_of_start hsecond)]
      exact hrepeats.references target htarget

end Again

namespace Sample

/-- A test whose targets share a reference. -/
def shared : Descriptor := test [binary, regular "a.bin.t"]

/-- The files when it has been replaced. -/
def sharedUpdated : FileTree := ((update writer "nasm" shared).run files).value.2

theorem mem_shared {target : Target} (h : target ∈ shared.targets) :
    target = binary ∨ target = regular "a.bin.t" := by
  simpa [shared, test] using h

theorem apart_shared : ∀ target ∈ shared.targets, ∀ other ∈ shared.targets,
    other.Avoids shared files.origin (shared.resolve target.reference) := by
  intro target htarget other hother output houtput
  rcases mem_shared hother with rfl | rfl
  · obtain rfl : "a.bin" = output := Option.some_inj.1 houtput
    rcases mem_shared htarget with rfl | rfl <;> decide +kernel
  · cases houtput

theorem repeats_shared :
    (finished files).Repeats (finished sharedUpdated) shared sharedUpdated := by
  refine repeats_spoken ?_ ?_
  · intro target htarget output houtput
    rcases mem_shared htarget with rfl | rfl
    · obtain rfl : "a.bin" = output := Option.some_inj.1 houtput
      exact ⟨"code".toUTF8, .of_read (eq_ok_of_toOption (by decide +kernel)),
        .of_read (eq_ok_of_toOption (by decide +kernel))⟩
    · cases houtput
  · intro target htarget
    rcases mem_shared htarget with rfl | rfl <;> decide +kernel

theorem reached_shared :
    ∀ target ∈ shared.targets, target.Reached (finished sharedUpdated).files shared := by
  intro target htarget _
  refine ⟨"hi".toUTF8, .of_read (eq_ok_of_toOption ?_)⟩
  rcases mem_shared htarget with rfl | rfl <;> decide +kernel

end Sample

/-- The text that was stored over the bytes of an output is there after a second update. -/
theorem update_again_shared :
    ((update Sample.writer "nasm" Sample.shared).run Sample.files).value =
        (.done, Sample.sharedUpdated) ∧
      ∃ after, ((update Sample.writer "nasm" Sample.shared).run Sample.sharedUpdated).value =
          (.done, after) ∧ after.content? (after.place "t/a.bin.t") = some "hi".toUTF8 := by
  have hdone : ((update Sample.writer "nasm" Sample.shared).run Sample.files).value =
      (.done, Sample.sharedUpdated) := by
    have houtcome :
        ((update Sample.writer "nasm" Sample.shared).run Sample.files).value.1 = .done := by
      decide +kernel
    rw [Sample.sharedUpdated, ← houtcome]
  have hstart := Sample.start_speaker (d := Sample.shared) (by decide +kernel)
  obtain ⟨hagain, hkept⟩ := update_again _ _ _ _ _ _ _ Sample.apart_shared (hstart _ _) hdone
    (hstart _ _) Sample.repeats_shared
  obtain ⟨after, hafter⟩ := hagain.2 ⟨Sample.reached_shared, by decide +kernel⟩
  refine ⟨hdone, after, hafter, (hkept after hafter Sample.binary List.mem_cons_self).trans ?_⟩
  decide +kernel

namespace Sample

/-- Puts a file that may not be changed where an output is expected. -/
def protect (files : FileTree) : FileTree :=
  files.put ["t", "o"] (.file "hi".toUTF8 { writable := false })

/-- A test that stores text and then moves an output over it. -/
def covered : Descriptor := test [regular "a.out", ⟨.artifact "o" "a.out" none, none⟩]

end Sample

/-- An update that has been done cannot always be done again: an output that may not be changed has
been moved to a reference that text is to be written to. -/
theorem not_update_again :
    ¬ ∀ (host : Host) (assembler : Path) (d : Descriptor) (files between : FileTree)
      (first second : Finished), d.update = true → d.disabled = none →
      (∀ target ∈ d.targets, ∀ other ∈ d.targets,
        other.Avoids d files.origin (d.resolve target.reference)) →
      d.start host assembler files = .ok first →
      ((update host assembler d).run files).value = (.done, between) →
      d.start host assembler between = .ok second → first.Repeats second d between →
      ∃ after, ((update host assembler d).run between).value = (.done, after) ∧
        ∀ target ∈ d.targets, after.content? (after.place (d.resolve target.reference)) =
          between.content? (between.place (d.resolve target.reference)) := by
  intro hall
  let ended := ((update (Sample.speaker Sample.protect) "nasm" Sample.covered).run Sample.bare).value
  have hdone : ((update (Sample.speaker Sample.protect) "nasm" Sample.covered).run
      Sample.bare).value = (.done, ended.2) := by
    have houtcome : ended.1 = .done := by decide +kernel
    rw [← houtcome]
  have hmem : ∀ target ∈ Sample.covered.targets,
      target = Sample.regular "a.out" ∨ target = ⟨.artifact "o" "a.out" none, none⟩ := by
    simp [Sample.covered, Sample.test]
  have hstart := Sample.start_speaker (d := Sample.covered) (by decide +kernel) Sample.protect
  have hapart : ∀ target ∈ Sample.covered.targets, ∀ other ∈ Sample.covered.targets,
      other.Avoids Sample.covered Sample.bare.origin (Sample.covered.resolve target.reference) := by
    intro target htarget other hother output houtput
    rcases hmem other hother with rfl | rfl
    · cases houtput
    · obtain rfl : "o" = output := Option.some_inj.1 houtput
      rcases hmem target htarget with rfl | rfl <;> decide +kernel
  have hrepeats : (Sample.spoken Sample.protect Sample.bare).Repeats
      (Sample.spoken Sample.protect ended.2) Sample.covered ended.2 := by
    refine Sample.repeats_spoken ?_ ?_
    · intro target htarget output houtput
      rcases hmem target htarget with rfl | rfl
      · cases houtput
      · obtain rfl : "o" = output := Option.some_inj.1 houtput
        exact ⟨"hi".toUTF8, .of_read (eq_ok_of_toOption (by decide +kernel)),
          .of_read (eq_ok_of_toOption (by decide +kernel))⟩
    · intro target htarget
      rcases hmem target htarget with rfl | rfl <;> decide +kernel
  obtain ⟨after, hafter, -⟩ := hall _ _ _ _ _ _ _ rfl rfl hapart (hstart _) hdone (hstart _) hrepeats
  have hagain : ((update (Sample.speaker Sample.protect) "nasm" Sample.covered).run
      ended.2).value.1 = .done := by
    rw [hafter]
  exact absurd hagain (by decide +kernel)

/-- Nor can it where nothing is protected: the folder on the way to the reference has been moved
when the assembler has run again, though nothing has been written. -/
theorem not_update_again_bare :
    let d := Sample.one "x/../a.out"
    let host := Sample.speaker Sample.shift
    let between := ((update host "nasm" d).run Sample.bare).value.2
    ((update host "nasm" d).run Sample.bare).value.1 = .done ∧
      (Sample.spoken Sample.shift Sample.bare).Repeats (Sample.spoken Sample.shift between) d
        between ∧
      ((update host "nasm" d).run between).value.1 ≠ .done :=
  ⟨by decide +kernel, Sample.repeats_one (by decide +kernel), by decide +kernel⟩

end AsmHarness
