import AsmHarness.Proofs.FileTree.Replace
import AsmHarness.Proofs.Update.Outcome

/-!
# What replacing the references leaves

An update that is not held up stores every target in turn. As long as no reference is an output, what
the assembler has made stays where it is until it is moved away, and what has been stored stays until
something else is stored in the same place. So in the end a reference holds what was stored there
last, and if the references are files of their own, what was stored for its target.
-/

namespace AsmHarness

open FileTree (Puts)

variable {host : Host} {assembler : Path} {d : Descriptor} {captured : Captured}
  {made : Path → ByteArray} {target other : Target} {targets rest : List Target}
  {files mid next : FileTree} {path : Path} {origin l folder : Location}
  {name : String} {content bytes : ByteArray}

/-! ## What is to be stored -/

/-- The bytes of the file that is at the place of a path, nothing if there is none. -/
def FileTree.bytesAt (files : FileTree) (path : Path) : ByteArray :=
  (files.content? (files.place path)).getD .empty

theorem FileTree.Holds.bytesAt_eq (h : files.Holds path content) :
    files.bytesAt path = content := by
  rw [FileTree.bytesAt, h.content?_eq, Option.getD_some]

namespace Target

/-- A target counts if it is compared, and stored: an output does not if the source is to be
rejected. -/
def Counts (d : Descriptor) (target : Target) : Prop :=
  ∀ output, target.output? = some output → d.expectsFailure = false

/-- The output of a target, if it has one, is another file than that of a path. -/
def Avoids (d : Descriptor) (origin : Location) (path : Path) (target : Target) : Prop :=
  ∀ output, target.output? = some output → path.place origin ≠ (d.resolve output).place origin

/-- What is to be stored as the reference of a target, none if it is left alone, where some bytes
have been made of each output. -/
def product (d : Descriptor) (captured : Captured) (made : Path → ByteArray) (target : Target) :
    Option ByteArray :=
  match target.subject with
  | .artifact output _ _ => if d.expectsFailure then none else some (made (d.resolve output))
  | .capture stream _ => some (captured.text stream).toUTF8

/-- What is to be stored at a location for the sake of a target. -/
def productAt (d : Descriptor) (captured : Captured) (made : Path → ByteArray)
    (origin l : Location) (target : Target) : Option ByteArray :=
  if (d.resolve target.reference).place origin = l then target.product d captured made else none

/-- Where the output of a target is, there is nothing but what has been made of it. -/
def Untouched (files : FileTree) (d : Descriptor) (made : Path → ByteArray) (target : Target) :
    Prop :=
  ∀ output, target.output? = some output → d.expectsFailure = false →
    files.NothingBut (d.resolve output) (made (d.resolve output))

theorem exists_product (captured : Captured) (made : Path → ByteArray) (h : target.Counts d) :
    ∃ bytes, target.product d captured made = some bytes := by
  unfold product
  cases hsubject : target.subject with
  | artifact output reference option => simp [h output (output?_of_artifact hsubject)]
  | capture stream reference => simp

theorem counts_of_capture {stream : Stream} {reference : String}
    (h : target.subject = .capture stream reference) : target.Counts d := by
  intro output houtput
  rw [output?_of_capture h] at houtput
  cases houtput

theorem counts_of_artifact {output reference : String} {option : Option String}
    (h : target.subject = .artifact output reference option) :
    target.Counts d ↔ d.expectsFailure = false := by
  simp [Counts, output?_of_artifact h]

/-- What a target takes away is another file than one that it avoids. -/
theorem Avoids.not_taken (h : target.Avoids d files.origin path) :
    ∀ source ∈ target.output?.map d.resolve, files.place source ≠ files.place path := by
  intro source hsource
  obtain ⟨output, houtput, rfl⟩ := Option.map_eq_some_iff.1 hsource
  exact (h output houtput).symm

end Target

/-- What is stored at a location for the sake of the last target that has something stored there. -/
def lastProduct (d : Descriptor) (captured : Captured) (made : Path → ByteArray)
    (origin l : Location) : List Target → Option ByteArray
  | [] => none
  | target :: rest =>
    (lastProduct d captured made origin l rest).or (target.productAt d captured made origin l)

/-- Something is stored at the place of a reference if its target counts. -/
theorem exists_lastProduct (captured : Captured) (made : Path → ByteArray) (origin : Location)
    (htarget : target ∈ targets) (hcounts : target.Counts d) :
    ∃ bytes, lastProduct d captured made origin ((d.resolve target.reference).place origin)
      targets = some bytes := by
  induction targets with
  | nil => cases htarget
  | cons first rest ih =>
    rw [lastProduct]
    rcases List.mem_cons.1 htarget with rfl | hlater
    · obtain ⟨bytes, hbytes⟩ := Target.exists_product captured made hcounts
      rw [Target.productAt, if_pos rfl, hbytes]
      cases lastProduct d captured made origin ((d.resolve target.reference).place origin) rest with
      | none => exact ⟨bytes, rfl⟩
      | some later => exact ⟨later, rfl⟩
    · obtain ⟨bytes, hbytes⟩ := ih hlater
      exact ⟨bytes, by rw [hbytes, Option.some_or]⟩

/-! ## Storing one target -/

/-- The outputs of some targets hold what has been made of them or are gone, and no reference is an
output. -/
structure Clear (d : Descriptor) (made : Path → ByteArray) (files : FileTree)
    (targets : List Target) : Prop where
  apart : ∀ target ∈ targets, ∀ other ∈ targets,
    other.Avoids d files.origin (d.resolve target.reference)
  outputs : ∀ target ∈ targets, target.Untouched files d made

namespace Target.Stores

/-- The working directory stays where it is. -/
theorem origin_eq (h : target.Stores d captured files next) : next.origin = files.origin :=
  origin_of_stored (stored_eq_ok_iff.2 h)

theorem cases_of_untouched (h : target.Stores d captured files next)
    (huntouched : target.Untouched files d made)
    (hself : target.Avoids d files.origin (d.resolve target.reference)) :
    (¬ target.Counts d ∧ target.product d captured made = none ∧ next = files) ∨
      ∃ content, target.product d captured made = some content ∧
        Puts files next (d.resolve target.reference) content (target.output?.map d.resolve) := by
  cases h with
  | left hsubject hrejected =>
    refine .inl ⟨?_, ?_, rfl⟩
    · simp [counts_of_artifact hsubject, hrejected]
    · simp [product, hsubject, hrejected]
  | @moved output reference _ _ hsubject hwanted hrename =>
    have houtput := output?_of_artifact hsubject
    have hreference := reference_of_artifact hsubject
    have hne := (hself output houtput).symm
    refine .inr ⟨made (d.resolve output), by simp [product, hsubject, hwanted], ?_⟩
    rw [hreference] at hne ⊢
    rw [houtput]
    exact FileTree.puts_rename hrename (huntouched output houtput hwanted) hne
  | @written stream reference _ hsubject hwrite =>
    refine .inr ⟨(captured.text stream).toUTF8, by simp [product, hsubject], ?_⟩
    rw [reference_of_capture hsubject, output?_of_capture hsubject]
    exact FileTree.puts_write hwrite

end Target.Stores

namespace Clear

theorem cases (h : Clear d made files (target :: rest))
    (hstores : target.Stores d captured files next) :
    (¬ target.Counts d ∧ target.product d captured made = none ∧ next = files) ∨
      ∃ content, target.product d captured made = some content ∧
        Puts files next (d.resolve target.reference) content (target.output?.map d.resolve) :=
  have hhead := List.mem_cons_self
  hstores.cases_of_untouched (h.outputs target hhead) (h.apart target hhead target hhead)

/-- What has been made stays clear of what is stored. -/
theorem step (h : Clear d made files (target :: rest))
    (hstores : target.Stores d captured files mid) : Clear d made mid rest where
  apart first hfirst second hsecond := by
    rw [hstores.origin_eq]
    exact h.apart first (List.mem_cons_of_mem _ hfirst) second (List.mem_cons_of_mem _ hsecond)
  outputs other hother output houtput hwanted := by
    have hbefore := h.outputs other (List.mem_cons_of_mem _ hother) output houtput hwanted
    have havoids := h.apart target List.mem_cons_self other (List.mem_cons_of_mem _ hother)
    rcases h.cases hstores with ⟨-, -, rfl⟩ | ⟨content, -, hputs⟩
    · exact hbefore
    · exact hputs.nothingBut (havoids output houtput) hbefore

/-- Paths lead to the same places when a target has been stored. -/
theorem leads (h : Clear d made files (target :: rest))
    (hstores : target.Stores d captured files mid) :
    mid.LeadsTo path folder name ↔ files.LeadsTo path folder name := by
  rcases h.cases hstores with ⟨-, -, rfl⟩ | ⟨content, -, hputs⟩
  · exact Iff.rfl
  · exact hputs.leads

end Clear

/-! ## Storing all targets -/

namespace StoreAll

theorem origin_eq (h : StoreAll d captured targets files next) : next.origin = files.origin := by
  induction h with
  | nil => rfl
  | cons hstores _ ih => exact ih.trans hstores.origin_eq

theorem place_eq (h : StoreAll d captured targets files next) (path : Path) :
    next.place path = files.place path :=
  FileTree.place_congr h.origin_eq path

/-- Paths lead to the same places when some targets have been stored. -/
theorem leads (h : StoreAll d captured targets files next) (hclear : Clear d made files targets) :
    next.LeadsTo path folder name ↔ files.LeadsTo path folder name := by
  induction h with
  | nil => exact Iff.rfl
  | cons hstores _ ih => exact (ih (hclear.step hstores)).trans (hclear.leads hstores)

/-- Where no output is, there is what has been stored last, or what was there before. -/
theorem content?_eq (h : StoreAll d captured targets files next)
    (hclear : Clear d made files targets)
    (havoids : ∀ target ∈ targets, target.Avoids d files.origin path) :
    next.content? (files.place path) =
      (lastProduct d captured made files.origin (files.place path) targets).or
        (files.content? (files.place path)) := by
  induction h with
  | nil => rfl
  | @cons target rest files mid next hstores _ ih =>
    rw [List.forall_mem_cons] at havoids
    have horigin := hstores.origin_eq
    have hplace := FileTree.place_congr horigin path
    have hmid : mid.content? (files.place path) =
        (target.productAt d captured made files.origin (files.place path)).or
          (files.content? (files.place path)) := by
      unfold Target.productAt
      rcases hclear.cases hstores with ⟨-, hnone, rfl⟩ | ⟨content, hproduct, hputs⟩
      · rw [hnone, ite_self, Option.none_or]
      · split_ifs with hsame
        · have hcontent := hputs.holds.content?_eq
          rw [hputs.place_eq] at hcontent
          rw [hproduct, Option.some_or, ← hsame]
          exact hcontent
        · exact hputs.content?_elsewhere hsame havoids.1.not_taken
    have hlater := ih (hclear.step hstores) (horigin.symm ▸ havoids.2)
    rw [hplace, horigin] at hlater
    rw [hlater, hmid, lastProduct, Option.or_assoc]

/-- Where something is stored, a path leads to an entry. -/
theorem exists_leadsTo (h : StoreAll d captured targets files next)
    (hclear : Clear d made files targets) (htarget : target ∈ targets)
    (hcounts : target.Counts d) :
    ∃ folder name, files.LeadsTo (d.resolve target.reference) folder name ∧
      (d.resolve target.reference).endsInSlash = false := by
  induction h with
  | nil => cases htarget
  | @cons first rest files mid next hstores _ ih =>
    rcases List.mem_cons.1 htarget with rfl | hlater
    · rcases hclear.cases hstores with ⟨hnot, -, -⟩ | ⟨content, -, hputs⟩
      · exact absurd hcounts hnot
      · obtain ⟨folder, name, hleads, hslash, -⟩ := FileTree.holds_iff.1 hputs.holds
        exact ⟨folder, name, hputs.leads.1 hleads, hslash⟩
    · obtain ⟨folder, name, hleads, hslash⟩ := ih (hclear.step hstores) hlater
      exact ⟨folder, name, (hclear.leads hstores).1 hleads, hslash⟩

/-- In the end the reference of every target that counts holds what was stored there last. -/
theorem holds_reference (h : StoreAll d captured targets files next)
    (hclear : Clear d made files targets) (htarget : target ∈ targets)
    (hcounts : target.Counts d) :
    ∃ bytes, lastProduct d captured made files.origin
        (files.place (d.resolve target.reference)) targets = some bytes ∧
      next.Holds (d.resolve target.reference) bytes := by
  obtain ⟨folder, name, hleads, hslash⟩ := h.exists_leadsTo hclear htarget hcounts
  obtain ⟨bytes, hbytes⟩ := exists_lastProduct captured made files.origin htarget hcounts
  have hcontent := h.content?_eq hclear (hclear.apart target htarget)
  refine ⟨bytes, hbytes, FileTree.holds_iff.2 ⟨folder, name, (h.leads hclear).2 hleads, hslash, ?_⟩⟩
  rw [← hleads.place_eq, hcontent]
  exact congrArg (Option.or · _) hbytes

end StoreAll

/-! ## References that are files of their own -/

/-- The references of some targets are files of their own. -/
structure Descriptor.Separate (d : Descriptor) (origin : Location) (targets : List Target) :
    Prop where
  /-- No two references are the same file. -/
  references : (targets.map fun target => (d.resolve target.reference).place origin).Nodup
  /-- No reference is an output. -/
  outputs : ∀ target ∈ targets, ∀ other ∈ targets,
    other.Avoids d origin (d.resolve target.reference)

theorem lastProduct_eq_none
    (h : ∀ target ∈ targets, (d.resolve target.reference).place origin ≠ l) :
    lastProduct d captured made origin l targets = none := by
  induction targets with
  | nil => rfl
  | cons target rest ih =>
    rw [List.forall_mem_cons] at h
    rw [lastProduct, Target.productAt, if_neg h.1, ih h.2, Option.or_none]

/-- What is stored last at a reference is what is stored for its target if no other one has the same
reference. -/
theorem lastProduct_eq
    (hdistinct : (targets.map fun target => (d.resolve target.reference).place origin).Nodup)
    (htarget : target ∈ targets) :
    lastProduct d captured made origin ((d.resolve target.reference).place origin) targets =
      target.product d captured made := by
  induction targets with
  | nil => cases htarget
  | cons first rest ih =>
    obtain ⟨hfirst, hrest⟩ := List.nodup_cons.1 hdistinct
    rw [lastProduct, Target.productAt]
    rcases List.mem_cons.1 htarget with rfl | hlater
    · rw [if_pos rfl, lastProduct_eq_none, Option.none_or]
      exact fun other hother heq => hfirst (List.mem_map.2 ⟨other, hother, heq⟩)
    · have hne : (d.resolve first.reference).place origin ≠
          (d.resolve target.reference).place origin := by
        intro heq
        exact hfirst (List.mem_map.2 ⟨target, hlater, heq.symm⟩)
      rw [if_neg hne, ih hrest hlater, Option.or_none]

/-- In the end a reference that is a file of its own holds what was stored for its target. -/
theorem StoreAll.content?_reference (h : StoreAll d captured targets files next)
    (hclear : Clear d made files targets) (hsep : d.Separate files.origin targets)
    (htarget : target ∈ targets) (hproduct : target.product d captured made = some bytes) :
    next.content? (next.place (d.resolve target.reference)) = some bytes := by
  have hlast : lastProduct d captured made files.origin
      (files.place (d.resolve target.reference)) targets = some bytes :=
    (lastProduct_eq hsep.references htarget).trans hproduct
  rw [h.place_eq, h.content?_eq hclear (hclear.apart target htarget), hlast, Option.some_or]

end AsmHarness
