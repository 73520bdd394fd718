import AsmHarness.Proofs.Descriptor.Sorting
import Mathlib.Data.List.Nodup

/-!
# Names that are shared

Descriptors of one name stand side by side in a sorted list, so that neighbours of one name are all
that has to be looked for. A name is reported when it follows itself, unless it was the last one to
be reported; this is enough to report it once, since what comes later in the list is not less.
-/

namespace AsmHarness.Descriptor

/-! ## Names -/

section Names

variable {last : Option String} {names rest : List String} {a b name : String}

theorem head_le_of_sorted (hsorted : (b :: rest).Pairwise (· ≤ ·)) : ∀ y ∈ b :: rest, b ≤ y := by
  intro y hy
  rcases List.mem_cons.1 hy with rfl | hy
  · exact le_rfl
  · exact (List.pairwise_cons.1 hsorted).1 y hy

theorem sharedNames_of_report (heq : a = b) (hlast : last ≠ some b) :
    sharedNames last (a :: b :: rest) = b :: sharedNames (some b) (b :: rest) := by
  rw [sharedNames, if_pos ⟨heq, hlast⟩]

theorem sharedNames_of_pass (h : a = b → last = some b) :
    sharedNames last (a :: b :: rest) = sharedNames last (b :: rest) := by
  rw [sharedNames, if_neg]
  rintro ⟨heq, hlast⟩
  exact hlast (h heq)

/-- A name is still to be reported: it is there twice, and it is not the last one reported. -/
def Due (last : Option String) (names : List String) (name : String) : Prop :=
  2 ≤ names.count name ∧ last ≠ some name

/-- No name that remains is less than the one reported last. -/
def Reached (last : Option String) (names : List String) : Prop :=
  ∀ x, last = some x → ∀ y ∈ names, x ≤ y

theorem Reached.tail (h : Reached last (a :: names)) : Reached last names :=
  fun x hx y hy => h x hx y (List.mem_cons_of_mem a hy)

theorem reached_head (hsorted : (b :: rest).Pairwise (· ≤ ·)) : Reached (some b) (b :: rest) := by
  intro x hx
  obtain rfl := Option.some_inj.1 hx
  exact head_le_of_sorted hsorted

/-- Reporting a name leaves the others that are due. A greater name was not reported before it. -/
theorem due_iff_of_report (hsorted : (b :: rest).Pairwise (· ≤ ·))
    (hlast : Reached last (b :: rest)) (hne : last ≠ some b) :
    Due last (b :: b :: rest) name ↔ name = b ∨ Due (some b) (b :: rest) name := by
  by_cases hname : name = b
  · subst hname
    simp [Due, hne]
  · have hcount : (b :: b :: rest).count name = (b :: rest).count name :=
      List.count_cons_of_ne (Ne.symm hname)
    unfold Due
    rw [hcount]
    constructor
    · rintro ⟨htwice, -⟩
      exact .inr ⟨htwice, fun hsame => hname (Option.some_inj.1 hsame).symm⟩
    · rintro (hsame | ⟨htwice, -⟩)
      · exact absurd hsame hname
      · refine ⟨htwice, ?_⟩
        intro hreported
        have hmem : name ∈ b :: rest := List.count_pos_iff.1 (by omega)
        have hle : name ≤ b := hlast name hreported b List.mem_cons_self
        exact hname (le_antisymm hle (head_le_of_sorted hsorted name hmem))

/-- A name that differs from the next one is not there again, and one that was reported is not due;
so passing over it leaves all that is due. -/
theorem due_iff_of_pass (hsorted : (a :: b :: rest).Pairwise (· ≤ ·)) (h : a = b → last = some b) :
    Due last (a :: b :: rest) name ↔ Due last (b :: rest) name := by
  obtain ⟨hfirst, htail⟩ := List.pairwise_cons.1 hsorted
  by_cases hname : name = a
  · subst hname
    by_cases heq : name = b
    · simp [Due, h heq, heq]
    · have hnone : (b :: rest).count name = 0 := by
        rw [List.count_eq_zero]
        intro hmem
        have hle : name ≤ b := hfirst b List.mem_cons_self
        exact heq (le_antisymm hle (head_le_of_sorted htail name hmem))
      unfold Due
      rw [List.count_cons_self, hnone]
      simp
  · unfold Due
    rw [List.count_cons_of_ne (Ne.symm hname)]

/-- Of sorted names those are reported that are due. -/
theorem mem_sharedNames_iff (hsorted : names.Pairwise (· ≤ ·)) (hlast : Reached last names) :
    name ∈ sharedNames last names ↔ Due last names name := by
  induction names generalizing last with
  | nil => simp [sharedNames, Due]
  | cons a tail ih =>
    cases tail with
    | nil =>
      have hcount : [a].count name ≤ 1 := List.count_le_length
      simp only [sharedNames, Due, List.not_mem_nil, false_iff]
      omega
    | cons b rest =>
      obtain ⟨-, htail⟩ := List.pairwise_cons.1 hsorted
      by_cases hreport : a = b ∧ last ≠ some b
      · obtain ⟨rfl, hne⟩ := hreport
        rw [sharedNames_of_report rfl hne, List.mem_cons, ih htail (reached_head htail),
          due_iff_of_report htail hlast.tail hne]
      · rw [not_and, not_not] at hreport
        rw [sharedNames_of_pass hreport, ih htail hlast.tail, due_iff_of_pass hsorted hreport]

/-- Each reported name is greater than those before it. -/
theorem pairwise_sharedNames (hsorted : names.Pairwise (· ≤ ·)) :
    (sharedNames last names).Pairwise (· < ·) := by
  induction names generalizing last with
  | nil => exact .nil
  | cons a tail ih =>
    cases tail with
    | nil => exact .nil
    | cons b rest =>
      obtain ⟨-, htail⟩ := List.pairwise_cons.1 hsorted
      by_cases hreport : a = b ∧ last ≠ some b
      · rw [sharedNames_of_report hreport.1 hreport.2, List.pairwise_cons]
        refine ⟨?_, ih htail⟩
        intro y hy
        obtain ⟨htwice, hne⟩ := (mem_sharedNames_iff htail (reached_head htail)).1 hy
        have hmem : y ∈ b :: rest := List.count_pos_iff.1 (by omega)
        have hle : b ≤ y := head_le_of_sorted htail y hmem
        exact lt_of_le_of_ne hle fun heq => hne (congrArg some heq)
      · rw [not_and, not_not] at hreport
        rw [sharedNames_of_pass hreport]
        exact ih htail

end Names

/-! ## Descriptors -/

/-- In a list that is sorted by name, the names reported as shared are those that several
descriptors have, each of them once, in order. There are none if and only if all names differ. -/
theorem duplicateNames_shared (descriptors : List Descriptor)
    (hsorted : descriptors.Pairwise fun a b => Utf8.bytes a.name ≤ Utf8.bytes b.name) :
    (∀ name, name ∈ duplicateNames descriptors ↔ 2 ≤ descriptors.countP (·.name = name)) ∧
      (duplicateNames descriptors).Nodup ∧
      (duplicateNames descriptors).Pairwise (fun a b => Utf8.bytes a < Utf8.bytes b) ∧
      (duplicateNames descriptors = [] ↔ descriptors.Pairwise fun a b => a.name ≠ b.name) := by
  have hnames : (descriptors.map (·.name)).Pairwise (· ≤ ·) :=
    List.pairwise_map.2 (hsorted.imp Utf8.bytes_le_iff.1)
  have hmem (name : String) :
      name ∈ duplicateNames descriptors ↔ 2 ≤ (descriptors.map (·.name)).count name := by
    have hstart : Reached none (descriptors.map (·.name)) := by
      intro x hx
      cases hx
    rw [duplicateNames, mem_sharedNames_iff hnames hstart]
    simp [Due]
  have hascending : (duplicateNames descriptors).Pairwise (· < ·) := pairwise_sharedNames hnames
  refine ⟨?_, hascending.imp ne_of_lt, hascending.imp Utf8.bytes_lt_iff.2, ?_⟩
  · intro name
    rw [hmem, List.count, List.countP_map]
    rfl
  · calc duplicateNames descriptors = []
      _ ↔ ∀ name, ¬ 2 ≤ (descriptors.map (·.name)).count name := by
        rw [List.eq_nil_iff_forall_not_mem]
        exact forall_congr' fun name => not_congr (hmem name)
      _ ↔ (descriptors.map (·.name)).Nodup := by
        rw [List.nodup_iff_count_le_one]
        exact forall_congr' fun name => by omega
      _ ↔ descriptors.Pairwise fun a b => a.name ≠ b.name := by
        rw [List.nodup_iff_pairwise_ne, List.pairwise_map]

/-- A test of which nothing matters but its name. -/
def nameOnly (name : String) : Descriptor where
  name := name
  description := "named"
  baseDir := "t"
  fileName := "t.json"
  format := none
  source := none
  option := none
  errorMode := none
  update := false
  disabled := none
  environ := []
  targets := []

/-- Three descriptors of one name, one that is alone, and two of another name. -/
theorem duplicateNames_shared_runs :
    let sorted := ["t/a.1", "t/a.1", "t/a.1", "t/b", "t/c", "t/c"].map nameOnly
    sorted.Pairwise (fun a b => Utf8.bytes a.name ≤ Utf8.bytes b.name) ∧
      "t/a.1" ∈ duplicateNames sorted ∧ "t/b" ∉ duplicateNames sorted ∧
      "t/c" ∈ duplicateNames sorted ∧ (duplicateNames sorted).Nodup := by
  intro sorted
  have hsorted : sorted.Pairwise fun a b => Utf8.bytes a.name ≤ Utf8.bytes b.name := by
    simp only [Utf8.bytes_le_iff]
    decide
  obtain ⟨hmem, hnodup, -, -⟩ := duplicateNames_shared sorted hsorted
  refine ⟨hsorted, (hmem _).2 (by decide), ?_, (hmem _).2 (by decide), hnodup⟩
  rw [hmem]
  decide

end AsmHarness.Descriptor
