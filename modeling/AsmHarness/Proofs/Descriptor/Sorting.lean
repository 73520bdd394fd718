import AsmHarness.Descriptor.Load
import AsmHarness.Proofs.Text.ByteOrder

/-!
# Sorting by name

Sorting puts the names in the order of their bytes and leaves what has the same name in its order.
What is left out before sorting is left out of the result, and nothing else changes.
-/

namespace AsmHarness.Descriptor

/-! ## Keys -/

section Keys

variable {α : Type} (key : α → String) (items : List α)

theorem key_le_trans (a b c : α) (hab : decide (key a ≤ key b) = true)
    (hbc : decide (key b ≤ key c) = true) : decide (key a ≤ key c) = true :=
  decide_eq_true ((of_decide_eq_true hab).trans (of_decide_eq_true hbc))

theorem key_le_total (a b : α) : (decide (key a ≤ key b) || decide (key b ≤ key a)) = true := by
  rw [Bool.or_eq_true, decide_eq_true_eq, decide_eq_true_eq]
  exact le_total ..

/-- Items sorted by their keys are in the order of the keys. -/
theorem pairwise_mergeSort_key :
    (items.mergeSort fun a b => key a ≤ key b).Pairwise fun a b => key a ≤ key b :=
  (List.pairwise_mergeSort (key_le_trans key) (key_le_total key) items).imp of_decide_eq_true

/-- Items of one key stay in their order. -/
theorem filter_mergeSort_key (k : String) :
    (items.mergeSort fun a b => key a ≤ key b).filter (key · = k) = items.filter (key · = k) := by
  -- items of one key are in order as they stand, and what is in order keeps its order
  have hsame : (items.filter (key · = k)).Pairwise fun a b => decide (key a ≤ key b) = true := by
    refine List.pairwise_of_forall_mem_list fun a ha b hb => decide_eq_true ?_
    rw [List.mem_filter, decide_eq_true_eq] at ha hb
    rw [ha.2, hb.2]
  have hsublist := (List.sublist_mergeSort (key_le_trans key) (key_le_total key) hsame
    List.filter_sublist).filter (key · = k)
  rw [List.filter_filter] at hsublist
  simp only [Bool.and_self] at hsublist
  exact (hsublist.eq_of_length ((List.mergeSort_perm ..).filter _).length_eq.symm).symm

/-- A further item comes to stand before those whose keys are not less than its own. -/
theorem mergeSort_cons_key (a : α) :
    ((a :: items).mergeSort fun a b => key a ≤ key b) =
      (items.mergeSort fun a b => key a ≤ key b).filter (¬ key a ≤ key ·) ++
        a :: (items.mergeSort fun a b => key a ≤ key b).filter (key a ≤ key ·) := by
  obtain ⟨before, after, hsort, hrest, hbefore⟩ :=
    List.mergeSort_cons (key_le_trans key) (key_le_total key) a items
  have hafter : ∀ b ∈ after, key a ≤ key b := by
    have hsorted := pairwise_mergeSort_key key (a :: items)
    rw [hsort, List.pairwise_append, List.pairwise_cons] at hsorted
    exact hsorted.2.1.1
  have hbefore : ∀ b ∈ before, ¬ key a ≤ key b := fun b hmem =>
    of_decide_eq_false ((Bool.not_eq_true' _).mp (hbefore b hmem))
  rw [hsort, hrest, List.filter_append, List.filter_append,
    List.filter_eq_self.2 fun b hmem => decide_eq_true (hbefore b hmem),
    List.filter_eq_nil_iff.2 fun b hmem => mt of_decide_eq_true (not_not.2 (hafter b hmem)),
    List.filter_eq_nil_iff.2 fun b hmem => mt of_decide_eq_true (hbefore b hmem),
    List.filter_eq_self.2 fun b hmem => decide_eq_true (hafter b hmem),
    List.append_nil, List.nil_append]

/-- Items that are left out before sorting are left out of what is sorted. -/
theorem mergeSort_sublist {more : List α} (h : items.Sublist more) :
    (items.mergeSort fun a b => key a ≤ key b).Sublist
      (more.mergeSort fun a b => key a ≤ key b) := by
  induction h with
  | slnil => exact .refl _
  | @cons items more a _ ih =>
    obtain ⟨before, after, hsort, hrest, -⟩ :=
      List.mergeSort_cons (key_le_trans key) (key_le_total key) a more
    rw [hrest] at ih
    rw [hsort]
    exact ih.trans ((List.sublist_cons_self a after).append_left before)
  | cons_cons a _ ih =>
    rw [mergeSort_cons_key, mergeSort_cons_key]
    exact (ih.filter _).append ((ih.filter _).cons_cons a)

end Keys

/-! ## Descriptors -/

/-- A list is another, sorted by the bytes of the names, those of one name staying in their order.
-/
structure SortedByName (sorted descriptors : List Descriptor) : Prop where
  /-- No descriptor is lost and none is added. -/
  perm : sorted.Perm descriptors
  /-- The names are in order. -/
  ordered : sorted.Pairwise fun a b => Utf8.bytes a.name ≤ Utf8.bytes b.name
  /-- The descriptors of one name are in the order they were in. -/
  stable : ∀ name, sorted.filter (·.name = name) = descriptors.filter (·.name = name)

theorem sortByName_sorted (descriptors : List Descriptor) :
    SortedByName (sortByName descriptors) descriptors where
  perm := List.mergeSort_perm ..
  ordered := (pairwise_mergeSort_key (·.name) descriptors).imp Utf8.bytes_le_iff.2
  stable := filter_mergeSort_key (·.name) descriptors

theorem sortByName_sublist {descriptors more : List Descriptor} (h : descriptors.Sublist more) :
    (sortByName descriptors).Sublist (sortByName more) :=
  mergeSort_sublist Descriptor.name descriptors h

end AsmHarness.Descriptor
