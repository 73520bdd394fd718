import AsmHarness.Diff.Settle
import Mathlib.Tactic.SplitIfs

/-!
# What edit scripts lead to

The edits of a script follow one another: each begins where the one before has ended, in both
sequences, and keeps only lines that are the same. This is what settling and merging preserve. It
says nothing about where the empty side of a deletion or an insertion is said to be, which is not
kept up to date when changes pass each other.
-/

namespace AsmHarness.Diff

/-- An edit fits a pair of places: it begins there, is not empty and keeps only lines that are the
same. The place of an empty side does not matter. -/
inductive Edit.Fits (same : Nat → Nat → Bool) (i j : Nat) : Edit → Prop where
  | keep {n : Nat} (pos : 0 < n) (equal : ∀ k < n, same (i + k) (j + k) = true) :
    Fits same i j ⟨.keep, ⟨i, n⟩, ⟨j, n⟩⟩
  | delete {n stale : Nat} (pos : 0 < n) : Fits same i j ⟨.delete, ⟨i, n⟩, ⟨stale, 0⟩⟩
  | insert {n stale : Nat} (pos : 0 < n) : Fits same i j ⟨.insert, ⟨stale, 0⟩, ⟨j, n⟩⟩
  | replace {m n : Nat} (posOld : 0 < m) (posNew : 0 < n) :
    Fits same i j ⟨.replace, ⟨i, m⟩, ⟨j, n⟩⟩

/-- Some edits lead from one pair of places to another, each standing at its place as `R` says. -/
def Spans (R : Nat → Nat → Edit → Prop) : Nat → Nat → List Edit → Nat → Nat → Prop
  | i, j, [], i', j' => i = i' ∧ j = j'
  | i, j, e :: rest, i', j' =>
    R i j e ∧ Spans R (i + e.old.length) (j + e.new.length) rest i' j'

variable {same : Nat → Nat → Bool} {R : Nat → Nat → Edit → Prop} {i j i' j' : Nat} {e : Edit}
  {edits before after : List Edit}

/-! ## Common lines -/

section Common

variable (same) (oldStart oldEnd newStart newEnd n : Nat)

theorem exists_commonStart : ∃ m, commonStart same oldStart oldEnd newStart newEnd n = n + m ∧
    m ≤ oldEnd - oldStart ∧ m ≤ newEnd - newStart ∧
    ∀ k < m, same (oldStart + k) (newStart + k) = true := by
  fun_induction commonStart same oldStart oldEnd newStart newEnd n with
  | case1 oldStart newStart n h ih =>
    obtain ⟨m, hm, hold, hnew, hsame⟩ := ih
    refine ⟨m + 1, by omega, by omega, by omega, ?_⟩
    intro k hk
    cases k with
    | zero => exact h.2.2
    | succ k =>
      have hnext := hsame k (by omega)
      rwa [Nat.add_right_comm, Nat.add_assoc, Nat.add_right_comm newStart, Nat.add_assoc] at hnext
  | case2 oldStart newStart n h => exact ⟨0, by omega, by omega, by omega, by omega⟩

theorem exists_commonEnd : ∃ m, commonEnd same oldStart oldEnd newStart newEnd n = n + m ∧
    m ≤ oldEnd - oldStart ∧ m ≤ newEnd - newStart ∧
    ∀ k < m, same (oldEnd - m + k) (newEnd - m + k) = true := by
  fun_induction commonEnd same oldStart oldEnd newStart newEnd n with
  | case1 oldEnd newEnd n h ih =>
    obtain ⟨m, hm, hold, hnew, hsame⟩ := ih
    refine ⟨m + 1, by omega, by omega, by omega, ?_⟩
    intro k hk
    by_cases hlast : k = m
    · have hone : oldEnd - (m + 1) + k = oldEnd - 1 := by omega
      have hother : newEnd - (m + 1) + k = newEnd - 1 := by omega
      rw [hone, hother]
      exact h.2.2
    · have hone : oldEnd - (m + 1) + k = oldEnd - 1 - m + k := by omega
      have hother : newEnd - (m + 1) + k = newEnd - 1 - m + k := by omega
      rw [hone, hother]
      exact hsame k (by omega)
  | case2 oldEnd newEnd n h => exact ⟨0, by omega, by omega, by omega, by omega⟩

end Common

/-! ## Scripts one after the other -/

theorem spans_append : Spans R i j (before ++ after) i' j' ↔
    ∃ p q, Spans R i j before p q ∧ Spans R p q after i' j' := by
  induction before generalizing i j with
  | nil =>
    constructor
    · intro h
      exact ⟨i, j, ⟨rfl, rfl⟩, h⟩
    · rintro ⟨p, q, ⟨rfl, rfl⟩, h⟩
      exact h
  | cons e rest ih =>
    rw [List.cons_append, Spans, ih]
    constructor
    · rintro ⟨hfits, p, q, hrest, hafter⟩
      exact ⟨p, q, ⟨hfits, hrest⟩, hafter⟩
    · rintro ⟨p, q, ⟨hfits, hrest⟩, hafter⟩
      exact ⟨hfits, p, q, hrest, hafter⟩

theorem spans_concat : Spans R i j (before ++ [e]) i' j' ↔
    ∃ p q, Spans R i j before p q ∧ R p q e ∧ p + e.old.length = i' ∧ q + e.new.length = j' :=
  spans_append

theorem Spans.cast {p q : Nat} (h : Spans R i j edits i' j') (hp : i = p) (hq : j = q) :
    Spans R p q edits i' j' :=
  hp ▸ hq ▸ h

theorem spans_le (h : Spans R i j edits i' j') : i ≤ i' ∧ j ≤ j' := by
  induction edits generalizing i j with
  | nil =>
    obtain ⟨rfl, rfl⟩ := h
    exact ⟨Nat.le_refl i, Nat.le_refl j⟩
  | cons e rest ih =>
    obtain ⟨-, hrest⟩ := h
    have hle := ih hrest
    omega

end AsmHarness.Diff
