import AsmHarness.Diff.Unified
import AsmHarness.Proofs.Diff.Script

/-!
# Hunks of a script

The edits of the hunks of a script lead from place to place in both sequences, and the lines that
are shown in no hunk are the same in both. A hunk begins and ends with kept lines, except where the
script itself begins or ends with a change.
-/

namespace AsmHarness.Diff

variable {same : Nat → Nat → Bool} {tiled : Prop} {i j p q p' q' i' j' n oldSize newSize : Nat}
  {e : Edit} {edits rest current : List Edit} {groups : List (List Edit)}

/-! ## Lines that are left out -/

/-- The lines from one pair of places to another are as many and the same. -/
def Gap (same : Nat → Nat → Bool) (i j i' j' : Nat) : Prop :=
  ∃ n, i' = i + n ∧ j' = j + n ∧ ∀ k < n, same (i + k) (j + k) = true

theorem Gap.refl (i j : Nat) : Gap same i j i j :=
  ⟨0, rfl, rfl, by simp⟩

theorem Gap.trans (h : Gap same i j p q) (h' : Gap same p q i' j') : Gap same i j i' j' := by
  obtain ⟨m, rfl, rfl, hfirst⟩ := h
  obtain ⟨n, rfl, rfl, hsecond⟩ := h'
  refine ⟨m + n, Nat.add_assoc .., Nat.add_assoc .., ?_⟩
  intro k hk
  by_cases hless : k < m
  · exact hfirst k hless
  · have hlater := hsecond (k - m) (by omega)
    have hone : i + m + (k - m) = i + k := by omega
    have hother : j + m + (k - m) = j + k := by omega
    rwa [hone, hother] at hlater

/-! ## Where edits stand -/

/-- Both stretches of an edit begin at a pair of places. -/
def Edit.StartsAt (i j : Nat) (e : Edit) : Prop := e.old.start = i ∧ e.new.start = j

/-- An edit fits a pair of places, and an empty side stands there as well if the script it comes
from is tiled. -/
def Edit.Stands (same : Nat → Nat → Bool) (tiled : Prop) (i j : Nat) (e : Edit) : Prop :=
  e.Fits same i j ∧ (tiled → e.StartsAt i j)

theorem spans_stands (h : Spans (Edit.Fits same) i j edits i' j')
    (htiled : tiled → Spans Edit.StartsAt i j edits i' j') :
    Spans (Edit.Stands same tiled) i j edits i' j' := by
  induction edits generalizing i j with
  | nil => exact h
  | cons e rest ih =>
    obtain ⟨hfits, hrest⟩ := h
    exact ⟨⟨hfits, fun t => (htiled t).1⟩, ih hrest fun t => (htiled t).2⟩

theorem Edit.Stands.keep (h : e.Stands same tiled p q) (hkeep : e.kind = .keep) :
    ∃ n, 0 < n ∧ e = .keep p q n ∧ ∀ k < n, same (p + k) (q + k) = true := by
  obtain ⟨hfits, -⟩ := h
  cases hfits with
  | keep pos equal => exact ⟨_, pos, rfl, equal⟩
  | delete => cases hkeep
  | insert => cases hkeep
  | replace => cases hkeep

theorem Edit.Stands.startsAt (h : e.Stands same tiled p q) (he : e.kind = .keep ∨ tiled) :
    e.StartsAt p q := by
  rcases he with hkeep | t
  · obtain ⟨n, -, rfl, -⟩ := h.keep hkeep
    exact ⟨rfl, rfl⟩
  · exact h.2 t

/-- A part of some kept lines. -/
theorem stands_part (tiled : Prop) {a b : Nat} (equal : ∀ k < n, same (p + k) (q + k) = true)
    (hab : a < b) (hb : b ≤ n) :
    (Edit.keep (p + a) (q + a) (b - a)).Stands same tiled (p + a) (q + a) := by
  refine ⟨.keep (by omega) ?_, fun _ => ⟨rfl, rfl⟩⟩
  intro k hk
  rw [Nat.add_assoc, Nat.add_assoc]
  exact equal (a + k) (by omega)

theorem gap_part {a b : Nat} (equal : ∀ k < n, same (p + k) (q + k) = true) (hab : a ≤ b)
    (hb : b ≤ n) : Gap same (p + a) (q + a) (p + b) (q + b) := by
  refine ⟨b - a, by omega, by omega, ?_⟩
  intro k hk
  rw [Nat.add_assoc, Nat.add_assoc]
  exact equal (a + k) (by omega)

/-! ## Beginning and end -/

/-- Some edits begin with kept lines or where both sequences begin. -/
def Opens (p q : Nat) (edits : List Edit) : Prop :=
  ∀ e ∈ edits.head?, e.kind = .keep ∨ p = 0 ∧ q = 0

/-- Some edits end with kept lines or where both sequences end. -/
def Closes (oldSize newSize p q : Nat) (edits : List Edit) : Prop :=
  ∀ e ∈ edits.getLast?, e.kind = .keep ∨ p = oldSize ∧ q = newSize

theorem takeEnd_keep (p q n m : Nat) :
    (Edit.keep p q n).takeEnd m = .keep (p + (n - m)) (q + (n - m)) (n - (n - m)) :=
  rfl

theorem takeStart_keep (p q n m : Nat) :
    (Edit.keep p q n).takeStart m = .keep p q (n - (n - m)) :=
  rfl

/-- What the first edit loses are the same lines at the beginning of both sequences. -/
theorem opens_trimFirst (h : Spans (Edit.Stands same tiled) 0 0 edits i' j') :
    ∃ p q, Gap same 0 0 p q ∧ Spans (Edit.Stands same tiled) p q (trimFirst edits) i' j' ∧
      Opens p q (trimFirst edits) := by
  cases edits with
  | nil => exact ⟨0, 0, .refl 0 0, h, by simp [Opens, trimFirst]⟩
  | cons e rest =>
    obtain ⟨he, hrest⟩ := h
    rw [trimFirst]
    by_cases hkeep : e.kind = .keep
    · obtain ⟨n, pos, rfl, equal⟩ := he.keep hkeep
      have hcontext : n - context < n := Nat.sub_lt pos (by decide)
      have hpart := stands_part tiled equal hcontext (Nat.le_refl n)
      have hgap := gap_part equal (Nat.zero_le (n - context)) (Nat.sub_le n context)
      rw [if_pos hkeep, takeEnd_keep]
      refine ⟨_, _, hgap, ⟨hpart, hrest.cast ?_ ?_⟩, fun e he => .inl ?_⟩
      · simp only [Edit.keep]
        omega
      · simp only [Edit.keep]
        omega
      · obtain rfl := Option.some.inj he
        rfl
    · rw [if_neg hkeep]
      exact ⟨0, 0, .refl 0 0, ⟨he, hrest⟩, fun _ _ => .inr ⟨rfl, rfl⟩⟩

theorem trimLast_ne_nil (h : edits ≠ []) : trimLast edits ≠ [] := by
  fun_cases trimLast edits with
  | case1 => exact absurd rfl h
  | case2 e => simp
  | case3 e rest => simp

/-- What the last edit loses are the same lines at the end of both sequences. -/
theorem closes_trimLast (h : Spans (Edit.Stands same tiled) i j edits oldSize newSize) :
    ∃ p q, Spans (Edit.Stands same tiled) i j (trimLast edits) p q ∧
      Gap same p q oldSize newSize ∧ Closes oldSize newSize p q (trimLast edits) := by
  fun_induction trimLast edits generalizing i j with
  | case1 => exact ⟨oldSize, newSize, h, .refl oldSize newSize, by simp [Closes]⟩
  | case2 e =>
    obtain ⟨he, hold, hnew⟩ := h
    by_cases hkeep : e.kind = .keep
    · obtain ⟨n, pos, rfl, equal⟩ := he.keep hkeep
      have hshown : 0 < n - (n - context) := Nat.sub_pos_of_lt (Nat.sub_lt pos (by decide))
      have hpart := stands_part tiled equal hshown (Nat.sub_le n _)
      have hgap := gap_part equal (Nat.sub_le n (n - context)) (Nat.le_refl n)
      rw [if_pos hkeep, takeStart_keep]
      refine ⟨_, _, ⟨hpart, rfl, rfl⟩, ?_, fun e he => .inl ?_⟩
      · subst hold hnew
        exact hgap
      · obtain rfl := Option.some.inj he
        rfl
    · rw [if_neg hkeep]
      exact ⟨oldSize, newSize, ⟨he, hold, hnew⟩, .refl oldSize newSize, fun _ _ => .inr ⟨rfl, rfl⟩⟩
  | case3 e rest hne ih =>
    obtain ⟨he, hrest⟩ := h
    obtain ⟨p, q, hspans, hgap, hcloses⟩ := ih hrest
    refine ⟨p, q, ⟨he, hspans⟩, hgap, ?_⟩
    rw [Closes, List.getLast?_cons_of_ne_nil (trimLast_ne_nil hne)]
    exact hcloses

theorem opens_trimLast (h : Opens p q edits) : Opens p q (trimLast edits) := by
  fun_cases trimLast edits with
  | case1 => exact h
  | case2 e =>
    intro e' he'
    have hkind : e'.kind = e.kind := by
      obtain rfl := Option.some.inj he'
      split_ifs <;> rfl
    rw [hkind]
    exact h e rfl
  | case3 e rest => exact h

/-! ## Groups of edits -/

/-- Groups of edits lead from a pair of places to the ends of both sequences. The lines between them
are the same, and each group begins and ends as a hunk does. -/
inductive Grouped (same : Nat → Nat → Bool) (tiled : Prop) (oldSize newSize : Nat) :
    Nat → Nat → List (List Edit) → Prop where
  | done {i j : Nat} (gap : Gap same i j oldSize newSize) :
    Grouped same tiled oldSize newSize i j []
  | group {i j p q p' q' : Nat} {edits : List Edit} {groups : List (List Edit)}
    (gap : Gap same i j p q) (spans : Spans (Edit.Stands same tiled) p q edits p' q')
    (nonempty : edits ≠ []) (opens : Opens p q edits) (closes : Closes oldSize newSize p' q' edits)
    (rest : Grouped same tiled oldSize newSize p' q' groups) :
    Grouped same tiled oldSize newSize i j (edits :: groups)

theorem Grouped.le (h : Grouped same tiled oldSize newSize i j groups) :
    i ≤ oldSize ∧ j ≤ newSize := by
  induction h with
  | done gap =>
    obtain ⟨n, rfl, rfl, -⟩ := gap
    exact ⟨Nat.le_add_right .., Nat.le_add_right ..⟩
  | group gap spans _ _ _ _ ih =>
    obtain ⟨n, rfl, rfl, -⟩ := gap
    have hle := spans_le spans
    omega

theorem opens_append (h : Opens p q (current ++ e :: rest)) {e' : Edit} (he : e'.kind = .keep) :
    Opens p q (current ++ [e']) := by
  cases current with
  | nil =>
    intro first hfirst
    obtain rfl := Option.some.inj hfirst
    exact .inl he
  | cons => exact h

theorem closes_append (h : Closes oldSize newSize p q (current ++ e :: rest)) {e' : Edit}
    (he : e'.kind = .keep) : Closes oldSize newSize p q (e' :: rest) := by
  cases rest with
  | nil =>
    intro last hlast
    obtain rfl := Option.some.inj hlast
    exact .inl he
  | cons next rest =>
    have hlast : (current ++ e :: next :: rest).getLast? = (e' :: next :: rest).getLast? := by
      simp [List.getLast?_cons]
    rw [Closes, ← hlast]
    exact h

/-- What has been collected in the end makes a group, unless it is nothing but kept lines. -/
theorem grouped_collected (hgap : Gap same i j p q)
    (hcurrent : Spans (Edit.Stands same tiled) p q current i' j')
    (hend : Gap same i' j' oldSize newSize) (hopens : Opens p q current)
    (hcloses : Closes oldSize newSize i' j' current) :
    Grouped same tiled oldSize newSize i j (hunksFrom current []) := by
  have hlast : current ≠ [] → Grouped same tiled oldSize newSize i j [current] := fun hne =>
    .group hgap hcurrent hne hopens hcloses (.done hend)
  match current with
  | [] =>
    obtain ⟨rfl, rfl⟩ := hcurrent
    exact .done (hgap.trans hend)
  | [e] =>
    rw [hunksFrom]
    by_cases hkeep : e.kind = .keep
    · obtain ⟨he, rfl, rfl⟩ := hcurrent
      obtain ⟨n, pos, rfl, equal⟩ := he.keep hkeep
      have hkept := gap_part equal (Nat.zero_le n) (Nat.le_refl n)
      rw [if_pos hkeep]
      exact .done ((hgap.trans hkept).trans hend)
    · rw [if_neg hkeep]
      exact hlast (by simp)
  | e :: e' :: more => exact hlast (by simp)

/-- The rest of a script makes groups, the first of which begins with the edits collected so far. -/
theorem grouped_hunksFrom (hgap : Gap same i j p q)
    (hcurrent : Spans (Edit.Stands same tiled) p q current p' q')
    (hrest : Spans (Edit.Stands same tiled) p' q' rest i' j')
    (hend : Gap same i' j' oldSize newSize) (hopens : Opens p q (current ++ rest))
    (hcloses : Closes oldSize newSize i' j' (current ++ rest)) :
    Grouped same tiled oldSize newSize i j (hunksFrom current rest) := by
  induction rest generalizing i j p q p' q' current with
  | nil =>
    obtain ⟨rfl, rfl⟩ := hrest
    rw [List.append_nil] at hopens hcloses
    exact grouped_collected hgap hcurrent hend hopens hcloses
  | cons e rest ih =>
    obtain ⟨he, hrest⟩ := hrest
    rw [hunksFrom]
    by_cases hlong : e.kind = .keep ∧ 2 * context < e.old.length
    · obtain ⟨hkeep, hlength⟩ := hlong
      obtain ⟨n, pos, rfl, equal⟩ := he.keep hkeep
      have hlength : 2 * context < n := hlength
      have hcontext : context = 3 := rfl
      -- the kept lines end one group, are left out in the middle, and begin the next group
      have hfirst := stands_part tiled equal (a := 0) (b := n - (n - context))
        (by omega) (by omega)
      have hsecond := stands_part tiled equal (a := n - context) (b := n)
        (by omega) (Nat.le_refl n)
      have hbetween := gap_part equal (a := n - (n - context)) (b := n - context)
        (by omega) (by omega)
      rw [if_pos ⟨hkeep, hlength⟩, takeStart_keep, takeEnd_keep]
      refine .group hgap (spans_concat.2 ⟨p', q', hcurrent, hfirst, rfl, rfl⟩) (by simp)
        (opens_append hopens rfl) ?_ ?_
      · intro last hlast
        rw [List.getLast?_concat] at hlast
        obtain rfl := Option.some.inj hlast
        exact .inl rfl
      · refine ih hbetween ⟨hsecond, rfl, rfl⟩ (hrest.cast ?_ ?_) ?_ ?_
        · simp only [Edit.keep]
          omega
        · simp only [Edit.keep]
          omega
        · intro first hfirst
          obtain rfl := Option.some.inj hfirst
          exact .inl rfl
        · exact closes_append hcloses rfl
    · rw [if_neg hlong]
      have happend : current ++ e :: rest = current ++ [e] ++ rest := by simp
      rw [happend] at hopens hcloses
      exact ih hgap (spans_concat.2 ⟨p', q', hcurrent, he, rfl, rfl⟩) hrest hopens hcloses

/-- The hunks of a script are groups of edits. -/
theorem grouped_hunks (h : Spans (Edit.Fits same) 0 0 edits oldSize newSize) :
    Grouped same (Spans Edit.StartsAt 0 0 edits oldSize newSize) oldSize newSize 0 0
      (hunks edits) := by
  obtain ⟨p, q, hfirst, hspans, hopens⟩ := opens_trimFirst (spans_stands h id)
  obtain ⟨p', q', hspans, hlast, hcloses⟩ := closes_trimLast hspans
  exact grouped_hunksFrom hfirst ⟨rfl, rfl⟩ hspans hlast (opens_trimLast hopens) hcloses

end AsmHarness.Diff
