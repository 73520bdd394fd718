import AsmHarness.Proofs.Diff.Settle
import AsmHarness.Proofs.Diff.Walk

/-!
# The script between two sequences

Dividing a box at a place in it leaves two boxes whose edits lead from its beginning to its end. So
the script that reports show leads from the beginning of both sequences to their ends.
-/

namespace AsmHarness.Diff

variable {same : Nat → Nat → Bool} {i j i' j' p q n : Nat} {b : Box} {rest : List Edit}

/-- Kept lines in front of some edits, if there are any. -/
theorem spans_keep_if (equal : ∀ k < n, same (p + k) (q + k) = true)
    (h : Spans (Edit.Fits same) (p + n) (q + n) rest i' j') :
    Spans (Edit.Fits same) p q (if n = 0 then rest else .keep p q n :: rest) i' j' := by
  by_cases hn : n = 0
  · subst hn
    rw [if_pos rfl]
    exact h
  · rw [if_neg hn]
    exact ⟨.keep (Nat.pos_of_ne_zero hn) equal, h⟩

/-- The edits for a box lead from its beginning to its end. -/
theorem spans_solve (depth : Nat) (hb : b.Upright)
    (h : Spans (Edit.Fits same) b.oldEnd b.newEnd rest i' j') :
    Spans (Edit.Fits same) b.oldStart b.newStart (solve same depth b rest) i' j' := by
  induction depth using Nat.strongRecOn generalizing b rest with
  | ind depth ih =>
    obtain ⟨hold, hnew⟩ := hb
    obtain ⟨start, hstart, hstartOld, hstartNew, hstartSame⟩ :=
      exists_commonStart same b.oldStart b.oldEnd b.newStart b.newEnd 0
    obtain ⟨tail, htail, htailOld, htailNew, htailSame⟩ :=
      exists_commonEnd same (b.oldStart + start) b.oldEnd (b.newStart + start) b.newEnd 0
    rw [Nat.zero_add] at hstart htail
    rw [solve.eq_def]
    simp only [hstart, htail]
    refine spans_keep_if hstartSame ?_
    have hrest : Spans (Edit.Fits same) (b.oldEnd - tail) (b.newEnd - tail)
        (if tail = 0 then rest else .keep (b.oldEnd - tail) (b.newEnd - tail) tail :: rest)
        i' j' :=
      spans_keep_if htailSame (h.cast (by omega) (by omega))
    obtain ⟨inner, hinner⟩ : ∃ inner : Box, inner = ⟨b.oldStart + start, b.oldEnd - tail,
      b.newStart + start, b.newEnd - tail⟩ := ⟨_, rfl⟩
    have hheight : inner.height = b.oldEnd - tail - (b.oldStart + start) := by rw [hinner]; rfl
    have hwidth : inner.width = b.newEnd - tail - (b.newStart + start) := by rw [hinner]; rfl
    rw [← hinner]
    -- what remains between the lines in common is empty on both sides, on one, or is divided
    by_cases hempty : inner.height = 0 ∧ inner.width = 0
    · rw [if_pos hempty]
      exact hrest.cast (by omega) (by omega)
    rw [if_neg hempty]
    by_cases hdelete : inner.width = 0
    · rw [if_pos hdelete]
      refine ⟨.delete (by omega), hrest.cast ?_ ?_⟩
      · simp only [Edit.delete]
        omega
      · simp only [Edit.delete]
        omega
    rw [if_neg hdelete]
    by_cases hinsert : inner.height = 0
    · rw [if_pos hinsert]
      refine ⟨.insert (by omega), hrest.cast ?_ ?_⟩
      · simp only [Edit.insert]
        omega
      · simp only [Edit.insert]
        omega
    rw [if_neg hinsert]
    split
    · next depth' x y hmeeting =>
      have hupright : inner.Upright := by
        rw [hinner]
        constructor <;> simp only <;> omega
      have hplace := holds_middleSnake hupright hmeeting
      rw [hinner] at hplace
      have hfirst : (Box.mk (b.oldStart + start) x (b.newStart + start) y).Upright :=
        ⟨hplace.oldStart, hplace.newStart⟩
      have hsecond : (Box.mk x (b.oldEnd - tail) y (b.newEnd - tail)).Upright :=
        ⟨hplace.oldEnd, hplace.newEnd⟩
      have hless := Nat.lt_succ_self depth'
      exact ih depth' hless hfirst (ih depth' hless hsecond hrest)
    · refine ⟨.delete (by omega), .insert (by omega), hrest.cast ?_ ?_⟩
      · simp only [Edit.delete, Edit.insert]
        omega
      · simp only [Edit.delete, Edit.insert]
        omega

theorem simple_keep_if (h : ∀ e ∈ rest, e.kind ≠ .replace) :
    ∀ e ∈ (if n = 0 then rest else .keep p q n :: rest), e.kind ≠ .replace := by
  split_ifs
  · exact h
  · rw [List.forall_mem_cons]
    exact ⟨by simp [Edit.keep], h⟩

/-- Nothing is replaced before changes are merged. -/
theorem simple_solve (depth : Nat) (h : ∀ e ∈ rest, e.kind ≠ .replace) :
    ∀ e ∈ solve same depth b rest, e.kind ≠ .replace := by
  induction depth using Nat.strongRecOn generalizing b rest with
  | ind depth ih =>
    rw [solve.eq_def]
    refine simple_keep_if ?_
    have hdelete : ∀ i n j, (Edit.delete i n j).kind ≠ .replace := by simp [Edit.delete]
    have hinsert : ∀ i j n, (Edit.insert i j n).kind ≠ .replace := by simp [Edit.insert]
    split
    · exact simple_keep_if h
    split
    · exact List.forall_mem_cons.2 ⟨hdelete _ _ _, simple_keep_if h⟩
    split
    · exact List.forall_mem_cons.2 ⟨hinsert _ _ _, simple_keep_if h⟩
    split
    · next depth' x y hmeeting =>
      have hless := Nat.lt_succ_self depth'
      exact ih depth' hless (ih depth' hless (simple_keep_if h))
    · exact List.forall_mem_cons.2
        ⟨hdelete _ _ _, List.forall_mem_cons.2 ⟨hinsert _ _ _, simple_keep_if h⟩⟩

/-- Whether a line of the old sequence is the same as a line of the new one. -/
def sameLine (old new : Array String) (i j : Nat) : Bool := old[i]? == new[j]?

/-- The script that reports show leads from the beginning of both sequences to their ends. -/
theorem spans_script (old new : Array String) :
    Spans (Edit.Fits (sameLine old new)) 0 0 (script old new) old.size new.size := by
  have hbox : (Box.mk 0 old.size 0 new.size).Upright := ⟨Nat.zero_le _, Nat.zero_le _⟩
  have hspans : Spans (Edit.Fits (sameLine old new)) 0 0 (shortest old new) old.size new.size :=
    spans_solve (old.size + new.size) hbox ⟨rfl, rfl⟩
  have hsimple : ∀ e ∈ shortest old new, e.kind ≠ .replace :=
    simple_solve (old.size + new.size) (by simp)
  obtain ⟨hdeletes, hsimple⟩ := spans_settled .delete (.inl rfl)
    (old.size + new.size + (shortest old new).length + 1) _ hspans hsimple
  obtain ⟨hinserts, -⟩ := spans_settled .insert (.inr rfl)
    (old.size + new.size + (shortest old new).length + 1) _ hdeletes hsimple
  exact spans_merge hinserts

/-! ## Equal sequences -/

theorem commonStart_of_same (h : ∀ k < n, same (p + k) (q + k) = true) (c : Nat) :
    commonStart same p (p + n) q (q + n) c = c + n := by
  induction n generalizing p q c with
  | zero =>
    rw [commonStart, dif_neg (by omega)]
    rfl
  | succ n ih =>
    have hfirst : same p q = true := h 0 (Nat.succ_pos n)
    have hrest : ∀ k < n, same (p + 1 + k) (q + 1 + k) = true := by
      intro k hk
      have hnext := h (k + 1) (by omega)
      have hone : p + (k + 1) = p + 1 + k := by omega
      have hother : q + (k + 1) = q + 1 + k := by omega
      rwa [hone, hother] at hnext
    have hold : p + (n + 1) = p + 1 + n := by omega
    have hnew : q + (n + 1) = q + 1 + n := by omega
    rw [commonStart, dif_pos ⟨by omega, by omega, hfirst⟩, hold, hnew, ih hrest]
    omega

theorem shortest_self (lines : Array String) :
    shortest lines lines = if lines.size = 0 then [] else [.keep 0 0 lines.size] := by
  have hstart : commonStart (fun i j => lines[i]? == lines[j]?) 0 lines.size 0 lines.size 0 =
      lines.size := by
    have hsame : commonStart (fun i j => lines[i]? == lines[j]?) 0 (0 + lines.size) 0
        (0 + lines.size) 0 = 0 + lines.size :=
      commonStart_of_same (by simp) 0
    rwa [Nat.zero_add] at hsame
  obtain ⟨tail, htail, htailOld, -⟩ := exists_commonEnd (fun i j => lines[i]? == lines[j]?)
    lines.size lines.size lines.size lines.size 0
  have hnone : tail = 0 := by omega
  rw [hnone] at htail
  unfold shortest
  rw [solve.eq_def]
  simp only [hstart, Nat.zero_add, htail]
  simp [Box.height, Box.width]

theorem settle_keep (kind : Kind) (hkind : kind ≠ .keep) (bound steps : Nat) (i j n : Nat) :
    settle same kind bound steps [] [.keep i j n] = [.keep i j n] := by
  cases steps with
  | zero => rfl
  | succ steps =>
    have hother : ¬ (Edit.keep i j n).kind = kind := Ne.symm hkind
    rw [settle.eq_3, if_neg hother]
    cases steps with
    | zero => rfl
    | succ steps => rfl

/-- All lines are kept between a sequence and itself. -/
theorem script_self (lines : Array String) :
    script lines lines = if lines.size = 0 then [] else [.keep 0 0 lines.size] := by
  unfold script
  rw [shortest_self]
  split_ifs
  · simp [settle, merge]
  · simp only [settle_keep .delete (by decide), settle_keep .insert (by decide)]
    rfl

end AsmHarness.Diff
