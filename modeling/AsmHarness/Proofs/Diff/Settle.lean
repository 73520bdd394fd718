import AsmHarness.Proofs.Diff.Script

/-!
# Settling keeps what a script leads to

A change that moves past kept lines, meets a change of its own kind or passes one of the other kind
leaves a script that leads to the same place. Only insertions move past kept lines: the test that is
to find out how far a deletion may go compares its empty side, and finds no common line.
-/

namespace AsmHarness.Diff

variable {same : Nat → Nat → Bool} {i j i' j' p q n steps : Nat} {prev next edit e : Edit}
  {before after edits : List Edit} {kind : Kind}

/-! ## Kept lines beside a change -/

/-- Some edits with kept lines in front, which join the kept lines there. -/
def keptThen (i j n : Nat) (after : List Edit) : List Edit :=
  match after with
  | next :: rest => if next.kind = .keep then (next.up n).grow n :: rest else .keep i j n :: after
  | [] => [.keep i j n]

/-- Some edits, the nearest first, with kept lines behind, which join the kept lines there. -/
def thenKept (i j n : Nat) (before : List Edit) : List Edit :=
  match before with
  | prev :: rest => if prev.kind = .keep then prev.grow n :: rest else .keep i j n :: before
  | [] => [.keep i j n]

theorem spans_keptThen (pos : 0 < n) (equal : ∀ k < n, same (i + k) (j + k) = true)
    (h : Spans (Edit.Fits same) (i + n) (j + n) after i' j') :
    Spans (Edit.Fits same) i j (keptThen i j n after) i' j' := by
  have hplain : Spans (Edit.Fits same) i j (.keep i j n :: after) i' j' := ⟨.keep pos equal, h⟩
  cases after with
  | nil => exact hplain
  | cons next rest =>
    obtain ⟨hnext, hrest⟩ := h
    rw [keptThen]
    cases hnext with
    | keep posNext equalNext =>
      rename_i m
      have hjoined : ((⟨.keep, ⟨i + n, m⟩, ⟨j + n, m⟩⟩ : Edit).up n).grow n =
          ⟨.keep, ⟨i, n + m⟩, ⟨j, n + m⟩⟩ := by
        simp [Edit.up, Edit.grow, Nat.add_comm]
      rw [if_pos rfl, hjoined]
      refine ⟨.keep (by omega) ?_, ?_⟩
      · intro k hk
        by_cases hfirst : k < n
        · exact equal k hfirst
        · have hlater := equalNext (k - n) (by omega)
          have hone : i + n + (k - n) = i + k := by omega
          have hother : j + n + (k - n) = j + k := by omega
          rwa [hone, hother] at hlater
      · simpa only [Nat.add_assoc] using hrest
    | delete => exact hplain
    | insert => exact hplain
    | replace => exact hplain

theorem spans_thenKept (pos : 0 < n) (equal : ∀ k < n, same (p + k) (q + k) = true)
    (h : Spans (Edit.Fits same) i j before.reverse p q) :
    Spans (Edit.Fits same) i j (thenKept p q n before).reverse (p + n) (q + n) := by
  have hplain : Spans (Edit.Fits same) i j (Edit.keep p q n :: before).reverse (p + n) (q + n) := by
    rw [List.reverse_cons]
    exact spans_concat.2 ⟨p, q, h, .keep pos equal, rfl, rfl⟩
  cases before with
  | nil => exact hplain
  | cons prev rest =>
    rw [List.reverse_cons] at h
    obtain ⟨p', q', hrest, hprev, hp, hq⟩ := spans_concat.1 h
    rw [thenKept]
    cases hprev with
    | keep posPrev equalPrev =>
      rename_i m
      have hp : p' + m = p := hp
      have hq : q' + m = q := hq
      have hjoined : (⟨.keep, ⟨p', m⟩, ⟨q', m⟩⟩ : Edit).grow n =
          ⟨.keep, ⟨p', m + n⟩, ⟨q', m + n⟩⟩ := by
        simp [Edit.grow]
      rw [if_pos rfl, hjoined, List.reverse_cons]
      refine spans_concat.2 ⟨p', q', hrest, .keep (by omega) ?_, ?_, ?_⟩
      · intro k hk
        by_cases hfirst : k < m
        · exact equalPrev k hfirst
        · have hlater := equal (k - m) (by omega)
          have hone : p + (k - m) = p' + k := by omega
          have hother : q + (k - m) = q' + k := by omega
          rwa [hone, hother] at hlater
      · exact (Nat.add_assoc ..).symm.trans (congrArg (· + n) hp)
      · exact (Nat.add_assoc ..).symm.trans (congrArg (· + n) hq)
    | delete => exact hplain
    | insert => exact hplain
    | replace => exact hplain

/-- Some edits, the nearest first, with kept lines behind, but for the last `n` of those. -/
theorem spans_withoutLast {m : Nat} (equal : ∀ k < m, same (p + k) (q + k) = true) (hn : n ≤ m)
    (h : Spans (Edit.Fits same) i j before.reverse p q) :
    Spans (Edit.Fits same) i j
      (if ((Edit.keep p q m).shrink n).isEmpty then before
        else (Edit.keep p q m).shrink n :: before).reverse (p + (m - n)) (q + (m - n)) := by
  by_cases hall : n = m
  · simpa [Edit.isEmpty, Edit.shrink, Edit.keep, hall] using h
  · have hsome : ¬ (m - n = 0) := by omega
    have hleft : ¬ ((Edit.keep p q m).shrink n).isEmpty = true := by
      simp [Edit.isEmpty, Edit.shrink, Edit.keep, hsome]
    have hpos : 0 < m - n := by omega
    rw [if_neg hleft, List.reverse_cons]
    refine spans_concat.2 ⟨p, q, h, .keep hpos ?_, rfl, rfl⟩
    intro k (hk : k < m - n)
    exact equal k (by omega)

/-- Some edits with kept lines in front, but for the first `n` of those. -/
theorem spans_withoutFirst {m : Nat} (equal : ∀ k < m, same (p + k) (q + k) = true) (hn : n ≤ m)
    (h : Spans (Edit.Fits same) (p + m) (q + m) after i' j') :
    Spans (Edit.Fits same) (p + n) (q + n)
      (if (((Edit.keep p q m).down n).shrink n).isEmpty then after
        else ((Edit.keep p q m).down n).shrink n :: after) i' j' := by
  by_cases hall : n = m
  · simpa [Edit.isEmpty, Edit.shrink, Edit.down, Edit.keep, hall] using h
  · have hsome : ¬ (m - n = 0) := by omega
    have hleft : ¬ (((Edit.keep p q m).down n).shrink n).isEmpty = true := by
      simp [Edit.isEmpty, Edit.shrink, Edit.down, Edit.keep, hsome]
    have hpos : 0 < m - n := by omega
    rw [if_neg hleft]
    refine ⟨.keep hpos ?_, h.cast ?_ ?_⟩
    · intro k (hk : k < m - n)
      rw [Nat.add_assoc, Nat.add_assoc]
      exact equal (n + k) (by omega)
    · simp only [Edit.shrink, Edit.down, Edit.keep]
      omega
    · simp only [Edit.shrink, Edit.down, Edit.keep]
      omega

theorem simple_keptThen (h : ∀ e ∈ after, e.kind ≠ .replace) :
    ∀ e ∈ keptThen i j n after, e.kind ≠ .replace := by
  have hplain : ∀ e ∈ Edit.keep i j n :: after, e.kind ≠ .replace := by
    rw [List.forall_mem_cons]
    exact ⟨by simp [Edit.keep], h⟩
  cases after with
  | nil => exact hplain
  | cons next rest =>
    rw [keptThen]
    split_ifs with hnext
    · rw [List.forall_mem_cons] at h ⊢
      exact ⟨h.1, h.2⟩
    · exact hplain

theorem simple_thenKept (h : ∀ e ∈ before, e.kind ≠ .replace) :
    ∀ e ∈ thenKept i j n before, e.kind ≠ .replace := by
  have hplain : ∀ e ∈ Edit.keep i j n :: before, e.kind ≠ .replace := by
    rw [List.forall_mem_cons]
    exact ⟨by simp [Edit.keep], h⟩
  cases before with
  | nil => exact hplain
  | cons prev rest =>
    rw [thenKept]
    split_ifs with hprev
    · rw [List.forall_mem_cons] at h ⊢
      exact ⟨h.1, h.2⟩
    · exact hplain

/-! ## Moving a change -/

/-- A place in a script that leads somewhere, with a change there. -/
structure Cursor.Sound (same : Nat → Nat → Bool) (i j i' j' : Nat) (c : Cursor) : Prop where
  spans : Spans (Edit.Fits same) i j (c.before.reverse ++ c.edit :: c.after) i' j'
  change : c.edit.kind = .delete ∨ c.edit.kind = .insert
  simpleBefore : ∀ e ∈ c.before, e.kind ≠ .replace
  simpleAfter : ∀ e ∈ c.after, e.kind ≠ .replace

theorem simple_shrink (n : Nat) (h : ∀ e ∈ prev :: before, e.kind ≠ .replace) :
    ∀ e ∈ (if (prev.shrink n).isEmpty then before else prev.shrink n :: before),
      e.kind ≠ .replace := by
  rw [List.forall_mem_cons] at h
  split_ifs
  · exact h.2
  · rw [List.forall_mem_cons]
    exact h

/-- The kept lines before a change that are the lines it ends with go behind it. -/
theorem Cursor.Sound.up (h : Cursor.Sound same i j i' j' ⟨prev :: before, edit, after⟩)
    (hkeep : prev.kind = .keep)
    (hn : commonEnd same prev.old.start prev.old.stop edit.new.start edit.new.stop 0 = n)
    (hne : n ≠ 0) :
    Cursor.Sound same i j i' j'
      ⟨if (prev.shrink n).isEmpty then before else prev.shrink n :: before, edit.up n,
        keptThen (prev.old.stop - n) (edit.new.stop - n) n after⟩ := by
  have spans : Spans (Edit.Fits same) i j ((prev :: before).reverse ++ edit :: after) i' j' :=
    h.spans
  have change : edit.kind = .delete ∨ edit.kind = .insert := h.change
  refine ⟨?_, change, simple_shrink n h.simpleBefore, simple_keptThen h.simpleAfter⟩
  rw [List.reverse_cons, List.append_assoc, spans_append] at spans
  obtain ⟨p, q, hbefore, hprev, hedit, hafter⟩ := spans
  obtain ⟨n', hn', hold, hnew, hsame⟩ := exists_commonEnd same prev.old.start prev.old.stop
    edit.new.start edit.new.stop 0
  rw [hn, Nat.zero_add] at hn'
  subst hn'
  cases hprev with
  | delete => cases hkeep
  | insert => cases hkeep
  | replace => cases hkeep
  | keep posPrev equalPrev =>
    rename_i m
    cases hedit with
    | keep => simp at change
    | replace => simp at change
    | delete =>
      -- the empty side of a deletion has no line in common with anything
      simp only [Stretch.stop] at hnew
      omega
    | insert posEdit =>
      rename_i size stale
      simp only [Stretch.stop] at hold hnew hsame hafter ⊢
      have hfront := spans_withoutLast equalPrev (show n ≤ m by omega) hbefore
      have hback : Spans (Edit.Fits same) (p + m - n) (q + m + size - n)
          (keptThen (p + m - n) (q + m + size - n) n after) i' j' := by
        refine spans_keptThen (by omega) hsame (hafter.cast ?_ ?_)
        · omega
        · omega
      refine spans_append.2 ⟨_, _, hfront, ?_, ?_⟩
      · have hstart : q + m - n = q + (m - n) := by omega
        have hup : (⟨.insert, ⟨stale, 0⟩, ⟨q + m, size⟩⟩ : Edit).up n =
            ⟨.insert, ⟨stale - n, 0⟩, ⟨q + (m - n), size⟩⟩ := by
          simp only [Edit.up, hstart]
        rw [hup]
        exact .insert posEdit
      · refine hback.cast ?_ ?_
        · simp only [Edit.up]
          omega
        · simp only [Edit.up]
          omega

/-- The kept lines after a change that are the lines it begins with go before it. -/
theorem Cursor.Sound.down (h : Cursor.Sound same i j i' j' ⟨before, edit, next :: after⟩)
    (hkeep : next.kind = .keep)
    (hn : commonStart same next.old.start next.old.stop edit.new.start edit.new.stop 0 = n)
    (hne : n ≠ 0) :
    Cursor.Sound same i j i' j'
      ⟨thenKept next.old.start edit.new.start n before, edit.down n,
        if ((next.down n).shrink n).isEmpty then after else (next.down n).shrink n :: after⟩ := by
  have spans : Spans (Edit.Fits same) i j (before.reverse ++ edit :: next :: after) i' j' := h.spans
  have change : edit.kind = .delete ∨ edit.kind = .insert := h.change
  have simpleAfter : ∀ e ∈ next :: after, e.kind ≠ .replace := h.simpleAfter
  have hmoved : ∀ e ∈ next.down n :: after, e.kind ≠ .replace := by
    rw [List.forall_mem_cons] at simpleAfter ⊢
    exact simpleAfter
  have hsimple := simple_shrink n hmoved
  refine ⟨?_, change, simple_thenKept h.simpleBefore, hsimple⟩
  obtain ⟨p, q, hbefore, hedit, hnext, hafter⟩ := spans_append.1 spans
  obtain ⟨n', hn', hold, hnew, hsame⟩ := exists_commonStart same next.old.start next.old.stop
    edit.new.start edit.new.stop 0
  rw [hn, Nat.zero_add] at hn'
  subst hn'
  cases hedit with
  | keep => simp at change
  | replace => simp at change
  | delete =>
    simp only [Stretch.stop] at hnew
    omega
  | insert posEdit =>
    rename_i size stale
    cases hnext with
    | delete => cases hkeep
    | insert => cases hkeep
    | replace => cases hkeep
    | keep posNext equalNext =>
      rename_i m
      simp only [Stretch.stop, Nat.add_zero] at hold hnew hsame hafter equalNext ⊢
      have hfront : Spans (Edit.Fits same) i j (thenKept p q n before).reverse (p + n) (q + n) :=
        spans_thenKept (by omega) hsame hbefore
      refine spans_append.2 ⟨_, _, hfront, .insert posEdit, ?_⟩
      have hback := spans_withoutFirst equalNext (show n ≤ m by omega) hafter
      refine hback.cast ?_ ?_
      · simp only [Edit.down]
        omega
      · simp only [Edit.down]
        omega

/-- A deletion and an insertion that follow each other may change places. -/
theorem spans_swap {a b : Edit} (ha : a.kind = .delete ∨ a.kind = .insert)
    (hb : b.kind = .delete ∨ b.kind = .insert) (hne : a.kind ≠ b.kind)
    (h : Spans (Edit.Fits same) p q (a :: b :: after) i' j') :
    Spans (Edit.Fits same) p q (b :: a :: after) i' j' := by
  obtain ⟨hfirst, hsecond, hafter⟩ := h
  cases hfirst with
  | keep => simp at ha
  | replace => simp at ha
  | delete posFirst =>
    cases hsecond with
    | keep => simp at hb
    | replace => simp at hb
    | delete => exact absurd rfl hne
    | insert posSecond => exact ⟨.insert posSecond, .delete posFirst, hafter⟩
  | insert posFirst =>
    cases hsecond with
    | keep => simp at hb
    | replace => simp at hb
    | insert => exact absurd rfl hne
    | delete posSecond => exact ⟨.delete posSecond, .insert posFirst, hafter⟩

/-- Two changes of one kind that follow each other may be joined. -/
theorem spans_grow {a b : Edit} (ha : a.kind = .delete ∨ a.kind = .insert) (heq : a.kind = b.kind)
    (h : Spans (Edit.Fits same) p q (a :: b :: after) i' j') :
    Spans (Edit.Fits same) p q (a.grow b.size :: after) i' j' := by
  obtain ⟨hfirst, hsecond, hafter⟩ := h
  cases hfirst with
  | keep => simp at ha
  | replace => simp at ha
  | delete posFirst =>
    cases hsecond with
    | delete => exact ⟨.delete (Nat.add_pos_left posFirst _), hafter.cast (Nat.add_assoc ..) rfl⟩
    | keep => cases heq
    | insert => cases heq
    | replace => cases heq
  | insert posFirst =>
    cases hsecond with
    | insert => exact ⟨.insert (Nat.add_pos_left posFirst _), hafter.cast rfl (Nat.add_assoc ..)⟩
    | keep => cases heq
    | delete => cases heq
    | replace => cases heq

theorem change_of_ne {e : Edit} (hkeep : e.kind ≠ .keep) (hreplace : e.kind ≠ .replace) :
    e.kind = .delete ∨ e.kind = .insert := by
  cases hkind : e.kind with
  | keep => exact absurd hkind hkeep
  | delete => exact .inl rfl
  | insert => exact .inr rfl
  | replace => exact absurd hkind hreplace

theorem Edit.Fits.isEmpty_eq_false {e : Edit} (h : e.Fits same p q) (hkeep : e.kind = .keep) :
    e.isEmpty = false := by
  cases h with
  | keep pos =>
    have hne : ¬ _ = 0 := Nat.ne_of_gt pos
    simp [Edit.isEmpty, hne]
  | delete => cases hkeep
  | insert => cases hkeep
  | replace => cases hkeep

theorem rise_keep (hkeep : prev.kind = .keep)
    (hn : commonEnd same prev.old.start prev.old.stop edit.new.start edit.new.stop 0 = n)
    (hne : n ≠ 0) :
    Cursor.rise same (steps + 1) ⟨prev :: before, edit, after⟩ =
      Cursor.rise same steps
        ⟨if (prev.shrink n).isEmpty then before else prev.shrink n :: before, edit.up n,
          keptThen (prev.old.stop - n) (edit.new.stop - n) n after⟩ := by
  rw [Cursor.rise.eq_3 _ _ _ prev before rfl]
  simp only [hkeep, hn, hne, if_true, if_false]
  cases after <;> rfl

theorem sink_keep (hkeep : next.kind = .keep)
    (hn : commonStart same next.old.start next.old.stop edit.new.start edit.new.stop 0 = n)
    (hne : n ≠ 0) :
    Cursor.sink same (steps + 1) ⟨before, edit, next :: after⟩ =
      Cursor.sink same steps
        ⟨thenKept next.old.start edit.new.start n before, edit.down n,
          if ((next.down n).shrink n).isEmpty then after
            else (next.down n).shrink n :: after⟩ := by
  rw [Cursor.sink.eq_3 _ _ _ next after rfl]
  simp only [hkeep, hn, hne, if_true, if_false]
  cases before <;> rfl

theorem Cursor.Sound.rise {c : Cursor} (h : c.Sound same i j i' j') (steps : Nat) :
    (c.rise same steps).Sound same i j i' j' := by
  induction steps generalizing c with
  | zero =>
    rw [Cursor.rise.eq_1]
    exact h
  | succ steps ih =>
    obtain ⟨before, edit, after⟩ := c
    cases before with
    | nil => exact h
    | cons prev before =>
      have simpleBefore := List.forall_mem_cons.1 h.simpleBefore
      have spans : Spans (Edit.Fits same) i j ((prev :: before).reverse ++ edit :: after) i' j' :=
        h.spans
      rw [List.reverse_cons, List.append_assoc, List.singleton_append, spans_append] at spans
      obtain ⟨p, q, hbefore, hrest⟩ := spans
      by_cases hkeep : prev.kind = .keep
      · by_cases hnone :
          commonEnd same prev.old.start prev.old.stop edit.new.start edit.new.stop 0 = 0
        · have hprev : prev.isEmpty = false := hrest.1.isEmpty_eq_false hkeep
          rw [Cursor.rise.eq_3 _ _ _ prev before rfl]
          simp only [hkeep, hnone, hprev, if_true, Bool.false_eq_true, if_false]
          exact h
        · rw [rise_keep hkeep rfl hnone]
          exact ih (h.up hkeep rfl hnone)
      · have hchange := change_of_ne hkeep simpleBefore.1
        rw [Cursor.rise.eq_3 _ _ _ prev before rfl]
        simp only [hkeep, if_false]
        by_cases hkind : prev.kind = edit.kind
        · rw [if_pos hkind]
          refine ih ⟨?_, hchange, simpleBefore.2, h.simpleAfter⟩
          exact spans_append.2 ⟨p, q, hbefore, spans_grow hchange hkind hrest⟩
        · rw [if_neg hkind]
          refine ih ⟨?_, h.change, simpleBefore.2, ?_⟩
          · exact spans_append.2 ⟨p, q, hbefore, spans_swap hchange h.change hkind hrest⟩
          · rw [List.forall_mem_cons]
            exact ⟨simpleBefore.1, h.simpleAfter⟩

theorem Cursor.Sound.sink {c : Cursor} (h : c.Sound same i j i' j') (steps : Nat) :
    (c.sink same steps).Sound same i j i' j' := by
  induction steps generalizing c with
  | zero =>
    rw [Cursor.sink.eq_1]
    exact h
  | succ steps ih =>
    obtain ⟨before, edit, after⟩ := c
    cases after with
    | nil => exact h
    | cons next after =>
      have simpleAfter := List.forall_mem_cons.1 h.simpleAfter
      have spans : Spans (Edit.Fits same) i j (before.reverse ++ edit :: next :: after) i' j' :=
        h.spans
      obtain ⟨p, q, hbefore, hrest⟩ := spans_append.1 spans
      by_cases hkeep : next.kind = .keep
      · by_cases hnone :
          commonStart same next.old.start next.old.stop edit.new.start edit.new.stop 0 = 0
        · have hnext : next.isEmpty = false := hrest.2.1.isEmpty_eq_false hkeep
          rw [Cursor.sink.eq_3 _ _ _ next after rfl]
          simp only [hkeep, hnone, hnext, if_true, Bool.false_eq_true, if_false]
          exact h
        · rw [sink_keep hkeep rfl hnone]
          exact ih (h.down hkeep rfl hnone)
      · have hchange := change_of_ne hkeep simpleAfter.1
        rw [Cursor.sink.eq_3 _ _ _ next after rfl]
        simp only [hkeep, if_false]
        by_cases hkind : next.kind = edit.kind
        · rw [if_pos hkind]
          refine ih ⟨?_, h.change, h.simpleBefore, simpleAfter.2⟩
          exact spans_append.2 ⟨p, q, hbefore, spans_grow h.change hkind.symm hrest⟩
        · rw [if_neg hkind]
          refine ih ⟨?_, h.change, ?_, simpleAfter.2⟩
          · have hswapped := spans_swap h.change hchange (Ne.symm hkind) hrest
            rw [List.reverse_cons, List.append_assoc]
            exact spans_append.2 ⟨p, q, hbefore, hswapped⟩
          · rw [List.forall_mem_cons]
            exact ⟨simpleAfter.1, h.simpleBefore⟩

/-- Settling the changes of a kind leaves a script that leads to the same place. -/
theorem spans_settle (hkind : kind = .delete ∨ kind = .insert) (bound steps : Nat)
    (h : Spans (Edit.Fits same) i j (before.reverse ++ after) i' j')
    (simpleBefore : ∀ e ∈ before, e.kind ≠ .replace)
    (simpleAfter : ∀ e ∈ after, e.kind ≠ .replace) :
    Spans (Edit.Fits same) i j (settle same kind bound steps before after) i' j' ∧
      ∀ e ∈ settle same kind bound steps before after, e.kind ≠ .replace := by
  induction steps generalizing before after with
  | zero =>
    have hsettled : settle same kind bound 0 before after = before.reverse ++ after := by
      cases after with
      | nil => rw [settle.eq_1, List.append_nil]
      | cons edit after => rw [settle.eq_2 _ _ _ _ _ (by simp)]
    rw [hsettled]
    refine ⟨h, fun e hmem => ?_⟩
    rcases List.mem_append.1 hmem with hbefore | hafter
    · exact simpleBefore e (List.mem_reverse.1 hbefore)
    · exact simpleAfter e hafter
  | succ steps ih =>
    cases after with
    | nil =>
      rw [settle.eq_1]
      rw [List.append_nil] at h
      exact ⟨h, fun e hmem => simpleBefore e (List.mem_reverse.1 hmem)⟩
    | cons edit after =>
      have hedit := List.forall_mem_cons.1 simpleAfter
      have hnext : ∀ {c : Cursor}, c.Sound same i j i' j' →
          Spans (Edit.Fits same) i j
            (settle same kind bound steps (c.edit :: c.before) c.after) i' j' ∧
            ∀ e ∈ settle same kind bound steps (c.edit :: c.before) c.after,
              e.kind ≠ .replace := by
        intro c hc
        refine ih ?_ ?_ hc.simpleAfter
        · rw [List.reverse_cons, List.append_assoc]
          exact hc.spans
        · have hchange : c.edit.kind ≠ .replace := by
            rcases hc.change with hdelete | hinsert
            · simp [hdelete]
            · simp [hinsert]
          rw [List.forall_mem_cons]
          exact ⟨hchange, hc.simpleBefore⟩
      rw [settle.eq_3]
      by_cases hthis : edit.kind = kind
      · rw [if_pos hthis]
        have hchange : edit.kind = .delete ∨ edit.kind = .insert := hthis ▸ hkind
        have hsound : Cursor.Sound same i j i' j' ⟨before, edit, after⟩ :=
          ⟨h, hchange, simpleBefore, hedit.2⟩
        exact hnext ((hsound.rise bound).sink bound)
      · rw [if_neg hthis]
        refine ih ?_ ?_ hedit.2
        · rw [List.reverse_cons, List.append_assoc]
          exact h
        · rw [List.forall_mem_cons]
          exact ⟨hedit.1, simpleBefore⟩

/-- Settling the changes of a kind in a whole script. -/
theorem spans_settled (kind : Kind) (hkind : kind = .delete ∨ kind = .insert) (bound steps : Nat)
    (h : Spans (Edit.Fits same) i j edits i' j') (simple : ∀ e ∈ edits, e.kind ≠ .replace) :
    Spans (Edit.Fits same) i j (settle same kind bound steps [] edits) i' j' ∧
      ∀ e ∈ settle same kind bound steps [] edits, e.kind ≠ .replace :=
  spans_settle hkind bound steps h (by simp) simple

/-! ## Merging -/

theorem fits_absorb {a b both : Edit} (ha : a.Fits same p q)
    (hb : b.Fits same (p + a.old.length) (q + a.new.length)) (h : a.absorb b = some both) :
    both.Fits same p q ∧ both.old.length = a.old.length + b.old.length ∧
      both.new.length = a.new.length + b.new.length := by
  cases ha with
  | keep posFirst equalFirst =>
    cases hb with
    | keep posSecond equalSecond =>
      rename_i m n
      simp only [Edit.absorb, and_self, if_true, Option.some.injEq] at h
      subst h
      refine ⟨.keep (by omega) ?_, rfl, rfl⟩
      intro k hk
      by_cases hfirst : k < m
      · exact equalFirst k hfirst
      · have hlater := equalSecond (k - m) (by omega)
        have hone : p + m + (k - m) = p + k := by omega
        have hother : q + m + (k - m) = q + k := by omega
        rwa [hone, hother] at hlater
    | delete => simp [Edit.absorb] at h
    | insert => simp [Edit.absorb] at h
    | replace => simp [Edit.absorb] at h
  | delete | insert | replace =>
    cases hb with
    | keep => simp [Edit.absorb] at h
    | delete | insert | replace =>
      simp [Edit.absorb, Edit.deletes, Edit.inserts] at h
      subst h
      exact ⟨by constructor <;> omega, by simp, by simp⟩

theorem spans_go (h : Spans (Edit.Fits same) p q (e :: edits) i' j') :
    Spans (Edit.Fits same) p q (merge.go e edits) i' j' := by
  induction edits generalizing e p q with
  | nil => exact h
  | cons next rest ih =>
    obtain ⟨hfits, hnext, hrest⟩ := h
    rw [merge.go.eq_2]
    cases habsorb : e.absorb next with
    | none => exact ⟨hfits, ih ⟨hnext, hrest⟩⟩
    | some both =>
      obtain ⟨hboth, hold, hnew⟩ := fits_absorb hfits hnext habsorb
      refine ih ⟨hboth, hrest.cast ?_ ?_⟩
      · omega
      · omega

/-- Merging leaves a script that leads to the same place. -/
theorem spans_merge (h : Spans (Edit.Fits same) p q edits i' j') :
    Spans (Edit.Fits same) p q (merge edits) i' j' := by
  cases edits with
  | nil => exact h
  | cons e rest => exact spans_go h

end AsmHarness.Diff
