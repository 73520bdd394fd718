import AsmHarness.Proofs.Diff.Script

/-!
# Where the two walks meet

The walks from both corners of a box may leave it: there is always a way to go on past its edges.
A walk that has passed an edge on one diagonal has come to that edge, or past it, on a diagonal that
is nearer to the other corner. Where that diagonal is checked, the walks have met before. So where
they meet they are in the box.
-/

namespace AsmHarness.Diff

/-! ## Frontiers -/

namespace Frontier

/-- A frontier with room for the diagonals up to a number, on both sides. -/
structure Wide (n : Nat) (f : Frontier) : Prop where
  origin : f.origin = n
  size : f.reached.size = 2 * n + 1

variable {f : Frontier} {n x : Nat} {k l : Int}

theorem wide_start (rounds : Nat) : (start rounds).Wide (rounds + 1) := by
  constructor
  · rfl
  · rw [start, Array.size_replicate]
    omega

theorem at_start (rounds : Nat) (k : Int) : (start rounds).at_ k = 0 := by
  simp only [at_, start, Array.getD_eq_getD_getElem?, Array.getElem?_replicate]
  split <;> rfl

theorem Wide.set (h : f.Wide n) (k : Int) (x : Nat) : (f.set k x).Wide n := by
  constructor
  · exact h.origin
  · rw [Frontier.set, Array.size_setIfInBounds]
    exact h.size

theorem Wide.at_set (h : f.Wide n) (hk : k.natAbs ≤ n) (hl : l.natAbs ≤ n) :
    (f.set k x).at_ l = if l = k then x else f.at_ l := by
  have horigin := h.origin
  have hsize := h.size
  have hin : (f.origin + k).toNat < f.reached.size := by omega
  by_cases heq : l = k
  · rw [if_pos heq, heq]
    simp [Frontier.at_, Frontier.set, Array.getD_eq_getD_getElem?, hin]
  · have hne : (f.origin + k).toNat ≠ (f.origin + l).toNat := by omega
    rw [if_neg heq]
    simp [Frontier.at_, Frontier.set, Array.getD_eq_getD_getElem?, hne]

end Frontier

/-! ## Rounds of a walk -/

/-- A diagonal that a walk has come to in the round before a round. -/
def Earlier (d : Nat) (k : Int) : Prop := -d < k ∧ k < d ∧ (k + d) % 2 = 1

/-- How far a walk has come on the diagonals of a grid before a round. It passes at most one line
more per round than there are. Where it has passed the last old line, it has come to it, or past it,
on the diagonal two before, and likewise for the new lines. -/
structure Reached (height width d : Nat) (f : Frontier) : Prop where
  first : d = 0 → f.at_ 1 = 0
  diagonal : ∀ k, Earlier d k → k ≤ f.at_ k
  old : ∀ k, Earlier d k → f.at_ k < height + d
  new : ∀ k, Earlier d k → f.at_ k - k < width + d
  pastOld : ∀ k, Earlier d k → height < f.at_ k →
    Earlier d (k - 2) ∧ height ≤ f.at_ (k - 2)
  pastNew : ∀ k, Earlier d k → (width : Int) < f.at_ k - k →
    Earlier d (k + 2) ∧ (width : Int) ≤ f.at_ (k + 2) - (k + 2)

/-- Where a round starts on a diagonal, given how far the walk has come before it. -/
structure Entered (height width d : Nat) (f : Frontier) (k : Int) (x : Nat) : Prop where
  diagonal : k ≤ x
  old : x ≤ height + d
  new : x - k ≤ width + d
  above : Earlier d (k - 1) → f.at_ (k - 1) < x
  below : Earlier d (k + 1) → f.at_ (k + 1) ≤ x
  pastOld : height < x → Earlier d (k - 1) ∧ height ≤ f.at_ (k - 1)
  pastNew : (width : Int) < x - k →
    Earlier d (k + 1) ∧ (width : Int) ≤ f.at_ (k + 1) - (k + 1)

section Rounds

variable {height width d c : Nat} {f f' : Frontier} {k : Int}

/-- A round starts on a diagonal where the walk has come on the diagonal below, or one line behind
where it has come on the diagonal above, whichever is further. -/
theorem entry_cases (hk : Earlier (d + 1) k) :
    (d = 0 ∧ f.entry d k = f.at_ 1 ∧ k = 0) ∨
    (Earlier d (k + 1) ∧ f.entry d k = f.at_ (k + 1) ∧
      (Earlier d (k - 1) → f.at_ (k - 1) < f.at_ (k + 1))) ∨
    (Earlier d (k - 1) ∧ f.entry d k = f.at_ (k - 1) + 1 ∧
      (Earlier d (k + 1) → f.at_ (k + 1) ≤ f.at_ (k - 1))) := by
  obtain ⟨hlow, hhigh, hparity⟩ := hk
  unfold Frontier.entry
  by_cases hzero : d = 0
  · left
    have hk : k = 0 := by omega
    have hfirst : k = -(d : Int) := by omega
    rw [if_pos (.inl hfirst), hk]
    exact ⟨hzero, rfl, rfl⟩
  · right
    by_cases hturn : k = -(d : Int) ∨ (k ≠ d ∧ f.at_ (k - 1) < f.at_ (k + 1))
    · left
      rw [if_pos hturn]
      refine ⟨⟨by omega, by omega, by omega⟩, rfl, ?_⟩
      rintro ⟨hinner, -, -⟩
      rcases hturn with hend | ⟨-, hfurther⟩
      · omega
      · exact hfurther
    · right
      rw [if_neg hturn]
      refine ⟨⟨by omega, by omega, by omega⟩, rfl, ?_⟩
      rintro ⟨-, hinner, -⟩
      have hturned : k ≠ d := by omega
      exact Nat.le_of_not_lt fun hless => hturn (.inr ⟨hturned, hless⟩)

theorem Reached.entered (h : Reached height width d f) (hk : Earlier (d + 1) k) :
    Entered height width d f k (f.entry d k) := by
  rcases entry_cases (f := f) hk with ⟨hzero, hentry, rfl⟩ | ⟨hbelow, hentry, hfurther⟩ |
    ⟨habove, hentry, hfurther⟩
  · have hnone : ∀ k, ¬ Earlier d k := by
      rintro k ⟨hlow, hhigh, -⟩
      omega
    have hfirst := h.first hzero
    rw [hentry, hfirst]
    exact ⟨by omega, by omega, by omega, fun hk => absurd hk (hnone _),
      fun hk => absurd hk (hnone _), by omega, by omega⟩
  · have hdiagonal := h.diagonal _ hbelow
    have hold := h.old _ hbelow
    have hnew := h.new _ hbelow
    have hplace : k + 1 - 2 = k - 1 := by omega
    rw [hentry]
    refine ⟨by omega, by omega, by omega, hfurther, fun _ => Nat.le_refl _, ?_, ?_⟩
    · intro hpast
      have hbefore := h.pastOld _ hbelow hpast
      rwa [hplace] at hbefore
    · intro hpast
      exact ⟨hbelow, by omega⟩
  · have hdiagonal := h.diagonal _ habove
    have hold := h.old _ habove
    have hnew := h.new _ habove
    have hplace : k - 1 + 2 = k + 1 := by omega
    rw [hentry]
    refine ⟨by omega, by omega, by omega, fun _ => Nat.lt_succ_self _, ?_, ?_, ?_⟩
    · intro hbelow
      have hless := hfurther hbelow
      omega
    · intro hpast
      exact ⟨habove, by omega⟩
    · intro hpast
      have hbefore := h.pastNew _ habove (by omega)
      rwa [hplace] at hbefore

/-- What a walk has reached after one more round, in which it goes on from where it starts on each
diagonal but never past an edge. -/
theorem Reached.succ (h : Reached height width d f)
    (hround : ∀ k, Earlier (d + 1) k → ∃ run, f'.at_ k = f.entry d k + run ∧
      run ≤ height - f.entry d k ∧ run ≤ width - ((f.entry d k : Int) - k).toNat) :
    Reached height width (d + 1) f' := by
  constructor
  · intro hzero
    omega
  · intro k hk
    have hentered := (h.entered hk).diagonal
    obtain ⟨run, hrun, -, -⟩ := hround k hk
    omega
  · intro k hk
    have hentered := (h.entered hk).old
    obtain ⟨run, hrun, hold, -⟩ := hround k hk
    omega
  · intro k hk
    have hentered := (h.entered hk).new
    obtain ⟨run, hrun, -, hnew⟩ := hround k hk
    omega
  · intro k hk hpast
    obtain ⟨run, hrun, hold, -⟩ := hround k hk
    obtain ⟨hbefore, hcome⟩ := (h.entered hk).pastOld (by omega)
    obtain ⟨hlow, hhigh, hparity⟩ := hbefore
    have hnext : Earlier (d + 1) (k - 2) := ⟨by omega, by omega, by omega⟩
    have hplace : k - 2 + 1 = k - 1 := by omega
    have hbelow := (h.entered hnext).below
    rw [hplace] at hbelow
    have hreached := hbelow ⟨hlow, hhigh, hparity⟩
    obtain ⟨run', hrun', -, -⟩ := hround _ hnext
    exact ⟨hnext, by omega⟩
  · intro k hk hpast
    obtain ⟨run, hrun, -, hnew⟩ := hround k hk
    obtain ⟨hbefore, hcome⟩ := (h.entered hk).pastNew (by omega)
    obtain ⟨hlow, hhigh, hparity⟩ := hbefore
    have hnext : Earlier (d + 1) (k + 2) := ⟨by omega, by omega, by omega⟩
    have hplace : k + 2 - 1 = k + 1 := by omega
    have habove := (h.entered hnext).above
    rw [hplace] at habove
    have hreached := habove ⟨hlow, hhigh, hparity⟩
    obtain ⟨run', hrun', -, -⟩ := hround _ hnext
    exact ⟨hnext, by omega⟩

/-- The diagonals on which a walk may meet the other: those at most `c` away from the diagonal of
the other corner. -/
def Near (height width : Nat) (c : Int) (k : Int) : Prop :=
  ((k - (height - width)).natAbs : Int) ≤ c

/-- A walk has come to no edge on the diagonals where it may have met the other. -/
def Apart (height width d : Nat) (c : Int) (f : Frontier) : Prop :=
  ∀ k, Earlier d k → Near height width c k → f.at_ k < height ∧ (f.at_ k : Int) - k < width

/-- A walk that has come to no edge where it may have met the other is in the grid where it may meet
it next. -/
theorem Reached.inGrid {c : Int} (h : Reached height width d f) (hk : Earlier (d + 1) k)
    (hc : (d : Int) ≤ c + 1) (hparity : (k - (height - width) + c) % 2 = 0)
    (hapart : Apart height width d (c - 1) f) (hnear : Near height width c k) :
    f.entry d k ≤ height ∧ (f.entry d k : Int) - k ≤ width := by
  have hentered := h.entered hk
  unfold Apart Near at hapart
  unfold Near at hnear
  constructor
  · refine Nat.le_of_not_lt fun hpast => ?_
    obtain ⟨hbefore, hcome⟩ := hentered.pastOld hpast
    have hlines := h.new _ hbefore
    have hmet := hapart _ hbefore
    omega
  · refine Int.not_lt.1 fun hpast => ?_
    obtain ⟨hbefore, hcome⟩ := hentered.pastNew hpast
    have hlines := h.old _ hbefore
    have hmet := hapart _ hbefore
    omega

end Rounds

/-! ## Sweeps -/

/-- How one round goes on from where it starts on a diagonal, and whether the walks meet there. -/
structure Going where
  run : Nat → Nat → Nat
  meets : Int → Nat → Prop
  decMeets : ∀ k x, Decidable (meets k x)
  meeting : Nat → Nat → Nat × Nat

namespace Going

instance (g : Going) (k : Int) (x : Nat) : Decidable (g.meets k x) := g.decMeets k x

/-- How far a walk comes on a diagonal. -/
def reach (g : Going) (d : Nat) (f : Frontier) (k : Int) : Nat :=
  f.entry d k + g.run (f.entry d k) ((f.entry d k : Int) - k).toNat

/-- What a round does on a diagonal. -/
def visit (g : Going) (d : Nat) (f : Frontier) (k : Int) : Frontier × Option (Nat × Nat) :=
  if g.meets k (g.reach d f k) then
    (f.set k (g.reach d f k), some (g.meeting (f.entry d k) ((f.entry d k : Int) - k).toNat))
  else (f.set k (g.reach d f k), none)

end Going

section Sweeps

variable {g : Going} {d n count : Nat} {f f' : Frontier} {k : Int}

theorem entry_congr (hbelow : f'.at_ (k + 1) = f.at_ (k + 1))
    (habove : f'.at_ (k - 1) = f.at_ (k - 1)) : f'.entry d k = f.entry d k := by
  rw [Frontier.entry, Frontier.entry, hbelow, habove]

/-- What a sweep over the diagonals of a round comes to: the walks meet on one of them, or the walk
goes on along each. `f` is the frontier before the round, `f'` that after some of its diagonals. -/
theorem sweep_cases (hd : d < n) (hwide : f'.Wide n) (hcount : count ≤ d + 1)
    (hk : k = 2 * count - 2 - d)
    (hbefore : ∀ l : Int, (l + d) % 2 = 1 → l.natAbs ≤ n → f'.at_ l = f.at_ l)
    (hdone : ∀ l, Earlier (d + 1) l → k < l →
      f'.at_ l = g.reach d f l ∧ ¬ g.meets l (g.reach d f l)) :
    (∃ l, Earlier (d + 1) l ∧ g.meets l (g.reach d f l) ∧
      (sweep (g.visit d) count k f').2 =
        some (g.meeting (f.entry d l) ((f.entry d l : Int) - l).toNat)) ∨
    ((sweep (g.visit d) count k f').2 = none ∧ (sweep (g.visit d) count k f').1.Wide n ∧
      ∀ l, Earlier (d + 1) l →
        (sweep (g.visit d) count k f').1.at_ l = g.reach d f l ∧
          ¬ g.meets l (g.reach d f l)) := by
  induction count generalizing k f' with
  | zero =>
    right
    refine ⟨rfl, hwide, fun l hl => hdone l hl ?_⟩
    have hlow := hl.1
    omega
  | succ count ih =>
    have hin : Earlier (d + 1) k := ⟨by omega, by omega, by omega⟩
    have hentry : f'.entry d k = f.entry d k :=
      entry_congr (hbefore _ (by omega) (by omega)) (hbefore _ (by omega) (by omega))
    have hreach : g.reach d f' k = g.reach d f k := by
      rw [Going.reach, Going.reach, hentry]
    have hset : ∀ l : Int, l.natAbs ≤ n →
        (f'.set k (g.reach d f k)).at_ l = if l = k then g.reach d f k else f'.at_ l :=
      fun l hl => hwide.at_set (by omega) hl
    by_cases hmeets : g.meets k (g.reach d f k)
    · left
      refine ⟨k, hin, hmeets, ?_⟩
      simp only [sweep, Going.visit, hreach, hentry, hmeets, if_true]
    · have hsweep : sweep (g.visit d) (count + 1) k f' =
          sweep (g.visit d) count (k - 2) (f'.set k (g.reach d f k)) := by
        simp only [sweep, Going.visit, hreach, hmeets, if_false]
      rw [hsweep]
      refine ih (hwide.set _ _) (by omega) (by omega) ?_ ?_
      · intro l hparity hl
        have hne : l ≠ k := by omega
        rw [hset l hl, if_neg hne]
        exact hbefore l hparity hl
      · intro l hl hlater
        obtain ⟨hlow, hhigh, hparity⟩ := hl
        rw [hset l (by omega)]
        by_cases heq : l = k
        · rw [if_pos heq, heq]
          exact ⟨rfl, hmeets⟩
        · rw [if_neg heq]
          exact hdone l ⟨hlow, hhigh, hparity⟩ (by omega)

end Sweeps

/-! ## Meeting points -/

/-- A box that is not upside down. -/
structure Box.Upright (b : Box) : Prop where
  old : b.oldStart ≤ b.oldEnd
  new : b.newStart ≤ b.newEnd

/-- A pair of places is in a box. -/
structure Box.Holds (b : Box) (place : Nat × Nat) : Prop where
  oldStart : b.oldStart ≤ place.1
  oldEnd : place.1 ≤ b.oldEnd
  newStart : b.newStart ≤ place.2
  newEnd : place.2 ≤ b.newEnd

section Meeting

variable (same : Nat → Nat → Bool) (b : Box) (d : Nat)

/-- The walk from the beginning, while the other walk has come to some frontier. -/
def forth (back : Frontier) : Going where
  run x y := commonStart same (b.oldStart + x) b.oldEnd (b.newStart + y) b.newEnd 0
  meets k x := ((b.height : Int) - b.width) % 2 = 1 ∧
    (k - ((b.height : Int) - b.width)).natAbs + 1 ≤ d ∧
    (b.height : Int) ≤ (x + back.at_ ((b.height : Int) - b.width - k) : Nat)
  decMeets _ _ := inferInstanceAs (Decidable (_ ∧ _ ∧ _))
  meeting x y := (b.oldStart + x, b.newStart + y)

/-- The walk from the end, while the other walk has come to some frontier. -/
def back (forth : Frontier) : Going where
  run x y := commonEnd same b.oldStart (b.oldEnd - x) b.newStart (b.newEnd - y) 0
  meets k x := ((b.height : Int) - b.width) % 2 = 0 ∧
    (k - ((b.height : Int) - b.width)).natAbs ≤ d ∧
    (b.height : Int) ≤ (x + forth.at_ ((b.height : Int) - b.width - k) : Nat)
  decMeets _ _ := inferInstanceAs (Decidable (_ ∧ _ ∧ _))
  meeting x y :=
    let run := commonEnd same b.oldStart (b.oldEnd - x) b.newStart (b.newEnd - y) 0
    (b.oldEnd - (x + run), b.newEnd - (y + run))

theorem search_succ (left : Nat) (f g : Frontier) :
    middleSnake.search same b (left + 1) d f g =
      match sweep ((forth same b d g).visit d) (d + 1) d f with
      | (_, some meeting) => some meeting
      | (f', none) =>
        match sweep ((back same b d f').visit d) (d + 1) d g with
        | (_, some meeting) => some meeting
        | (g', none) => middleSnake.search same b left (d + 1) f' g' := by
  rw [middleSnake.search.eq_2]
  rfl

variable {same b d} {left n x y : Nat} {f f' g g' : Frontier} {place : Nat × Nat}

theorem run_forth_le : (forth same b d g).run x y ≤ b.height - x ∧
    (forth same b d g).run x y ≤ b.width - y := by
  obtain ⟨m, hm, hold, hnew, -⟩ := exists_commonStart same (b.oldStart + x) b.oldEnd
    (b.newStart + y) b.newEnd 0
  simp only [forth, hm, Box.height, Box.width]
  omega

theorem run_back_le (same : Nat → Nat → Bool) (b : Box) (d : Nat) (f : Frontier) (x y : Nat) :
    (back same b d f).run x y ≤ b.height - x ∧ (back same b d f).run x y ≤ b.width - y := by
  obtain ⟨m, hm, hold, hnew, -⟩ := exists_commonEnd same b.oldStart (b.oldEnd - x) b.newStart
    (b.newEnd - y) 0
  simp only [back, hm, Box.height, Box.width]
  omega

/-- A sweep on which the walks do not meet is one more round. -/
theorem Reached.sweep {going : Going} {height width : Nat} (h : Reached height width d f)
    (hrun : ∀ x y, going.run x y ≤ height - x ∧ going.run x y ≤ width - y)
    (hreach : ∀ k, Earlier (d + 1) k → f'.at_ k = going.reach d f k) :
    Reached height width (d + 1) f' := by
  refine h.succ fun k hk => ?_
  obtain ⟨hold, hnew⟩ := hrun (f.entry d k) ((f.entry d k : Int) - k).toNat
  exact ⟨_, hreach k hk, hold, hnew⟩

/-- The walk from the beginning, if it meets the other, does so in the box. -/
theorem holds_meeting_forth (hb : b.Upright) {k : Int} (h : Reached b.height b.width d f)
    (hapart : ((b.height : Int) - b.width) % 2 = 1 → Apart b.height b.width d (d - 1 - 1) f)
    (hk : Earlier (d + 1) k) (hmeets : (forth same b d g).meets k x) :
    b.Holds ((forth same b d g).meeting (f.entry d k) ((f.entry d k : Int) - k).toNat) := by
  obtain ⟨hodd, hnear, -⟩ := hmeets
  obtain ⟨hold, hnew⟩ := hb
  have hparity := hk.2.2
  have hgrid := h.inGrid hk (c := d - 1) (by omega) (by omega) (hapart hodd)
    (by unfold Near; omega)
  constructor <;> simp only [forth, Box.height, Box.width] at * <;> omega

/-- The walk from the end, if it meets the other, does so in the box. -/
theorem holds_meeting_back (hb : b.Upright) {k : Int} (h : Reached b.height b.width d g)
    (hapart : ((b.height : Int) - b.width) % 2 = 0 → Apart b.height b.width d (d - 1) g)
    (hk : Earlier (d + 1) k) (hmeets : (back same b d f).meets k x) :
    b.Holds ((back same b d f).meeting (g.entry d k) ((g.entry d k : Int) - k).toNat) := by
  obtain ⟨heven, hnear, -⟩ := hmeets
  obtain ⟨hold, hnew⟩ := hb
  have hparity := hk.2.2
  have hgrid := h.inGrid hk (c := d) (by omega) (by omega) (hapart heven)
    (by unfold Near; omega)
  have hrun := run_back_le same b d f (g.entry d k) ((g.entry d k : Int) - k).toNat
  constructor <;> simp only [back, Box.height, Box.width] at * <;> omega

/-- A round of the walk from the beginning in which it does not meet the other leaves them apart. -/
theorem apart_forth (hg : Reached b.height b.width d g)
    (hmeets : ∀ k, Earlier (d + 1) k → ¬ (forth same b d g).meets k (f'.at_ k))
    (hodd : ((b.height : Int) - b.width) % 2 = 1) :
    Apart b.height b.width (d + 1) (d - 1) f' := by
  intro k hk hnear
  have hparity := hk.2.2
  unfold Near at hnear
  have hother : Earlier d ((b.height : Int) - b.width - k) := ⟨by omega, by omega, by omega⟩
  have hdiagonal := hg.diagonal _ hother
  have hnot := hmeets k hk
  simp only [forth, hodd, true_and, not_and, Int.not_le] at hnot
  have hless := hnot (by omega)
  omega

theorem apart_back (hf : Reached b.height b.width (d + 1) f')
    (hmeets : ∀ k, Earlier (d + 1) k → ¬ (back same b d f').meets k (g'.at_ k))
    (heven : ((b.height : Int) - b.width) % 2 = 0) :
    Apart b.height b.width (d + 1) d g' := by
  intro k hk hnear
  have hparity := hk.2.2
  unfold Near at hnear
  have hother : Earlier (d + 1) ((b.height : Int) - b.width - k) :=
    ⟨by omega, by omega, by omega⟩
  have hdiagonal := hf.diagonal _ hother
  have hnot := hmeets k hk
  simp only [back, heven, true_and, not_and, Int.not_le] at hnot
  have hless := hnot (by omega)
  omega

/-- Where a search finds the walks to meet, they are in the box. -/
theorem holds_search (hb : b.Upright) (hleft : left + d < n) (hf : f.Wide n) (hg : g.Wide n)
    (hforth : Reached b.height b.width d f) (hback : Reached b.height b.width d g)
    (hapartForth : ((b.height : Int) - b.width) % 2 = 1 →
      Apart b.height b.width d (d - 1 - 1) f)
    (hapartBack : ((b.height : Int) - b.width) % 2 = 0 → Apart b.height b.width d (d - 1) g)
    (h : middleSnake.search same b left d f g = some place) : b.Holds place := by
  induction left generalizing d f g with
  | zero => simp [middleSnake.search] at h
  | succ left ih =>
    rw [search_succ] at h
    have hnone : ∀ l, Earlier (d + 1) l → ¬ (d : Int) < l := by
      rintro l ⟨-, hhigh, -⟩
      omega
    obtain ⟨f', found, hf'⟩ : ∃ f' found,
        sweep ((forth same b d g).visit d) (d + 1) d f = (f', found) := ⟨_, _, rfl⟩
    have hsweep := sweep_cases (g := forth same b d g) (f := f) (by omega) hf
      (Nat.le_refl (d + 1)) (by omega) (fun _ _ _ => rfl)
      fun l hl hlater => absurd hlater (hnone l hl)
    rw [hf'] at h hsweep
    rcases hsweep with ⟨k, hk, hmeets, rfl⟩ | ⟨rfl, hwide, hround⟩
    · obtain rfl := Option.some_inj.1 h
      exact holds_meeting_forth hb hforth hapartForth hk hmeets
    have hforth' : Reached b.height b.width (d + 1) f' :=
      hforth.sweep (fun _ _ => run_forth_le) fun k hk => (hround k hk).1
    have hapart := apart_forth hback fun k hk => (hround k hk).1 ▸ (hround k hk).2
    obtain ⟨g', found, hg'⟩ : ∃ g' found,
        sweep ((back same b d f').visit d) (d + 1) d g = (g', found) := ⟨_, _, rfl⟩
    have hsweep := sweep_cases (g := back same b d f') (f := g) (by omega) hg
      (Nat.le_refl (d + 1)) (by omega) (fun _ _ _ => rfl)
      fun l hl hlater => absurd hlater (hnone l hl)
    simp only [hg'] at h hsweep
    rcases hsweep with ⟨k, hk, hmeets, rfl⟩ | ⟨rfl, hwide', hround'⟩
    · obtain rfl := Option.some_inj.1 h
      exact holds_meeting_back hb hback hapartBack hk hmeets
    have hback' : Reached b.height b.width (d + 1) g' :=
      hback.sweep (run_back_le same b d f') fun k hk => (hround' k hk).1
    have hapart' := apart_back hforth' fun k hk => (hround' k hk).1 ▸ (hround' k hk).2
    refine ih (by omega) hwide hwide' hforth' hback' ?_ ?_ h
    · intro hodd
      have hplace : ((d + 1 : Nat) : Int) - 1 - 1 = d - 1 := by omega
      exact hplace ▸ hapart hodd
    · intro heven
      have hplace : ((d + 1 : Nat) : Int) - 1 = d := by omega
      exact hplace ▸ hapart' heven

theorem reached_start (height width rounds : Nat) : Reached height width 0 (.start rounds) := by
  have hnone : ∀ k, ¬ Earlier 0 k := by
    rintro k ⟨hlow, hhigh, -⟩
    omega
  exact ⟨fun _ => Frontier.at_start rounds 1, fun k hk => absurd hk (hnone k),
    fun k hk => absurd hk (hnone k), fun k hk => absurd hk (hnone k),
    fun k hk => absurd hk (hnone k), fun k hk => absurd hk (hnone k)⟩

theorem apart_start (height width rounds : Nat) (c : Int) :
    Apart height width 0 c (.start rounds) := by
  rintro k ⟨hlow, hhigh, -⟩
  omega

/-- A box is divided at a place in it. -/
theorem holds_middleSnake (hb : b.Upright) (h : middleSnake same b = some place) :
    b.Holds place := by
  have hwide := Frontier.wide_start ((b.height + b.width + 1) / 2 + 1)
  exact holds_search hb (by omega) hwide hwide (reached_start ..) (reached_start ..)
    (fun _ => apart_start _ _ _ _) (fun _ => apart_start _ _ _ _) h

end Meeting

end AsmHarness.Diff
