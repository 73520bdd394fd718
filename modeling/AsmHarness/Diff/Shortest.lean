import AsmHarness.Diff.Edit

/-!
# Shortest edit scripts

A shortest edit script is found by dividing at a middle snake: walking from both corners of the
grid of line pairs at once, with one more change per round, until the two walks meet. The two parts
before and after the meeting point are then solved alike. Lines that the sequences have in common at
their ends are set aside first.
-/

namespace AsmHarness.Diff

/-- The part of the two sequences under consideration: the lines from `oldStart` to before `oldEnd`
of the one, and likewise of the other. -/
structure Box where
  /-- Where the part of the old sequence begins. -/
  oldStart : Nat
  /-- Where it ends. -/
  oldEnd : Nat
  /-- Where the part of the new sequence begins. -/
  newStart : Nat
  /-- Where it ends. -/
  newEnd : Nat
  deriving Repr

namespace Box

/-- How many lines the part of the old sequence has. -/
def height (b : Box) : Nat := b.oldEnd - b.oldStart

/-- How many lines the part of the new sequence has. -/
def width (b : Box) : Nat := b.newEnd - b.newStart

end Box

/-- How many lines the two parts have in common at their beginning, added to `n`. -/
def commonStart (same : Nat → Nat → Bool) (oldStart oldEnd newStart newEnd : Nat) (n : Nat) :
    Nat :=
  if h : oldStart < oldEnd ∧ newStart < newEnd ∧ same oldStart newStart then
    commonStart same (oldStart + 1) oldEnd (newStart + 1) newEnd (n + 1)
  else n
termination_by oldEnd - oldStart

/-- How many lines the two parts have in common at their end, added to `n`. -/
def commonEnd (same : Nat → Nat → Bool) (oldStart oldEnd newStart newEnd : Nat) (n : Nat) :
    Nat :=
  if h : oldStart < oldEnd ∧ newStart < newEnd ∧ same (oldEnd - 1) (newEnd - 1) then
    commonEnd same oldStart (oldEnd - 1) newStart (newEnd - 1) (n + 1)
  else n
termination_by oldEnd - oldStart

/-- How far a walk has come on each diagonal. Diagonal `k` holds the pairs of places whose
difference is `k`; what is stored is the number of old lines passed. -/
structure Frontier where
  /-- Where diagonal zero is stored. -/
  origin : Nat
  /-- The number of old lines passed, by diagonal. -/
  reached : Array Nat

namespace Frontier

/-- The frontier before the first step, with room for `rounds` rounds. -/
def start (rounds : Nat) : Frontier := ⟨rounds + 1, .replicate (2 * rounds + 3) 0⟩

/-- How far the walk has come on a diagonal. -/
def at_ (f : Frontier) (k : Int) : Nat := f.reached.getD (f.origin + k).toNat 0

/-- Notes how far the walk has come on a diagonal. -/
def set (f : Frontier) (k : Int) (x : Nat) : Frontier :=
  { f with reached := f.reached.setIfInBounds (f.origin + k).toNat x }

/-- Where round `d` starts on diagonal `k`: one line further than the neighbouring diagonal that has
come further. -/
def entry (f : Frontier) (d k : Int) : Nat :=
  if k = -d ∨ (k ≠ d ∧ f.at_ (k - 1) < f.at_ (k + 1)) then f.at_ (k + 1) else f.at_ (k - 1) + 1

end Frontier

/-- A walk over the diagonals of one round, from `k` downwards in steps of two. `visit` moves on one
diagonal; it answers with the meeting point if the other walk has been reached there. -/
def sweep (visit : Frontier → Int → Frontier × Option (Nat × Nat)) :
    (count : Nat) → (k : Int) → Frontier → Frontier × Option (Nat × Nat)
  | 0, _, f => (f, none)
  | count + 1, k, f =>
    match visit f k with
    | (f, some meeting) => (f, some meeting)
    | (f, none) => sweep visit count (k - 2) f

/-- A point on a shortest way through the box, at which the way can be divided. -/
def middleSnake (same : Nat → Nat → Bool) (b : Box) : Option (Nat × Nat) :=
  let rounds := (b.height + b.width + 1) / 2 + 1
  search rounds 0 (.start rounds) (.start rounds)
where
  /-- The rounds from `d` on, of which `left` are left. -/
  search (left d : Nat) (forth back : Frontier) : Option (Nat × Nat) :=
    match left with
    | 0 => none
    | left + 1 =>
      let height : Int := b.height
      let delta : Int := height - b.width
      let forward (f : Frontier) (k : Int) : Frontier × Option (Nat × Nat) :=
        let x := f.entry d k
        let y := (x - k).toNat
        let run := commonStart same (b.oldStart + x) b.oldEnd (b.newStart + y) b.newEnd 0
        let f := f.set k (x + run)
        if delta % 2 = 1 ∧ (k - delta).natAbs + 1 ≤ d ∧
            height ≤ (x + run + back.at_ (delta - k) : Nat) then
          (f, some (b.oldStart + x, b.newStart + y))
        else (f, none)
      match sweep forward (d + 1) d forth with
      | (_, some meeting) => some meeting
      | (forth, none) =>
        let backward (f : Frontier) (k : Int) : Frontier × Option (Nat × Nat) :=
          let x := f.entry d k
          let y := (x - k).toNat
          let run := commonEnd same b.oldStart (b.oldEnd - x) b.newStart (b.newEnd - y) 0
          let f := f.set k (x + run)
          if delta % 2 = 0 ∧ (k - delta).natAbs ≤ d ∧
              height ≤ (x + run + forth.at_ (delta - k) : Nat) then
            (f, some (b.oldEnd - (x + run), b.newEnd - (y + run)))
          else (f, none)
        match sweep backward (d + 1) d back with
        | (_, some meeting) => some meeting
        | (back, none) => search left (d + 1) forth back

/-- The edits for a box, in front of `rest`. Each division leaves two smaller boxes; `depth` bounds
how often one is divided. -/
def solve (same : Nat → Nat → Bool) (depth : Nat) (b : Box) (rest : List Edit) : List Edit :=
  let start := commonStart same b.oldStart b.oldEnd b.newStart b.newEnd 0
  let oldStart := b.oldStart + start
  let newStart := b.newStart + start
  let tail := commonEnd same oldStart b.oldEnd newStart b.newEnd 0
  let oldEnd := b.oldEnd - tail
  let newEnd := b.newEnd - tail
  let inner : Box := ⟨oldStart, oldEnd, newStart, newEnd⟩
  let rest := if tail = 0 then rest else .keep oldEnd newEnd tail :: rest
  let middle :=
    if inner.height = 0 ∧ inner.width = 0 then rest
    else if inner.width = 0 then .delete oldStart inner.height newStart :: rest
    else if inner.height = 0 then .insert oldStart newStart inner.width :: rest
    else match depth, middleSnake same inner with
      | depth + 1, some (x, y) =>
        solve same depth ⟨oldStart, x, newStart, y⟩
          (solve same depth ⟨x, oldEnd, y, newEnd⟩ rest)
      | _, _ =>
        .delete oldStart inner.height newStart :: .insert oldStart newStart inner.width :: rest
  if start = 0 then middle else .keep b.oldStart b.newStart start :: middle

/-- A shortest script that turns `old` into `new`. -/
def shortest (old new : Array String) : List Edit :=
  solve (fun i j => old[i]? == new[j]?) (old.size + new.size) ⟨0, old.size, 0, new.size⟩ []

end AsmHarness.Diff
