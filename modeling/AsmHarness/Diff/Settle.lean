import AsmHarness.Diff.Shortest

/-!
# Settling edits

A shortest script may place a change anywhere within a run of equal lines. To make scripts easy to
read, each deletion and then each insertion is moved up past the kept lines before it as far as the
lines allow, joining the changes of its kind that it meets, and then down again in the same way.
-/

namespace AsmHarness.Diff

/-- A place in a script: one edit, those before it in reverse order, and those after it. -/
structure Cursor where
  /-- The edits before the place, the nearest first. -/
  before : List Edit
  /-- The edit at the place. -/
  edit : Edit
  /-- The edits after the place. -/
  after : List Edit
  deriving Repr

namespace Edit

/-- The edit moved up by `n` lines. -/
def up (e : Edit) (n : Nat) : Edit :=
  { e with old := ⟨e.old.start - n, e.old.length⟩, new := ⟨e.new.start - n, e.new.length⟩ }

/-- The edit moved down by `n` lines. -/
def down (e : Edit) (n : Nat) : Edit :=
  { e with old := ⟨e.old.start + n, e.old.length⟩, new := ⟨e.new.start + n, e.new.length⟩ }

/-- The edit with `n` more lines on the sides it has lines on. -/
def grow (e : Edit) (n : Nat) : Edit :=
  { e with
    old := ⟨e.old.start, if e.kind = .insert then 0 else e.old.length + n⟩
    new := ⟨e.new.start, if e.kind = .delete then 0 else e.new.length + n⟩ }

/-- The edit with `n` lines fewer on the sides it has lines on. -/
def shrink (e : Edit) (n : Nat) : Edit :=
  { e with
    old := ⟨e.old.start, e.old.length - n⟩
    new := ⟨e.new.start, e.new.length - n⟩ }

/-- How many lines a change has on its own side. -/
def size (e : Edit) : Nat :=
  if e.kind = .insert then e.new.length else e.old.length

end Edit

variable (same : Nat → Nat → Bool)

/-- Moves the change at the cursor up as far as it goes. Each step moves the cursor up or makes the
kept lines before it fewer; `steps` bounds their number. -/
def Cursor.rise (steps : Nat) (c : Cursor) : Cursor :=
  match steps, c.before with
  | 0, _ | _, [] => c
  | steps + 1, prev :: before =>
    if prev.kind = .keep then
      let n := commonEnd same prev.old.start prev.old.stop c.edit.new.start c.edit.new.stop 0
      if n = 0 then
        if prev.isEmpty then rise steps { c with before } else c
      else
        let after := match c.after with
          | next :: after =>
            if next.kind = .keep then (next.up n).grow n :: after
            else .keep (prev.old.stop - n) (c.edit.new.stop - n) n :: c.after
          | [] => [.keep (prev.old.stop - n) (c.edit.new.stop - n) n]
        let prev := prev.shrink n
        let edit := c.edit.up n
        rise steps ⟨if prev.isEmpty then before else prev :: before, edit, after⟩
    else if prev.kind = c.edit.kind then
      rise steps ⟨before, prev.grow c.edit.size, c.after⟩
    else rise steps ⟨before, c.edit, prev :: c.after⟩

/-- Moves the change at the cursor down as far as it goes, in the same way. -/
def Cursor.sink (steps : Nat) (c : Cursor) : Cursor :=
  match steps, c.after with
  | 0, _ | _, [] => c
  | steps + 1, next :: after =>
    if next.kind = .keep then
      let n := commonStart same next.old.start next.old.stop c.edit.new.start c.edit.new.stop 0
      if n = 0 then
        if next.isEmpty then sink steps { c with after } else c
      else
        let before := match c.before with
          | prev :: before =>
            if prev.kind = .keep then prev.grow n :: before
            else .keep next.old.start c.edit.new.start n :: c.before
          | [] => [.keep next.old.start c.edit.new.start n]
        let next := (next.down n).shrink n
        let edit := c.edit.down n
        sink steps ⟨before, edit, if next.isEmpty then after else next :: after⟩
    else if next.kind = c.edit.kind then
      sink steps ⟨c.before, c.edit.grow next.size, after⟩
    else sink steps ⟨next :: c.before, c.edit, after⟩

/-- Settles every edit of one kind in turn; `steps` bounds the walk down the script and each move on
the way. -/
def settle (kind : Kind) (bound : Nat) : (steps : Nat) → (before after : List Edit) → List Edit
  | _, before, [] => before.reverse
  | 0, before, after => before.reverse ++ after
  | steps + 1, before, edit :: after =>
    if edit.kind = kind then
      let c := (Cursor.mk before edit after |>.rise same bound).sink same bound
      settle kind bound steps (c.edit :: c.before) c.after
    else settle kind bound steps (edit :: before) after

/-- The script from `old` to `new` that reports show: shortest, its deletions and then its
insertions settled, and neighbouring changes merged. -/
def script (old new : Array String) : List Edit :=
  let same i j := old[i]? == new[j]?
  let edits := shortest old new
  let bound := old.size + new.size + edits.length + 1
  let edits := settle same .delete bound (bound * bound) [] edits
  merge (settle same .insert bound (bound * bound) [] edits)

end AsmHarness.Diff
