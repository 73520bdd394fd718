/-!
# Edits

An edit script turns one sequence of lines into another. It is a list of edits, each of which speaks
about a stretch of the old sequence and a stretch of the new one: it keeps lines that both have,
deletes lines of the old one, inserts lines of the new one, or replaces lines by others. Read in
order, the stretches of the old sequence make up all of it, and likewise those of the new one.
-/

namespace AsmHarness.Diff

/-- What an edit does with its lines. -/
inductive Kind where
  /-- The lines are in both sequences. -/
  | keep
  /-- The lines are in the old sequence only. -/
  | delete
  /-- The lines are in the new sequence only. -/
  | insert
  /-- Lines of the old sequence give way to lines of the new one. -/
  | replace
  deriving DecidableEq, Repr

/-- A stretch of lines: the number of lines before it and its length. -/
structure Stretch where
  /-- How many lines stand before the stretch. -/
  start : Nat
  /-- How many lines it has. -/
  length : Nat
  deriving DecidableEq, Repr

/-- The number of lines before the end of a stretch. -/
def Stretch.stop (s : Stretch) : Nat := s.start + s.length

/-- One step of an edit script. -/
structure Edit where
  /-- What the edit does. -/
  kind : Kind
  /-- The stretch of the old sequence it speaks about, empty for an insertion. -/
  old : Stretch
  /-- The stretch of the new sequence it speaks about, empty for a deletion. -/
  new : Stretch
  deriving DecidableEq, Repr

namespace Edit

/-- Keeps `n` lines. -/
def keep (oldStart newStart n : Nat) : Edit := ⟨.keep, ⟨oldStart, n⟩, ⟨newStart, n⟩⟩

/-- Deletes `n` lines. -/
def delete (oldStart n newStart : Nat) : Edit := ⟨.delete, ⟨oldStart, n⟩, ⟨newStart, 0⟩⟩

/-- Inserts `n` lines. -/
def insert (oldStart newStart n : Nat) : Edit := ⟨.insert, ⟨oldStart, 0⟩, ⟨newStart, n⟩⟩

/-- Whether an edit speaks about no line at all. -/
def isEmpty (e : Edit) : Bool := e.old.length = 0 && e.new.length = 0

/-- Whether an edit drops lines of the old sequence. -/
def deletes (e : Edit) : Bool := e.kind = .delete || e.kind = .replace

/-- Whether an edit brings in lines of the new sequence. -/
def inserts (e : Edit) : Bool := e.kind = .insert || e.kind = .replace

/-- The two edits as one, if they are of a kind: lines kept after lines kept, or changes after
changes. A change of both sequences is a replacement, whichever side came first. -/
def absorb (a b : Edit) : Option Edit :=
  if a.kind = .keep ∧ b.kind = .keep then
    some ⟨.keep, ⟨a.old.start, a.old.length + b.old.length⟩,
      ⟨a.new.start, a.new.length + b.new.length⟩⟩
  else if a.kind = .keep ∨ b.kind = .keep then none
  else
    let old : Stretch :=
      if a.deletes then ⟨a.old.start, a.old.length + b.old.length⟩
      else if b.deletes then b.old else a.old
    let new : Stretch :=
      if a.inserts then ⟨a.new.start, a.new.length + b.new.length⟩
      else if b.inserts then b.new else a.new
    let kind : Kind :=
      if a.kind = b.kind then a.kind else .replace
    some ⟨kind, old, new⟩

end Edit

/-- An edit script in which neighbours of a kind are one edit. -/
def merge : List Edit → List Edit
  | [] => []
  | e :: rest => go e rest
where
  /-- The script that begins with `current`, once it has absorbed what it can. -/
  go (current : Edit) : List Edit → List Edit
    | [] => [current]
    | e :: rest =>
      match current.absorb e with
      | some both => go both rest
      | none => current :: go e rest

end AsmHarness.Diff
