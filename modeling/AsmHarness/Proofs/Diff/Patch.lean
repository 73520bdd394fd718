import AsmHarness.Diff.Unified

/-!
# Patches

A hunk stands at a place of the old sequence and at a place of the new one, and shows lines of both
from there on. Hunks that describe the difference between two sequences stand in order, and between
them the sequences are equal. Applied as a patch they turn the old sequence into the new one, and
reversed they turn the new sequence into the old one.
-/

namespace AsmHarness.Diff

/-- A line of a hunk. -/
inductive Row where
  /-- The line is in both sequences. -/
  | kept (line : String)
  /-- The line is in the old sequence only. -/
  | deleted (line : String)
  /-- The line is in the new sequence only. -/
  | inserted (line : String)
  deriving DecidableEq, Repr

namespace Row

/-- How a line is shown. -/
def text : Row → String
  | kept line => " " ++ line
  | deleted line => "-" ++ line
  | inserted line => "+" ++ line

/-- The line of the old sequence that a row shows. -/
def oldLine? : Row → Option String
  | kept line => some line
  | deleted line => some line
  | inserted _ => none

/-- The line of the new sequence that a row shows. -/
def newLine? : Row → Option String
  | kept line => some line
  | deleted _ => none
  | inserted line => some line

/-- The row that undoes a row. -/
def reverse : Row → Row
  | kept line => kept line
  | deleted line => inserted line
  | inserted line => deleted line

theorem text_injective : Function.Injective text := by
  intro a b h
  have hlist := congrArg String.toList h
  clear h
  cases a <;> cases b <;> simp_all [text, String.toList_inj]

theorem oldLine?_reverse (row : Row) : row.reverse.oldLine? = row.newLine? := by
  cases row <;> rfl

theorem newLine?_reverse (row : Row) : row.reverse.newLine? = row.oldLine? := by
  cases row <;> rfl

section Lines

variable (lines : List String)

theorem filterMap_oldLine?_kept : (lines.map kept).filterMap oldLine? = lines := by
  rw [List.filterMap_map]
  exact List.filterMap_some

theorem filterMap_newLine?_kept : (lines.map kept).filterMap newLine? = lines := by
  rw [List.filterMap_map]
  exact List.filterMap_some

theorem filterMap_oldLine?_deleted : (lines.map deleted).filterMap oldLine? = lines := by
  rw [List.filterMap_map]
  exact List.filterMap_some

theorem filterMap_newLine?_deleted : (lines.map deleted).filterMap newLine? = [] := by
  rw [List.filterMap_map]
  exact List.filterMap_eq_nil_iff.2 fun _ _ => rfl

theorem filterMap_oldLine?_inserted : (lines.map inserted).filterMap oldLine? = [] := by
  rw [List.filterMap_map]
  exact List.filterMap_eq_nil_iff.2 fun _ _ => rfl

theorem filterMap_newLine?_inserted : (lines.map inserted).filterMap newLine? = lines := by
  rw [List.filterMap_map]
  exact List.filterMap_some

end Lines

end Row

/-- A hunk of a patch. -/
structure Hunk where
  /-- How many lines of the old sequence stand before the hunk. -/
  oldStart : Nat
  /-- How many lines of the new sequence stand before the hunk. -/
  newStart : Nat
  /-- What the hunk shows. -/
  rows : List Row

/-- How `count` lines after the first `start` ones are named: by the number of the first and by
their count, which is left out if it is one. No lines at all are named by the line before them. -/
def rangeName (start count : Nat) : String :=
  let first := if count = 0 then start else start + 1
  if count = 1 then toString first else toString first ++ "," ++ toString count

namespace Hunk

/-- The lines of the old sequence that a hunk shows. -/
def old (h : Hunk) : List String := h.rows.filterMap Row.oldLine?

/-- The lines of the new sequence that a hunk shows. -/
def new (h : Hunk) : List String := h.rows.filterMap Row.newLine?

/-- How many lines of the old sequence stand before the end of a hunk. -/
def oldStop (h : Hunk) : Nat := h.oldStart + h.old.length

/-- How many lines of the new sequence stand before the end of a hunk. -/
def newStop (h : Hunk) : Nat := h.newStart + h.new.length

/-- The header that names the lines a hunk shows. -/
def header (h : Hunk) : String :=
  "@@ -" ++ rangeName h.oldStart h.old.length ++ " +" ++ rangeName h.newStart h.new.length ++ " @@"

/-- The hunk that undoes a hunk. -/
def reverse (h : Hunk) : Hunk := ⟨h.newStart, h.oldStart, h.rows.map Row.reverse⟩

/-- The first row of a hunk is kept. -/
def OpensKept (h : Hunk) : Prop := ∃ line, h.rows.head? = some (.kept line)

/-- The last row of a hunk is kept. -/
def ClosesKept (h : Hunk) : Prop := ∃ line, h.rows.getLast? = some (.kept line)

/-- No row of a hunk reads like a header. -/
theorem header_ne_text (h : Hunk) (row : Row) : h.header ≠ row.text := by
  intro heq
  have hlist := congrArg String.toList heq
  cases row <;> simp [header, Row.text] at hlist

@[simp] theorem old_reverse (h : Hunk) : h.reverse.old = h.new := by
  simp only [reverse, old, new, List.filterMap_map]
  exact congrArg (List.filterMap · h.rows) (funext Row.oldLine?_reverse)

@[simp] theorem new_reverse (h : Hunk) : h.reverse.new = h.old := by
  simp only [reverse, old, new, List.filterMap_map]
  exact congrArg (List.filterMap · h.rows) (funext Row.newLine?_reverse)

@[simp] theorem oldStop_reverse (h : Hunk) : h.reverse.oldStop = h.newStop := by
  rw [oldStop, old_reverse]
  rfl

@[simp] theorem newStop_reverse (h : Hunk) : h.reverse.newStop = h.oldStop := by
  rw [newStop, new_reverse]
  rfl

end Hunk

/-- Hunks describe the difference between the lines that follow the first `i` lines of one sequence
and those that follow the first `j` lines of another: in front of each hunk stand the same lines in
both, and after the last. -/
inductive Describes : Nat → Nat → List String → List String → List Hunk → Prop where
  | done {i j : Nat} {lines : List String} : Describes i j lines lines []
  | hunk {i j : Nat} {gap old new : List String} {h : Hunk} {hunks : List Hunk}
    (oldStart : h.oldStart = i + gap.length) (newStart : h.newStart = j + gap.length)
    (rest : Describes h.oldStop h.newStop old new hunks) :
    Describes i j (gap ++ h.old ++ old) (gap ++ h.new ++ new) (h :: hunks)

/-- Applies hunks to the lines that follow the first `i` lines of a sequence, if they have the lines
that the hunks show where the hunks show them. -/
def patch (i : Nat) (lines : List String) : List Hunk → Option (List String)
  | [] => some lines
  | h :: hunks =>
    let gap := h.oldStart - i
    let after := lines.drop gap
    if i ≤ h.oldStart ∧ gap ≤ lines.length ∧ h.old <+: after then
      (patch h.oldStop (after.drop h.old.length) hunks).map (lines.take gap ++ h.new ++ ·)
    else none

variable {i j : Nat} {old new : List String} {hunks : List Hunk}

/-- Read backwards, hunks describe the difference the other way. -/
theorem Describes.reverse (d : Describes i j old new hunks) :
    Describes j i new old (hunks.map Hunk.reverse) := by
  induction d with
  | done => exact .done
  | @hunk i j gap old new h hunks oldStart newStart _ ih =>
    have hold : gap ++ h.old ++ old = gap ++ h.reverse.new ++ old := by rw [Hunk.new_reverse]
    have hnew : gap ++ h.new ++ new = gap ++ h.reverse.old ++ new := by rw [Hunk.old_reverse]
    rw [hold, hnew]
    refine .hunk newStart oldStart ?_
    rw [Hunk.oldStop_reverse, Hunk.newStop_reverse]
    exact ih

/-- Applied as a patch, hunks turn the one sequence into the other. -/
theorem Describes.patch (d : Describes i j old new hunks) : patch i old hunks = some new := by
  induction d with
  | done => rfl
  | @hunk i j gap old new h hunks oldStart newStart _ ih =>
    have hgap : h.oldStart - i = gap.length := by omega
    have hafter : (gap ++ h.old ++ old).drop gap.length = h.old ++ old := by simp
    have hbefore : (gap ++ h.old ++ old).take gap.length = gap := by simp
    rw [Diff.patch]
    simp only [hgap, hafter, hbefore, List.drop_left, ih]
    rw [if_pos ⟨by omega, by simp, List.prefix_append h.old old⟩]
    rfl

/-- Each hunk shows the lines of both sequences from its place on. -/
theorem Describes.shows (d : Describes i j old new hunks) {h : Hunk} (hmem : h ∈ hunks) :
    i ≤ h.oldStart ∧ h.old <+: old.drop (h.oldStart - i) ∧
      j ≤ h.newStart ∧ h.new <+: new.drop (h.newStart - j) := by
  induction d with
  | done => cases hmem
  | @hunk i j gap old new first hunks oldStart newStart _ ih =>
    rcases List.mem_cons.1 hmem with rfl | hlater
    · have hold : h.oldStart - i = gap.length := by omega
      have hnew : h.newStart - j = gap.length := by omega
      rw [hold, hnew, List.append_assoc, List.drop_left, List.append_assoc, List.drop_left]
      exact ⟨by omega, List.prefix_append .., by omega, List.prefix_append ..⟩
    · obtain ⟨hold, holdShown, hnew, hnewShown⟩ := ih hlater
      have holdPlace : h.oldStart - i =
          (gap ++ first.old).length + (h.oldStart - first.oldStop) := by
        simp only [Hunk.oldStop, List.length_append] at hold ⊢
        omega
      have hnewPlace : h.newStart - j =
          (gap ++ first.new).length + (h.newStart - first.newStop) := by
        simp only [Hunk.newStop, List.length_append] at hnew ⊢
        omega
      rw [holdPlace, hnewPlace, List.drop_length_add_append, List.drop_length_add_append]
      simp only [Hunk.oldStop, Hunk.newStop] at hold hnew
      exact ⟨by omega, holdShown, by omega, hnewShown⟩

end AsmHarness.Diff
