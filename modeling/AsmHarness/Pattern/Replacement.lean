import AsmHarness.Pattern.Search
import AsmHarness.Text.Digits

/-!
# Replacement of matches

What a match is replaced by is written as a template: a dollar sign in front of a name, in braces or
not, stands for the text of a group, two dollar signs stand for one, and everything else stands for
itself. Groups that are unknown, or that took no part in the match, have no text.
-/

namespace AsmHarness.Pattern

/-- How a template refers to a group. -/
inductive GroupRef where
  /-- By its number. -/
  | index (value : Nat)
  /-- By its name. -/
  | name (value : String)
  deriving DecidableEq, Repr

/-- A part of a template. -/
inductive Part where
  /-- A character that stands for itself. -/
  | char (c : Char)
  /-- The text of a group. -/
  | group (ref : GroupRef)
  deriving DecidableEq, Repr

/-- The greatest number of a group that is still read as a number. -/
def maxGroupNumber : Nat := 0xFFFFFFFFFFFFFFFF

/-- A reference by the given name. Digits alone, also behind a plus sign, are the number of a group,
unless the number is too great. -/
def GroupRef.ofName (name : List Char) : GroupRef :=
  let digits := match name with
    | '+' :: rest => rest
    | _ => name
  if digits ≠ [] ∧ digits.all Char.isDigit ∧ Text.decimal digits ≤ maxGroupNumber then
    .index (Text.decimal digits)
  else .name (.ofList name)

/-- Whether a character may stand in a name without braces. -/
def isBareNameChar (c : Char) : Bool := c.isAlphanum || c = '_'

/-- The reference that follows a dollar sign, and what stands behind it. -/
def reference? : List Char → Option (GroupRef × List Char)
  | '\x7b' :: rest =>
    match rest.dropWhile (· ≠ '\x7d') with
    | [] => none
    | _ :: after => some (.ofName (rest.takeWhile (· ≠ '\x7d')), after)
  | s =>
    match s.takeWhile isBareNameChar with
    | [] => none
    | name => some (.ofName name, s.dropWhile isBareNameChar)

theorem reference?_length {s rest : List Char} {ref : GroupRef}
    (h : reference? s = some (ref, rest)) : rest.length ≤ s.length := by
  unfold reference? at h
  split at h
  · next body =>
    split at h
    · simp at h
    · next c after hd =>
      simp only [Option.some.injEq, Prod.mk.injEq] at h
      have hs := (List.dropWhile_suffix (l := body) (· ≠ '\x7d')).length_le
      rw [hd] at hs
      rw [← h.2]
      simp only [List.length_cons] at hs ⊢
      omega
  · split at h
    · simp at h
    · simp only [Option.some.injEq, Prod.mk.injEq] at h
      have hs := (List.dropWhile_suffix (l := s) isBareNameChar).length_le
      rw [← h.2]
      exact hs

/-- The parts of a template. A dollar sign that no reference follows stands for itself. -/
def parts (template : List Char) : List Part :=
  match template with
  | [] => []
  | '$' :: '$' :: rest => .char '$' :: parts rest
  | '$' :: rest =>
    match h : reference? rest with
    | some (ref, after) =>
      have : after.length ≤ rest.length := reference?_length h
      .group ref :: parts after
    | none => .char '$' :: parts rest
  | c :: rest => .char c :: parts rest
termination_by template.length
decreasing_by all_goals simp; try omega

end AsmHarness.Pattern
