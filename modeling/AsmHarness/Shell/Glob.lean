/-!
# Patterns of scripts

The branches of a selection are chosen by patterns: a star matches any text, a question mark any
character, and a bracketed set one of its characters. Quoted characters stand for themselves.
-/

namespace AsmHarness.Shell

/-- A character of an expanded word, and whether it is quoted. -/
abbrev Marked := Char × Bool

/-- A part of a pattern. -/
inductive GlobPart where
  /-- A character that stands for itself. -/
  | char (c : Char)
  /-- Any character. -/
  | any
  /-- Any text. -/
  | star
  /-- One character in some ranges, or in none of them. -/
  | set (ranges : List (Char × Char)) (negated : Bool)
  deriving DecidableEq, Repr

/-- The ranges of a bracketed set. -/
def setRanges : List Char → List (Char × Char)
  | first :: '-' :: last :: rest => (first, last) :: setRanges rest
  | c :: rest => (c, c) :: setRanges rest
  | [] => []

/-- The characters up to the bracket that closes a set, and what follows it. A bracket in the first
place closes nothing. -/
def setBody? : (first : Bool) → List Marked → Option (List Char × List Marked)
  | _, [] => none
  | first, (c, quoted) :: rest =>
    if c = ']' ∧ quoted = false ∧ first = false then some ([], rest)
    else (setBody? false rest).map fun (body, rest) => (c :: body, rest)

theorem setBody?_length {first : Bool} {s rest : List Marked} {body : List Char}
    (h : setBody? first s = some (body, rest)) : rest.length < s.length := by
  induction s generalizing first body with
  | nil => cases h
  | cons head tail ih =>
    obtain ⟨c, quoted⟩ := head
    rw [setBody?] at h
    split at h
    · cases h
      exact Nat.lt_succ_self _
    · simp only [Option.map_eq_some_iff, Prod.mk.injEq, Prod.exists] at h
      obtain ⟨_, _, found, _, rfl⟩ := h
      exact Nat.lt_succ_of_lt (ih found)

/-- A bracketed set. A mark in the first place negates it. -/
def setPart : List Char → GlobPart
  | '!' :: body => .set (setRanges body) true
  | body => .set (setRanges body) false

/-- The parts of a pattern. -/
def globParts (pattern : List Marked) : List GlobPart :=
  match pattern with
  | [] => []
  | (c, true) :: rest => .char c :: globParts rest
  | ('*', false) :: rest => .star :: globParts rest
  | ('?', false) :: rest => .any :: globParts rest
  | ('[', false) :: rest =>
    match h : setBody? true rest with
    | none => .char '[' :: globParts rest
    | some (body, after) =>
      have : after.length < rest.length := setBody?_length h
      setPart body :: globParts after
  | (c, false) :: rest => .char c :: globParts rest
termination_by pattern.length
decreasing_by all_goals simp; try omega

/-- Whether a text matches the parts of a pattern. -/
def globMatches : List GlobPart → List Char → Bool
  | [], s => s.isEmpty
  | .star :: parts, [] => globMatches parts []
  | .star :: parts, c :: rest => globMatches parts (c :: rest) || globMatches (.star :: parts) rest
  | .any :: parts, _ :: rest => globMatches parts rest
  | .char d :: parts, c :: rest => c = d && globMatches parts rest
  | .set ranges negated :: parts, c :: rest =>
    (ranges.any (fun (first, last) => first ≤ c && c ≤ last) != negated) && globMatches parts rest
  | _ :: _, [] => false
termination_by parts s => parts.length + s.length

end AsmHarness.Shell
