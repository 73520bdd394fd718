import AsmHarness.Pattern

/-!
# Filters

A filter changes captured text before it is compared: every match of a pattern is replaced. What it
is replaced by is written with backslashes: one or two digits, or a name between angle brackets
behind the letter `g`, stand for a group. It is turned into a template of patterns, in which a
dollar sign is the mark of a group, and therefore doubled where it stands for itself.
-/

namespace AsmHarness

namespace Substitution

/-- A name in braces behind a dollar sign. -/
def braced (name : List Char) : List Char := '$' :: '\x7b' :: (name ++ ['\x7d'])

/-- What stands behind the bracket that closes a name. An unclosed name runs to the end. -/
def afterName (s : List Char) : List Char := (s.dropWhile (· ≠ '>')).tail

theorem afterName_length (s : List Char) : (afterName s).length ≤ s.length := by
  have h := (List.dropWhile_suffix (l := s) (· ≠ '>')).length_le
  simp only [afterName, List.length_tail]
  omega

/-- The template that a substitution stands for. -/
def template (substitution : List Char) : List Char :=
  match substitution with
  | [] => []
  | '$' :: rest => '$' :: '$' :: template rest
  | '\\' :: 'g' :: '<' :: rest =>
    have : (afterName rest).length ≤ rest.length := afterName_length rest
    braced (rest.takeWhile (· ≠ '>')) ++ template (afterName rest)
  | '\\' :: 'g' :: rest => '\\' :: 'g' :: template rest
  | '\\' :: 'n' :: rest => '\n' :: template rest
  | '\\' :: 't' :: rest => '\t' :: template rest
  | '\\' :: '\\' :: rest => '\\' :: template rest
  | '\\' :: d :: e :: rest =>
    if d.isDigit ∧ d ≠ '0' then
      if e.isDigit then braced [d, e] ++ template rest else braced [d] ++ template (e :: rest)
    else '\\' :: template (d :: e :: rest)
  | ['\\', d] => if d.isDigit ∧ d ≠ '0' then braced [d] else '\\' :: template [d]
  | c :: rest => c :: template rest
termination_by substitution.length
decreasing_by all_goals simp; try omega

end Substitution

/-- A pattern and what its matches are replaced by. -/
structure Filter where
  /-- The pattern. -/
  pattern : Pattern
  /-- What a match is replaced by. -/
  replacement : List Pattern.Part

namespace Filter

/-- The filter of a pattern and a substitution as they are written, none if the pattern is not well
formed. -/
def ofText? (pattern substitution : String) : Option Filter :=
  (Pattern.ofText? pattern).map fun p =>
    ⟨p, Pattern.parts (Substitution.template substitution.toList)⟩

/-- The text with every match replaced. -/
def apply (f : Filter) (text : String) : String := f.pattern.replaceAll f.replacement text

end Filter

end AsmHarness
