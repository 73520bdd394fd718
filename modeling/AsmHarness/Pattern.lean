import AsmHarness.Pattern.Replacement

/-!
# Patterns

A pattern is read and compiled once and can then be searched for in texts. Line assertions match at
every line of a text. A pattern that is well formed is refused if its program would take too much
room; where exactly that begins is a matter of the estimate that is made of it.
-/

namespace AsmHarness

/-- A pattern ready for use. -/
structure Pattern where
  /-- The pattern as it is written. -/
  source : String
  /-- What it is compiled to. -/
  program : Pattern.Program
  /-- The names of its groups, each with the number of the group. -/
  names : List (String × Nat)

namespace Pattern

/-- The pattern that a text describes, none if it describes none. -/
def ofText? (text : String) : Option Pattern := do
  let parsed ← parse? text
  let (body, _) ← parsed.body.expr? .initial
  let program ← Program.ofExpr? parsed.captures body
  some ⟨text, program, parsed.names⟩

/-- The stretch of a text that a reference stands for in a match. -/
def group? (p : Pattern) (m : Match) : GroupRef → Option (Nat × Nat)
  | .index value => m.group? value
  | .name value => (p.names.lookup value).bind m.group?

/-- Writes what a part of a template stands for. -/
def writePart (p : Pattern) (text : Array Char) (m : Match) (written : String) : Part → String
  | .char c => written.push c
  | .group ref =>
    match p.group? m ref with
    | some (first, last) => text.foldl String.push written first last
    | none => written

/-- The text with every match replaced by what the parts of a template stand for. -/
def replaceAll (p : Pattern) (template : List Part) (text : String) : String :=
  let chars := text.toList.toArray
  let (written, place) := (p.program.allMatches chars).foldl
    (fun (written, place) m =>
      let kept := chars.foldl String.push written place m.start
      (template.foldl (p.writePart chars m) kept, m.stop)) ("", 0)
  chars.foldl String.push written place

end Pattern

end AsmHarness
