import AsmHarness.Pattern.Expr

/-!
# Compiled patterns

An expression is compiled to a program: a numbered list of instructions, each of which names the
ones that may follow it. The order in which the two branches of a `split` are named is the order of
preference, so the first way through the program that leads to the end is the match that the pattern
asks for.

Code is laid down from the end to the beginning: `emit` is given the instruction that follows.
-/

namespace AsmHarness.Pattern

/-- An instruction; `next` and the like are numbers of instructions. -/
inductive Instruction where
  /-- Goes on over one character of a set. -/
  | char (chars : CharSet) (next : Nat)
  /-- Goes on in either of two ways, the first one preferred. -/
  | split (first second : Nat)
  /-- Goes on where a condition holds. -/
  | look (kind : Look) (next : Nat)
  /-- Notes the place in a slot and goes on. -/
  | save (slot : Nat) (next : Nat)
  /-- The end of the pattern. -/
  | accept

/-- The code laid down so far. -/
abbrev Code := Array Instruction

namespace Code

/-- Lays down an instruction. -/
def add (code : Code) (instruction : Instruction) : Nat × Code :=
  (code.size, code.push instruction)

/-- A branch between going through the body and going on. -/
def branch (greedy : Bool) (body next : Nat) : Instruction :=
  if greedy then .split body next else .split next body

end Code

/-- Lays down what `emit` lays down a number of times, one after the other. -/
def emitTimes (emit : Nat → Code → Nat × Code) : (count : Nat) → Nat → Code → Nat × Code
  | 0, next, code => (next, code)
  | count + 1, next, code =>
    let (next, code) := emit next code
    emitTimes emit count next code

/-- Lays down a loop that goes through the body once or more. -/
def emitLoop (emit : Nat → Code → Nat × Code) (greedy : Bool) (next : Nat) (code : Code) :
    Nat × Nat × Code :=
  let (back, code) := code.add .accept
  let (body, code) := emit back code
  (body, back, code.setIfInBounds back (Code.branch greedy body next))

/-- Lays down up to `count` more times through the body, each of which may be the last. -/
def emitUpTo (emit : Nat → Code → Nat × Code) (greedy : Bool) (stop : Nat) :
    (count : Nat) → Nat → Code → Nat × Code
  | 0, next, code => (next, code)
  | count + 1, next, code =>
    let (body, code) := emit next code
    let (again, code) := code.add (Code.branch greedy body stop)
    emitUpTo emit greedy stop count again code

/-- Lays down the code of an expression in front of the instruction `next`; the result is the number
of the instruction it begins with. A body that can be empty is repeated as if it were there once or
more, and the whole of it optional, so that the order of preference is kept. -/
def Expr.emit : Expr → Nat → Code → Nat × Code
  | .empty, next, code => (next, code)
  | .set chars, next, code => code.add (.char chars next)
  | .look kind, next, code => code.add (.look kind next)
  | .capture index body, next, code =>
    let (next, code) := code.add (.save (2 * index + 1) next)
    let (next, code) := body.emit next code
    code.add (.save (2 * index) next)
  | .seq first second, next, code =>
    let (next, code) := second.emit next code
    first.emit next code
  | .alt first second, next, code =>
    let (second, code) := second.emit next code
    let (first, code) := first.emit next code
    code.add (.split first second)
  | .repeated ⟨least, none, greedy⟩ body, next, code =>
    let (start, back, code) := emitLoop body.emit greedy next code
    match least with
    | 0 => if body.canBeEmpty then code.add (Code.branch greedy start next) else (back, code)
    | more + 1 => emitTimes body.emit more start code
  | .repeated ⟨least, some most, greedy⟩ body, next, code =>
    let (start, code) := emitUpTo body.emit greedy next (most - least) next code
    emitTimes body.emit least start code

/-- How much room the program of an expression takes, by an estimate: an instruction is counted with
32 bytes and a range of characters with 64, whatever it comes to in bytes of UTF-8. -/
def Expr.room : Expr → Nat
  | .empty => 32
  | .set chars => 64 * chars.weight
  | .look _ => 32
  | .capture _ body => body.room + 64
  | .seq first second => first.room + second.room
  | .alt first second => first.room + second.room + 32
  | .repeated times body => (times.most.getD (times.least + 1)) * (body.room + 32)

/-- The room a program may take, in bytes. -/
def maxRoom : Nat := 10485760

/-- A pattern ready to be searched for. -/
structure Program where
  /-- The instructions. -/
  code : Code
  /-- The instruction it begins with. -/
  start : Nat
  /-- How many slots the places of groups are noted in. -/
  slots : Nat

/-- The program of an expression with the given number of groups, none if it takes too much room. -/
def Program.ofExpr? (groups : Nat) (e : Expr) : Option Program :=
  if maxRoom < e.room then none
  else
    let (start, code) := (Expr.capture 0 e).emit 0 #[.accept]
    some ⟨code, start, 2 * (groups + 1)⟩

end AsmHarness.Pattern
