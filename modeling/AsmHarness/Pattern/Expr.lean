import AsmHarness.Pattern.Parser
import AsmHarness.Pattern.CharSet

/-!
# Meaning of patterns

A pattern that is well written is turned into an expression over sets of characters and conditions
on places; flags are gone after that. Texts consist of whole characters, so what could match a part
of one is refused: a set of bytes must not go beyond ASCII.
-/

namespace AsmHarness.Pattern

/-- A condition on a place in the text. -/
inductive Look where
  /-- The beginning of the text. -/
  | start
  /-- The end of the text. -/
  | stop
  /-- The beginning of the text, or after a line feed. -/
  | lineStart
  /-- The end of the text, or before a line feed. -/
  | lineStop
  /-- The beginning of the text, or after a line end, whichever kind it is. -/
  | anyLineStart
  /-- The end of the text, or before a line end, whichever kind it is. -/
  | anyLineStop
  /-- What an assertion about words says, in Unicode or in ASCII alone. -/
  | word (kind : Assertion) (unicode : Bool)
  deriving DecidableEq, Repr

/-- A pattern whose flags have been resolved. -/
inductive Expr where
  /-- Matches the empty text. -/
  | empty
  /-- Matches one character of a set. -/
  | set (chars : CharSet)
  /-- Matches the empty text at some places. -/
  | look (kind : Look)
  /-- A repetition. -/
  | repeated (times : Repeat) (body : Expr)
  /-- What the body matches is captured. -/
  | capture (index : Nat) (body : Expr)
  /-- One after the other. -/
  | seq (first second : Expr)
  /-- The first, or else the second. -/
  | alt (first second : Expr)

/-- The flags in force. -/
structure Flags where
  /-- Letters match in either case. -/
  caseInsensitive : Bool
  /-- Line assertions match at every line. -/
  multiLine : Bool
  /-- The dot matches line feeds too. -/
  dotAll : Bool
  /-- Greedy and reluctant repetition change places. -/
  swapGreed : Bool
  /-- Classes and case follow Unicode rather than ASCII. -/
  unicode : Bool
  /-- Lines end at a carriage return, a line feed or both. -/
  anyLineEnd : Bool
  deriving DecidableEq, Repr

namespace Flags

/-- The flags a pattern starts with: line assertions match at every line. -/
def initial : Flags := ⟨false, true, false, false, true, false⟩

/-- The flags with one of them set or cleared. -/
def set (f : Flags) (flag : Flag) (value : Bool) : Flags :=
  match flag with
  | .caseInsensitive => { f with caseInsensitive := value }
  | .multiLine => { f with multiLine := value }
  | .dotAll => { f with dotAll := value }
  | .swapGreed => { f with swapGreed := value }
  | .unicode => { f with unicode := value }
  | .anyLineEnd => { f with anyLineEnd := value }
  | .spaced => f

/-- The flags after a change. -/
def change (f : Flags) (change : FlagChange) : Flags :=
  change.foldl (fun f (flag, value) => f.set flag value) f

end Flags

/-! ## Classes -/

/-- The characters of a class named between colons. -/
def AsciiClass.chars : AsciiClass → CharSet
  | .alnum => .ofRanges [('0', '9'), ('A', 'Z'), ('a', 'z')]
  | .alpha => .ofRanges [('A', 'Z'), ('a', 'z')]
  | .ascii => .ofRanges [('\x00', '\x7f')]
  | .blank => .ofChars ['\t', ' ']
  | .cntrl => .ofRanges [('\x00', '\x1f'), ('\x7f', '\x7f')]
  | .digit => .ofRanges [('0', '9')]
  | .graph => .ofRanges [('!', '~')]
  | .lower => .ofRanges [('a', 'z')]
  | .print => .ofRanges [(' ', '~')]
  | .punct => .ofRanges [('!', '/'), (':', '@'), ('[', '\x60'), ('\x7b', '~')]
  | .space => .ofChars ['\t', '\n', '\x0b', '\x0c', '\r', ' ']
  | .upper => .ofRanges [('A', 'Z')]
  | .word => .ofRanges [('0', '9'), ('A', 'Z'), ('_', '_'), ('a', 'z')]
  | .xdigit => .ofRanges [('0', '9'), ('A', 'F'), ('a', 'f')]

/-- The characters of a class named by one letter. -/
def Shorthand.chars (unicode : Bool) : Shorthand → CharSet
  | .digit => if unicode then .digit else .asciiDigit
  | .space => if unicode then .space else .asciiSpace
  | .word => if unicode then .word else .asciiWord

namespace Flags

/-- A set closed under case, if case does not matter. -/
def fold (f : Flags) (set : CharSet) : CharSet :=
  if !f.caseInsensitive then set
  else if f.unicode then .folded set
  else .foldedAscii set

/-- A set, or what is not in it. A set of bytes must not go beyond ASCII. -/
def negate? (f : Flags) (negated : Bool) (set : CharSet) : Option CharSet :=
  let set := if negated then .compl set else set
  if f.unicode then some set
  else if set.isAscii then some (.inter set (.range 0 0x7F))
  else none

/-- The code point or byte that a literal of a class stands for. -/
def classLiteral? (f : Flags) (value : Literal) : Option Nat :=
  let code := value.char.toNat
  if f.unicode then some code
  else if value.isByte && 0x7F < code then none
  else if code ≤ 0xFF then some code
  else none

/-- The set that is made of two sets by an operation. -/
def combine (f : Flags) (operation : SetOperation) (left right : CharSet) : CharSet :=
  let left := f.fold left
  let right := f.fold right
  match operation with
  | .intersection => .inter left right
  | .difference => left.diff right
  | .symmetricDifference => left.symmDiff right

mutual

/-- The set that the inside of a class stands for. -/
def classSet? (f : Flags) : ClassSet → Option CharSet
  | .range first last => do
    let first ← f.classLiteral? first
    let last ← f.classLiteral? last
    some (.range first last)
  | .shorthand kind negated => f.negate? negated (kind.chars f.unicode)
  | .named kind negated => f.negate? negated (f.fold kind.chars)
  | .property name value negated =>
    if !f.unicode then none
    else match CharSet.ofProperty? name value with
      | none => none
      | some set => f.negate? negated (f.fold set)
  | .nested set negated => (f.classSet? set).bind fun set => f.negate? negated (f.fold set)
  | .union items => f.classUnion? items
  | .combine operation left right => do
    let left ← f.classSet? left
    let right ← f.classSet? right
    some (f.combine operation left right)

/-- The set of what is in one of several sets. -/
def classUnion? (f : Flags) : List ClassSet → Option CharSet
  | [] => some .empty
  | item :: rest => do
    let item ← f.classSet? item
    let rest ← f.classUnion? rest
    some (.union item rest)

end

/-- The characters that a literal matches. A byte beyond ASCII is no character. -/
def literal? (f : Flags) (value : Literal) : Option CharSet :=
  if !f.unicode && value.isByte && 0x7F < value.char.toNat then none
  else some (f.fold (.single value.char))

/-- The characters that a dot matches. -/
def dot? (f : Flags) : Option CharSet :=
  if !f.unicode then none
  else if f.dotAll then some (.range 0 0x10FFFF)
  else if f.anyLineEnd then some (.compl (.ofChars ['\n', '\r']))
  else some (.compl (.single '\n'))

/-- The condition that an assertion stands for. -/
def look (f : Flags) : Assertion → Look
  | .lineStart =>
    if !f.multiLine then .start else if f.anyLineEnd then .anyLineStart else .lineStart
  | .lineEnd =>
    if !f.multiLine then .stop else if f.anyLineEnd then .anyLineStop else .lineStop
  | .textStart => .start
  | .textEnd => .stop
  | kind => .word kind f.unicode

end Flags

/-! ## Expressions -/

namespace Expr

/-- Whether an expression matches nothing but the empty text. -/
def isAlwaysEmpty : Expr → Bool
  | .empty => true
  | .set _ => false
  | .look _ => true
  | .repeated times body => times.most = some 0 || body.isAlwaysEmpty
  | .capture _ body => body.isAlwaysEmpty
  | .seq first second => first.isAlwaysEmpty && second.isAlwaysEmpty
  | .alt first second => first.isAlwaysEmpty && second.isAlwaysEmpty

/-- Whether an expression can match the empty text. -/
def canBeEmpty : Expr → Bool
  | .empty => true
  | .set _ => false
  | .look _ => true
  | .repeated times body => times.least = 0 || body.canBeEmpty
  | .capture _ body => body.canBeEmpty
  | .seq first second => first.canBeEmpty && second.canBeEmpty
  | .alt first second => first.canBeEmpty || second.canBeEmpty

/-- A repetition in its simplest form: what only matches the empty text is repeated once at most, no
repetition at all is empty, and exactly one is the body itself. -/
def repeat_ (times : Repeat) (body : Expr) : Expr :=
  let times : Repeat :=
    if body.isAlwaysEmpty then
      { times with least := min times.least 1, most := some (min (times.most.getD 1) 1) }
    else times
  if times.most = some 0 then .empty
  else if times.least = 1 ∧ times.most = some 1 then body
  else .repeated times body

end Expr

mutual

/-- The expression that a pattern stands for, and the flags in force after it. -/
def Syntax.expr? (f : Flags) : Syntax → Option (Expr × Flags)
  | .empty => some (.empty, f)
  | .flags change => some (.empty, f.change change)
  | .literal value => (f.literal? value).map fun set => (.set set, f)
  | .dot => f.dot?.map fun set => (.set set, f)
  | .assertion kind => some (.look (f.look kind), f)
  | .set value => (f.classSet? value).map fun set => (.set set, f)
  | .repeated times body =>
    match body.expr? f with
    | none => none
    | some (body, f) => some (.repeat_ { times with greedy := times.greedy != f.swapGreed } body, f)
  | .group (.capture index _) body =>
    (body.expr? f).map fun (body, _) => (.capture index body, f)
  | .group (.flags change) body => (body.expr? (f.change change)).map fun (body, _) => (body, f)
  | .sequence items => sequence? f items
  | .alternatives items => alternatives? f items

/-- The expression that several parts stand for, one after the other. -/
def sequence? (f : Flags) : List Syntax → Option (Expr × Flags)
  | [] => some (.empty, f)
  | item :: rest =>
    match item.expr? f with
    | none => none
    | some (item, f) => (sequence? f rest).map fun (rest, f) => (.seq item rest, f)

/-- The expression that several alternatives stand for. -/
def alternatives? (f : Flags) : List Syntax → Option (Expr × Flags)
  | [] => some (.empty, f)
  | [item] => item.expr? f
  | item :: rest =>
    match item.expr? f with
    | none => none
    | some (item, f) => (alternatives? f rest).map fun (rest, f) => (.alt item rest, f)

end

end AsmHarness.Pattern
