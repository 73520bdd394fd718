/-!
# Syntax of patterns

What a pattern says before flags and names are given their meaning: literals, classes, assertions,
repetitions, groups, sequences and alternatives, as they are written.
-/

namespace AsmHarness.Pattern

/-- A flag that changes how the rest of a group is read. -/
inductive Flag where
  /-- Letters match in either case. -/
  | caseInsensitive
  /-- Line assertions match at every line. -/
  | multiLine
  /-- The dot matches line feeds too. -/
  | dotAll
  /-- Greedy and reluctant repetition change places. -/
  | swapGreed
  /-- Classes and case follow Unicode rather than ASCII. -/
  | unicode
  /-- Lines end at a carriage return, a line feed or both. -/
  | anyLineEnd
  /-- Blanks and comments between items mean nothing. -/
  | spaced
  deriving DecidableEq, Repr

/-- A change of flags: each named flag is set or cleared. -/
abbrev FlagChange := List (Flag × Bool)

/-- A character that stands for itself. -/
structure Literal where
  /-- The character. -/
  char : Char
  /-- Whether it is written as a byte, by two hexadecimal digits. -/
  isByte : Bool := false
  deriving DecidableEq, Repr

/-- A class named by one letter. -/
inductive Shorthand where
  /-- Decimal digits. -/
  | digit
  /-- White space. -/
  | space
  /-- Characters of words. -/
  | word
  deriving DecidableEq, Repr

/-- A class of ASCII characters named between colons. -/
inductive AsciiClass where
  /-- Letters and digits. -/
  | alnum
  /-- Letters. -/
  | alpha
  /-- All of ASCII. -/
  | ascii
  /-- The blank and the tab. -/
  | blank
  /-- Control characters. -/
  | cntrl
  /-- Digits. -/
  | digit
  /-- Visible characters. -/
  | graph
  /-- Small letters. -/
  | lower
  /-- Visible characters and the blank. -/
  | print
  /-- Marks of punctuation. -/
  | punct
  /-- White space. -/
  | space
  /-- Capital letters. -/
  | upper
  /-- Letters, digits and the underscore. -/
  | word
  /-- Hexadecimal digits. -/
  | xdigit
  deriving DecidableEq, Repr

/-- How two sets of a bracketed class are combined. -/
inductive SetOperation where
  /-- What is in both. -/
  | intersection
  /-- What is in the first and not in the second. -/
  | difference
  /-- What is in exactly one of the two. -/
  | symmetricDifference
  deriving DecidableEq, Repr

/-- What stands inside the brackets of a class. -/
inductive ClassSet where
  /-- The characters from one to another. -/
  | range (first last : Literal)
  /-- A class named by one letter. -/
  | shorthand (kind : Shorthand) (negated : Bool)
  /-- A class named between colons. -/
  | named (kind : AsciiClass) (negated : Bool)
  /-- The characters with a property, or with a value of one. -/
  | property (name : String) (value : Option String) (negated : Bool)
  /-- A bracketed class inside the brackets. -/
  | nested (set : ClassSet) (negated : Bool)
  /-- Everything in one of several sets. -/
  | union (items : List ClassSet)
  /-- Two sets combined. -/
  | combine (operation : SetOperation) (left right : ClassSet)
  deriving Repr

/-- A condition on a place in the text. -/
inductive Assertion where
  /-- The beginning of a line, or of the text. -/
  | lineStart
  /-- The end of a line, or of the text. -/
  | lineEnd
  /-- The beginning of the text. -/
  | textStart
  /-- The end of the text. -/
  | textEnd
  /-- Between a word character and one that is none. -/
  | wordBoundary
  /-- Not between a word character and one that is none. -/
  | notWordBoundary
  /-- Before a word character and not after one. -/
  | wordStart
  /-- After a word character and not before one. -/
  | wordEnd
  /-- Not after a word character. -/
  | wordStartHalf
  /-- Not before a word character. -/
  | wordEndHalf
  deriving DecidableEq, Repr

/-- What a pair of parentheses does besides grouping. -/
inductive GroupKind where
  /-- Captures what it matches, under a number and possibly a name. -/
  | capture (index : Nat) (name : Option String)
  /-- Changes flags inside the group. -/
  | flags (change : FlagChange)
  deriving DecidableEq, Repr

/-- How often something is repeated. -/
structure Repeat where
  /-- The least number of times. -/
  least : Nat
  /-- The greatest number of times, if there is one. -/
  most : Option Nat
  /-- Whether more times are preferred to fewer. -/
  greedy : Bool
  deriving DecidableEq, Repr

/-- A pattern as it is written. -/
inductive Syntax where
  /-- Nothing. -/
  | empty
  /-- A change of flags for the rest of the group. -/
  | flags (change : FlagChange)
  /-- A character. -/
  | literal (value : Literal)
  /-- Any character, or any that does not end a line. -/
  | dot
  /-- A condition on the place. -/
  | assertion (kind : Assertion)
  /-- A class. -/
  | set (value : ClassSet)
  /-- A repetition. -/
  | repeated (times : Repeat) (body : Syntax)
  /-- A group. -/
  | group (kind : GroupKind) (body : Syntax)
  /-- One after the other. -/
  | sequence (items : List Syntax)
  /-- One of several, the first that matches being preferred. -/
  | alternatives (items : List Syntax)
  deriving Repr

/-- How deeply the parts of a set are nested. -/
def ClassSet.depth : ClassSet → Nat
  | .nested set _ => set.depth + 1
  | .union items => (items.attach.map fun ⟨item, _⟩ => item.depth).foldl max 0 + 1
  | .combine _ left right => max left.depth right.depth + 1
  | _ => 0

/-- How deeply the parts of a pattern are nested. -/
def Syntax.depth : Syntax → Nat
  | .set value => value.depth
  | .repeated _ body => body.depth + 1
  | .group _ body => body.depth + 1
  | .sequence items => (items.attach.map fun ⟨item, _⟩ => item.depth).foldl max 0 + 1
  | .alternatives items => (items.attach.map fun ⟨item, _⟩ => item.depth).foldl max 0 + 1
  | _ => 0

end AsmHarness.Pattern
