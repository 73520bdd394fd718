import AsmHarness.Pattern.Syntax
import AsmHarness.Text.Digits
import AsmHarness.Unicode.GeneralCategory
import AsmHarness.Unicode.Property
import AsmHarness.Unicode.Table

/-!
# Small parts of patterns

Reading of what patterns are made of: blanks and comments, numbers, escapes and flags. Every reader
takes the text from where its part begins and gives back what it read with the text after it; none
means that the pattern is not well formed. In a spaced pattern blanks and comments may stand between
the characters of most parts.
-/

namespace AsmHarness.Pattern

open Unicode

/-- Whether a character is white space. -/
def isBlank (c : Char) : Bool := Property.whiteSpace.contains c.toNat

/-- What is left after blanks and comments; a comment goes on to the end of its line. -/
def skipBlanks (inComment : Bool) : List Char → List Char
  | [] => []
  | c :: rest =>
    if inComment then skipBlanks (c ≠ '\n') rest
    else if isBlank c then skipBlanks false rest
    else if c = '#' then skipBlanks true rest
    else c :: rest

/-- What is left after blanks and comments, if the pattern is spaced. -/
def skip (spaced : Bool) (s : List Char) : List Char :=
  if spaced then skipBlanks false s else s

/-- The next character that means something, as seen from the character before it. In a comment it
is the first character that is no blank. -/
def peek (spaced : Bool) (s : List Char) : Option Char :=
  if spaced then
    match s.dropWhile isBlank with
    | '#' :: rest => (rest.dropWhile isBlank).head?
    | rest => rest.head?
  else s.head?

/-! ## Numbers -/

/-- The greatest number that may be written in a pattern. -/
def maxNumber : Nat := 4294967295

/-- The digits at the beginning of a text, which blanks may separate in a spaced pattern. -/
def digits (spaced : Bool) : (fuel : Nat) → List Char → List Char × List Char
  | fuel + 1, c :: rest =>
    if c.isDigit then
      let (more, rest) := digits spaced fuel (skip spaced rest)
      (c :: more, rest)
    else ([], c :: rest)
  | _, s => ([], s)

/-- A decimal number with blanks around it. -/
def number? (spaced : Bool) (s : List Char) : Option (Nat × List Char) :=
  let s := s.dropWhile isBlank
  let (written, rest) := digits spaced s.length s
  let value := Text.decimal written
  if written = [] ∨ maxNumber < value then none
  else some (value, skip spaced (rest.dropWhile isBlank))

/-- Whether a character is a hexadecimal digit. -/
def isHexDigit (c : Char) : Bool :=
  c.isDigit || ('a' ≤ c && c ≤ 'f') || ('A' ≤ c && c ≤ 'F')

/-- The character with a code point, if there is one. -/
def charOf? (code : Nat) : Option Char :=
  if h : code.isValidChar then some (Char.ofNatAux code h) else none

/-- A given number of hexadecimal digits. -/
def fixedHex (spaced : Bool) : (count : Nat) → List Char → Option (List Char × List Char)
  | 0, rest => some ([], rest)
  | count + 1, s =>
    match s with
    | [] => none
    | c :: rest =>
      if isHexDigit c then
        (fixedHex spaced count (skip spaced rest)).map fun (more, rest) => (c :: more, rest)
      else none

/-- Hexadecimal digits up to a closing brace. -/
def bracedHex (spaced : Bool) : (fuel : Nat) → List Char → Option (List Char × List Char)
  | fuel + 1, c :: rest =>
    if c = '\x7d' then some ([], skip spaced rest)
    else if isHexDigit c then
      (bracedHex spaced fuel (skip spaced rest)).map fun (more, rest) => (c :: more, rest)
    else none
  | _, _ => none

/-- The character whose code point follows a letter that announces it: two digits after `x`, four
after `u`, eight after `U`, or any number between braces. -/
def hexEscape? (spaced : Bool) (kind : Char) (s : List Char) : Option (Literal × List Char) :=
  match skip spaced s with
  | [] => none
  | '\x7b' :: rest =>
    match bracedHex spaced (rest.length + 1) (skip spaced rest) with
    | none | some ([], _) => none
    | some (written, rest) => (charOf? (readHex written)).map (⟨·, false⟩, rest)
  | s =>
    let count := if kind = 'x' then 2 else if kind = 'u' then 4 else 8
    match fixedHex spaced count s with
    | none => none
    | some (written, rest) => (charOf? (readHex written)).map (⟨·, kind = 'x'⟩, rest)

/-! ## Escapes -/

/-- What an escape, a dot or a lone character stands for. -/
inductive Primitive where
  /-- A character. -/
  | literal (value : Literal)
  /-- A condition on the place. -/
  | assertion (kind : Assertion)
  /-- A class named by one letter. -/
  | shorthand (kind : Shorthand) (negated : Bool)
  /-- The characters with a property. -/
  | property (name : String) (value : Option String) (negated : Bool)

/-- Whether a character that stands for itself may be written behind a backslash. -/
def isEscapable (c : Char) : Bool :=
  c.toNat < 0x80 && !c.isAlphanum && c ≠ '<' && c ≠ '>'

/-- Cuts a text before and after the first place where `mark` stands in it. -/
def cutAt? (mark : List Char) : List Char → Option (List Char × List Char)
  | [] => none
  | c :: rest =>
    if mark.isPrefixOf (c :: rest) then some ([], (c :: rest).drop mark.length)
    else (cutAt? mark rest).map fun (before, after) => (c :: before, after)

/-- The name, and the value if there is one, that stands between the braces of a property. -/
def propertyName (text : List Char) : String × Option String :=
  let cut := (cutAt? ['!', '='] text).orElse fun _ =>
    (cutAt? [':'] text).orElse fun _ => cutAt? ['='] text
  match cut with
  | some (name, value) => (.ofList name, some (.ofList value))
  | none => (.ofList text, none)

/-- The text up to a closing brace, without the blanks of a spaced pattern. -/
def braced (spaced : Bool) : (fuel : Nat) → List Char → Option (List Char × List Char)
  | fuel + 1, c :: rest =>
    if c = '\x7d' then some ([], rest)
    else (braced spaced fuel (skip spaced rest)).map fun (more, rest) => (c :: more, rest)
  | _, _ => none

/-- A property, named by one letter or between braces. -/
def property? (spaced negated : Bool) (s : List Char) : Option (Primitive × List Char) :=
  match skip spaced s with
  | [] | '\\' :: _ => none
  | '\x7b' :: rest =>
    (braced spaced (rest.length + 1) (skip spaced rest)).map fun (text, rest) =>
      let (name, value) := propertyName text
      (.property name value negated, rest)
  | c :: rest => some (.property (.ofList [c]) none negated, skip spaced rest)

/-- Whether a character may stand in the name of a boundary. -/
def isBoundaryChar (c : Char) : Bool := c.isAlpha || c = '-'

/-- The name of a boundary up to the first character that cannot be part of it. -/
def boundaryName (spaced : Bool) : (fuel : Nat) → List Char → List Char × List Char
  | fuel + 1, c :: rest =>
    if isBoundaryChar c then
      let (more, rest) := boundaryName spaced fuel (skip spaced rest)
      (c :: more, rest)
    else ([], c :: rest)
  | _, s => ([], s)

/-- What follows the letter of a word boundary: its kind between braces, or something else, such as
how often it is repeated. -/
def boundary? (spaced : Bool) (s : List Char) : Option (Assertion × List Char) :=
  match s with
  | '\x7b' :: rest =>
    match skip spaced rest with
    | [] => none
    | c :: rest =>
      if isBoundaryChar c then
        match boundaryName spaced (rest.length + 1) (c :: rest) with
        | (name, '\x7d' :: rest) =>
          ([("start", Assertion.wordStart), ("end", .wordEnd), ("start-half", .wordStartHalf),
            ("end-half", .wordEndHalf)].lookup (String.ofList name)).map (·, rest)
        | _ => none
      else some (.wordBoundary, s)
  | _ => some (.wordBoundary, s)

/-- What an escape stands for, given the text after the backslash. -/
def escape? (spaced : Bool) (s : List Char) : Option (Primitive × List Char) :=
  match s with
  | [] => none
  | c :: rest =>
    let char (value : Char) := some (Primitive.literal ⟨value, false⟩, rest)
    match c with
    | 'x' | 'u' | 'U' => (hexEscape? spaced c rest).map fun (value, rest) => (.literal value, rest)
    | 'p' => property? spaced false rest
    | 'P' => property? spaced true rest
    | 'd' => some (.shorthand .digit false, rest)
    | 'D' => some (.shorthand .digit true, rest)
    | 's' => some (.shorthand .space false, rest)
    | 'S' => some (.shorthand .space true, rest)
    | 'w' => some (.shorthand .word false, rest)
    | 'W' => some (.shorthand .word true, rest)
    | 'a' => char '\x07'
    | 'f' => char '\x0c'
    | 't' => char '\t'
    | 'n' => char '\n'
    | 'r' => char '\r'
    | 'v' => char '\x0b'
    | 'A' => some (.assertion .textStart, rest)
    | 'z' => some (.assertion .textEnd, rest)
    | 'b' => (boundary? spaced rest).map fun (kind, rest) => (.assertion kind, rest)
    | 'B' => some (.assertion .notWordBoundary, rest)
    | '<' => some (.assertion .wordStart, rest)
    | '>' => some (.assertion .wordEnd, rest)
    | c => if isEscapable c then char c else none

/-! ## Flags -/

/-- The flag a letter stands for. -/
def flagOf? (c : Char) : Option Flag :=
  [('i', Flag.caseInsensitive), ('m', .multiLine), ('s', .dotAll), ('U', .swapGreed),
    ('u', .unicode), ('R', .anyLineEnd), ('x', .spaced)].lookup c

/-- Reads flags up to the mark that ends them: flags before a minus sign are set, those after it are
cleared. No flag may be named twice, and the sign neither repeated nor left without flags. -/
def flags? (seen : FlagChange) (clearing lastWasSign : Bool) :
    List Char → Option (FlagChange × List Char)
  | [] => none
  | c :: rest =>
    if c = ':' ∨ c = ')' then if lastWasSign then none else some (seen.reverse, c :: rest)
    else if c = '-' then if clearing then none else flags? seen true true rest
    else match flagOf? c with
      | none => none
      | some flag =>
        if seen.any (·.1 = flag) then none
        else flags? ((flag, !clearing) :: seen) clearing false rest

/-! ## Names -/

/-- Whether a letter or digit of any script. -/
def isWordLetter (c : Char) : Bool :=
  Property.alphabetic.contains c.toNat

/-- Whether a character may stand in the name of a group. -/
def isNameChar (first : Bool) (c : Char) : Bool :=
  c = '_' || isWordLetter c ||
    (!first && (c = '.' || c = '[' || c = ']' ||
      [GeneralCategory.decimalNumber, .letterNumber, .otherNumber].contains (.of c.toNat)))

/-- The name of a group, up to the mark that closes it. -/
def groupName? (s : List Char) : Option (String × List Char) :=
  match s.takeWhile (· ≠ '>'), s.dropWhile (· ≠ '>') with
  | c :: name, _ :: rest =>
    if isNameChar true c && name.all (isNameChar false) then some (.ofList (c :: name), rest)
    else none
  | _, _ => none

end AsmHarness.Pattern
