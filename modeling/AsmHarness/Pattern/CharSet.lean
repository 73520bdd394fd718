import AsmHarness.Unicode.GeneralCategory
import AsmHarness.Unicode.Script
import AsmHarness.Unicode.ScriptExtensions
import AsmHarness.Unicode.Property
import AsmHarness.Unicode.Age
import AsmHarness.Unicode.Segmentation
import AsmHarness.Unicode.CaseFolding

/-!
# Sets of characters

The sets that classes of a pattern stand for, built from ranges and tables by the operations of set
algebra. Membership follows the construction, so that each operation means what its name says.
-/

namespace AsmHarness.Pattern

open Unicode

/-- A set of code points. -/
inductive CharSet where
  /-- No code point. -/
  | empty
  /-- The code points from one to another. -/
  | range (first last : Nat)
  /-- The code points of a table. -/
  | table (set : CodePoints)
  /-- The code points of some general categories. -/
  | categories (kinds : List GeneralCategory)
  /-- The code points of a script. -/
  | script (code : String)
  /-- What is in one of two sets. -/
  | union (left right : CharSet)
  /-- What is in both of two sets. -/
  | inter (left right : CharSet)
  /-- What is not in a set. -/
  | compl (set : CharSet)
  /-- What equals a member of a set up to case. -/
  | folded (set : CharSet)
  /-- What equals a member of a set up to the case of letters of ASCII. -/
  | foldedAscii (set : CharSet)

namespace CharSet

/-- A letter of ASCII in the other case, any other code point as it is. -/
def otherAsciiCase (code : Nat) : Nat :=
  if 0x41 ≤ code ∧ code ≤ 0x5A then code + 0x20
  else if 0x61 ≤ code ∧ code ≤ 0x7A then code - 0x20
  else code

/-- Whether a code point is in the set. -/
def contains : CharSet → Nat → Bool
  | .empty, _ => false
  | .range first last, code => first ≤ code && code ≤ last
  | .table set, code => set.contains code
  | .categories kinds, code => kinds.contains (GeneralCategory.of code)
  | .script name, code => Script.of code = name
  | .union left right, code => left.contains code || right.contains code
  | .inter left right, code => left.contains code && right.contains code
  | .compl set, code => !set.contains code
  | .folded set, code => (caseClass code).any set.contains
  | .foldedAscii set, code => set.contains code || set.contains (otherAsciiCase code)

/-- What is in the first set and not in the second. -/
def diff (left right : CharSet) : CharSet := .inter left (.compl right)

/-- What is in exactly one of two sets. -/
def symmDiff (left right : CharSet) : CharSet :=
  .union (left.diff right) (right.diff left)

/-- One character. -/
def single (c : Char) : CharSet := .range c.toNat c.toNat

/-- Some characters. -/
def ofChars (chars : List Char) : CharSet := chars.foldr (fun c set => .union (single c) set) .empty

/-- Some ranges of characters. -/
def ofRanges (ranges : List (Char × Char)) : CharSet :=
  ranges.foldr (fun (first, last) set => .union (.range first.toNat last.toNat) set) .empty

/-- Whether no byte outside of ASCII is in the set. -/
def isAscii (set : CharSet) : Bool :=
  (List.range 0x80).all fun i => !set.contains (0x80 + i)

/-- How much room a set takes in a compiled pattern, counted in ranges. -/
def weight : CharSet → Nat
  | .empty => 1
  | .range .. => 1
  | .table set => set.bounds.size / 2
  | .categories kinds => (GeneralCategory.runs.runs.filter fun run => kinds.contains run.2).size
  | .script code => (Script.runs.runs.filter fun run => run.2 = code).size
  | .union left right => left.weight + right.weight
  | .inter left right => min left.weight right.weight
  | .compl set => set.weight
  | .folded set => set.weight + 1
  | .foldedAscii set => set.weight + 1

/-! ## Named sets -/

/-- A name as it is compared: in small letters, without blanks, minus signs and underscores, and
without `is` in front of it. The name of the category Other alone keeps its `is`. -/
def normalizeName (name : String) : List Char :=
  let chars := name.toList
  let (prefixed, chars) := match chars with
    | i :: s :: rest =>
      if i.toLower = 'i' ∧ s.toLower = 's' then (true, rest) else (false, chars)
    | _ => (false, chars)
  let counts (c : Char) : Bool := c ≠ ' ' && c ≠ '_' && c ≠ '-' && c.toNat < 0x80
  let kept := (chars.filter counts).map Char.toLower
  if prefixed && kept = ['c'] then ['i', 's', 'c'] else kept

/-- Whether one of several names is the same as `key` when compared. -/
def named (names : List String) (key : List Char) : Bool :=
  names.any fun name => normalizeName name = key

/-- The general categories by name: single ones, groups of them, and the sets of all, of all
assigned and of all ASCII code points. -/
def categoryNames : List (List String × CharSet) :=
  let pick (letters : List String) : CharSet :=
    .categories (letters.filterMap GeneralCategory.ofSymbol)
  [(["any"], .range 0 0x10FFFF),
   (["ascii"], .range 0 0x7F),
   (["assigned"], .compl (pick ["Cn"])),
   (["L", "Letter"], pick ["Lu", "Ll", "Lt", "Lm", "Lo"]),
   (["LC", "Cased_Letter"], pick ["Lu", "Ll", "Lt"]),
   (["M", "Mark", "Combining_Mark"], pick ["Mn", "Mc", "Me"]),
   (["N", "Number"], pick ["Nd", "Nl", "No"]),
   (["P", "Punctuation", "punct"], pick ["Pc", "Pd", "Ps", "Pe", "Pi", "Pf", "Po"]),
   (["S", "Symbol"], pick ["Sm", "Sc", "Sk", "So"]),
   (["Z", "Separator"], pick ["Zs", "Zl", "Zp"]),
   (["C", "Other"], pick ["Cc", "Cf", "Cs", "Co", "Cn"]),
   (["Lu", "Uppercase_Letter"], pick ["Lu"]),
   (["Ll", "Lowercase_Letter"], pick ["Ll"]),
   (["Lt", "Titlecase_Letter"], pick ["Lt"]),
   (["Lm", "Modifier_Letter"], pick ["Lm"]),
   (["Lo", "Other_Letter"], pick ["Lo"]),
   (["Mn", "Nonspacing_Mark"], pick ["Mn"]),
   (["Mc", "Spacing_Mark"], pick ["Mc"]),
   (["Me", "Enclosing_Mark"], pick ["Me"]),
   (["Nd", "Decimal_Number", "digit"], pick ["Nd"]),
   (["Nl", "Letter_Number"], pick ["Nl"]),
   (["No", "Other_Number"], pick ["No"]),
   (["Pc", "Connector_Punctuation"], pick ["Pc"]),
   (["Pd", "Dash_Punctuation"], pick ["Pd"]),
   (["Ps", "Open_Punctuation"], pick ["Ps"]),
   (["Pe", "Close_Punctuation"], pick ["Pe"]),
   (["Pi", "Initial_Punctuation"], pick ["Pi"]),
   (["Pf", "Final_Punctuation"], pick ["Pf"]),
   (["Po", "Other_Punctuation"], pick ["Po"]),
   (["Sm", "Math_Symbol"], pick ["Sm"]),
   (["Sc", "Currency_Symbol"], pick ["Sc"]),
   (["Sk", "Modifier_Symbol"], pick ["Sk"]),
   (["So", "Other_Symbol"], pick ["So"]),
   (["Zs", "Space_Separator"], pick ["Zs"]),
   (["Zl", "Line_Separator"], pick ["Zl"]),
   (["Zp", "Paragraph_Separator"], pick ["Zp"]),
   (["Cc", "Control", "cntrl"], pick ["Cc"]),
   (["Cf", "Format"], pick ["Cf"]),
   (["Cs", "Surrogate"], pick ["Cs"]),
   (["Co", "Private_Use"], pick ["Co"]),
   (["Cn", "Unassigned"], pick ["Cn"])]

/-- The general category, or group of categories, of a name. -/
def category? (key : List Char) : Option CharSet :=
  (categoryNames.find? fun (names, _) => named names key).map (·.2)

/-- The symbol that goes by a name, where each symbol is listed with its other names. -/
def symbol? (symbols : List (String × List String)) (key : List Char) : Option String :=
  (symbols.find? fun (symbol, names) => named (symbol :: names) key).map (·.1)

/-- The code of the script of a name. -/
def scriptCode? (key : List Char) : Option String := symbol? Script.names key

/-- The code points used in a script. -/
def usedIn (code : String) : CharSet :=
  match Script.extensionChanges.lookup code with
  | some changes => symmDiff (.script code) (.table changes)
  | none => .script code

/-- The property of a name. -/
def binary? (key : List Char) : Option CharSet :=
  (Property.named.find? fun (name, short, _) => named (name :: short) key).map (.table ·.2.2)

/-- The code points of one kind of a table. -/
def ofKind (runs : Runs String) (symbol : String) : CharSet := .table (runs.select (· = symbol))

/-- The set a value of a property stands for. The script of what is used in several can be asked for
as well; the age is that of a version and of those before it. -/
def ofValue? (key value : List Char) : Option CharSet :=
  if named ["gc", "General_Category"] key then category? value
  else if named ["sc", "Script"] key then (scriptCode? value).map .script
  else if named ["scx", "Script_Extensions"] key then (scriptCode? value).map usedIn
  else if named ["age"] key then (symbol? Age.versions value).map (.table <| Age.upTo ·)
  else if named ["gcb", "Grapheme_Cluster_Break"] key then
    (symbol? Segmentation.graphemeNames value).map (ofKind Segmentation.graphemeRuns)
  else if named ["wb", "Word_Break"] key then
    (symbol? Segmentation.wordNames value).map (ofKind Segmentation.wordRuns)
  else if named ["sb", "Sentence_Break"] key then
    (symbol? Segmentation.sentenceNames value).map (ofKind Segmentation.sentenceRuns)
  else none

/-- The set a property stands for: a property of its own, a general category or a script, or, where
a value is given, a value of a property that has several. -/
def ofProperty? (name : String) (value : Option String) : Option CharSet :=
  match value with
  | none =>
    let key := normalizeName name
    (binary? key).orElse fun _ => (category? key).orElse fun _ => (scriptCode? key).map .script
  | some value => ofValue? (normalizeName name) (normalizeName value)

/-- Decimal digits. -/
def digit : CharSet := .categories [.decimalNumber]

/-- White space. -/
def space : CharSet := .table Property.whiteSpace

/-- Characters of words: letters, marks, decimal digits, connectors and the marks that join. -/
def word : CharSet :=
  .union (.table Property.alphabetic)
    (.union
      (.categories [.nonspacingMark, .spacingMark, .enclosingMark, .decimalNumber,
        .connectorPunctuation])
      (.table Property.joinControl))

/-- Decimal digits of ASCII. -/
def asciiDigit : CharSet := ofRanges [('0', '9')]

/-- White space of ASCII. -/
def asciiSpace : CharSet := ofChars ['\t', '\n', '\x0b', '\x0c', '\r', ' ']

/-- Characters of words in ASCII. -/
def asciiWord : CharSet := ofRanges [('0', '9'), ('A', 'Z'), ('_', '_'), ('a', 'z')]

end CharSet

/-- Whether a character belongs to words, in Unicode or in ASCII alone. -/
def isWordChar (unicode : Bool) (c : Char) : Bool :=
  if c.toNat < 0x80 || !unicode then c.isAlphanum || c = '_' else CharSet.word.contains c.toNat

end AsmHarness.Pattern
