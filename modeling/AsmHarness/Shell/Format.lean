import AsmHarness.Shell.State

/-!
# Formatted output

The command `printf` writes a format in which backslashes and percent signs have a meaning: a
percent sign and a letter stand for the next argument. The format is used again until no argument is
left.
-/

namespace AsmHarness.Shell

/-- The bytes of a character. -/
def charBytes (c : Char) : ByteArray := (String.singleton c).toUTF8

/-- The byte that up to three octal digits stand for, and what follows them. -/
def octal (s : List Char) : ByteArray × List Char :=
  let isOctal (c : Char) : Bool := '0' ≤ c && c ≤ '7'
  let digits := (s.take 3).takeWhile isOctal
  let value := digits.foldl (fun n c => 8 * n + (c.toNat - '0'.toNat)) 0
  (⟨#[value.toUInt8]⟩, s.drop digits.length)

/-- The byte that a letter behind a backslash stands for. -/
def letterEscape? : Char → Option UInt8
  | '\\' => some 92
  | 'a' => some 7
  | 'b' => some 8
  | 'e' => some 27
  | 'f' => some 12
  | 'n' => some 10
  | 'r' => some 13
  | 't' => some 9
  | 'v' => some 11
  | _ => none

/-- The bytes that stand behind a backslash, and what follows them. A backslash without a meaning
stands for itself. -/
def escapeBytes (s : List Char) : ByteArray × List Char :=
  match s with
  | [] => (charBytes '\\', [])
  | c :: rest =>
    match letterEscape? c with
    | some b => (⟨#[b]⟩, rest)
    | none => if '0' ≤ c ∧ c ≤ '7' then octal s else (charBytes '\\', s)

/-- The bytes of a text in which backslashes have a meaning, and whether the output ends with it;
`fuel` is bounded by the length of the text. -/
def unescaped : (fuel : Nat) → List Char → ByteArray → ByteArray × Bool
  | 0, _, written => (written, false)
  | _, [], written => (written, false)
  | _, '\\' :: 'c' :: _, written => (written, true)
  | fuel + 1, '\\' :: '0' :: rest, written =>
    let (bytes, rest) := octal rest
    unescaped fuel rest (written ++ bytes)
  | fuel + 1, '\\' :: rest, written =>
    let (bytes, rest) := escapeBytes rest
    unescaped fuel rest (written ++ bytes)
  | fuel + 1, c :: rest, written => unescaped fuel rest (written ++ charBytes c)

/-- How a value is laid out. -/
structure Layout where
  /-- Whether it stands at the left. -/
  left : Bool := false
  /-- Whether zeros stand in front of a number. -/
  zeros : Bool := false
  /-- How wide it is at least. -/
  width : Nat := 0
  /-- How many characters it has at most, or digits at least. -/
  precision : Option Nat := none

/-- Some bytes, filled up to the width of a layout. -/
def Layout.pad (l : Layout) (bytes : ByteArray) : ByteArray :=
  let fill : ByteArray := ⟨Array.replicate (l.width - bytes.size) 32⟩
  if l.left then bytes ++ fill else fill ++ bytes

/-- A number with the digits of a base. -/
def Layout.number (l : Layout) (negative : Bool) (digits : List Char) : ByteArray :=
  let sign := if negative then ['-'] else []
  let least := match l.precision with
    | some n => n
    | none => if l.zeros && !l.left then l.width - sign.length else 0
  let digits := List.replicate (least - digits.length) '0' ++ digits
  l.pad (String.ofList (sign ++ digits)).toUTF8

/-- What comes of writing a format once. -/
structure Formatted where
  /-- What is written. -/
  written : ByteArray
  /-- The arguments that are left. -/
  left : List String
  /-- Whether an argument was asked for. -/
  asked : Bool
  /-- Whether the output ends here. -/
  ended : Bool := false
  /-- Whether an argument was no number where one was needed. -/
  faulty : List String := []
  /-- What is wrong with the format, if something is. -/
  complaint : Option String := none

/-- The value of a numeric argument. -/
def numericValue (text : String) : Int :=
  match text.toList with
  | '\'' :: c :: _ | '"' :: c :: _ => c.toNat
  | _ => (integer? text).getD 0

/-- Whether an argument can be read as a number. -/
def isNumeric (text : String) : Bool :=
  match text.toList with
  | [] | '\'' :: _ | '"' :: _ => true
  | _ => (integer? text).isSome

/-- A number as an unsigned one of 64 bits. -/
def unsigned (n : Int) : Nat := (n % 0x10000000000000000).toNat

/-- Adds the next argument, laid out as a letter says; none if the letter has no meaning. -/
def Formatted.convert? (f : Formatted) (l : Layout) (letter : Char) : Option Formatted :=
  let text := f.left.headD ""
  let f := { f with left := f.left.tail, asked := true }
  let numeric (bytes : ByteArray) : Option Formatted :=
    some { f with
      written := f.written ++ bytes
      faulty := if isNumeric text then f.faulty else f.faulty ++ [text] }
  let value := numericValue text
  match letter with
  | 's' =>
    let bytes := text.toUTF8
    let bytes := l.precision.elim bytes fun n => bytes.extract 0 n
    some { f with written := f.written ++ l.pad bytes }
  | 'b' =>
    let (bytes, ended) := unescaped (text.length + 1) text.toList .empty
    some { f with written := f.written ++ l.pad bytes, ended := ended }
  | 'c' =>
    let bytes := text.toUTF8.extract 0 1
    some { f with written := f.written ++ l.pad (if bytes.isEmpty then ⟨#[0]⟩ else bytes) }
  | 'd' | 'i' => numeric (l.number (value < 0) (Nat.toDigits 10 value.natAbs))
  | 'u' => numeric (l.number false (Nat.toDigits 10 (unsigned value)))
  | 'o' => numeric (l.number false (Nat.toDigits 8 (unsigned value)))
  | 'x' => numeric (l.number false (Nat.toDigits 16 (unsigned value)))
  | 'X' => numeric (l.number false ((Nat.toDigits 16 (unsigned value)).map Char.toUpper))
  | _ => none

/-- The layout written behind a percent sign, and what follows it. -/
def layout (s : List Char) : Layout × List Char :=
  let isMark (c : Char) : Bool := ['#', '-', '+', ' ', '0'].contains c
  let marks := s.takeWhile isMark
  let s := s.dropWhile isMark
  let width := s.takeWhile Char.isDigit
  let s := s.dropWhile Char.isDigit
  let (precision, s) := match s with
    | '.' :: rest =>
      (some (Text.decimal (rest.takeWhile Char.isDigit)), rest.dropWhile Char.isDigit)
    | _ => (none, s)
  (⟨marks.contains '-', marks.contains '0', Text.decimal width, precision⟩, s)

/-- Writes a format once; `fuel` is bounded by its length. -/
def formatOnce : (fuel : Nat) → List Char → Formatted → Formatted
  | 0, _, f => f
  | _, [], f => f
  | fuel + 1, '\\' :: rest, f =>
    let (bytes, rest) := escapeBytes rest
    formatOnce fuel rest { f with written := f.written ++ bytes }
  | fuel + 1, '%' :: '%' :: rest, f =>
    formatOnce fuel rest { f with written := f.written ++ charBytes '%' }
  | fuel + 1, '%' :: rest, f =>
    match layout rest with
    | (_, []) => { f with complaint := some "missing format character" }
    | (l, letter :: after) =>
      match f.convert? l letter with
      | some f => if f.ended then f else formatOnce fuel after f
      | none =>
        let directive := '%' :: rest.take (rest.length - after.length)
        { f with complaint := some (.ofList directive ++ ": invalid directive") }
  | fuel + 1, c :: rest, f => formatOnce fuel rest { f with written := f.written ++ charBytes c }

/-- Writes a format until no argument is left; each time takes an argument, which bounds `fuel`. -/
def formatAll (format : List Char) : (fuel : Nat) → Formatted → Formatted
  | 0, f => f
  | fuel + 1, f =>
    let f := formatOnce (format.length + 1) format { f with asked := false }
    if f.ended || f.complaint.isSome || !f.asked || f.left.isEmpty then f
    else formatAll format fuel f

end AsmHarness.Shell
