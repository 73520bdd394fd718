import AsmHarness.Text.Digits

/-!
# Assignments in TOML

A configuration is written as a list of assignments in TOML, one on a line. The values are strings,
in any of their four notations, and truth values; a document with anything else in it is no
configuration, and is not read.
-/

namespace AsmHarness.Toml

/-- A value that can be assigned. -/
inductive Value where
  /-- A text. -/
  | string (text : String)
  /-- A truth value. -/
  | bool (value : Bool)
  deriving DecidableEq, Repr

/-! ## Characters and line ends -/

/-- Whether a character is a blank. -/
def isBlank (c : Char) : Bool := c = ' ' || c = '\t'

/-- Whether a character may stand in a comment: no control character but the tab. -/
def isPlain (c : Char) : Bool := c = '\t' || (' ' ≤ c && c ≠ '\x7f')

/-- Whether a character may stand in a name without quotes. -/
def isBare (c : Char) : Bool := c.isAlphanum || c = '_' || c = '-'

/-- What follows a line end. -/
def newline? : List Char → Option (List Char)
  | '\n' :: rest => some rest
  | '\r' :: '\n' :: rest => some rest
  | _ => none

/-- What follows the rest of a line that may hold a comment and nothing else. -/
def lineEnd? (s : List Char) : Option (List Char) :=
  let s := s.dropWhile isBlank
  let s := match s with
    | '#' :: rest => rest.dropWhile isPlain
    | _ => s
  if s.isEmpty then some [] else newline? s

/-- What follows some blanks and line ends. -/
def skipGap : List Char → List Char
  | '\n' :: rest => skipGap rest
  | '\r' :: '\n' :: rest => skipGap rest
  | c :: rest => if isBlank c then skipGap rest else c :: rest
  | [] => []

theorem newline?_length {s rest : List Char} (h : newline? s = some rest) :
    rest.length < s.length := by
  unfold newline? at h
  split at h
  · cases h
    simp only [List.length_cons]
    omega
  · cases h
    simp only [List.length_cons]
    omega
  · cases h

theorem skipGap_length (s : List Char) : (skipGap s).length ≤ s.length := by
  fun_induction skipGap s with
  | case1 rest ih => exact Nat.le_succ_of_le ih
  | case2 rest ih => exact Nat.le_succ_of_le (Nat.le_succ_of_le ih)
  | case3 c rest _ _ _ ih => exact Nat.le_succ_of_le ih
  | case4 => exact Nat.le_refl _
  | case5 => exact Nat.le_refl _

/-! ## Strings -/

/-- A piece of text that has been read, and what follows it. -/
abbrev Piece := List Char × List Char

/-- A piece with one more character in front. -/
def Piece.push (c : Char) (piece : Piece) : Piece := (c :: piece.1, piece.2)

/-- The character that a letter behind a backslash stands for. -/
def escape? : Char → Option Char
  | 'b' => some '\x08'
  | 't' => some '\t'
  | 'n' => some '\n'
  | 'f' => some '\x0c'
  | 'r' => some '\r'
  | '"' => some '"'
  | '\\' => some '\\'
  | _ => none

/-- The character with the given code point in hexadecimal. -/
def codePoint? (digits : List Char) : Option Char := do
  let code ← Text.hexNumber? digits
  if code.isValidChar then some (Char.ofNat code) else none

/-- The character that stands behind a backslash, and what follows it. -/
def escaped? : List Char → Option (Char × List Char)
  | 'u' :: rest =>
    if rest.length < 4 then none else (codePoint? (rest.take 4)).map (·, rest.drop 4)
  | 'U' :: rest =>
    if rest.length < 8 then none else (codePoint? (rest.take 8)).map (·, rest.drop 8)
  | c :: rest => (escape? c).map (·, rest)
  | [] => none

theorem escaped?_length {s rest : List Char} {c : Char} (h : escaped? s = some (c, rest)) :
    rest.length < s.length := by
  unfold escaped? at h
  split at h
  · split at h
    · cases h
    · simp only [Option.map_eq_some_iff, Prod.mk.injEq] at h
      obtain ⟨_, _, _, rfl⟩ := h
      simp only [List.length_drop, List.length_cons]
      omega
  · split at h
    · cases h
    · simp only [Option.map_eq_some_iff, Prod.mk.injEq] at h
      obtain ⟨_, _, _, rfl⟩ := h
      simp only [List.length_drop, List.length_cons]
      omega
  · simp only [Option.map_eq_some_iff, Prod.mk.injEq] at h
    obtain ⟨_, _, _, rfl⟩ := h
    simp only [List.length_cons]
    omega
  · cases h

/-- Reads a string on one line in which a backslash has a meaning, behind its opening quote. -/
def basicString? (s : List Char) : Option Piece :=
  match s with
  | [] => none
  | '"' :: rest => some ([], rest)
  | '\\' :: rest =>
    match h : escaped? rest with
    | some (c, after) =>
      have : after.length < rest.length := escaped?_length h
      (basicString? after).map (Piece.push c)
    | none => none
  | c :: rest => if isPlain c then (basicString? rest).map (Piece.push c) else none
termination_by s.length
decreasing_by all_goals simp; try omega

/-- Reads a string on one line in which every character stands for itself, behind its opening
quote. -/
def literalString? : List Char → Option Piece
  | [] => none
  | '\'' :: rest => some ([], rest)
  | c :: rest => if isPlain c then (literalString? rest).map (Piece.push c) else none

/-- Reads a string on several lines in which a backslash has a meaning, behind its opening quotes. A
backslash at the end of a line joins it to the next word. Up to two quotes may stand before the
closing ones. -/
def basicBlock? (s : List Char) : Option Piece :=
  match s with
  | [] => none
  | '"' :: '"' :: '"' :: '"' :: '"' :: rest => some (['"', '"'], rest)
  | '"' :: '"' :: '"' :: '"' :: rest => some (['"'], rest)
  | '"' :: '"' :: '"' :: rest => some ([], rest)
  | '\n' :: rest => (basicBlock? rest).map (Piece.push '\n')
  | '\r' :: '\n' :: rest => (basicBlock? rest).map (Piece.push '\n')
  | '\\' :: rest =>
    match h : newline? (rest.dropWhile isBlank) with
    | some after =>
      have : (skipGap after).length ≤ rest.length := by
        have h1 := newline?_length h
        have h2 := (List.dropWhile_suffix (l := rest) isBlank).length_le
        have h3 := skipGap_length after
        omega
      basicBlock? (skipGap after)
    | none =>
      match h : escaped? rest with
      | some (c, after) =>
        have : after.length < rest.length := escaped?_length h
        (basicBlock? after).map (Piece.push c)
      | none => none
  | c :: rest => if isPlain c then (basicBlock? rest).map (Piece.push c) else none
termination_by s.length
decreasing_by all_goals simp; try omega

/-- Reads a string on several lines in which every character stands for itself, behind its opening
quotes. Up to two quotes may stand before the closing ones. -/
def literalBlock? : List Char → Option Piece
  | [] => none
  | '\'' :: '\'' :: '\'' :: '\'' :: '\'' :: rest => some (['\'', '\''], rest)
  | '\'' :: '\'' :: '\'' :: '\'' :: rest => some (['\''], rest)
  | '\'' :: '\'' :: '\'' :: rest => some ([], rest)
  | '\n' :: rest => (literalBlock? rest).map (Piece.push '\n')
  | '\r' :: '\n' :: rest => (literalBlock? rest).map (Piece.push '\n')
  | c :: rest => if isPlain c then (literalBlock? rest).map (Piece.push c) else none

/-- What follows a line end, if there is one. -/
def skipNewline (s : List Char) : List Char := (newline? s).getD s

/-! ## Documents -/

/-- Reads a value. -/
def value? : List Char → Option (Value × List Char)
  | '"' :: '"' :: '"' :: rest =>
    (basicBlock? (skipNewline rest)).map fun (text, rest) => (.string (.ofList text), rest)
  | '"' :: rest => (basicString? rest).map fun (text, rest) => (.string (.ofList text), rest)
  | '\'' :: '\'' :: '\'' :: rest =>
    (literalBlock? (skipNewline rest)).map fun (text, rest) => (.string (.ofList text), rest)
  | '\'' :: rest => (literalString? rest).map fun (text, rest) => (.string (.ofList text), rest)
  | 't' :: 'r' :: 'u' :: 'e' :: rest => some (.bool true, rest)
  | 'f' :: 'a' :: 'l' :: 's' :: 'e' :: rest => some (.bool false, rest)
  | _ => none

/-- Reads a name. -/
def name? : List Char → Option Piece
  | '"' :: rest => basicString? rest
  | '\'' :: rest => literalString? rest
  | s =>
    match s.takeWhile isBare with
    | [] => none
    | name => some (name, s.dropWhile isBare)

/-- Reads an assignment and the rest of its line. -/
def assignment? (s : List Char) : Option ((String × Value) × List Char) := do
  let (name, rest) ← name? s
  match rest.dropWhile isBlank with
  | '=' :: rest =>
    let (value, rest) ← value? (rest.dropWhile isBlank)
    some ((.ofList name, value), ← lineEnd? rest)
  | _ => none

/-- Reads the lines of a document; each of them takes a character at least, which bounds `fuel`. -/
def lines? : (fuel : Nat) → List Char → Option (List (String × Value))
  | 0, _ => none
  | fuel + 1, s =>
    match s.dropWhile isBlank with
    | [] => some []
    | c :: rest =>
      if c = '#' ∨ c = '\n' ∨ c = '\r' then (lineEnd? (c :: rest)).bind (lines? fuel)
      else do
        let (assignment, rest) ← assignment? (c :: rest)
        some (assignment :: (← lines? fuel rest))

/-- The assignments of a document, in order. A byte order mark at its beginning is passed over. -/
def assignments? (text : String) : Option (List (String × Value)) :=
  let s := match text.toList with
    | '\ufeff' :: rest => rest
    | s => s
  lines? (s.length + 1) s

end AsmHarness.Toml
