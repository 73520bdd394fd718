import AsmHarness.Json.Basic
import AsmHarness.Text.Digits

/-!
# Tokens of JSON

`Token.start` takes the next token off the front of a text. It refuses what no JSON text contains:
control characters inside strings, escapes of lone surrogates, numbers with leading zeros and
numbers too large for a double. Every token has at least one character (`Token.start_length`), which
is why reading token by token comes to an end.
-/

namespace AsmHarness.Json

/-- A token of a JSON text. -/
inductive Token where
  /-- The mark that opens an object. -/
  | openObject
  /-- The mark that closes an object. -/
  | closeObject
  /-- The mark that opens an array. -/
  | openArray
  /-- The mark that closes an array. -/
  | closeArray
  /-- The mark between a key and its value. -/
  | colon
  /-- The mark between items and between fields. -/
  | comma
  /-- A string, which is a value or a key. -/
  | text (s : String)
  /-- A value that is neither a string nor made of other values. -/
  | atom (value : Json)

/-- Whether a character may stand between tokens. -/
def isBlank (c : Char) : Bool := c = ' ' || c = '\t' || c = '\n' || c = '\r'

/-! ## Strings -/

/-- The number that four hexadecimal digits stand for, and the text after them. -/
def hex4? : List Char → Option (Nat × List Char)
  | a :: b :: c :: d :: rest => (Text.hexNumber? [a, b, c, d]).map (·, rest)
  | _ => none

/-- The character that a backslash and one letter or mark stand for. -/
def simpleEscape? (c : Char) : Option Char :=
  [('"', '"'), ('\\', '\\'), ('/', '/'), ('b', '\x08'), ('f', '\x0c'), ('n', '\n'), ('r', '\r'),
    ('t', '\t')].lookup c

/-- The second half of a character written as two surrogates, as an escape of its own. -/
def lowSurrogate? : List Char → Option (Nat × List Char)
  | '\\' :: 'u' :: rest =>
    match hex4? rest with
    | some (low, rest) => if 0xDC00 ≤ low ∧ low ≤ 0xDFFF then some (low, rest) else none
    | none => none
  | _ => none

/-- The character that an escape by number stands for, given the text from its digits on. Characters
beyond the first plane are written as two escapes, one for each surrogate. -/
def codeEscape? (s : List Char) : Option (Char × List Char) :=
  match hex4? s with
  | none => none
  | some (code, rest) =>
    if code < 0xD800 ∨ 0xDFFF < code then some (Char.ofNat code, rest)
    else if 0xDC00 ≤ code then none
    else (lowSurrogate? rest).map fun (low, rest) =>
      (Char.ofNat (0x10000 + (code - 0xD800) * 0x400 + (low - 0xDC00)), rest)

/-- The character that an escape stands for, given the text after the backslash. -/
def unescape? : List Char → Option (Char × List Char)
  | [] => none
  | c :: rest => if c = 'u' then codeEscape? rest else (simpleEscape? c).map (·, rest)

theorem hex4?_length {s rest : List Char} {n : Nat} (h : hex4? s = some (n, rest)) :
    rest.length ≤ s.length := by
  unfold hex4? at h
  split at h
  · simp only [Option.map_eq_some_iff, Prod.mk.injEq] at h
    obtain ⟨_, _, _, rfl⟩ := h
    simp only [List.length_cons]
    omega
  · simp at h

theorem lowSurrogate?_length {s rest : List Char} {n : Nat} (h : lowSurrogate? s = some (n, rest)) :
    rest.length ≤ s.length := by
  unfold lowSurrogate? at h
  split at h
  · split at h
    · next h4 =>
      have := hex4?_length h4
      split at h
      · cases h; simp; omega
      · simp at h
    · simp at h
  · simp at h

theorem codeEscape?_length {s rest : List Char} {c : Char} (h : codeEscape? s = some (c, rest)) :
    rest.length ≤ s.length := by
  unfold codeEscape? at h
  split at h
  · simp at h
  · next h4 =>
    have := hex4?_length h4
    split at h
    · cases h; omega
    · split at h
      · simp at h
      · simp only [Option.map_eq_some_iff, Prod.mk.injEq, Prod.exists] at h
        obtain ⟨_, _, hl, _, rfl⟩ := h
        have := lowSurrogate?_length hl
        omega

theorem unescape?_length {s rest : List Char} {c : Char} (h : unescape? s = some (c, rest)) :
    rest.length < s.length := by
  unfold unescape? at h
  split at h
  · simp at h
  · split at h
    · have := codeEscape?_length h
      simp; omega
    · simp only [Option.map_eq_some_iff, Prod.mk.injEq] at h
      obtain ⟨_, _, _, rfl⟩ := h
      simp

/-- Reads a string up to its closing quote, given its characters so far, the latest first. -/
def stringRest (sofar : List Char) (s : List Char) : Option (String × List Char) :=
  match s with
  | [] => none
  | c :: rest =>
    if c = '"' then some (.ofList sofar.reverse, rest)
    else if c = '\\' then
      match h : unescape? rest with
      | none => none
      | some (c, after) =>
        have : after.length < rest.length := unescape?_length h
        stringRest (c :: sofar) after
    else if c < ' ' then none
    else stringRest (c :: sofar) rest
termination_by s.length
decreasing_by all_goals simp; try omega

theorem stringRest_length {sofar s rest : List Char} {text : String}
    (h : stringRest sofar s = some (text, rest)) : rest.length < s.length := by
  fun_induction stringRest sofar s with
  | case1 => simp at h
  | case2 => cases h; simp
  | case3 => simp at h
  | case4 sofar rest' hq c after hu hlt ih => have := ih h; simp; omega
  | case5 => simp at h
  | case6 sofar c rest' hq hb hc ih => have := ih h; simp; omega

/-! ## Numbers -/

/-- The digits after the point, empty if there is no point, and the text after them. -/
def fraction? : List Char → Option (List Char × List Char)
  | '.' :: rest =>
    match rest.takeWhile Char.isDigit with
    | [] => none
    | digits => some (digits, rest.dropWhile Char.isDigit)
  | rest => some ([], rest)

/-- A number with the given sign. -/
def signed (negative : Bool) (n : Nat) : Int := if negative then -n else n

/-- The power of ten written after the digits, zero if there is none, and the text after it. -/
def exponent? : List Char → Option (Int × List Char)
  | c :: rest =>
    if c = 'e' ∨ c = 'E' then
      let (negative, rest) := match rest with
        | '-' :: rest => (true, rest)
        | '+' :: rest => (false, rest)
        | rest => (false, rest)
      match rest.takeWhile Char.isDigit with
      | [] => none
      | digits =>
        some (signed negative (Text.decimal digits), rest.dropWhile Char.isDigit)
    else some (0, c :: rest)
  | [] => some (0, [])

/-- The greatest number that digits are gathered into. -/
def maxGathered : Nat := 0xFFFFFFFFFFFFFFFF

/-- Gathers digits into a number while there is room for it, and counts those that are left. -/
def gather (sofar : Nat) : List Char → Nat × Nat
  | [] => (sofar, 0)
  | c :: rest =>
    let next := 10 * sofar + Text.decimal [c]
    if maxGathered < next then (sofar, rest.length + 1) else gather next rest

/-- The number that a double is made of: the digits that there is room for, and the power of ten
that is due to the point, to the digits left before it and to the power that is written. Digits left
after the point are forgotten. -/
def gathered (whole fraction : List Char) (power : Int) : Decimal :=
  let (sofar, left) := gather 0 whole
  let (significand, forgotten) := gather sofar fraction
  ⟨significand, left - (fraction.length - forgotten : Nat) + power⟩

/-- The double nearest to a number, and of two the one whose last binary digit is zero. -/
def toDouble (n : Nat) : Nat :=
  let unit := Nat.pow 2 (n.log2 + 1 - 53)
  let below := n / unit
  if 2 * (n % unit) < unit ∨ (2 * (n % unit) = unit ∧ below % 2 = 0) then below * unit
  else (below + 1) * unit

end Json

/-- Whether a number is finite as a double, being made as the product of the double of its digits and
that of a power of ten. From half of the distance between the largest doubles below `2 ^ 1024` on a
product is infinite, and no power of ten beyond the 308th is a double. -/
def Decimal.isFinite (d : Decimal) : Bool :=
  d.mantissa = 0 || d.exponent < 0 || (d.exponent ≤ 308 &&
    Json.toDouble d.mantissa.natAbs * Json.toDouble (Nat.pow 10 d.exponent.toNat) <
      Nat.pow 2 1024 - Nat.pow 2 970)

namespace Json

/-- Reads a number without its sign, none if it is too large for a double. -/
def number? (negative : Bool) (s : List Char) : Option (Json × List Char) :=
  let whole := s.takeWhile Char.isDigit
  if whole = [] ∨ (whole.head? = some '0' ∧ 1 < whole.length) then none
  else match fraction? (s.dropWhile Char.isDigit) with
    | none => none
    | some (fraction, rest) =>
      match exponent? rest with
      | none => none
      | some (power, rest) =>
        let digits := Text.decimal (whole ++ fraction)
        if (gathered whole fraction power).isFinite then
          some (.number ⟨signed negative digits, power - fraction.length⟩, rest)
        else none

theorem length_dropWhile_le (p : Char → Bool) (s : List Char) :
    (s.dropWhile p).length ≤ s.length :=
  (List.dropWhile_sublist p).length_le

theorem fraction?_length {s digits rest : List Char} (h : fraction? s = some (digits, rest)) :
    rest.length ≤ s.length := by
  unfold fraction? at h
  split at h
  · next tail =>
    have := length_dropWhile_le Char.isDigit tail
    split at h
    · simp at h
    · cases h; simp; omega
  · cases h; exact Nat.le_refl _

theorem exponent?_length {s rest : List Char} {n : Int} (h : exponent? s = some (n, rest)) :
    rest.length ≤ s.length := by
  unfold exponent? at h
  split at h
  · next c tail =>
    split at h
    · split at h
      next negative after hsign =>
        have hafter : after.length ≤ tail.length := by
          split at hsign <;> cases hsign <;> simp
        have := length_dropWhile_le Char.isDigit after
        split at h
        · simp at h
        · cases h; simp; omega
    · cases h; exact Nat.le_refl _
  · cases h; exact Nat.le_refl _

theorem number?_length {negative : Bool} {s rest : List Char} {value : Json}
    (h : number? negative s = some (value, rest)) : rest.length < s.length := by
  unfold number? at h
  simp only at h
  split at h
  · simp at h
  · next hwhole =>
    split at h
    · simp at h
    · next hf =>
      split at h
      · simp at h
      · next he =>
        simp only [Option.ite_none_right_eq_some, Option.some.injEq, Prod.mk.injEq] at h
        obtain ⟨_, _, rfl⟩ := h
        have h1 := fraction?_length hf
        have h2 := exponent?_length he
        have h3 : (s.takeWhile Char.isDigit).length + (s.dropWhile Char.isDigit).length =
            s.length := by
          rw [← List.length_append, List.takeWhile_append_dropWhile]
        have h4 : 0 < (s.takeWhile Char.isDigit).length :=
          List.length_pos_iff.2 fun hnil => hwhole (.inl hnil)
        omega

/-! ## All tokens -/

/-- What is left of a text after a word, if it begins with the word. -/
def afterWord? : (word : List Char) → List Char → Option (List Char)
  | [], rest => some rest
  | w :: word, c :: rest => if w = c then afterWord? word rest else none
  | _ :: _, [] => none

/-- The token that begins with the character `c`, and the text after it. -/
def Token.start (c : Char) (rest : List Char) : Option (Token × List Char) :=
  match c with
  | '\x7b' => some (.openObject, rest)
  | '\x7d' => some (.closeObject, rest)
  | '[' => some (.openArray, rest)
  | ']' => some (.closeArray, rest)
  | ':' => some (.colon, rest)
  | ',' => some (.comma, rest)
  | '"' => (stringRest [] rest).map fun (s, rest) => (.text s, rest)
  | 'n' => (afterWord? ['u', 'l', 'l'] rest).map (.atom .null, ·)
  | 't' => (afterWord? ['r', 'u', 'e'] rest).map (.atom (.bool true), ·)
  | 'f' => (afterWord? ['a', 'l', 's', 'e'] rest).map (.atom (.bool false), ·)
  | '-' => (number? true rest).map fun (value, rest) => (.atom value, rest)
  | c => (number? false (c :: rest)).map fun (value, rest) => (.atom value, rest)

theorem afterWord?_length {word s rest : List Char} (h : afterWord? word s = some rest) :
    rest.length ≤ s.length := by
  fun_induction afterWord? word s with
  | case1 => cases h; exact Nat.le_refl _
  | case2 _ _ _ ih => have := ih h; simp; omega
  | case3 => simp at h
  | case4 => simp at h

theorem Token.start_length {c : Char} {rest after : List Char} {token : Token}
    (h : Token.start c rest = some (token, after)) : after.length ≤ rest.length := by
  unfold Token.start at h
  split at h <;>
    simp only [Option.map_eq_some_iff, Option.some.injEq, Prod.mk.injEq, Prod.exists] at h
  case h_7 => obtain ⟨_, _, hs, _, rfl⟩ := h; exact Nat.le_of_lt (stringRest_length hs)
  case h_8 | h_9 | h_10 => obtain ⟨_, hw, _, rfl⟩ := h; exact afterWord?_length hw
  case h_11 => obtain ⟨_, _, hn, _, rfl⟩ := h; exact Nat.le_of_lt (number?_length hn)
  case h_12 => obtain ⟨_, _, hn, _, rfl⟩ := h; exact Nat.le_of_lt_succ (number?_length hn)
  all_goals obtain ⟨_, rfl⟩ := h; exact Nat.le_refl _

end Json

end AsmHarness
