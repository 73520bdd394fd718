import AsmHarness.Shell.Syntax
import AsmHarness.Text.Digits

/-!
# Words and operators of scripts

A script is cut into words, operators and line ends. Quotes and backslashes take away the special
meaning of characters; parameters are recognised inside of words.
-/

namespace AsmHarness.Shell

/-- A token. -/
inductive Token where
  /-- A word. -/
  | word (pieces : Word)
  /-- The number in front of a redirection. -/
  | number (n : Nat)
  /-- An operator. -/
  | operator (text : String)
  /-- The end of a line. -/
  | newline

/-- Whether a character may begin a name. -/
def isNameStart (c : Char) : Bool := c.isAlpha || c = '_'

/-- Whether a character may stand in a name. -/
def isNamePart (c : Char) : Bool := c.isAlphanum || c = '_'

/-- Whether a text is a name. -/
def isName (text : List Char) : Bool :=
  match text with
  | [] => false
  | c :: rest => isNameStart c && rest.all isNamePart

/-- Whether a character separates words. -/
def isSeparator (c : Char) : Bool :=
  [' ', '\t', '\n', ';', '&', '|', '(', ')', '<', '>'].contains c

/-- Where a piece of a word stands. -/
inductive Context where
  /-- Outside of quotes. -/
  | bare
  /-- Between double quotes. -/
  | double
  /-- Between braces behind a dollar sign. -/
  | brace (quoted : Bool)
  deriving DecidableEq, Repr

namespace Context

/-- Whether characters are quoted in a context. -/
def isQuoted : Context → Bool
  | .bare => false
  | .double => true
  | .brace quoted => quoted

/-- Whether a character ends a context. -/
def endsAt (context : Context) (c : Char) : Bool :=
  match context with
  | .bare => isSeparator c
  | .double => c = '"'
  | .brace _ => c = '\x7d'

end Context

/-- The parameter named at the beginning of a text, and what follows it. Behind a dollar sign
without braces only one digit counts. -/
def parameter? (braced : Bool) : List Char → Option (Parameter × List Char)
  | '@' :: rest => some (.arguments true, rest)
  | '*' :: rest => some (.arguments false, rest)
  | '#' :: rest => some (.count, rest)
  | '?' :: rest => some (.status, rest)
  | '$' :: rest => some (.process, rest)
  | c :: rest =>
    if c.isDigit then
      if braced then
        some (.position (Text.decimal ((c :: rest).takeWhile Char.isDigit)),
          (c :: rest).dropWhile Char.isDigit)
      else some (.position (Text.decimal [c]), rest)
    else if isNameStart c then
      some (.variable (.ofList ((c :: rest).takeWhile isNamePart)),
        (c :: rest).dropWhile isNamePart)
    else none
  | [] => none

/-- What is done about a parameter, as written behind its name. -/
def use? : Char → Option Use
  | '-' => some .default
  | '=' => some .assign
  | '?' => some .demand
  | '+' => some .alternative
  | _ => none

/-- The characters that lose their meaning behind a backslash also between double quotes. -/
def escapableQuoted : List Char := ['$', '\x60', '"', '\\', '\x7d']

/-- Whether a piece stands for the arguments, each as a word of its own. -/
def isArguments : Piece → Bool
  | .value (.arguments true) _ => true
  | _ => false

/-- What stands between double quotes. The quotes alone make a word, but not around the arguments,
which may be none. -/
def quotedPieces (inner : Word) : Word :=
  if !inner.isEmpty && inner.all isArguments then inner else .quotes :: inner

/-- The pieces of a word up to where its context ends, and what follows them. Each piece takes a
character at least, which bounds `fuel`. -/
def pieces? (context : Context) : (fuel : Nat) → List Char → Option (Word × List Char)
  | 0, _ => none
  | _, [] => if context = .bare then some ([], []) else none
  | fuel + 1, c :: rest =>
    if context.endsAt c then some ([], c :: rest)
    else
      let quoted := context.isQuoted
      let next (found : Word) (rest : List Char) : Option (Word × List Char) :=
        (pieces? context fuel rest).map fun (word, rest) => (found ++ word, rest)
      match c, rest with
      | '\\', '\n' :: rest => next [] rest
      | '\\', d :: rest =>
        if quoted && !escapableQuoted.contains d then
          next [.char '\\' true, .char d true] rest
        else next [.char d true] rest
      | '"', rest =>
        match pieces? .double fuel rest with
        | some (inner, _ :: rest) => next (quotedPieces inner) rest
        | _ => none
      | '$', '\x7b' :: '#' :: d :: rest =>
        if d = '\x7d' then next [.value .count quoted] rest
        else match parameter? true (d :: rest) with
        | some (p, '\x7d' :: rest) => next [.length p quoted] rest
        | _ => none
      | '$', '\x7b' :: rest =>
        match parameter? true rest with
        | some (p, '\x7d' :: rest) => next [.value p quoted] rest
        | some (p, rest) =>
          let (nonempty, rest) := match rest with
            | ':' :: rest => (true, rest)
            | _ => (false, rest)
          match rest with
          | [] => none
          | mark :: rest =>
            match use? mark, pieces? (.brace quoted) fuel rest with
            | some use, some (word, _ :: rest) => next [.choice p use nonempty word quoted] rest
            | _, _ => none
        | none => none
      | '$', '(' :: _ => none
      | '$', rest =>
        match parameter? false rest with
        | some (p, rest) => next [.value p quoted] rest
        | none => next [.char '$' quoted] rest
      | '\'', rest =>
        if quoted then next [.char '\'' true] rest
        else match rest.dropWhile (· ≠ '\'') with
        | [] => none
        | _ :: after =>
          next (.quotes :: (rest.takeWhile (· ≠ '\'')).map fun c => .char c true) after
      | c, rest => if c = '\x60' then none else next [.char c quoted] rest

/-- The operators, longer ones before those they begin with. -/
def operators : List (List Char) :=
  [['&', '&'], ['|', '|'], [';', ';'], ['>', '>'], ['>', '&'], ['>', '|'], [';'], ['&'], ['|'],
    ['('], [')'], ['<'], ['>']]

/-- The operator at the beginning of a text, and what follows it. -/
def operator? (s : List Char) : Option (Token × List Char) :=
  (operators.find? (·.isPrefixOf s)).map fun text =>
    (.operator (.ofList text), s.drop text.length)

/-- The token at the beginning of a text without blanks in front, and what follows it. -/
def token? (s : List Char) : Option (Token × List Char) :=
  match s with
  | '\n' :: rest => some (.newline, rest)
  | _ =>
    (operator? s).orElse fun _ =>
      match s.takeWhile Char.isDigit, s.dropWhile Char.isDigit with
      | d :: digits, '<' :: rest => some (.number (Text.decimal (d :: digits)), '<' :: rest)
      | d :: digits, '>' :: rest => some (.number (Text.decimal (d :: digits)), '>' :: rest)
      | _, _ => (pieces? .bare (s.length + 1) s).map fun (word, rest) => (.word word, rest)

/-- The tokens of a text, each with its line; `fuel` is bounded by the length of the text. -/
def tokensFrom? (line : Nat) : (fuel : Nat) → List Char → Option (List (Nat × Token))
  | 0, _ => none
  | _, [] => some []
  | fuel + 1, c :: rest =>
    if c = ' ' ∨ c = '\t' then tokensFrom? line fuel rest
    else if c = '#' then tokensFrom? line fuel (rest.dropWhile (· ≠ '\n'))
    else match c, rest with
    | '\\', '\n' :: rest => tokensFrom? (line + 1) fuel rest
    | _, _ =>
      match token? (c :: rest) with
      | none => none
      | some (token, after) =>
        let taken := (c :: rest).take ((c :: rest).length - after.length)
        (tokensFrom? (line + taken.count '\n') fuel after).map ((line, token) :: ·)

/-- The tokens of a script, each with the line it begins on. -/
def tokens? (script : String) : Option (List (Nat × Token)) :=
  tokensFrom? 1 (script.toList.length + 1) script.toList

end AsmHarness.Shell
