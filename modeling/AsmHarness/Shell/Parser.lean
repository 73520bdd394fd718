import AsmHarness.Shell.Token

/-!
# Reading scripts

Commands are read by recursive descent. A word that stands for itself is a keyword where a command
may begin, and nowhere else.
-/

namespace AsmHarness.Shell

/-- A reader of tokens that can fail. -/
abbrev Reader := StateT (List (Nat × Token)) Option

namespace Reader

/-- The next token. -/
def peek : Reader (Option Token) := do
  return (← get).head?.map (·.2)

/-- The line of the next token. -/
def line : Reader Nat := do
  return (← get).head?.elim 0 (·.1)

/-- Goes past the next token. -/
def skip : Reader Unit := modify List.tail

/-- The character that a piece of a word is, if it is one without quotes. -/
def bareChar? : Piece → Option Char
  | .char c false => some c
  | _ => none

/-- The text of a word that is written without quotes and parameters. -/
def bareText? (word : Word) : Option String := (word.mapM bareChar?).map String.ofList

/-- The next word, if it stands for itself. -/
def bareWord : Reader (Option String) := do
  match ← peek with
  | some (.word word) => return bareText? word
  | _ => return none

/-- Goes past an operator, if it is the next token. -/
def acceptOperator (text : String) : Reader Bool := do
  match ← peek with
  | some (.operator found) => if found = text then do skip; return true else return false
  | _ => return false

/-- Goes past a keyword, if it is the next token. -/
def acceptKeyword (text : String) : Reader Bool := do
  if (← bareWord) = some text then do skip; return true else return false

/-- Goes past an operator, which must be the next token. -/
def expectOperator (text : String) : Reader Unit := do
  unless ← acceptOperator text do failure

/-- Goes past a keyword, which must be the next token. -/
def expectKeyword (text : String) : Reader Unit := do
  unless ← acceptKeyword text do failure

/-- The next word. -/
def word : Reader Word := do
  match ← peek with
  | some (.word word) => skip; return word
  | _ => failure

/-- Goes past line ends. -/
def skipNewlines : Reader Unit :=
  modify fun tokens => tokens.dropWhile fun
    | (_, .newline) => true
    | _ => false

/-- Goes past a semicolon or line ends; the result says whether there were any. -/
def separator : Reader Bool := do
  let found ← acceptOperator ";"
  match ← peek with
  | some .newline => skipNewlines; return true
  | _ => return found

end Reader

open Reader

/-- The keywords that end a list of commands. -/
def closingKeywords : List String := ["then", "else", "elif", "fi", "do", "done", "esac", "\x7d"]

/-- Whether a list of commands ends here. -/
def atEnd : Reader Bool := do
  match ← peek with
  | none => return true
  | some (.operator text) => return text = ")" || text = ";;"
  | some (.word word) => return (bareText? word).any closingKeywords.contains
  | _ => return false

/-- The variable and the value of a word that is an assignment. -/
def assignment? (word : Word) : Option (String × Word) :=
  let isPart (piece : Piece) : Bool := (bareChar? piece).any isNamePart
  match bareText? (word.takeWhile isPart), word.dropWhile isPart with
  | some name, .char '=' false :: value => if isName name.toList then some (name, value) else none
  | _, _ => none

/-- The direction of a redirection, and the number it is about unless that is written. -/
def direction? : String → Option (Direction × Nat)
  | ">" | ">|" => some (.write, 1)
  | ">>" => some (.append, 1)
  | "<" => some (.read, 0)
  | ">&" => some (.duplicate, 1)
  | _ => none

/-- A redirection, if one comes next. -/
def redirection? : Reader (Option Redirection) := do
  match ← peek with
  | some (.number n) =>
    skip
    match ← peek with
    | some (.operator text) =>
      match direction? text with
      | some (direction, _) => skip; return some ⟨n, direction, ← word⟩
      | none => failure
    | _ => failure
  | some (.operator text) =>
    match direction? text with
    | some (direction, n) => skip; return some ⟨n, direction, ← word⟩
    | none => return none
  | _ => return none

/-- The redirections that come next. -/
def redirections : (fuel : Nat) → Reader (List Redirection)
  | 0 => failure
  | fuel + 1 => do
    match ← redirection? with
    | some r => return r :: (← redirections fuel)
    | none => return []

/-- The rest of a command that is made of words. -/
def simpleRest (command : SimpleCommand) : (fuel : Nat) → Reader SimpleCommand
  | 0 => failure
  | fuel + 1 => do
    match ← redirection? with
    | some r => simpleRest { command with redirections := command.redirections ++ [r] } fuel
    | none =>
      match ← peek with
      | some (.word word) =>
        skip
        match if command.words.isEmpty then assignment? word else none with
        | some assigned =>
          simpleRest { command with assignments := command.assignments ++ [assigned] } fuel
        | none => simpleRest { command with words := command.words ++ [word] } fuel
      | _ => return command

/-- The words that come next. -/
def wordList : (fuel : Nat) → Reader (List Word)
  | 0 => failure
  | fuel + 1 => do
    match ← peek with
    | some (.word word) => skip; return word :: (← wordList fuel)
    | _ => return []

/-- The patterns of a branch, up to the bracket behind them. -/
def patterns : (fuel : Nat) → Reader (List Word)
  | 0 => failure
  | fuel + 1 => do
    let first ← word
    if ← acceptOperator "|" then return first :: (← patterns fuel)
    else
      expectOperator ")"
      return [first]

mutual

/-- A list of commands, up to where it ends. -/
def commandList : (fuel : Nat) → Reader Command
  | 0 => failure
  | fuel + 1 => do
    skipNewlines
    if ← atEnd then return .empty
    let first ← commandChain fuel
    if ← separator then
      match ← commandList fuel with
      | .empty => return first
      | rest => return .sequence first rest
    else if ← atEnd then return first
    else failure

/-- Commands each of which depends on how the one before it ended. -/
def commandChain : (fuel : Nat) → Reader Command
  | 0 => failure
  | fuel + 1 => do chainRest fuel (← negatable fuel)

/-- The rest of such commands. -/
def chainRest : (fuel : Nat) → Command → Reader Command
  | 0, _ => failure
  | fuel + 1, first => do
    if ← acceptOperator "&&" then
      skipNewlines
      chainRest fuel (.andThen first (← negatable fuel))
    else if ← acceptOperator "||" then
      skipNewlines
      chainRest fuel (.orElse first (← negatable fuel))
    else return first

/-- A command that may be negated. -/
def negatable : (fuel : Nat) → Reader Command
  | 0 => failure
  | fuel + 1 => do
    if ← acceptKeyword "!" then return .negated (← negatable fuel)
    else command fuel

/-- A command. -/
def command : (fuel : Nat) → Reader Command
  | 0 => failure
  | fuel + 1 => do
    let line ← line
    match ← compound? fuel with
    | some body =>
      match ← redirections (fuel + 1) with
      | [] => return body
      | list => return .redirected line body list
    | none =>
      if ← atEnd then failure
      let found ← simpleRest ⟨line, [], [], []⟩ ((← get).length + 1)
      if found.words.isEmpty && found.assignments.isEmpty && found.redirections.isEmpty then failure
      return .simple found

/-- A command that is made of commands, if one comes next. -/
def compound? : (fuel : Nat) → Reader (Option Command)
  | 0 => failure
  | fuel + 1 => do
    if ← acceptOperator "(" then
      let body ← commandList fuel
      expectOperator ")"
      return some (.subshell body)
    else match ← bareWord with
    | some "\x7b" =>
      skip
      let body ← commandList fuel
      expectKeyword "\x7d"
      return some body
    | some "if" =>
      skip
      return some (← conditional fuel)
    | some "while" =>
      skip
      let condition ← commandList fuel
      return some (.loop false condition (← loopBody fuel))
    | some "until" =>
      skip
      let condition ← commandList fuel
      return some (.loop true condition (← loopBody fuel))
    | some "for" =>
      skip
      let some name := bareText? (← word) | failure
      skipNewlines
      if ← acceptKeyword "in" then
        let words ← wordList ((← get).length + 1)
        let _ ← separator
        return some (.iteration name (some words) (← loopBody fuel))
      else
        let _ ← separator
        return some (.iteration name none (← loopBody fuel))
    | some "case" =>
      skip
      let subject ← word
      skipNewlines
      expectKeyword "in"
      return some (.selection subject (← branches fuel))
    | _ => return none

/-- What follows the keyword of a conditional. -/
def conditional : (fuel : Nat) → Reader Command
  | 0 => failure
  | fuel + 1 => do
    let condition ← commandList fuel
    expectKeyword "then"
    let success ← commandList fuel
    if ← acceptKeyword "elif" then
      return .conditional condition success (← conditional fuel)
    else if ← acceptKeyword "else" then
      let other ← commandList fuel
      expectKeyword "fi"
      return .conditional condition success other
    else
      expectKeyword "fi"
      return .conditional condition success .empty

/-- The body of a loop, between its keywords. -/
def loopBody : (fuel : Nat) → Reader Command
  | 0 => failure
  | fuel + 1 => do
    skipNewlines
    expectKeyword "do"
    let body ← commandList fuel
    expectKeyword "done"
    return body

/-- The branches of a selection, up to the keyword behind them. -/
def branches : (fuel : Nat) → Reader (List (List Word × Command))
  | 0 => failure
  | fuel + 1 => do
    skipNewlines
    if ← acceptKeyword "esac" then return []
    let _ ← acceptOperator "("
    let found ← patterns ((← get).length + 1)
    let body ← commandList fuel
    if ← acceptOperator ";;" then return (found, body) :: (← branches fuel)
    else
      expectKeyword "esac"
      return [(found, body)]

end

/-- The command that a script is, none if it cannot be read. Between two tokens at most seven
readers call each other, which bounds the depth. -/
def parse? (script : String) : Option Command := do
  let found ← tokens? script
  let (command, rest) ← commandList (8 * (found.length + 2)) |>.run found
  if rest.isEmpty then some command else none

end AsmHarness.Shell
