import AsmHarness.Shell.Glob
import AsmHarness.Shell.State
import AsmHarness.Shell.Syntax

/-!
# Expansion of words

Before a command is run, the parameters in its words are replaced by their values. Outside of quotes
a value is cut into fields at its blanks, so that a word can become several fields, or none.
-/

namespace AsmHarness.Shell

/-- The fields that a word has become so far. -/
structure Fields where
  /-- The finished fields, the latest first. -/
  finished : List (List Marked) := []
  /-- The field being put together, its characters latest first, if one has been begun. -/
  current : Option (List Marked) := none

namespace Fields

/-- Begins a field, unless one has been begun. -/
def begin (f : Fields) : Fields := { f with current := some (f.current.getD []) }

/-- Finishes the current field. -/
def cut (f : Fields) : Fields :=
  match f.current with
  | none => f
  | some field => ⟨field.reverse :: f.finished, none⟩

/-- Adds a character. -/
def push (f : Fields) (c : Char) (quoted : Bool) : Fields :=
  { f with current := some ((c, quoted) :: f.current.getD []) }

/-- Adds a character, at which the field is cut if it is a blank without quotes. -/
def add (split : Bool) (f : Fields) (c : Char) (quoted : Bool) : Fields :=
  if split && !quoted && isFieldSeparator c then f.cut else f.push c quoted

/-- Adds a text. -/
def addText (split : Bool) (f : Fields) (text : String) (quoted : Bool) : Fields :=
  text.toList.foldl (fun f c => f.add split c quoted) (if quoted then f.begin else f)

/-- Adds texts, each but the first in a field of its own. -/
def addSeparate (split quoted : Bool) (f : Fields) : List String → Fields
  | [] => f
  | [text] => f.addText split text quoted
  | text :: rest => addSeparate split quoted (f.addText split text quoted).cut rest

/-- All fields. -/
def toList (f : Fields) : List (List Marked) := f.cut.finished.reverse

end Fields

/-- The value of a parameter, if it has one. -/
def valueOf? (s : State) : Parameter → Option String
  | .variable name => s.environment.get? name
  | .position 0 => some s.name
  | .position (n + 1) => s.arguments[n]?
  | .arguments _ => if s.arguments.isEmpty then none else some (" ".intercalate s.arguments)
  | .count => some (toString s.arguments.length)
  | .status => some (toString s.status)
  | .process => some (toString processNumber)

/-- Adds the value of a parameter to the fields of a word. -/
def addValue (split : Bool) (s : State) (f : Fields) (p : Parameter) (quoted : Bool) : Fields :=
  match p with
  | .arguments separate =>
    if split && (separate || !quoted) then f.addSeparate split quoted s.arguments
    else f.addText split ((valueOf? s p).getD "") quoted
  | _ => f.addText split ((valueOf? s p).getD "") quoted

/-- How a parameter is called in messages. -/
def Parameter.text : Parameter → String
  | .variable name => name
  | .position n => toString n
  | .arguments true => "@"
  | .arguments false => "*"
  | .count => "#"
  | .status => "?"
  | .process => "$"

/-- The text that fields stand for where a word is not cut. -/
def joined (fields : List (List Marked)) : String :=
  .ofList (List.intercalate [' '] (fields.map fun field => field.map (·.1)))

mutual

/-- Adds what a piece stands for to the fields of a word. -/
def expandPiece (line : Nat) (split : Bool) (f : Fields) : Piece → Run Fields
  | .char c quoted => return f.add split c quoted
  | .quotes => return f.begin
  | .value p quoted => return addValue split (← get) f p quoted
  | .length p quoted => do
    return f.addText split (toString ((valueOf? (← get) p).getD "").length) quoted
  | .choice p use nonempty word quoted => do
    let s ← get
    let value := valueOf? s p
    let present := value.isSome && !(nonempty && value = some "")
    match use with
    | .default =>
      if present then return addValue split s f p quoted else expandPieces line split f word
    | .alternative => if present then expandPieces line split f word else return f
    | .assign =>
      if present then return addValue split s f p quoted
      else
        let text := joined (← expandPieces line false {} word).toList
        match p with
        | .variable name => assign name text
        | _ => throw (.exit 2)
        return f.addText split text quoted
    | .demand =>
      if present then return addValue split s f p quoted
      else
        let text := joined (← expandPieces line false {} word).toList
        complain line (p.text ++ ": " ++ if text = "" then "parameter not set" else text)
        throw (.exit 2)

/-- Adds what some pieces stand for to the fields of a word. -/
def expandPieces (line : Nat) (split : Bool) (f : Fields) : List Piece → Run Fields
  | [] => return f
  | piece :: rest => do expandPieces line split (← expandPiece line split f piece) rest

end

/-- The fields of some words. -/
def expandWords (line : Nat) : List Word → Run (List String)
  | [] => return []
  | word :: rest => do
    let fields := (← expandPieces line true {} word).toList
    return fields.map (fun field => .ofList (field.map (·.1))) ++ (← expandWords line rest)

/-- The text of a word that is not cut into fields. -/
def expandText (line : Nat) (word : Word) : Run String := do
  return joined (← expandPieces line false {} word).toList

/-- The pattern that a word stands for. -/
def expandPattern (line : Nat) (word : Word) : Run (List GlobPart) := do
  return globParts (← expandPieces line false {} word).toList.flatten

end AsmHarness.Shell
