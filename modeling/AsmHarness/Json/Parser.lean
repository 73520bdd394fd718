import AsmHarness.Json.Token

/-!
# Reading JSON

A text is read token by token by a machine that keeps the containers it is inside of on a stack, so
reading needs no recursion on the nesting. `State.step` says which token may come where; `parse?`
feeds it the tokens of a text and accepts if exactly one value has been read at the end.
-/

namespace AsmHarness.Json

/-- How deeply containers may be nested. -/
def maxDepth : Nat := 127

/-- A container that has been opened and not yet closed. -/
inductive Open where
  /-- An array, with its items so far, the latest first. -/
  | array (items : List Json)
  /-- An object, with its fields so far and the key whose value comes next. -/
  | object (fields : Fields) (key : String)

/-- Where the machine stands. The stack holds the open containers, the innermost first. -/
inductive State where
  /-- A value comes next. -/
  | value (stack : List Open)
  /-- An array has been opened; its first item or its end comes next. -/
  | arrayStart (stack : List Open)
  /-- An object has been opened; its first key or its end comes next. -/
  | objectStart (stack : List Open)
  /-- A key comes next. -/
  | key (fields : Fields) (stack : List Open)
  /-- The mark after a key comes next. -/
  | colon (fields : Fields) (key : String) (stack : List Open)
  /-- A value has been read; a mark of the container around it comes next, if there is one. -/
  | after (value : Json) (stack : List Open)

namespace State

/-- Begins a value. -/
def begin? (stack : List Open) : Token → Option State
  | .openObject => if stack.length < maxDepth then some (.objectStart stack) else none
  | .openArray => if stack.length < maxDepth then some (.arrayStart stack) else none
  | .text s => some (.after (.string s) stack)
  | .atom v => some (.after v stack)
  | _ => none

/-- Reads one token. -/
def step : State → Token → Option State
  | .value stack, token => begin? stack token
  | .arrayStart stack, .closeArray => some (.after (.array []) stack)
  | .arrayStart stack, token => begin? (.array [] :: stack) token
  | .objectStart stack, .closeObject => some (.after (.object []) stack)
  | .objectStart stack, .text s => some (.colon [] s stack)
  | .key fields stack, .text s => some (.colon fields s stack)
  | .colon fields name stack, .colon => some (.value (.object fields name :: stack))
  | .after v (.array items :: stack), .comma => some (.value (.array (v :: items) :: stack))
  | .after v (.array items :: stack), .closeArray =>
    some (.after (.array (v :: items).reverse) stack)
  | .after v (.object fields name :: stack), .comma => some (.key (fields.set name v) stack)
  | .after v (.object fields name :: stack), .closeObject =>
    some (.after (.object (fields.set name v)) stack)
  | _, _ => none

/-- The value read, if the machine has read one and nothing is left open. -/
def result? : State → Option Json
  | .after v [] => some v
  | _ => none

end State

/-- Reads the tokens of a text and the blanks between them. -/
def run (state : State) (s : List Char) : Option State :=
  match s with
  | [] => some state
  | c :: rest =>
    if isBlank c then run state rest
    else match h : Token.start c rest with
      | none => none
      | some (token, after) =>
        have : after.length ≤ rest.length := Token.start_length h
        match state.step token with
        | none => none
        | some state => run state after
termination_by s.length
decreasing_by all_goals simp; try omega

/-- The value that a text stands for, none if the text is not JSON. -/
def parse? (text : String) : Option Json :=
  (run (.value []) text.toList).bind State.result?

end AsmHarness.Json
