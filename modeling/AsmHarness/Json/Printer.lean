import AsmHarness.Json.Basic

/-!
# Writing JSON

Values are written with one item or field on a line, indented by a tab for each container around it.
Strings escape what JSON requires to be escaped and nothing else.
-/

namespace AsmHarness.Json

/-- How a character is written inside a string. -/
def escapeChar (c : Char) : List Char :=
  if c = '"' then ['\\', '"']
  else if c = '\\' then ['\\', '\\']
  else if c = '\x08' then ['\\', 'b']
  else if c = '\x0c' then ['\\', 'f']
  else if c = '\n' then ['\\', 'n']
  else if c = '\r' then ['\\', 'r']
  else if c = '\t' then ['\\', 't']
  else if c < ' ' then
    ['\\', 'u', '0', '0', Nat.digitChar (c.toNat / 16), Nat.digitChar (c.toNat % 16)]
  else [c]

/-- A string between quotes. -/
def printString (text : String) : List Char :=
  '"' :: (text.toList.flatMap escapeChar ++ ['"'])

/-- A number, with its power of ten unless that is one. -/
def printNumber (d : Decimal) : List Char :=
  (toString d.mantissa).toList ++ if d.exponent = 0 then [] else 'e' :: (toString d.exponent).toList

/-- A new line, indented to the given depth. -/
def newline (depth : Nat) : List Char := '\n' :: List.replicate depth '\t'

mutual

/-- A value at the given depth. -/
def print (depth : Nat) : Json → List Char
  | .null => ['n', 'u', 'l', 'l']
  | .bool true => ['t', 'r', 'u', 'e']
  | .bool false => ['f', 'a', 'l', 's', 'e']
  | .number d => printNumber d
  | .string text => printString text
  | .array [] => ['[', ']']
  | .array (v :: rest) =>
    '[' :: newline (depth + 1) ++ print (depth + 1) v ++ printItems (depth + 1) rest ++
      newline depth ++ [']']
  | .object [] => ['\x7b', '\x7d']
  | .object ((key, v) :: rest) =>
    '\x7b' :: newline (depth + 1) ++ printString key ++ [':', ' '] ++ print (depth + 1) v ++
      printFields (depth + 1) rest ++ newline depth ++ ['\x7d']

/-- The items after the first one. -/
def printItems (depth : Nat) : List Json → List Char
  | [] => []
  | v :: rest => ',' :: newline depth ++ print depth v ++ printItems depth rest

/-- The fields after the first one. -/
def printFields (depth : Nat) : List (String × Json) → List Char
  | [] => []
  | (key, v) :: rest =>
    ',' :: newline depth ++ printString key ++ [':', ' '] ++ print depth v ++ printFields depth rest

end

/-- A value as a text, ended by a line feed. -/
def pretty (value : Json) : String :=
  .ofList (print 0 value ++ ['\n'])

end AsmHarness.Json
