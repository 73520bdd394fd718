import AsmHarness.Environment
import AsmHarness.FileTree.Access
import AsmHarness.Text.Digits

/-!
# What a running script has

A script has variables, arguments, files, numbered inputs and outputs, and what it has written so
far. Everything it does changes this state, and some things end it.
-/

namespace AsmHarness.Shell

/-- Where the bytes that are written to an output go. -/
inductive Sink where
  /-- To the regular output. -/
  | stdout
  /-- To the output for messages. -/
  | stderr
  /-- To the end of a file. -/
  | file (location : Location)
  deriving DecidableEq, Repr

/-- What a script has. -/
structure State where
  /-- How the script is called. -/
  name : String
  /-- Its arguments. -/
  arguments : List String
  /-- Its variables. -/
  environment : Environment
  /-- The files. -/
  files : FileTree
  /-- What can be read from the input. -/
  input : List UInt8 := []
  /-- Where the numbered outputs go. -/
  sinks : List (Nat × Sink) := [(1, .stdout), (2, .stderr)]
  /-- What was written to the regular output. -/
  stdout : ByteArray := .empty
  /-- What was written to the output for messages. -/
  stderr : ByteArray := .empty
  /-- The exit code of the last command. -/
  status : Nat := 0
  /-- How many loops are being run, one inside the other. -/
  loops : Nat := 0

/-- Why a script, or a loop in it, does not go on. -/
inductive Stop where
  /-- It ends by itself. -/
  | exit (code : Nat)
  /-- It is ended by a signal. -/
  | signal (number : Nat)
  /-- Some loops are left. -/
  | leave (depth : Nat)
  /-- Some loops are left, and the last of them goes on. -/
  | goOn (depth : Nat)
  /-- It takes too long. -/
  | outOfFuel
  deriving DecidableEq, Repr

/-- Something a script does. -/
abbrev Run := ExceptT Stop (StateM State)

/-- The number a script has as a process. -/
def processNumber : Nat := 1000

/-- Writes to a numbered output; the result says whether there is one. -/
def emit (number : Nat) (bytes : ByteArray) : Run Bool := do
  match (← get).sinks.lookup number with
  | none => return false
  | some .stdout =>
    modify fun s => { s with stdout := s.stdout ++ bytes }
    return true
  | some .stderr =>
    modify fun s => { s with stderr := s.stderr ++ bytes }
    return true
  | some (.file location) =>
    let extend : Option Node → Option Node
      | some (.file content mode) => some (.file (content ++ bytes) mode)
      | other => other
    modify fun s => { s with files := s.files.alter location extend }
    return true

/-- Writes a message about a line of the script. -/
def complain (line : Nat) (text : String) : Run Unit := do
  let _ ← emit 2 ((← get).name ++ ": " ++ toString line ++ ": " ++ text ++ "\n").toUTF8

/-- Gives a variable a value. -/
def assign (name value : String) : Run Unit :=
  modify fun s => { s with environment := s.environment.change (name, some value) }

/-- Whether a character separates the fields of a text. -/
def isFieldSeparator (c : Char) : Bool := c = ' ' || c = '\t' || c = '\n'

/-- A number in decimal notation, possibly signed and between blanks. -/
def integer? (text : String) : Option Int :=
  let chars := text.toList.dropWhile isFieldSeparator
  let (negative, digits) := match chars with
    | '-' :: rest => (true, rest)
    | '+' :: rest => (false, rest)
    | rest => (false, rest)
  let number := digits.takeWhile Char.isDigit
  if number.isEmpty ∨ !(digits.dropWhile Char.isDigit).all isFieldSeparator then none
  else
    let value : Int := Text.decimal number
    some (if negative then -value else value)

/-- A number that fits in 31 bits and is not negative. -/
def natural? (text : String) : Option Nat :=
  match integer? text with
  | some (.ofNat n) => if n < 0x80000000 then some n else none
  | _ => none

end AsmHarness.Shell
