/-!
# Syntax of scripts

A script is a program in the language of the shell. Its commands are made of words, which in turn
are made of characters and of parameters that are replaced by their values when the command is run.
-/

namespace AsmHarness.Shell

/-- Something that has a value while a script runs. -/
inductive Parameter where
  /-- A variable. -/
  | variable (name : String)
  /-- The argument at a position, counted from one; the name of the script at position zero. -/
  | position (index : Nat)
  /-- All arguments; between quotes each stays a word of its own if `separate` is set. -/
  | arguments (separate : Bool)
  /-- The number of arguments. -/
  | count
  /-- The exit code of the last command. -/
  | status
  /-- The number of the process. -/
  | process
  deriving DecidableEq, Repr

/-- What is done about a parameter, depending on whether it has a value. -/
inductive Use where
  /-- Without a value, a word stands for it. -/
  | default
  /-- Without a value, it is given one. -/
  | assign
  /-- Without a value, the script ends. -/
  | demand
  /-- With a value, a word stands for it. -/
  | alternative
  deriving DecidableEq, Repr

/-- A piece of a word. -/
inductive Piece where
  /-- A character. A quoted one has no special meaning. -/
  | char (c : Char) (quoted : Bool)
  /-- A pair of quotes begins here; without anything between them they are an empty word. -/
  | quotes
  /-- The value of a parameter. -/
  | value (parameter : Parameter) (quoted : Bool)
  /-- How many characters the value of a parameter has. -/
  | length (parameter : Parameter) (quoted : Bool)
  /-- The value of a parameter or a word, depending on whether there is a value. If `nonempty` is
  set, an empty value is none. -/
  | choice (parameter : Parameter) (use : Use) (nonempty : Bool) (word : List Piece) (quoted : Bool)
  deriving Repr

/-- A word. -/
abbrev Word := List Piece

/-- What a redirection does. -/
inductive Direction where
  /-- Writes to a file that is emptied first. -/
  | write
  /-- Writes at the end of a file. -/
  | append
  /-- Reads from a file. -/
  | read
  /-- Writes to where another number writes, or nowhere. -/
  | duplicate
  deriving DecidableEq, Repr

/-- A redirection of a numbered input or output. -/
structure Redirection where
  /-- The number. -/
  number : Nat
  /-- What is done. -/
  direction : Direction
  /-- The file, or the other number. -/
  target : Word
  deriving Repr

/-- A command that is made of words. -/
structure SimpleCommand where
  /-- The line it stands on. -/
  line : Nat
  /-- Variables that are given values first. -/
  assignments : List (String × Word)
  /-- The name and the arguments. -/
  words : List Word
  /-- The redirections. -/
  redirections : List Redirection
  deriving Repr

/-- A command. -/
inductive Command where
  /-- Nothing. -/
  | empty
  /-- A command that is made of words. -/
  | simple (command : SimpleCommand)
  /-- One and then another. -/
  | sequence (first second : Command)
  /-- The second if the first succeeds. -/
  | andThen (first second : Command)
  /-- The second if the first fails. -/
  | orElse (first second : Command)
  /-- Succeeds if the command fails. -/
  | negated (command : Command)
  /-- The second if the first succeeds, else the third. -/
  | conditional (condition success failure : Command)
  /-- The body as long as the condition succeeds, or fails if `untilSuccess` is set. -/
  | loop (untilSuccess : Bool) (condition body : Command)
  /-- The body for each of some words, or for each argument if there are none. -/
  | iteration (name : String) (words : Option (List Word)) (body : Command)
  /-- The first body one of whose patterns a word matches. -/
  | selection (word : Word) (branches : List (List Word × Command))
  /-- A command whose changes to variables do not last. -/
  | subshell (command : Command)
  /-- A command with redirections. -/
  | redirected (line : Nat) (command : Command) (redirections : List Redirection)
  deriving Repr

end AsmHarness.Shell
