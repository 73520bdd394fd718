/-!
# Refusals of the operating system

Why a request to read, write or move a file, or to start a program, was turned down. Most causes
have a number, which is part of their text.
-/

namespace AsmHarness

/-- Why a request was turned down. -/
inductive OsError where
  /-- No file or folder of the name exists. -/
  | notFound
  /-- The file is no program. -/
  | notAProgram
  /-- The file may not be used this way. -/
  | permissionDenied
  /-- The folder is in use by the harness itself. -/
  | busy
  /-- Something of the name exists already. -/
  | fileExists
  /-- A file stands where a folder is needed. -/
  | notADirectory
  /-- A folder stands where a file is needed. -/
  | isADirectory
  /-- A folder would be moved into itself. -/
  | invalidArgument
  /-- A part of the path is too long. -/
  | nameTooLong
  /-- A folder that still has entries would be replaced. -/
  | directoryNotEmpty
  /-- A path has a zero character in it. -/
  | nulInPath
  /-- An argument or a variable has a zero character in it. -/
  | nulInData
  /-- The bytes of a text are not UTF-8. -/
  | notUtf8
  deriving DecidableEq, Repr

namespace OsError

/-- The cause in words. -/
def text : OsError → String
  | .notFound => "No such file or directory"
  | .notAProgram => "Exec format error"
  | .permissionDenied => "Permission denied"
  | .busy => "Device or resource busy"
  | .fileExists => "File exists"
  | .notADirectory => "Not a directory"
  | .isADirectory => "Is a directory"
  | .invalidArgument => "Invalid argument"
  | .nameTooLong => "File name too long"
  | .directoryNotEmpty => "Directory not empty"
  | .nulInPath => "file name contained an unexpected NUL byte"
  | .nulInData => "nul byte found in provided data"
  | .notUtf8 => "stream did not contain valid UTF-8"

/-- The number of a cause that has one. -/
def number? : OsError → Option Nat
  | .notFound => some 2
  | .notAProgram => some 8
  | .permissionDenied => some 13
  | .busy => some 16
  | .fileExists => some 17
  | .notADirectory => some 20
  | .isADirectory => some 21
  | .invalidArgument => some 22
  | .nameTooLong => some 36
  | .directoryNotEmpty => some 39
  | .nulInPath | .nulInData | .notUtf8 => none

/-- The cause in words, with its number. -/
def message (cause : OsError) : String :=
  match cause.number? with
  | some number => cause.text ++ " (os error " ++ toString number ++ ")"
  | none => cause.text

end OsError

end AsmHarness
