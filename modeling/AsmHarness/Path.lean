/-!
# Paths

A path is a text whose parts are separated by slashes. Joining, taking the directory of a path and
taking its last part are functions on the text alone: nothing is looked up, and no part is
simplified away except for slashes and dots at the end, which name nothing of their own.
-/

namespace AsmHarness

/-- A path, written with slashes. -/
abbrev Path := String

namespace Path

/-- Whether a path starts at the root. -/
def isAbsolute (path : Path) : Bool :=
  path.toList.head? = some '/'

/-- The path that leads from `base` along `relative`. An absolute path leads where it says, whatever
the base; otherwise a slash is put between, unless the base is empty or ends in one. -/
def join (base relative : Path) : Path :=
  if isAbsolute relative then relative
  else match base.toList.getLast? with
    | none => relative
    | some '/' => base ++ relative
    | some _ => base ++ "/" ++ relative

/-- A reversed path without the slashes and the single dots at its end. A lone slash or dot stays,
since it is all of the path. -/
def trimReversed : List Char → List Char
  | '/' :: c :: rest => trimReversed (c :: rest)
  | '.' :: '/' :: rest => trimReversed ('/' :: rest)
  | rest => rest

/-- The last part of a path, reversed, and what stands before it, reversed. -/
def splitReversed (path : Path) : List Char × List Char :=
  let trimmed := trimReversed path.toList.reverse
  (trimmed.takeWhile (· ≠ '/'), trimmed.dropWhile (· ≠ '/'))

/-- The directory a path lies in, none for the root and for the empty path. -/
def parent? (path : Path) : Option Path :=
  match splitReversed path with
  | ([], _) => none
  | (_, rest) => some (.ofList (trimReversed rest).reverse)

/-- The last part of a path, unless that is a step to the same directory or to the one above. -/
def fileName? (path : Path) : Option String :=
  match (splitReversed path).1 with
  | [] | ['.'] | ['.', '.'] => none
  | name => some (.ofList name.reverse)

/-- What follows the last dot of the last part of a path. A dot that starts the part does not
count. -/
def extension? (path : Path) : Option String :=
  match fileName? path with
  | none => none
  | some name =>
    let reversed := name.toList.reverse
    match reversed.dropWhile (· ≠ '.') with
    | [] | ['.'] => none
    | _ :: _ => some (.ofList (reversed.takeWhile (· ≠ '.')).reverse)

end Path

end AsmHarness
