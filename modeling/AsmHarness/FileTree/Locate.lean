import AsmHarness.FileTree.Basic
import AsmHarness.OsError
import AsmHarness.Path

/-!
# Where paths lead

A path is followed part by part, from the root if it starts with a slash and from the working
directory otherwise. Every part but the last must lead to a folder that may be passed, and a slash at
the end asks for a folder, too. What lies above the root is the root itself.
-/

namespace AsmHarness

namespace Path

/-- The parts of a path between its slashes. -/
def parts (path : Path) : List String :=
  ((path.toList.splitOn '/').filter (· ≠ [])).map String.ofList

/-- Whether a path ends in a slash. -/
def endsInSlash (path : Path) : Bool := path.toList.getLast? = some '/'

end Path

/-- Where a path leads when its last part need not exist. -/
inductive Goal where
  /-- To the entry of a folder. A slash after the name asks for a folder. -/
  | entry (folder : Location) (name : String) (slashed : Bool)
  /-- Back to a folder, by one or two dots, or to the root. -/
  | back (folder : Location)
  deriving DecidableEq, Repr

namespace FileTree

/-- How many bytes a part of a path may have. -/
def maxNameSize : Nat := 255

/-- Where a path starts. -/
def start (t : FileTree) (path : Path) : Location := if path.isAbsolute then [] else t.origin

/-- Where some parts lead from a folder. -/
def follow (t : FileTree) (here : Location) : List String → Except OsError Location
  | [] => .ok here
  | part :: rest =>
    match t.get? here with
    | none => .error .notFound
    | some (.file ..) => .error .notADirectory
    | some (.folder _ mode) =>
      if !mode.executable then .error .permissionDenied
      else if part = "." then follow t here rest
      else if part = ".." then follow t here.dropLast rest
      else if maxNameSize < part.utf8ByteSize then .error .nameTooLong
      else if (t.get? (here ++ [part])).isNone then .error .notFound
      else follow t (here ++ [part]) rest

/-- Refuses paths that cannot lead anywhere. -/
def checkPath (path : Path) : Except OsError Unit :=
  if path.toList.contains '\x00' then .error .nulInPath
  else if path = "" then .error .notFound
  else .ok ()

/-- Refuses what is no folder. -/
def checkFolder (t : FileTree) (location : Location) : Except OsError Unit :=
  match t.get? location with
  | none => .error .notFound
  | some (.file ..) => .error .notADirectory
  | some (.folder ..) => .ok ()

/-- The location of what exists at a path. -/
def locate (t : FileTree) (path : Path) : Except OsError Location := do
  checkPath path
  let location ← t.follow (t.start path) path.parts
  if path.endsInSlash then t.checkFolder location
  return location

/-- Where a path leads when its last part need not exist. -/
def goal (t : FileTree) (path : Path) : Except OsError Goal := do
  checkPath path
  match path.parts.getLast? with
  | none => return .back []
  | some name =>
    if name = "." ∨ name = ".." then
      return .back (← t.follow (t.start path) path.parts)
    else
      let folder ← t.follow (t.start path) (path.parts.dropLast ++ ["."])
      if maxNameSize < name.utf8ByteSize then .error .nameTooLong
      else .ok (.entry folder name path.endsInSlash)

end FileTree

end AsmHarness
