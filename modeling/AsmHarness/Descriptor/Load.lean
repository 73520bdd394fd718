import AsmHarness.Descriptor.Prepare
import AsmHarness.Descriptor.Template
import AsmHarness.FileTree.Access
import AsmHarness.Json.Parser
import AsmHarness.Text.Utf8

/-!
# Loading descriptors

Descriptors are read from single files or from all files below a folder. What cannot be used is
noted in the log and left out; it never keeps anything else from being loaded.
-/

namespace AsmHarness

/-- The extension of descriptor files. -/
def descriptorExtension : String := "json"

namespace Descriptor

/-! ## One file -/

/-- The records that the content of a file holds, each with its position if they form a list. -/
def records? : Json → Option (List (Json × Option Nat))
  | .object fields => some [(.object fields, none)]
  | .array items => some ((Template.expand items).map fun e => (e.record, some e.seq))
  | _ => none

/-- The descriptor of a record, if it can be used. -/
def prepareNoted (path : Path) (record : Json) (seq : Option Nat) : Noted (Option Descriptor) := do
  match ← (prepare record (path.parent?.getD "") (path.fileName?.getD "") seq).run with
  | .ok d => return some d
  | .error .missingDescription =>
    Noted.log (.recordUndescribed path seq)
    return none
  | .error cause =>
    Noted.log (.recordUnusable path seq cause)
    return none

/-- The descriptors of some records that can be used. -/
def prepareAll (path : Path) : List (Json × Option Nat) → Noted (List Descriptor)
  | [] => pure []
  | (record, seq) :: rest => do
    let d ← prepareNoted path record seq
    return d.toList ++ (← prepareAll path rest)

/-- The descriptors that a file holds, in their order. -/
def read (files : FileTree) (path : Path) : ExceptT DescriptorError Noted (List Descriptor) := do
  match files.read path with
  | .error cause => throw (.unreadable path cause)
  | .ok content =>
    match Json.parse? (Utf8.decode content) with
    | none => throw (.malformed path)
    | some value =>
      match records? value with
      | none => throw (.unexpectedShape path)
      | some records => prepareAll path records

/-- The path of a descriptor file: its extension need not be written. -/
def filePath (path : Path) : Path :=
  if path.extension? = some descriptorExtension then path else path ++ "." ++ descriptorExtension

/-- The descriptors that the file at a path holds, none if it cannot be used. -/
def readUsable (files : FileTree) (path : Path) : Noted (List Descriptor) := do
  match ← (read files path).run with
  | .ok descriptors => return descriptors
  | .error cause =>
    Noted.log (.fileUnusable cause)
    return []

/-- The descriptors of a single test file. -/
def loadFile (files : FileTree) (path : Path) : Noted (List Descriptor) :=
  readUsable files (filePath path)

/-! ## All files below a folder -/

/-- What is come across below a folder. -/
inductive Found where
  /-- A descriptor file. -/
  | file (path : Path)
  /-- What is named like a descriptor file in a folder that may not be passed. Nobody can tell what
  it is. -/
  | barred (path : Path)
  /-- A folder whose entries cannot be listed. -/
  | unlisted (path : Path) (cause : OsError)
  deriving DecidableEq, Repr

/-- Puts what was found in the entries of a folder in the order of their names. -/
def inNameOrder (found : List (String × List Found)) : List Found :=
  (found.mergeSort fun a b => a.1 ≤ b.1).flatMap (·.2)

/-- What is come across at a path that is not that of a folder. -/
def foundPlain (found : Path → Found) (path : Path) : List Found :=
  if path.extension? = some descriptorExtension then [found path] else []

mutual

/-- What is come across at a path, folders being entered as deep as they go. -/
def foundAt (path : Path) : Node → List Found
  | .file .. => foundPlain .file path
  | .folder entries mode =>
    if !mode.readable then [.unlisted path .permissionDenied]
    else if mode.executable then inNameOrder (foundIn path entries)
    else inNameOrder (entries.map fun (name, _) => (name, foundPlain .barred (path.join name)))

/-- What is come across in the entries of a folder, under the name of each. -/
def foundIn (path : Path) : List (String × Node) → List (String × List Found)
  | [] => []
  | (name, node) :: rest => (name, foundAt (path.join name) node) :: foundIn path rest

end

/-- What is come across below a folder. -/
def discover (files : FileTree) (directory : Path) : List Found :=
  match files.node directory with
  | .error cause => [.unlisted directory cause]
  | .ok (.file ..) => [.unlisted directory .notADirectory]
  | .ok node => foundAt directory node

/-- The descriptors of what was found. -/
def loadFound (files : FileTree) : List Found → Noted (List Descriptor)
  | [] => pure []
  | .file path :: rest | .barred path :: rest => do
    let descriptors ← readUsable files path
    return descriptors ++ (← loadFound files rest)
  | .unlisted path cause :: rest => do
    Noted.log (.cannotList path cause)
    loadFound files rest

/-- The names that follow themselves in a list, each of them once where it does so in a row; `last`
is the one that was met last. -/
def sharedNames (last : Option String) : List String → List String
  | a :: b :: rest =>
    if a = b ∧ last ≠ some b then b :: sharedNames (some b) (b :: rest)
    else sharedNames last (b :: rest)
  | _ => []

/-- The names that several descriptors of a sorted list share. -/
def duplicateNames (descriptors : List Descriptor) : List String :=
  sharedNames none (descriptors.map (·.name))

/-- The descriptors sorted by name, those of one name staying in their order. -/
def sortByName (descriptors : List Descriptor) : List Descriptor :=
  descriptors.mergeSort fun a b => a.name ≤ b.name

/-- Notes names that are shared. -/
def logShared : List String → Noted Unit
  | [] => pure ()
  | name :: rest => do
    Noted.log (.nameShared name)
    logShared rest

/-- The descriptors of all files below a folder, sorted by name. -/
def loadDirectory (files : FileTree) (directory : Path) : Noted (List Descriptor) := do
  let descriptors := sortByName (← loadFound files (discover files directory))
  logShared (duplicateNames descriptors)
  return descriptors

end Descriptor

end AsmHarness
