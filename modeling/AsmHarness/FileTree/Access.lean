import AsmHarness.FileTree.Locate

/-!
# Reading and changing files

The requests that are made of a tree of files by path, each with the ways it can be turned down. A
request that is turned down leaves the tree as it was.
-/

namespace AsmHarness

namespace FileTree

/-! ## Looking -/

/-- The node at a path. -/
def node (t : FileTree) (path : Path) : Except OsError Node := do
  match t.get? (← t.locate path) with
  | some node => .ok node
  | none => .error .notFound

/-- Whether something exists at a path. -/
def contains (t : FileTree) (path : Path) : Bool := (t.node path).isOk

/-- The content of the file at a path. -/
def read (t : FileTree) (path : Path) : Except OsError ByteArray := do
  match ← t.node path with
  | .folder .. => .error .isADirectory
  | .file content mode => if mode.readable then .ok content else .error .permissionDenied

/-! ## Changing -/

/-- Whether what is at a location may be changed: the content of a file, or the entries of a folder.
-/
def mayChange (t : FileTree) (location : Location) : Bool :=
  (t.get? location).any (·.mode.writable)

/-- Changes the content of the file at a path; a file that does not exist is made. -/
def modify (t : FileTree) (path : Path) (f : Option ByteArray → ByteArray) :
    Except OsError FileTree := do
  match ← t.goal path with
  | .back _ => .error .isADirectory
  | .entry folder name slashed =>
    let location := folder ++ [name]
    if slashed then .error .isADirectory
    else match t.get? location with
      | some (.folder ..) => .error .isADirectory
      | some (.file content mode) =>
        if mode.writable then .ok (t.put location (.file (f (some content)) mode))
        else .error .permissionDenied
      | none =>
        if t.mayChange folder then .ok (t.put location (.file (f none) {}))
        else .error .permissionDenied

/-- Gives the file at a path a new content. -/
def write (t : FileTree) (path : Path) (content : ByteArray) : Except OsError FileTree :=
  t.modify path fun _ => content

/-- Makes an empty file at a path, unless there is a file already. -/
def touch (t : FileTree) (path : Path) : Except OsError FileTree :=
  t.modify path (·.getD .empty)

/-- Removes the file at a path. -/
def remove (t : FileTree) (path : Path) : Except OsError FileTree := do
  let location ← t.locate path
  match t.get? location with
  | some (.file ..) =>
    if t.mayChange location.dropLast then .ok (t.erase location) else .error .permissionDenied
  | some (.folder ..) => .error .isADirectory
  | none => .error .notFound

/-- Refuses a folder that has entries. -/
def checkVacant : Option Node → Except OsError Unit
  | some (.folder (_ :: _) _) => .error .directoryNotEmpty
  | _ => .ok ()

/-- Whether what is at one location can be moved to another. Neither can take the place of a folder
it lies in, and both folders that they lie in must be such that they may be changed. A file replaces
files only, and a folder nothing but folders without entries; a folder that gets into another one
must itself be such that it may be changed. -/
def checkMove (t : FileTree) (moved : Node) (source target : Location) : Except OsError Unit :=
  if source = target then .ok ()
  else if moved.isFolder && source.isPrefixOf target then .error .invalidArgument
  else if target.isPrefixOf source then .error .directoryNotEmpty
  else if !(t.mayChange source.dropLast && t.mayChange target.dropLast) then
    .error .permissionDenied
  else match moved, t.get? target with
    | .file .., some (.folder ..) => .error .isADirectory
    | .file .., _ => .ok ()
    | .folder .., some (.file ..) => .error .notADirectory
    | .folder _ mode, present =>
      if source.dropLast != target.dropLast && !mode.writable then .error .permissionDenied
      else checkVacant present

/-- Moves what is at one path to another, where it replaces what was there. -/
def rename (t : FileTree) (source target : Path) : Except OsError FileTree := do
  match ← t.goal source, ← t.goal target with
  | .entry fromFolder fromName fromSlash, .entry toFolder toName toSlash =>
    let fromPlace := fromFolder ++ [fromName]
    let toPlace := toFolder ++ [toName]
    match t.get? fromPlace with
    | none => .error .notFound
    | some moved =>
      if !moved.isFolder && (fromSlash || toSlash) then .error .notADirectory
      else
        t.checkMove moved fromPlace toPlace
        return if fromPlace = toPlace then t else (t.erase fromPlace).put toPlace moved
  | _, _ => .error .busy

/-- The tree with folders at a location and all the way to it. -/
def makeFolders (t : FileTree) (location : Location) : FileTree :=
  (List.range location.length).foldl
    (fun t n => t.alter (location.take (n + 1)) fun node => some (node.getD .emptyFolder)) t

end FileTree

end AsmHarness
