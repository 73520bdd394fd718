/-!
# Trees of files

All files form a tree of folders. A location is the list of names that leads to a node from the root
of the tree. The working directory, from which the harness looks at the files, is at a location as
well, and stays there. Looking a location up and altering what is there are recursions along the
location; everything that happens to files is made of these two.

A node is a file or a folder, and says what the harness may do with it. Links, devices and the owners
of files are left out.
-/

namespace AsmHarness

/-- What may be done with a file or a folder. -/
structure Mode where
  /-- Whether the content of a file may be read, or the entries of a folder listed. -/
  readable : Bool := true
  /-- Whether the content of a file may be changed, or entries of a folder made and removed. -/
  writable : Bool := true
  /-- Whether a file may be started as a program, or a folder passed on the way to its entries. -/
  executable : Bool := false
  deriving DecidableEq, Repr

/-- What may be done with a folder that is not protected: everything. -/
def Mode.folder : Mode := { executable := true }

/-- A file or a folder. -/
inductive Node where
  /-- A file. -/
  | file (content : ByteArray) (mode : Mode)
  /-- A folder, whose entries are in no particular order. -/
  | folder (entries : List (String × Node)) (mode : Mode)

/-- The names that lead from the root to a node. -/
abbrev Location := List String

namespace Node

/-- An empty folder. -/
def emptyFolder : Node := .folder [] .folder

/-- Whether a node is a folder. -/
def isFolder : Node → Bool
  | .file .. => false
  | .folder .. => true

/-- What may be done with a node. -/
def mode : Node → Mode
  | .file _ mode => mode
  | .folder _ mode => mode

/-- The node at a location below this one. -/
def get? : Node → Location → Option Node
  | node, [] => some node
  | .file .., _ :: _ => none
  | .folder entries _, name :: rest => (entries.lookup name).bind (get? · rest)

/-- The entries with the one of the given name altered. No other entry of that name is left. -/
def alterEntry (name : String) (f : Option Node → Option Node) :
    List (String × Node) → List (String × Node)
  | [] => (f none).toList.map (name, ·)
  | (key, node) :: rest =>
    if key = name then (f (some node)).toList.map (key, ·) ++ rest.filter (·.1 ≠ name)
    else (key, node) :: alterEntry name f rest

/-- What a place holds after the node at a location below it has been altered. There is nothing to
alter below a file, or below nothing. -/
def alter (f : Option Node → Option Node) : Location → Option Node → Option Node
  | [], node => f node
  | name :: rest, some (.folder entries mode) =>
    some (.folder (alterEntry name (alter f rest) entries) mode)
  | _ :: _, node => node

end Node

/-- The files and folders of the system, as they are seen from the working directory. -/
structure FileTree where
  /-- The entries of the root. -/
  entries : List (String × Node)
  /-- What may be done with the root. -/
  mode : Mode := .folder
  /-- Where the working directory is. -/
  origin : Location := []

namespace FileTree

/-- A tree without files. -/
def empty : FileTree where
  entries := []

/-- The folder that everything lies in. -/
def root (t : FileTree) : Node := .folder t.entries t.mode

/-- The node at a location. -/
def get? (t : FileTree) (location : Location) : Option Node := t.root.get? location

/-- The tree with the node at a location altered. -/
def alter (t : FileTree) (location : Location) (f : Option Node → Option Node) : FileTree :=
  match Node.alter f location (some t.root) with
  | some (.folder entries mode) => { t with entries, mode }
  | _ => t

/-- The tree with a node put at a location. -/
def put (t : FileTree) (location : Location) (node : Node) : FileTree :=
  t.alter location fun _ => some node

/-- The tree without the node at a location. -/
def erase (t : FileTree) (location : Location) : FileTree :=
  t.alter location fun _ => none

/-- The same files, seen from another working directory. -/
def seenFrom (t : FileTree) (origin : Location) : FileTree := { t with origin }

end FileTree

end AsmHarness
