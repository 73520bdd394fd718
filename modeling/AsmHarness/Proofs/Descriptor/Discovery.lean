import AsmHarness.Proofs.Descriptor.Read
import AsmHarness.Proofs.Descriptor.Sorting
import AsmHarness.Proofs.FileTree.Listing
import Mathlib.Data.List.Flatten
import Mathlib.Data.List.Sort

/-!
# Which descriptors are found below a folder

The files below a folder are gone through depth first, the entries of every folder in the order of
their names, and the descriptors that are found are sorted by name. The order in which entries are
enumerated is of no importance, nor is what other files hold to the descriptors of a file.
-/

namespace AsmHarness.Descriptor

/-! ## What is found -/

/-- The path of a descriptor file that was found. -/
def Found.file? : Found → Option Path
  | .file path => some path
  | .barred _ | .unlisted .. => none

/-- The order in which entries come does not matter if their names differ. -/
theorem inNameOrder_eq_of_perm {found after : List (String × List Found)}
    (hdistinct : (found.map (·.1)).Nodup) (hperm : after.Perm found) :
    inNameOrder after = inNameOrder found := by
  have hsorted : (after.mergeSort fun a b => a.1 ≤ b.1) = found.mergeSort fun a b => a.1 ≤ b.1 := by
    refine List.Perm.eq_of_pairwise ?_ (pairwise_mergeSort_key (·.1) after)
      (pairwise_mergeSort_key (·.1) found)
      ((List.mergeSort_perm ..).trans (hperm.trans (List.mergeSort_perm ..).symm))
    intro a b ha hb hab hba
    rw [List.mem_mergeSort] at ha hb
    exact List.inj_on_of_nodup_map hdistinct (hperm.mem_iff.1 ha) hb (le_antisymm hab hba)
  rw [inNameOrder, inNameOrder, hsorted]

theorem foundIn_eq_map (path : Path) (entries : List (String × Node)) :
    foundIn path entries =
      entries.map fun entry => (entry.1, foundAt (path.join entry.1) entry.2) := by
  induction entries with
  | nil => rfl
  | cons entry rest ih => rw [foundIn, ih, List.map_cons]

theorem mem_inNameOrder {found : List (String × List Found)} {first : Found} :
    first ∈ inNameOrder found ↔ ∃ entry ∈ found, first ∈ entry.2 := by
  simp [inNameOrder]

theorem mem_foundPlain {make : Path → Found} {path : Path} {first : Found} :
    first ∈ foundPlain make path ↔
      path.extension? = some descriptorExtension ∧ first = make path := by
  unfold foundPlain
  by_cases hextension : path.extension? = some descriptorExtension <;> simp [hextension]

section Folders

variable {mode : Mode}

theorem foundAt_of_unreadable (hreadable : mode.readable = false) (path : Path)
    (entries : List (String × Node)) :
    foundAt path (.folder entries mode) = [.unlisted path .permissionDenied] := by
  simp [foundAt, hreadable]

theorem foundAt_of_barred (hreadable : mode.readable = true) (hpassable : mode.executable = false)
    (path : Path) (entries : List (String × Node)) :
    foundAt path (.folder entries mode) = inNameOrder
      (entries.map fun entry => (entry.1, foundPlain .barred (path.join entry.1))) := by
  simp [foundAt, hreadable, hpassable]

theorem foundAt_of_open (hreadable : mode.readable = true) (hpassable : mode.executable = true)
    (path : Path) (entries : List (String × Node)) :
    foundAt path (.folder entries mode) = inNameOrder (foundIn path entries) := by
  simp [foundAt, hreadable, hpassable]

/-- The entries of a folder are entered in the order of their names. -/
theorem foundAt_folder (hreadable : mode.readable = true) (hpassable : mode.executable = true)
    (path : Path) (entries : List (String × Node)) :
    foundAt path (.folder entries mode) =
      (entries.mergeSort fun a b => a.1 ≤ b.1).flatMap fun entry =>
        foundAt (path.join entry.1) entry.2 := by
  rw [foundAt_of_open hreadable hpassable, inNameOrder, foundIn_eq_map,
    ← List.map_mergeSort (r := fun a b => a.1 ≤ b.1), List.flatMap_map]
  exact fun a _ b _ => rfl

end Folders

/-- What lies in a folder that may not be passed cannot be read. -/
theorem read_of_barred {files : FileTree} {node : Node} {path barred : Path} (h : node.Proper)
    (hnode : files.node path = .ok node) (hmem : .barred barred ∈ foundAt path node) :
    files.read barred = .error .permissionDenied := by
  induction h generalizing path with
  | file content mode =>
    obtain ⟨-, hfile⟩ := mem_foundPlain.1 hmem
    cases hfile
  | @folder entries mode names distinct each ih =>
    cases hreadable : mode.readable with
    | false => simp [foundAt_of_unreadable hreadable] at hmem
    | true =>
      cases hpassable : mode.executable with
      | false =>
        rw [foundAt_of_barred hreadable hpassable, mem_inNameOrder] at hmem
        obtain ⟨found, hfound, hbarred⟩ := hmem
        obtain ⟨entry, hentry, rfl⟩ := List.mem_map.1 hfound
        obtain ⟨-, hpath⟩ := mem_foundPlain.1 hbarred
        obtain rfl := Found.barred.inj hpath
        exact FileTree.read_join_of_not_executable hnode hpassable (names entry hentry)
      | true =>
        rw [foundAt_of_open hreadable hpassable, foundIn_eq_map, mem_inNameOrder] at hmem
        obtain ⟨found, hfound, hbarred⟩ := hmem
        obtain ⟨entry, hentry, rfl⟩ := List.mem_map.1 hfound
        have hlookup := (Node.lookup_eq_some_iff distinct).2 hentry
        exact ih entry hentry
          (FileTree.node_join hnode hpassable (names entry hentry) hlookup) hbarred

/-! ## The order of enumeration -/

/-- What is found does not depend on the order in which entries are enumerated. -/
theorem foundAt_enumerated {node : Node} (h : node.Proper) (enumeration : Enumeration)
    (here : Location) (path : Path) :
    foundAt path (node.enumerated enumeration here) = foundAt path node := by
  induction h generalizing here path with
  | file content mode => rfl
  | @folder entries mode names distinct each ih =>
    rw [Node.enumerated]
    cases hreadable : mode.readable with
    | false => rw [foundAt_of_unreadable hreadable, foundAt_of_unreadable hreadable]
    | true =>
    -- each entry leads to what it did, so only the order of the entries may differ
    cases hpassable : mode.executable with
    | false =>
      have heach : ((Node.enumeratedEntries enumeration here entries).map fun entry =>
            (entry.1, foundPlain .barred (path.join entry.1))) =
          entries.map fun entry => (entry.1, foundPlain .barred (path.join entry.1)) := by
        rw [Node.enumeratedEntries_eq_map, List.map_map]
        rfl
      rw [foundAt_of_barred hreadable hpassable, foundAt_of_barred hreadable hpassable, ← heach]
      refine inNameOrder_eq_of_perm ?_ ((enumeration.perm ..).map _)
      rw [heach, List.map_map]
      exact distinct
    | true =>
      have heach : foundIn path (Node.enumeratedEntries enumeration here entries) =
          foundIn path entries := by
        rw [foundIn_eq_map, foundIn_eq_map, Node.enumeratedEntries_eq_map, List.map_map]
        exact List.map_congr_left fun entry hmem => by
          rw [Function.comp_apply, ih entry hmem]
      rw [foundAt_of_open hreadable hpassable, foundAt_of_open hreadable hpassable, ← heach]
      refine inNameOrder_eq_of_perm ?_ ?_
      · rw [heach, foundIn_eq_map, List.map_map]
        exact distinct
      · rw [foundIn_eq_map, foundIn_eq_map]
        exact (enumeration.perm ..).map _

theorem discover_enumerated {files : FileTree} (h : files.Proper) (enumeration : Enumeration)
    (directory : Path) :
    discover (files.enumerated enumeration) directory = discover files directory := by
  unfold discover FileTree.node
  rw [h.locate_enumerated]
  cases files.locate directory with
  | error cause => rfl
  | ok location =>
    simp only [bind, Except.bind, h.get?_enumerated]
    cases hget : files.get? location with
    | none => rfl
    | some node =>
      have hfound := foundAt_enumerated (h.of_get? hget) enumeration location directory
      cases node with
      | file content mode => rfl
      | folder entries mode => exact hfound

theorem loadFound_congr {files other : FileTree} (h : ∀ path, other.read path = files.read path)
    (found : List Found) : loadFound other found = loadFound files found := by
  induction found with
  | nil => rfl
  | cons first rest ih =>
    cases first with
    | file path => rw [loadFound, loadFound, ih, readUsable_congr (h path)]
    | barred path => rw [loadFound, loadFound, ih, readUsable_congr (h path)]
    | unlisted path cause => rw [loadFound, loadFound, ih]

/-! ## The order of the files -/

/-- The location of a file with the extension of descriptor files, below the node that a path leads
to. All folders on the way can be listed and passed. -/
def Describes (path : Path) (node : Node) (location : Location) : Prop :=
  node.Listed location ∧ (path.along location).extension? = some descriptorExtension

/-- The descriptor files that were found are those at some locations, each once and in order. -/
structure Walk (path : Path) (wanted : Location → Prop) (found : List Found)
    (locations : List Location) : Prop where
  /-- The paths that were found lead to the locations. -/
  paths : found.filterMap Found.file? = locations.map path.along
  /-- The locations are those that are wanted. -/
  mem_iff : ∀ location, location ∈ locations ↔ wanted location
  /-- Names that come first are gone through first. -/
  ordered : locations.Pairwise (· < ·)

/-- If the entries are in the order of their names, so is what is found in one after the other. -/
theorem exists_walk_entries {path : Path} {entries : List (String × Node)}
    (hordered : entries.Pairwise fun a b => a.1 < b.1)
    (heach : ∀ entry ∈ entries, ∃ locations, Walk (path.join entry.1)
      (Describes (path.join entry.1) entry.2) (foundAt (path.join entry.1) entry.2) locations) :
    ∃ locations, Walk path
      (fun location => ∃ entry ∈ entries, ∃ below, location = entry.1 :: below ∧
        Describes (path.join entry.1) entry.2 below)
      (entries.flatMap fun entry => foundAt (path.join entry.1) entry.2) locations := by
  induction entries with
  | nil => exact ⟨[], rfl, by simp, .nil⟩
  | cons entry rest ih =>
    rw [List.forall_mem_cons] at heach
    rw [List.pairwise_cons] at hordered
    obtain ⟨first, hfirst⟩ := heach.1
    obtain ⟨others, hothers⟩ := ih hordered.2 heach.2
    refine ⟨first.map (entry.1 :: ·) ++ others, ?_, fun location => ?_, ?_⟩
    · rw [List.flatMap_cons, List.filterMap_append, hfirst.paths, hothers.paths, List.map_append,
        List.map_map]
      rfl
    · rw [List.mem_append, hothers.mem_iff, List.mem_map]
      simp only [hfirst.mem_iff, List.exists_mem_cons_iff, eq_comm, and_comm]
    · rw [List.pairwise_append, List.pairwise_map]
      refine ⟨hfirst.ordered.imp fun h => List.Lex.cons h, hothers.ordered, ?_⟩
      -- the names of the other entries are greater, whatever lies below them
      intro a ha b hb
      obtain ⟨below, -, rfl⟩ := List.mem_map.1 ha
      obtain ⟨later, hlater, further, rfl, -⟩ := (hothers.mem_iff b).1 hb
      exact .rel (hordered.1 later hlater)

/-- The descriptor files below a node are found in order, each of them once. -/
theorem exists_walk {node : Node} (h : node.Proper) (path : Path) :
    ∃ locations, Walk path (Describes path node) (foundAt path node) locations := by
  induction h generalizing path with
  | file content mode =>
    by_cases hextension : path.extension? = some descriptorExtension
    · refine ⟨[[]], ?_, fun location => ?_, List.pairwise_singleton ..⟩
      · simp [foundAt, foundPlain, hextension, Found.file?]
      · rw [Describes, Node.listed_file, List.mem_singleton, iff_self_and]
        rintro rfl
        exact hextension
    · refine ⟨[], ?_, fun location => ?_, .nil⟩
      · simp [foundAt, foundPlain, hextension]
      · rw [Describes, Node.listed_file]
        simp only [List.not_mem_nil, false_iff]
        rintro ⟨rfl, h⟩
        exact hextension h
  | @folder entries mode names distinct each ih =>
    cases hreadable : mode.readable with
    | false =>
      refine ⟨[], ?_, fun location => ?_, .nil⟩
      · rw [foundAt_of_unreadable hreadable]
        rfl
      · simp [Describes, Node.listed_folder, hreadable]
    | true =>
    cases hpassable : mode.executable with
    | false =>
      refine ⟨[], ?_, fun location => ?_, .nil⟩
      · rw [foundAt_of_barred hreadable hpassable, List.map_nil, List.filterMap_eq_nil_iff]
        intro first hfirst
        obtain ⟨found, hfound, hbarred⟩ := mem_inNameOrder.1 hfirst
        obtain ⟨entry, -, rfl⟩ := List.mem_map.1 hfound
        obtain ⟨-, rfl⟩ := mem_foundPlain.1 hbarred
        rfl
      · simp [Describes, Node.listed_folder, hpassable]
    | true =>
      have hkeys : ((entries.mergeSort fun a b => a.1 ≤ b.1).map (·.1)).Nodup :=
        ((List.mergeSort_perm ..).map _).nodup_iff.2 distinct
      have hordered : (entries.mergeSort fun a b => a.1 ≤ b.1).Pairwise fun a b => a.1 < b.1 :=
        List.Pairwise.imp₂ (fun _ _ => lt_of_le_of_ne) (pairwise_mergeSort_key (·.1) entries)
          (List.pairwise_map.1 (List.nodup_iff_pairwise_ne.1 hkeys))
      obtain ⟨locations, hwalk⟩ := exists_walk_entries hordered fun entry hmem =>
        ih entry (List.mem_mergeSort.1 hmem) (path.join entry.1)
      refine ⟨locations, ?_, fun location => ?_, hwalk.ordered⟩
      · rw [foundAt_folder hreadable hpassable, hwalk.paths]
      · rw [hwalk.mem_iff, Describes, Node.listed_folder]
        constructor
        · rintro ⟨entry, hmem, below, rfl, hlisted, hextension⟩
          exact ⟨⟨⟨hreadable, hpassable⟩, entry, List.mem_mergeSort.1 hmem, below, rfl, hlisted⟩, hextension⟩
        · rintro ⟨⟨-, entry, hmem, below, rfl, hlisted⟩, hextension⟩
          exact ⟨entry, List.mem_mergeSort.2 hmem, below, rfl, hlisted, hextension⟩

/-! ## Loading -/

theorem value_loadFound {files : FileTree} {found : List Found}
    (hbarred : ∀ path, .barred path ∈ found → Unusable files path) :
    (loadFound files found).value =
      (found.filterMap Found.file?).flatMap fun path => (readUsable files path).value := by
  induction found with
  | nil => rfl
  | cons first rest ih =>
    have hrest := ih fun path hmem => hbarred path (List.mem_cons_of_mem _ hmem)
    cases first with
    | file path =>
      have hfile : (Found.file path :: rest).filterMap Found.file? =
          path :: rest.filterMap Found.file? := List.filterMap_cons_some rfl
      rw [hfile, List.flatMap_cons, ← hrest]
      rfl
    | barred path =>
      have hnothing := (hbarred path (List.mem_cons_self ..)).value_readUsable
      rw [loadFound, Noted.value_bind, hnothing]
      exact hrest
    | unlisted path cause => exact hrest

theorem value_loadDirectory (files : FileTree) (directory : Path) :
    (loadDirectory files directory).value =
      sortByName (loadFound files (discover files directory)).value := rfl

/-- The location of a file with the extension of descriptor files, at any depth below the folder that
a path leads to. All folders on the way can be listed and passed. -/
def IsDescriptorFile (files : FileTree) (directory : Path) (location : Location) : Prop :=
  ∃ entries mode, files.node directory = .ok (.folder entries mode) ∧
    Describes directory (.folder entries mode) location

section Directory

variable {files : FileTree} {directory : Path} {location : Location}

theorem exists_walk_discover (h : files.Proper) (directory : Path) :
    ∃ locations, Walk directory (IsDescriptorFile files directory) (discover files directory)
      locations := by
  unfold discover
  split
  · next cause hnode => exact ⟨[], rfl, by simp [IsDescriptorFile, hnode], .nil⟩
  · next hnode => exact ⟨[], rfl, by simp [IsDescriptorFile, hnode], .nil⟩
  · next node hne hnode =>
    obtain ⟨locations, hwalk⟩ := exists_walk (h.of_node hnode) directory
    cases node with
    | file content mode => exact absurd rfl (hne content mode)
    | folder entries mode =>
      refine ⟨locations, hwalk.paths, fun location => ?_, hwalk.ordered⟩
      rw [hwalk.mem_iff]
      constructor
      · exact fun hdescribes => ⟨entries, mode, hnode, hdescribes⟩
      · rintro ⟨entries', mode', hnode', hdescribes⟩
        cases hnode.symm.trans hnode'
        exact hdescribes

theorem IsDescriptorFile.filePath_along (h : IsDescriptorFile files directory location) :
    filePath (directory.along location) = directory.along location := by
  obtain ⟨entries, mode, -, -, hextension⟩ := h
  exact filePath_of_extension hextension

theorem unusable_of_barred (h : files.Proper) {barred : Path}
    (hmem : .barred barred ∈ discover files directory) : Unusable files barred := by
  unfold discover at hmem
  split at hmem
  · simp at hmem
  · simp at hmem
  · next node hne hnode => exact .unreadable (read_of_barred (h.of_node hnode) hnode hmem)

/-- The descriptors that are come across are those of the descriptor files, one file after the
other. -/
theorem exists_loaded (h : files.Proper) (directory : Path) :
    ∃ locations, Walk directory (IsDescriptorFile files directory) (discover files directory)
        locations ∧
      (loadFound files (discover files directory)).value =
        locations.flatMap fun location => (loadFile files (directory.along location)).value := by
  obtain ⟨locations, hwalk⟩ := exists_walk_discover h directory
  refine ⟨locations, hwalk, ?_⟩
  rw [value_loadFound fun path => unusable_of_barred h, hwalk.paths, List.flatMap_map]
  refine List.flatMap_congr fun location hmem => ?_
  rw [loadFile, ((hwalk.mem_iff location).1 hmem).filePath_along]

/-- The path to a descriptor file leads to a file. -/
theorem IsDescriptorFile.node_along (h : files.Proper)
    (hfile : IsDescriptorFile files directory location) :
    ∃ content mode, files.node (directory.along location) = .ok (.file content mode) := by
  obtain ⟨entries, mode, hnode, hlisted, -⟩ := hfile
  exact hlisted.node_along (h.of_node hnode) hnode

/-- A tree is another but for descriptor files that are of no use or are not come across, such as
those below folders that cannot be listed or passed. -/
def Impairs (other files : FileTree) (directory : Path) : Prop :=
  ∀ location, IsDescriptorFile other directory location →
    IsDescriptorFile files directory location ∧
      (Unusable other (directory.along location) ∨
        other.read (directory.along location) = files.read (directory.along location))

/-- What becomes of no use takes its own descriptors away, and leaves all others as they were. -/
theorem Impairs.sublist {other : FileTree} (himpairs : Impairs other files directory)
    (h : files.Proper) (hother : other.Proper) :
    (loadDirectory other directory).value.Sublist (loadDirectory files directory).value := by
  obtain ⟨locations, hwalk, hloaded⟩ := exists_loaded h directory
  obtain ⟨kept, hwalk', hloaded'⟩ := exists_loaded hother directory
  have hantisymm : Std.Antisymm fun a b : Location => a < b :=
    ⟨fun a b hab hba => absurd hba (List.lt_asymm hab)⟩
  -- both trees are gone through in one order, so it is enough that one has no file of its own
  have hsublist : kept.Sublist locations := by
    refine List.sublist_of_subperm_of_pairwise ?_ hwalk'.ordered hwalk.ordered
    refine List.subperm_of_subset (hwalk'.ordered.imp ne_of_lt) fun location hmem => ?_
    exact (hwalk.mem_iff location).2 (himpairs location ((hwalk'.mem_iff location).1 hmem)).1
  rw [value_loadDirectory, value_loadDirectory, hloaded, hloaded']
  refine sortByName_sublist ((List.Sublist.flatMap_right _ fun location hmem => ?_).trans
    (hsublist.flatMap _))
  have hfile := (hwalk'.mem_iff location).1 hmem
  rw [loadFile, loadFile, hfile.filePath_along]
  rcases (himpairs location hfile).2 with hunusable | hread
  · rw [hunusable.value_readUsable]
    exact List.nil_sublist _
  · rw [readUsable_congr hread]

theorem map_bytes_lt {a b : Location} (h : a < b) : a.map Utf8.bytes < b.map Utf8.bytes := by
  induction h with
  | nil => exact .nil
  | rel hlt => exact .rel (Utf8.bytes_lt_iff.2 hlt)
  | cons _ ih => exact .cons ih

/-- What is come across below a folder is what its descriptor files hold. -/
theorem mem_loadDirectory_iff {d : Descriptor} (h : files.Proper) :
    d ∈ (loadDirectory files directory).value ↔ ∃ location seq,
      IsDescriptorFile files directory location ∧
        ReadFrom files (directory.along location) seq d := by
  obtain ⟨locations, hwalk, hloaded⟩ := exists_loaded h directory
  rw [value_loadDirectory, (sortByName_sorted _).perm.mem_iff, hloaded, List.mem_flatMap]
  constructor
  · rintro ⟨location, hmem, hd⟩
    have hfile := (hwalk.mem_iff location).1 hmem
    rw [loadFile, hfile.filePath_along, mem_readUsable_iff] at hd
    obtain ⟨seq, hread⟩ := hd
    exact ⟨location, seq, hfile, hread⟩
  · rintro ⟨location, seq, hfile, hread⟩
    refine ⟨location, (hwalk.mem_iff location).2 hfile, ?_⟩
    rw [loadFile, hfile.filePath_along]
    exact mem_readUsable_iff.2 ⟨seq, hread⟩

end Directory

/-- The descriptors below a folder are those of its descriptor files, the files being gone through
depth first in the order of the bytes of their names, stably sorted by name. The order in which
entries are enumerated does not matter. A file of no use adds nothing, what is read from a file
depends on that file alone, and what becomes of no use leaves the descriptors of all other files as
they were. -/
theorem loadDirectory_files (files : FileTree) (h : files.Proper) (directory : Path) :
    (∃ locations : List Location,
      (∀ location, location ∈ locations ↔ IsDescriptorFile files directory location) ∧
      (locations.Pairwise fun a b => a.map Utf8.bytes < b.map Utf8.bytes) ∧
      (∀ location ∈ locations, ∃ content mode,
        files.node (directory.along location) = .ok (.file content mode)) ∧
      SortedByName (loadDirectory files directory).value
        (locations.flatMap fun location => (loadFile files (directory.along location)).value)) ∧
    (∀ enumeration,
      loadDirectory (files.enumerated enumeration) directory = loadDirectory files directory) ∧
    (∀ path, Unusable files (filePath path) → (loadFile files path).value = []) ∧
    (∀ (path : Path) (other : FileTree), other.read (filePath path) = files.read (filePath path) →
      loadFile other path = loadFile files path) ∧
    ∀ other : FileTree, other.Proper → Impairs other files directory →
      (loadDirectory other directory).value.Sublist (loadDirectory files directory).value := by
  refine ⟨?_, fun enumeration => ?_, fun path => Unusable.value_readUsable,
    fun path other => readUsable_congr, fun other hother himpairs => himpairs.sublist h hother⟩
  · obtain ⟨locations, hwalk, hloaded⟩ := exists_loaded h directory
    refine ⟨locations, hwalk.mem_iff, hwalk.ordered.imp map_bytes_lt, fun location hmem =>
      ((hwalk.mem_iff location).1 hmem).node_along h, ?_⟩
    rw [← hloaded, value_loadDirectory]
    exact sortByName_sorted _
  · unfold loadDirectory
    rw [discover_enumerated h, loadFound_congr (h.read_enumerated enumeration)]

/-! ## An example -/

/-- A list of one record. -/
def sampleList : ByteArray := "[\x7b\"description\":\"x\"\x7d]".toUTF8

/-- A record. -/
def sampleRecord : ByteArray := "\x7b\"description\":\"y\"\x7d".toUTF8

/-- The entries of a folder with a list, a record in a file that is called like the record of the
list, a folder with an empty file, and a folder that cannot be listed. -/
def sampleEntries : List (String × Node) :=
  [("locked", .folder [("b.json", .file .empty {})] { Mode.folder with readable := false }),
    ("a.json", .file sampleList {}), ("a.1.json", .file sampleRecord {}),
    ("sub", .folder [("c.json", .file .empty {})] .folder)]

/-- A tree with such a folder. -/
def sample : FileTree where
  entries := [("t", .folder sampleEntries .folder)]

theorem isName_sample :
    ∀ name ∈ ["t", "locked", "b.json", "a.json", "a.1.json", "sub", "c.json"],
      Path.IsName name := by
  simp only [List.forall_mem_cons]
  refine ⟨?_, ?_, ?_, ?_, ?_, ?_, ?_, by simp⟩ <;>
    exact ⟨by decide, by decide, by decide, by decide, by decide, by decide⟩

theorem sample_proper : sample.Proper := by
  have hentries : ∀ entry ∈ sampleEntries, Node.Proper entry.2 := by
    simp only [sampleEntries, List.forall_mem_cons]
    refine ⟨.folder _ ?_ ?_ ?_, .file .., .file .., .folder _ ?_ ?_ ?_, by simp⟩ <;>
      simp [isName_sample, Node.Proper.file]
  have hfolder : Node.Proper (.folder sampleEntries .folder) := by
    refine .folder .folder ?_ ?_ hentries <;> simp [sampleEntries, isName_sample]
  refine .folder .folder ?_ ?_ ?_ <;> simp [sample, isName_sample, hfolder]

/-- The entries of every folder the other way round. -/
def backwards : Enumeration := ⟨fun _ => List.reverse, fun _ _ => List.reverse_perm _⟩

theorem node_sample : sample.node "t" = .ok (.folder sampleEntries .folder) :=
  FileTree.node_eq_ok.2 ⟨["t"], rfl, rfl⟩

theorem read_sample {name : String} {content : ByteArray} (hname : name ∈ ["a.json", "a.1.json"])
    (hentry : sampleEntries.lookup name = some (.file content {})) :
    sample.read (Path.along "t" [name]) = .ok content := by
  have hisName := isName_sample name
    (List.mem_append_right ["t", "locked", "b.json"] (List.mem_append_left ["sub", "c.json"] hname))
  have hfile := FileTree.node_join node_sample rfl hisName hentry
  exact FileTree.read_eq_ok.2 ⟨{}, hfile, rfl⟩

theorem read_sample_nested : sample.read (Path.along "t" ["sub", "c.json"]) = .ok .empty := by
  have hsub : sample.node (Path.join "t" "sub") =
      .ok (.folder [("c.json", .file .empty {})] .folder) :=
    FileTree.node_join node_sample rfl (isName_sample "sub" (by simp)) rfl
  have hfile := FileTree.node_join hsub rfl (isName_sample "c.json" (by simp)) rfl
  exact FileTree.read_eq_ok.2 ⟨{}, hfile, rfl⟩

theorem isDescriptorFile_sample_iff {location : Location} :
    IsDescriptorFile sample "t" location ↔
      location = ["a.json"] ∨ location = ["a.1.json"] ∨ location = ["sub", "c.json"] := by
  have hextension : ∀ location ∈ [["a.json"], ["a.1.json"], ["sub", "c.json"]],
      Path.extension? (Path.along "t" location) = some descriptorExtension := by
    decide
  have hlisted : (Node.folder sampleEntries .folder).Listed location ↔
      location = ["a.json"] ∨ location = ["a.1.json"] ∨ location = ["sub", "c.json"] := by
    simp [Node.listed_folder, Node.listed_file, sampleEntries, Mode.folder]
  constructor
  · rintro ⟨entries, mode, hnode, hdescribes⟩
    cases node_sample.symm.trans hnode
    exact hlisted.1 hdescribes.1
  · intro h
    refine ⟨sampleEntries, .folder, node_sample, hlisted.2 h, hextension location ?_⟩
    simpa using h

/-- The files are gone through in the order of their names, not in that of the entries of folders.
The empty file adds nothing, nor does the folder that cannot be listed. -/
theorem loadDirectory_files_sample :
    sample.Proper ∧
      SortedByName (loadDirectory sample "t").value
        ([["a.1.json"], ["a.json"], ["sub", "c.json"]].flatMap fun location =>
          (loadFile sample (Path.along "t" location)).value) ∧
      loadDirectory (sample.enumerated backwards) "t" = loadDirectory sample "t" ∧
      (loadFile sample "t/sub/c").value = [] := by
  obtain ⟨⟨locations, hmem, hordered, -, hsorted⟩, henumerated, hunusable, -, -⟩ :=
    loadDirectory_files sample sample_proper "t"
  have hexpected : ([["a.1.json"], ["a.json"], ["sub", "c.json"]] : List Location).Pairwise
      fun a b => a.map Utf8.bytes < b.map Utf8.bytes := by
    decide
  have hlocations : locations = [["a.1.json"], ["a.json"], ["sub", "c.json"]] := by
    have hirrefl : ∀ a b : Location, a.map Utf8.bytes < b.map Utf8.bytes → a ≠ b := by
      rintro a _ hlt rfl
      exact List.lt_irrefl _ hlt
    have hperm : locations.Perm [["a.1.json"], ["a.json"], ["sub", "c.json"]] := by
      refine (List.perm_ext_iff_of_nodup (hordered.imp (hirrefl _ _)) (by decide)).2
        fun location => ?_
      rw [hmem, isDescriptorFile_sample_iff]
      simp [or_left_comm]
    exact hperm.eq_of_pairwise
      (fun a b _ _ hab hba => absurd hba (List.lt_asymm hab)) hordered hexpected
  have hpath : filePath "t/sub/c" = Path.along "t" ["sub", "c.json"] := by decide
  have hread := read_sample_nested
  rw [← hpath] at hread
  rw [hlocations] at hsorted
  exact ⟨sample_proper, hsorted, henumerated backwards,
    hunusable _ (.malformed hread (by decide +kernel))⟩

end AsmHarness.Descriptor
