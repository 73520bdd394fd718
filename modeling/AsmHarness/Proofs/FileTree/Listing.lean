import AsmHarness.Proofs.FileTree.Access
import AsmHarness.Proofs.Path
import Mathlib.Data.List.Nodup
import Mathlib.Data.List.Perm.Basic

/-!
# What lies below a folder

In a proper tree every entry of a folder has a name of its own. What a path leads to then does not
depend on the order in which the entries of folders are enumerated, and the path to an entry leads
to that entry. A file is listed below a folder if all folders on the way to it can be listed and passed.
-/

namespace AsmHarness

namespace Node

/-- Every entry of a folder has a name, no two have the same, and it is so in every folder below. -/
inductive Proper : Node → Prop where
  /-- A file has no entries. -/
  | file (content : ByteArray) (mode : Mode) : Proper (.file content mode)
  /-- A folder is proper if its entries are. -/
  | folder {entries : List (String × Node)} (mode : Mode)
    (names : ∀ entry ∈ entries, Path.IsName entry.1)
    (distinct : (entries.map (·.1)).Nodup)
    (each : ∀ entry ∈ entries, Proper entry.2) :
    Proper (.folder entries mode)

/-- The location of a file below a node, all folders on the way being such that their entries can be
listed and that they can be passed. -/
inductive Listed : Node → Location → Prop where
  /-- A file itself. -/
  | file (content : ByteArray) (mode : Mode) : Listed (.file content mode) []
  /-- What is listed below an entry is listed below the folder. -/
  | entry {entries : List (String × Node)} {mode : Mode} {name : String} {node : Node}
    {location : Location} (readable : mode.readable = true) (passable : mode.executable = true)
    (mem : (name, node) ∈ entries) (below : Listed node location) :
    Listed (.folder entries mode) (name :: location)

end Node

/-- A tree as a system can hold it. -/
def FileTree.Proper (t : FileTree) : Prop := t.root.Proper

/-- An order in which the entries of folders are enumerated. It may be another one in every folder.
-/
structure Enumeration where
  /-- The entries of the folder at a location, put in order. -/
  order : Location → List (String × Node) → List (String × Node)
  /-- No entry is lost and none is added. -/
  perm : ∀ location entries, (order location entries).Perm entries

namespace Node

mutual

/-- A node at a location, as it is found by an enumeration. -/
def enumerated (enumeration : Enumeration) (here : Location) : Node → Node
  | .file content mode => .file content mode
  | .folder entries mode =>
    .folder (enumeration.order here (enumeratedEntries enumeration here entries)) mode

/-- The entries of a folder, each as it is found by an enumeration. -/
def enumeratedEntries (enumeration : Enumeration) (here : Location) :
    List (String × Node) → List (String × Node)
  | [] => []
  | (name, node) :: rest =>
    (name, node.enumerated enumeration (here ++ [name])) ::
      enumeratedEntries enumeration here rest

end

end Node

/-- A tree as it is found by an enumeration. -/
def FileTree.enumerated (t : FileTree) (enumeration : Enumeration) : FileTree :=
  { t with entries := enumeration.order [] (Node.enumeratedEntries enumeration [] t.entries) }

/-! ## Entries by name -/

namespace Node

section Entries

variable {entries after : List (String × Node)} {name : String} {node : Node}

theorem lookup_eq_some_iff (hdistinct : (entries.map (·.1)).Nodup) :
    entries.lookup name = some node ↔ (name, node) ∈ entries := by
  induction entries with
  | nil => simp
  | cons entry rest ih =>
    obtain ⟨key, first⟩ := entry
    rw [List.map_cons, List.nodup_cons] at hdistinct
    by_cases hname : name = key
    · subst hname
      have hnot : (name, node) ∉ rest := fun hmem =>
        hdistinct.1 (List.mem_map.2 ⟨_, hmem, rfl⟩)
      rw [List.lookup_cons_self, List.mem_cons]
      simp [hnot, eq_comm]
    · rw [lookup_cons_of_ne hname, ih hdistinct.2, List.mem_cons]
      simp [hname]

/-- The order of the entries does not matter to what is found by name. -/
theorem lookup_eq_of_perm (hdistinct : (entries.map (·.1)).Nodup) (hperm : after.Perm entries)
    (name : String) : after.lookup name = entries.lookup name := by
  have hafter : (after.map (·.1)).Nodup := (hperm.map _).nodup_iff.2 hdistinct
  ext node
  rw [lookup_eq_some_iff hafter, lookup_eq_some_iff hdistinct, hperm.mem_iff]

end Entries

/-! ## The order of enumeration -/

section Enumerate

variable (enumeration : Enumeration)

theorem enumeratedEntries_eq_map (here : Location) (entries : List (String × Node)) :
    enumeratedEntries enumeration here entries =
      entries.map fun entry => (entry.1, entry.2.enumerated enumeration (here ++ [entry.1])) := by
  induction entries with
  | nil => rfl
  | cons entry rest ih => rw [enumeratedEntries, ih, List.map_cons]

theorem keys_enumeratedEntries (here : Location) (entries : List (String × Node)) :
    (enumeratedEntries enumeration here entries).map (·.1) = entries.map (·.1) := by
  rw [enumeratedEntries_eq_map, List.map_map]
  rfl

theorem lookup_enumeratedEntries (here : Location) (entries : List (String × Node))
    (name : String) :
    (enumeratedEntries enumeration here entries).lookup name =
      (entries.lookup name).map (·.enumerated enumeration (here ++ [name])) := by
  induction entries with
  | nil => rfl
  | cons entry rest ih =>
    obtain ⟨key, node⟩ := entry
    rw [enumeratedEntries]
    by_cases hname : name = key
    · subst hname
      rw [List.lookup_cons_self, List.lookup_cons_self]
      rfl
    · rw [lookup_cons_of_ne hname, lookup_cons_of_ne hname, ih]

/-- Where something lies is the same for every enumeration. -/
theorem Proper.get?_enumerated {node : Node} (h : node.Proper) (here location : Location) :
    (node.enumerated enumeration here).get? location =
      (node.get? location).map (·.enumerated enumeration (here ++ location)) := by
  induction location generalizing node here with
  | nil => simp
  | cons name rest ih =>
    cases h with
    | file content mode => rfl
    | @folder entries mode names distinct each =>
      have hkeys : ((enumeratedEntries enumeration here entries).map (·.1)).Nodup := by
        rwa [keys_enumeratedEntries]
      rw [enumerated, get?_folder_cons, get?_folder_cons,
        lookup_eq_of_perm hkeys (enumeration.perm ..), lookup_enumeratedEntries]
      cases hlookup : entries.lookup name with
      | none => rfl
      | some below =>
        have hbelow := each _ ((lookup_eq_some_iff distinct).1 hlookup)
        rw [Option.map_some, Option.bind_some, Option.bind_some, ih hbelow, List.append_assoc,
          List.singleton_append]

theorem Proper.of_get? {node below : Node} (h : node.Proper) {location : Location}
    (hget : node.get? location = some below) : below.Proper := by
  induction location generalizing node with
  | nil =>
    obtain rfl : node = below := by simpa using hget
    exact h
  | cons name rest ih =>
    cases h with
    | file content mode => simp at hget
    | @folder entries mode names distinct each =>
      rw [get?_folder_cons, Option.bind_eq_some_iff] at hget
      obtain ⟨first, hfirst, hrest⟩ := hget
      exact ih (each _ ((lookup_eq_some_iff distinct).1 hfirst)) hrest

end Enumerate

end Node

namespace FileTree

variable {t : FileTree} {path : Path} {name : String}

section Enumerate

variable (h : t.Proper) (enumeration : Enumeration)

include h

theorem Proper.get?_enumerated (location : Location) :
    (t.enumerated enumeration).get? location =
      (t.get? location).map (·.enumerated enumeration location) := by
  have hroot : (t.enumerated enumeration).root = t.root.enumerated enumeration [] := by
    rw [root, root, Node.enumerated, enumerated]
  rw [get?, hroot, Node.Proper.get?_enumerated enumeration h, List.nil_append]
  rfl

theorem Proper.follow_enumerated (here : Location) (parts : List String) :
    (t.enumerated enumeration).follow here parts = t.follow here parts := by
  induction parts generalizing here with
  | nil => rfl
  | cons part rest ih =>
    rw [follow, follow, h.get?_enumerated, h.get?_enumerated, Option.isNone_map]
    cases t.get? here with
    | none => rfl
    | some node =>
      cases node with
      | file content mode => rfl
      | folder entries mode => simp only [Option.map_some, Node.enumerated, ih]

theorem Proper.checkFolder_enumerated (location : Location) :
    (t.enumerated enumeration).checkFolder location = t.checkFolder location := by
  rw [checkFolder, checkFolder, h.get?_enumerated]
  cases t.get? location with
  | none => rfl
  | some node => cases node <;> rfl

theorem Proper.locate_enumerated (path : Path) :
    (t.enumerated enumeration).locate path = t.locate path := by
  have hstart : (t.enumerated enumeration).start path = t.start path := rfl
  simp only [locate, hstart, h.follow_enumerated, h.checkFolder_enumerated]

/-- A path leads to the same file for every enumeration. -/
theorem Proper.read_enumerated (path : Path) :
    (t.enumerated enumeration).read path = t.read path := by
  unfold read node
  rw [h.locate_enumerated]
  cases t.locate path with
  | error cause => rfl
  | ok location =>
    simp only [bind, Except.bind, h.get?_enumerated]
    cases t.get? location with
    | none => rfl
    | some node => cases node <;> rfl

end Enumerate

/-! ## Paths to entries -/

theorem checkPath_eq_ok : checkPath path = .ok () ↔ '\x00' ∉ path.toList ∧ path ≠ "" := by
  simp only [checkPath, List.contains_iff_mem]
  split_ifs with hnul hempty
  · simp [hnul]
  · simp [hempty]
  · simp [hnul, hempty]

/-- A path that can lead somewhere can be led on by a name. -/
theorem checkPath_join (h : checkPath path = .ok ()) (hname : Path.IsName name) :
    checkPath (path.join name) = .ok () := by
  obtain ⟨hnul, hne⟩ := checkPath_eq_ok.1 h
  rcases Path.toList_join hname.no_slash path with ⟨hempty, -⟩ | ⟨front, hfront, hjoin⟩
  · exact absurd hempty hne
  · have hnotFront : '\x00' ∉ front := by
      rcases hfront with hfront | ⟨hfront, -⟩
      · rw [hfront] at hnul
        exact fun hmem => hnul (List.mem_append_left _ hmem)
      · rwa [hfront] at hnul
    refine checkPath_eq_ok.2 ⟨?_, ?_⟩
    · rw [hjoin]
      simp only [List.mem_append, List.mem_cons, not_or]
      exact ⟨hnotFront, by decide, hname.no_nul⟩
    · rw [Ne, ← String.toList_inj, hjoin]
      simp

theorem endsInSlash_join (hname : Path.IsName name) : (path.join name).endsInSlash = false := by
  have hne : name.toList ≠ [] := by simpa using hname.ne_empty
  have hlast : (path.join name).toList.getLast? = name.toList.getLast? := by
    rcases Path.toList_join hname.no_slash path with ⟨-, hjoin⟩ | ⟨front, -, hjoin⟩
    · rw [hjoin]
    · rw [hjoin, List.getLast?_append_cons, List.getLast?_cons_of_ne_nil hne]
  rw [Path.endsInSlash, hlast, decide_eq_false_iff_not]
  exact fun hslash => hname.no_slash (List.mem_of_getLast? hslash)

/-- Where a path leads on from a folder to an entry. -/
theorem follow_join {entries : List (String × Node)} {mode : Mode}
    (h : t.node path = .ok (.folder entries mode)) (hname : Path.IsName name) :
    ∃ location, t.get? location = some (.folder entries mode) ∧
      checkPath (path.join name) = .ok () ∧ (path.join name).endsInSlash = false ∧
      t.follow (t.start (path.join name)) (path.join name).parts = t.follow location [name] := by
  obtain ⟨location, hlocate, hget⟩ := node_eq_ok.1 h
  obtain ⟨hcheck, hfollow, -⟩ := locate_eq_ok_iff.1 hlocate
  have hstart : t.start (path.join name) = t.start path := by
    rw [start, start,
      Path.isAbsolute_join_of_relative (Path.not_isAbsolute_of_no_slash hname.no_slash)]
  refine ⟨location, hget, checkPath_join hcheck hname, endsInSlash_join hname, ?_⟩
  rw [Path.parts_join hname.ne_empty hname.no_slash, hstart, follow_append, hfollow]
  rfl

/-- The path to an entry of a folder leads to that entry if the folder may be passed. -/
theorem node_join {entries : List (String × Node)} {mode : Mode} {node : Node}
    (h : t.node path = .ok (.folder entries mode)) (hmode : mode.executable = true)
    (hname : Path.IsName name) (hnode : entries.lookup name = some node) :
    t.node (path.join name) = .ok node := by
  obtain ⟨location, hget, hcheck, hslash, hfollow⟩ := follow_join h hname
  have hbelow : t.get? (location ++ [name]) = some node := by
    rw [get?] at hget ⊢
    rw [Node.get?_append, hget]
    simp [hnode]
  have hstep : t.follow location [name] = .ok (location ++ [name]) := by
    rw [follow_cons ⟨entries, mode, hget, hmode⟩]
    simp [follow, hname.ne_dot, hname.ne_up, Nat.not_lt.2 hname.short, hbelow]
  refine node_eq_ok.2 ⟨location ++ [name], ?_, hbelow⟩
  exact locate_eq_ok_iff.2 ⟨hcheck, hfollow.trans hstep, by simp [hslash]⟩

/-- Nothing is found in a folder that may not be passed. -/
theorem read_join_of_not_executable {entries : List (String × Node)} {mode : Mode}
    (h : t.node path = .ok (.folder entries mode)) (hmode : mode.executable = false)
    (hname : Path.IsName name) : t.read (path.join name) = .error .permissionDenied := by
  obtain ⟨location, hget, hcheck, -, hfollow⟩ := follow_join h hname
  have hstep : t.follow location [name] = .error .permissionDenied := by
    simp [follow, hget, hmode]
  simp [FileTree.read, FileTree.node, locate, hcheck, hfollow, hstep, bind, Except.bind]

/-- What a path leads to is proper. -/
theorem Proper.of_node {node : Node} (h : t.Proper) (hnode : t.node path = .ok node) :
    node.Proper := by
  obtain ⟨location, -, hget⟩ := node_eq_ok.1 hnode
  exact h.of_get? hget

end FileTree

namespace Node

variable {t : FileTree} {path : Path} {node : Node} {location : Location}

theorem listed_file {content : ByteArray} {mode : Mode} :
    (Node.file content mode).Listed location ↔ location = [] := by
  constructor
  · rintro ⟨⟩
    rfl
  · rintro rfl
    exact .file content mode

theorem listed_folder {entries : List (String × Node)} {mode : Mode} :
    (Node.folder entries mode).Listed location ↔
      (mode.readable = true ∧ mode.executable = true) ∧
        ∃ entry ∈ entries, ∃ below, location = entry.1 :: below ∧ entry.2.Listed below := by
  constructor
  · intro h
    cases h with
    | entry readable passable mem below =>
      exact ⟨⟨readable, passable⟩, _, mem, _, rfl, below⟩
  · rintro ⟨⟨readable, passable⟩, entry, hmem, below, rfl, hbelow⟩
    exact .entry readable passable hmem hbelow

/-- The names on the way to a file that is listed are names. -/
theorem Listed.isName (h : node.Listed location) (hproper : node.Proper) :
    ∀ name ∈ location, Path.IsName name := by
  induction h with
  | file content mode => simp
  | entry readable passable mem below ih =>
    cases hproper with
    | folder mode names distinct each =>
      rw [List.forall_mem_cons]
      exact ⟨names _ mem, ih (each _ mem)⟩

/-- The path to a file that is listed below a folder leads to that file. -/
theorem Listed.node_along (h : node.Listed location) (hproper : node.Proper)
    (hnode : t.node path = .ok node) :
    ∃ content mode, t.node (path.along location) = .ok (.file content mode) := by
  induction h generalizing path with
  | file content mode => exact ⟨content, mode, hnode⟩
  | entry readable passable mem below ih =>
    cases hproper with
    | folder mode names distinct each =>
      have hlookup := (lookup_eq_some_iff distinct).2 mem
      exact ih (each _ mem) (FileTree.node_join hnode passable (names _ mem) hlookup)

end Node

end AsmHarness
