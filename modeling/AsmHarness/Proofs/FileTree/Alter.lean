import AsmHarness.FileTree.Locate
import Mathlib.Tactic.SplitIfs

/-!
# What an alteration leaves as it was

A tree is altered at one location. What lies elsewhere keeps its content; the folders above the
location stay folders, and only what they hold changes. So a path that led somewhere else, and did
not lead through the location, still leads there.
-/

namespace AsmHarness

namespace Node

/-! ## Entries -/

theorem lookup_cons_of_ne {name key : String} (hne : name ≠ key) (node : Node)
    (rest : List (String × Node)) : ((key, node) :: rest).lookup name = rest.lookup name := by
  have hbeq : (name == key) = false := beq_false_of_ne hne
  simp only [List.lookup_cons, hbeq]

theorem lookup_filter_self (name : String) (entries : List (String × Node)) :
    (entries.filter (·.1 ≠ name)).lookup name = none := by
  refine List.lookup_eq_none_iff.2 fun entry hentry => ?_
  have hne : entry.1 ≠ name := by simpa using (List.mem_filter.1 hentry).2
  simpa using hne.symm

theorem lookup_filter_of_ne {name other : String} (hne : other ≠ name)
    (entries : List (String × Node)) :
    (entries.filter (·.1 ≠ name)).lookup other = entries.lookup other := by
  induction entries with
  | nil => rfl
  | cons entry rest ih =>
    obtain ⟨key, node⟩ := entry
    by_cases hkey : key = name
    · subst hkey
      rw [lookup_cons_of_ne hne, List.filter_cons_of_neg (by simp), ih]
    · rw [List.filter_cons_of_pos (by simpa using hkey), List.lookup_cons, List.lookup_cons, ih]

/-- An altered entry holds what the alteration makes of it. -/
theorem lookup_alterEntry_self (name : String) (f : Option Node → Option Node)
    (entries : List (String × Node)) :
    (alterEntry name f entries).lookup name = f (entries.lookup name) := by
  induction entries with
  | nil => cases h : f none <;> simp [alterEntry, h]
  | cons entry rest ih =>
    obtain ⟨key, node⟩ := entry
    by_cases hkey : key = name
    · subst hkey
      have hself : ((key, node) :: rest).lookup key = some node := List.lookup_cons_self
      rw [alterEntry, if_pos rfl, hself]
      cases h : f (some node) with
      | none => exact lookup_filter_self key rest
      | some altered => exact List.lookup_cons_self
    · rw [alterEntry, if_neg hkey, lookup_cons_of_ne (Ne.symm hkey), ih,
        lookup_cons_of_ne (Ne.symm hkey)]

/-- The other entries stay as they are. -/
theorem lookup_alterEntry_of_ne {name other : String} (hne : other ≠ name)
    (f : Option Node → Option Node) (entries : List (String × Node)) :
    (alterEntry name f entries).lookup other = entries.lookup other := by
  induction entries with
  | nil =>
    cases h : f none with
    | none => simp [alterEntry, h]
    | some node => simpa [alterEntry, h] using lookup_cons_of_ne hne node []
  | cons entry rest ih =>
    obtain ⟨key, node⟩ := entry
    by_cases hkey : key = name
    · subst hkey
      have hrest := lookup_filter_of_ne hne rest
      rw [alterEntry, if_pos rfl, lookup_cons_of_ne hne]
      cases h : f (some node) with
      | none => exact hrest
      | some altered => exact (lookup_cons_of_ne hne altered _).trans hrest
    · rw [alterEntry, if_neg hkey, List.lookup_cons, List.lookup_cons, ih]

/-! ## Nodes below a node -/

@[simp] theorem get?_nil (node : Node) : node.get? [] = some node := by
  cases node <;> rfl

@[simp] theorem get?_file_cons (content : ByteArray) (mode : Mode) (name : String)
    (rest : Location) : (Node.file content mode).get? (name :: rest) = none := rfl

@[simp] theorem get?_folder_cons (entries : List (String × Node)) (mode : Mode)
    (name : String) (rest : Location) :
    (Node.folder entries mode).get? (name :: rest) =
      (entries.lookup name).bind (·.get? rest) := rfl

theorem get?_append (node : Node) (l m : Location) :
    node.get? (l ++ m) = (node.get? l).bind (·.get? m) := by
  induction l generalizing node with
  | nil => simp
  | cons name rest ih =>
    cases node with
    | file content mode => rfl
    | folder entries mode =>
      cases h : entries.lookup name <;> simp [h, ih]

/-- What a place holds before and after something else was altered: the same, but for a folder's
entries. -/
inductive Kept : Option Node → Option Node → Prop where
  /-- Nothing has changed. -/
  | same (node : Option Node) : Kept node node
  /-- A folder is still a folder. -/
  | folder (entries after : List (String × Node)) (mode : Mode) :
    Kept (some (.folder entries mode)) (some (.folder after mode))

theorem Kept.file {content : ByteArray} {mode : Mode} {after : Option Node}
    (h : Kept (some (.file content mode)) after) : after = some (.file content mode) := by
  cases h
  rfl

theorem Kept.of_file {content : ByteArray} {mode : Mode} {before : Option Node}
    (h : Kept before (some (.file content mode))) : before = some (.file content mode) := by
  cases h
  rfl

theorem Kept.none {after : Option Node} (h : Kept Option.none after) : after = Option.none := by
  cases h
  rfl

theorem Kept.exists_folder {entries : List (String × Node)} {mode : Mode} {after : Option Node}
    (h : Kept (some (.folder entries mode)) after) :
    ∃ after', after = some (.folder after' mode) := by
  cases h with
  | same => exact ⟨entries, rfl⟩
  | folder _ after' _ => exact ⟨after', rfl⟩

theorem Kept.symm {before after : Option Node} (h : Kept before after) : Kept after before := by
  cases h with
  | same => exact .same _
  | folder entries after mode => exact .folder after entries mode

theorem Kept.trans {before between after : Option Node} (h : Kept before between)
    (hlater : Kept between after) : Kept before after := by
  cases h with
  | same => exact hlater
  | folder entries more mode =>
    obtain ⟨last, rfl⟩ := hlater.exists_folder
    exact .folder entries last mode

theorem Kept.isSome {before after : Option Node} (h : Kept before after) :
    after.isSome = before.isSome := by
  cases h <;> rfl

/-- What does not lie at the altered location or below it is kept. -/
theorem kept_alter (f : Option Node → Option Node) {loc l : Location} (node : Node)
    (h : ¬ loc <+: l) : Kept (node.get? l) ((alter f loc (some node)).bind (·.get? l)) := by
  induction loc generalizing node l with
  | nil => exact absurd List.nil_prefix h
  | cons name rest ih =>
    cases node with
    | file content mode => exact .same _
    | folder entries mode =>
      cases l with
      | nil => exact .folder ..
      | cons other more =>
        by_cases hname : other = name
        · subst hname
          have hmore : ¬ rest <+: more := fun hp => h (by simpa using hp)
          simp only [alter, Option.bind_some, get?_folder_cons, lookup_alterEntry_self]
          cases hl : entries.lookup other with
          | some below => exact ih below hmore
          | none =>
            cases rest with
            | nil => exact absurd List.nil_prefix hmore
            | cons => exact .same _
        · simp only [alter, Option.bind_some, get?_folder_cons, lookup_alterEntry_of_ne hname]
          exact .same _

/-- An alteration takes place where there is a folder to hold the altered node. -/
theorem get?_alter_self (f : Option Node → Option Node) (node : Node) {folder : Location}
    {entries : List (String × Node)} {mode : Mode} (name : String)
    (h : node.get? folder = some (.folder entries mode)) :
    (alter f (folder ++ [name]) (some node)).bind (·.get? (folder ++ [name])) =
      f (node.get? (folder ++ [name])) := by
  induction folder generalizing node with
  | nil =>
    obtain rfl : node = .folder entries mode := by simpa using h
    simp [alter, lookup_alterEntry_self]
  | cons first rest ih =>
    cases node with
    | file => simp at h
    | folder outer outerMode =>
      cases hl : outer.lookup first with
      | none => simp [hl] at h
      | some below =>
        have hbelow : below.get? rest = some (.folder entries mode) := by simpa [hl] using h
        simpa [alter, lookup_alterEntry_self, hl] using ih below hbelow

end Node

namespace FileTree

variable {t : FileTree} {loc l folder : Location} {f : Option Node → Option Node}

/-! ## Nodes of a tree -/

/-- There is a folder at a location. -/
def HasFolder (t : FileTree) (l : Location) : Prop :=
  ∃ entries mode, t.get? l = some (.folder entries mode)

/-- There is a folder at a location, and it may be passed on the way to its entries. -/
def HasPassage (t : FileTree) (l : Location) : Prop :=
  ∃ entries mode, t.get? l = some (.folder entries mode) ∧ mode.executable = true

theorem HasPassage.hasFolder (h : t.HasPassage l) : t.HasFolder l := by
  obtain ⟨entries, mode, hl, -⟩ := h
  exact ⟨entries, mode, hl⟩

@[simp] theorem origin_alter (t : FileTree) (loc : Location) (f : Option Node → Option Node) :
    (t.alter loc f).origin = t.origin := by
  unfold alter
  split <;> rfl

@[simp] theorem origin_put (t : FileTree) (loc : Location) (node : Node) :
    (t.put loc node).origin = t.origin :=
  origin_alter ..

@[simp] theorem origin_erase (t : FileTree) (loc : Location) : (t.erase loc).origin = t.origin :=
  origin_alter ..

@[simp] theorem origin_seenFrom (t : FileTree) (origin : Location) :
    (t.seenFrom origin).origin = origin := rfl

theorem start_congr {t' : FileTree} (h : t'.origin = t.origin) (path : Path) :
    t'.start path = t.start path := by
  rw [start, start, h]

theorem get?_alter (hloc : loc ≠ []) (l : Location) :
    (t.alter loc f).get? l = (Node.alter f loc (some t.root)).bind (·.get? l) := by
  cases loc with
  | nil => exact absurd rfl hloc
  | cons name rest => rfl

/-- Above a node there are folders only. -/
theorem hasFolder_above {node : Node} (hp : loc <+: l) (hne : loc ≠ l)
    (h : t.get? l = some node) : t.HasFolder loc := by
  obtain ⟨below, rfl⟩ := hp
  cases below with
  | nil => exact absurd (List.append_nil loc).symm hne
  | cons name rest =>
    rw [get?, Node.get?_append] at h
    cases hloc : t.root.get? loc with
    | none => simp [hloc] at h
    | some node =>
      cases node with
      | file => simp [hloc] at h
      | folder entries mode => exact ⟨entries, mode, hloc⟩

theorem kept_alter (h : ¬ loc <+: l) : Node.Kept (t.get? l) ((t.alter loc f).get? l) := by
  have hloc : loc ≠ [] := fun hnil => h (hnil ▸ List.nil_prefix)
  rw [get?_alter hloc]
  exact Node.kept_alter f t.root h

/-- Where there is no folder, nothing but the place itself depends on an alteration. -/
theorem kept_alter_of_ne {node : Node} (hfile : ¬ t.HasFolder loc) (hne : l ≠ loc)
    (h : t.get? l = some node) : Node.Kept (some node) ((t.alter loc f).get? l) :=
  h ▸ kept_alter fun hp => hfile (hasFolder_above hp (Ne.symm hne) h)

/-- Everything else is kept when something is altered that is no folder before or after: nothing
lies below it. -/
theorem kept_alter_elsewhere (hbefore : ¬ t.HasFolder loc) (hafter : ¬ (t.alter loc f).HasFolder loc)
    (hne : l ≠ loc) : Node.Kept (t.get? l) ((t.alter loc f).get? l) := by
  by_cases hbelow : loc <+: l
  · have hnone : t.get? l = none := by
      rw [Option.eq_none_iff_forall_not_mem]
      intro node hnode
      exact hbefore (hasFolder_above hbelow (Ne.symm hne) hnode)
    have hnone' : (t.alter loc f).get? l = none := by
      rw [Option.eq_none_iff_forall_not_mem]
      intro node hnode
      exact hafter (hasFolder_above hbelow (Ne.symm hne) hnode)
    rw [hnone, hnone']
    exact .same none
  · exact kept_alter hbelow

theorem get?_alter_self (h : t.HasFolder folder) (name : String) :
    (t.alter (folder ++ [name]) f).get? (folder ++ [name]) = f (t.get? (folder ++ [name])) := by
  obtain ⟨entries, mode, h⟩ := h
  rw [get?_alter (by simp)]
  exact Node.get?_alter_self f t.root name h

theorem HasFolder.ne (h : t.HasFolder l) (hfile : ¬ t.HasFolder loc) : l ≠ loc :=
  fun heq => hfile (heq ▸ h)

theorem HasPassage.alter (h : t.HasPassage l) (hfile : ¬ t.HasFolder loc) :
    (t.alter loc f).HasPassage l := by
  obtain ⟨entries, mode, hl, hmode⟩ := h
  have hne : l ≠ loc := HasFolder.ne ⟨entries, mode, hl⟩ hfile
  obtain ⟨after, hafter⟩ := (kept_alter_of_ne (f := f) hfile hne hl).exists_folder
  exact ⟨after, mode, hafter, hmode⟩

/-- What is a folder when something has been altered that is no folder afterwards was one before. -/
theorem exists_folder_of_alter {entries : List (String × Node)} {mode : Mode}
    (h : (t.alter loc f).get? l = some (.folder entries mode))
    (hafter : ¬ (t.alter loc f).HasFolder loc) :
    ∃ before, t.get? l = some (.folder before mode) := by
  have hne : loc ≠ l := by
    rintro rfl
    exact hafter ⟨entries, mode, h⟩
  have hkept := kept_alter (t := t) (f := f) fun hp => hafter (hasFolder_above hp hne h)
  rw [h] at hkept
  generalize t.get? l = before at hkept
  cases hkept with
  | same => exact ⟨entries, rfl⟩
  | folder before => exact ⟨before, rfl⟩

theorem HasFolder.of_alter (h : (t.alter loc f).HasFolder l)
    (hafter : ¬ (t.alter loc f).HasFolder loc) : t.HasFolder l := by
  obtain ⟨entries, mode, hl⟩ := h
  obtain ⟨before, hbefore⟩ := exists_folder_of_alter hl hafter
  exact ⟨before, mode, hbefore⟩

theorem HasPassage.of_alter (h : (t.alter loc f).HasPassage l)
    (hafter : ¬ (t.alter loc f).HasFolder loc) : t.HasPassage l := by
  obtain ⟨entries, mode, hl, hmode⟩ := h
  obtain ⟨before, hbefore⟩ := exists_folder_of_alter hl hafter
  exact ⟨before, mode, hbefore, hmode⟩

/-! ## Paths -/

theorem follow_append (here : Location) (first second : List String) :
    t.follow here (first ++ second) = (t.follow here first).bind (t.follow · second) := by
  induction first generalizing here with
  | nil => rfl
  | cons part rest ih =>
    simp only [List.cons_append, follow, ih]
    split <;> try rfl
    split_ifs <;> rfl

/-- Parts lead on from folders that may be passed only. -/
theorem hasPassage_of_follow {here : Location} {part : String} {rest : List String}
    (h : t.follow here (part :: rest) = .ok l) : t.HasPassage here := by
  rw [follow] at h
  split at h
  · cases h
  · cases h
  · next entries mode hhere =>
    cases hmode : mode.executable with
    | false => simp [hmode] at h
    | true => exact ⟨entries, mode, hhere, hmode⟩

/-- What the first part leads to when it leads on from a folder. -/
theorem follow_cons {here : Location} (hhere : t.HasPassage here) (part : String)
    (rest : List String) :
    t.follow here (part :: rest) =
      if part = "." then t.follow here rest
      else if part = ".." then t.follow here.dropLast rest
      else if maxNameSize < part.utf8ByteSize then .error .nameTooLong
      else if (t.get? (here ++ [part])).isNone then .error .notFound
      else t.follow (here ++ [part]) rest := by
  obtain ⟨entries, mode, hget, hmode⟩ := hhere
  simp [follow, hget, hmode]

/-- A path leads to the same place in another tree, in which everything is kept but one place where
there is no folder, unless it leads to that place itself. -/
theorem follow_of_kept {t' : FileTree}
    (hkept : ∀ {l node}, l ≠ loc → t.get? l = some node → Node.Kept (some node) (t'.get? l))
    (hfile : ¬ t.HasFolder loc) {here : Location} {parts : List String}
    (h : t.follow here parts = .ok l) (hne : l ≠ loc) : t'.follow here parts = .ok l := by
  induction parts generalizing here with
  | nil => exact h
  | cons part rest ih =>
    have hhere := hasPassage_of_follow h
    have hhere' : t'.HasPassage here := by
      obtain ⟨entries, mode, hget, hmode⟩ := hhere
      have hhereNe : here ≠ loc := HasFolder.ne ⟨entries, mode, hget⟩ hfile
      obtain ⟨entries', hget'⟩ := (hkept hhereNe hget).exists_folder
      exact ⟨entries', mode, hget', hmode⟩
    rw [follow_cons hhere] at h
    rw [follow_cons hhere']
    split_ifs at h ⊢ with hdot hup hlong hgone hnone
    · exact ih h
    · exact ih h
    · -- the next place was there, and it is not the one that differs, for the parts end elsewhere
      have hnext : here ++ [part] ≠ loc := by
        intro heq
        cases rest with
        | nil => exact hne (by simpa [follow, heq] using h.symm)
        | cons => exact hfile (heq ▸ (hasPassage_of_follow h).hasFolder)
      obtain ⟨node, hnode⟩ := Option.ne_none_iff_exists'.1 (mt Option.isNone_iff_eq_none.2 hnone)
      have hsame := (hkept hnext hnode).isSome
      simp [Option.isNone_iff_eq_none.1 hgone] at hsame
    · exact ih h

/-- A path that led somewhere still leads there after an alteration where there is no folder, unless
it led to the altered place itself. -/
theorem follow_alter (hfile : ¬ t.HasFolder loc) {here : Location} {parts : List String}
    (h : t.follow here parts = .ok l) (hne : l ≠ loc) :
    (t.alter loc f).follow here parts = .ok l :=
  follow_of_kept (kept_alter_of_ne hfile) hfile h hne

end FileTree

end AsmHarness
