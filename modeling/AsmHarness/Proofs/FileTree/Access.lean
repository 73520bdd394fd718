import AsmHarness.FileTree.Access
import AsmHarness.Proofs.FileTree.Alter

/-!
# What writing and moving files changes

A path is of one place as long as the working directory stays where it is: there are no links. A file
that has been written holds what was written, and one that has been moved what was moved.
-/

namespace AsmHarness

/-- The location one part further on. -/
def Location.step (here : Location) (part : String) : Location :=
  if part = "." then here else if part = ".." then here.dropLast else here ++ [part]

/-- Where the file of a path is when paths without a slash in front start from a location. -/
def Path.place (path : Path) (origin : Location) : Location :=
  path.parts.foldl Location.step (if path.isAbsolute then [] else origin)

namespace FileTree

variable {t t' : FileTree} {loc l folder : Location} {f : Option Node → Option Node}
  {path other source target : Path} {name : String} {slashed : Bool} {content : ByteArray}

/-! ## Places -/

/-- Where the file of a path is. -/
def place (t : FileTree) (path : Path) : Location := path.place t.origin

theorem place_congr (h : t'.origin = t.origin) (path : Path) : t'.place path = t.place path := by
  rw [place, place, h]

@[simp] theorem place_alter (t : FileTree) (loc : Location) (f : Option Node → Option Node)
    (path : Path) : (t.alter loc f).place path = t.place path :=
  place_congr (origin_alter ..) path

@[simp] theorem place_put (t : FileTree) (loc : Location) (node : Node) (path : Path) :
    (t.put loc node).place path = t.place path :=
  place_alter ..

@[simp] theorem place_erase (t : FileTree) (loc : Location) (path : Path) :
    (t.erase loc).place path = t.place path :=
  place_alter ..

theorem follow_eq_foldl {here : Location} {parts : List String}
    (h : t.follow here parts = .ok l) : l = parts.foldl Location.step here := by
  induction parts generalizing here with
  | nil => simpa [follow] using h.symm
  | cons part rest ih =>
    rw [follow_cons (hasPassage_of_follow h)] at h
    rw [List.foldl_cons, Location.step]
    split_ifs at h ⊢
    · exact ih h
    · exact ih h
    · exact ih h

theorem checkFolder_eq_ok_iff : t.checkFolder l = .ok () ↔ t.HasFolder l := by
  unfold checkFolder HasFolder
  cases t.get? l with
  | none => simp
  | some node => cases node <;> simp

/-- What exists at a path is where its parts lead, and a folder if a slash asks for one. -/
theorem locate_eq_ok_iff : t.locate path = .ok l ↔
    checkPath path = .ok () ∧ t.follow (t.start path) path.parts = .ok l ∧
      (path.endsInSlash = true → t.HasFolder l) := by
  unfold locate
  cases hcheck : checkPath path with
  | error cause => simp [bind, Except.bind]
  | ok _ =>
    cases hfollow : t.follow (t.start path) path.parts with
    | error cause => simp [bind, Except.bind]
    | ok place =>
      cases hslash : path.endsInSlash with
      | false => simp [bind, Except.bind, pure, Except.pure]
      | true =>
        cases hfolder : t.checkFolder place with
        | error cause =>
          simp only [hfolder, bind, Except.bind, if_true, reduceCtorEq, false_iff]
          rintro ⟨-, heq, hin⟩
          cases heq
          cases hfolder.symm.trans (checkFolder_eq_ok_iff.2 (hin trivial))
        | ok _ =>
          simp only [hfolder, bind, Except.bind, if_true, pure, Except.pure, true_and,
            forall_const, iff_self_and]
          rintro heq
          cases heq
          exact checkFolder_eq_ok_iff.1 hfolder

theorem place_of_locate (h : t.locate path = .ok l) : t.place path = l :=
  (follow_eq_foldl (locate_eq_ok_iff.1 h).2.1).symm

/-- A dot at the end asks for a folder that may be passed. -/
theorem follow_concat_dot {here : Location} {parts : List String} :
    t.follow here (parts ++ ["."]) = .ok l ↔ t.follow here parts = .ok l ∧ t.HasPassage l := by
  rw [follow_append]
  cases hparts : t.follow here parts with
  | error cause => simp [Except.bind]
  | ok place =>
    constructor
    · intro h
      have hdot : t.follow place ["."] = .ok l := h
      obtain rfl : l = place := follow_eq_foldl hdot
      exact ⟨rfl, hasPassage_of_follow hdot⟩
    · rintro ⟨heq, hpassage⟩
      cases heq
      rw [Except.bind, follow_cons hpassage, if_pos rfl]
      rfl

/-- A path leads to an entry if its front leads to a folder and its last part can be a name. -/
structure LeadsTo (t : FileTree) (path : Path) (folder : Location) (name : String) : Prop where
  /-- The path is one that can lead somewhere. -/
  checked : checkPath path = .ok ()
  /-- The last part is the name. -/
  last : path.parts.getLast? = some name
  /-- The other parts lead to the folder. -/
  front : t.follow (t.start path) path.parts.dropLast = .ok folder
  /-- It is a folder that may be passed. -/
  passage : t.HasPassage folder
  /-- The name is not the one of the folder itself. -/
  ne_dot : name ≠ "."
  /-- Nor is it the one of the folder above. -/
  ne_up : name ≠ ".."
  /-- The name is not too long. -/
  short : name.utf8ByteSize ≤ maxNameSize

theorem goal_eq_entry_iff : t.goal path = .ok (.entry folder name slashed) ↔
    t.LeadsTo path folder name ∧ path.endsInSlash = slashed := by
  unfold goal
  constructor
  · intro h
    cases hcheck : checkPath path with
    | error cause => simp [hcheck, bind, Except.bind] at h
    | ok _ =>
      cases hlast : path.parts.getLast? with
      | none => simp [hcheck, hlast, bind, Except.bind, pure, Except.pure] at h
      | some last =>
        simp only [hcheck, hlast, bind, Except.bind] at h
        split_ifs at h with hdots hlong
        · cases hback : t.follow (t.start path) path.parts <;>
            simp [hback, pure, Except.pure] at h
        · cases hfolder : t.follow (t.start path) (path.parts.dropLast ++ ["."]) <;>
            simp [hfolder] at h
        · cases hfolder : t.follow (t.start path) (path.parts.dropLast ++ ["."]) with
          | error cause => simp [hfolder] at h
          | ok place =>
            simp only [hfolder] at h
            cases h
            obtain ⟨hfront, hpassage⟩ := follow_concat_dot.1 hfolder
            obtain ⟨hdot, hup⟩ := not_or.1 hdots
            exact ⟨⟨hcheck, hlast, hfront, hpassage, hdot, hup, Nat.le_of_not_lt hlong⟩, rfl⟩
  · rintro ⟨h, rfl⟩
    have hfolder := follow_concat_dot.2 ⟨h.front, h.passage⟩
    simp [h.checked, h.last, h.ne_dot, h.ne_up, hfolder, Nat.not_lt.2 h.short, bind, Except.bind]

namespace LeadsTo

theorem parts_eq (h : t.LeadsTo path folder name) : path.parts = path.parts.dropLast ++ [name] := by
  obtain ⟨front, hfront⟩ := List.getLast?_eq_some_iff.1 h.last
  rw [hfront, List.dropLast_concat]

theorem place_eq (h : t.LeadsTo path folder name) : t.place path = folder ++ [name] := by
  rw [place, Path.place, h.parts_eq, List.foldl_append, ← start, ← follow_eq_foldl h.front]
  simp [Location.step, h.ne_dot, h.ne_up]

theorem alter (h : t.LeadsTo path folder name) (hfile : ¬ t.HasFolder loc) :
    (t.alter loc f).LeadsTo path folder name :=
  { h with
    front := by
      rw [start_congr (origin_alter ..)]
      exact follow_alter hfile h.front (h.passage.hasFolder.ne hfile)
    passage := h.passage.alter hfile }

/-- An entry that exists is found by the path. -/
theorem locate_eq (h : t.LeadsTo path folder name) (hslash : path.endsInSlash = false)
    {node : Node} (hnode : t.get? (folder ++ [name]) = some node) :
    t.locate path = .ok (folder ++ [name]) := by
  have hname : t.follow folder [name] = .ok (folder ++ [name]) := by
    rw [follow_cons h.passage]
    simp [follow, h.ne_dot, h.ne_up, Nat.not_lt.2 h.short, hnode]
  refine locate_eq_ok_iff.2 ⟨h.checked, ?_, by simp [hslash]⟩
  rw [h.parts_eq, follow_append, h.front]
  exact hname

end LeadsTo

/-! ## What the file at a path holds -/

/-- A path leads to a file of some content, whether or not that may be read. -/
def Holds (t : FileTree) (path : Path) (content : ByteArray) : Prop :=
  ∃ mode, t.node path = .ok (.file content mode)

/-- Nothing is at the place of a path, unless it is a file of some content. -/
def NothingBut (t : FileTree) (path : Path) (content : ByteArray) : Prop :=
  ∀ node, t.get? (t.place path) = some node → ∃ mode, node = .file content mode

theorem node_eq_ok {node : Node} :
    t.node path = .ok node ↔ ∃ loc, t.locate path = .ok loc ∧ t.get? loc = some node := by
  unfold FileTree.node
  cases hloc : t.locate path with
  | error cause => simp [bind, Except.bind]
  | ok loc => cases hnode : t.get? loc <;> simp [bind, Except.bind, hnode]

theorem read_eq_ok : t.read path = .ok content ↔
    ∃ mode, t.node path = .ok (.file content mode) ∧ mode.readable = true := by
  unfold FileTree.read
  cases hnode : t.node path with
  | error cause => simp [bind, Except.bind]
  | ok node =>
    cases node with
    | folder entries mode => simp [bind, Except.bind]
    | file before mode =>
      cases hmode : mode.readable with
      | false =>
        simp only [bind, Except.bind, hmode, Bool.false_eq_true, if_false, reduceCtorEq, false_iff]
        rintro ⟨other, hother, hreadable⟩
        cases hother
        simp [hmode] at hreadable
      | true =>
        simp only [bind, Except.bind, hmode, if_true]
        constructor
        · rintro ⟨⟩
          exact ⟨mode, rfl, hmode⟩
        · rintro ⟨other, ⟨⟩, -⟩
          rfl

theorem Holds.of_read (h : t.read path = .ok content) : t.Holds path content := by
  obtain ⟨mode, hnode, -⟩ := read_eq_ok.1 h
  exact ⟨mode, hnode⟩

theorem Holds.eq_of_read {before : ByteArray} (h : t.Holds path content)
    (hread : t.read path = .ok before) : content = before := by
  obtain ⟨mode, hnode⟩ := h
  obtain ⟨mode', hnode', -⟩ := read_eq_ok.1 hread
  cases hnode.symm.trans hnode'
  rfl

theorem Holds.exists_get? (h : t.Holds path content) :
    ∃ mode, t.locate path = .ok (t.place path) ∧
      t.get? (t.place path) = some (.file content mode) := by
  obtain ⟨mode, hnode⟩ := h
  obtain ⟨loc, hloc, hget⟩ := node_eq_ok.1 hnode
  obtain rfl := place_of_locate hloc
  exact ⟨mode, hloc, hget⟩

theorem Holds.nothingBut (h : t.Holds path content) : t.NothingBut path content := by
  obtain ⟨mode, -, hget⟩ := h.exists_get?
  intro node hnode
  exact ⟨mode, Option.some_inj.1 (hnode.symm.trans hget)⟩

theorem not_hasFolder_of_file {mode : Mode} (h : t.get? loc = some (.file content mode)) :
    ¬ t.HasFolder loc := by
  rintro ⟨entries, mode, hfolder⟩
  simp [h] at hfolder

theorem not_hasFolder_of_none (h : t.get? loc = none) : ¬ t.HasFolder loc := by
  rintro ⟨entries, mode, hfolder⟩
  simp [h] at hfolder

/-! ## Writing -/

/-- Changing the content of a file puts a file where the path leads, where there was no folder. What
may be done with the file stays as it was, or is what is usual for a new one. Neither the file nor, if
it is new, its folder is protected. -/
theorem modify_eq_ok {change : Option ByteArray → ByteArray} (h : t.modify path change = .ok t') :
    ∃ folder name content mode, t.LeadsTo path folder name ∧ path.endsInSlash = false ∧
      ¬ t.HasFolder (folder ++ [name]) ∧
      t' = t.put (folder ++ [name]) (.file (change content) mode) ∧
      ((content = none ∧ mode = {} ∧ t.get? (folder ++ [name]) = none ∧
          t.mayChange folder = true) ∨
        ∃ before, content = some before ∧
          t.get? (folder ++ [name]) = some (.file before mode) ∧ mode.writable = true) := by
  unfold modify at h
  cases hgoal : t.goal path with
  | error cause => simp [hgoal, bind, Except.bind] at h
  | ok goal =>
    cases goal with
    | back folder => simp [hgoal, bind, Except.bind] at h
    | entry folder name slashed =>
      obtain ⟨hleads, hslash⟩ := goal_eq_entry_iff.1 hgoal
      have hunslashed : path.endsInSlash = false := by
        cases slashed with
        | false => exact hslash
        | true => simp [hgoal, bind, Except.bind] at h
      obtain rfl : slashed = false := hslash.symm.trans hunslashed
      simp only [hgoal, bind, Except.bind, Bool.false_eq_true, if_false] at h
      cases hnode : t.get? (folder ++ [name]) with
      | none =>
        simp only [hnode] at h
        split_ifs at h with hmay
        cases h
        exact ⟨folder, name, none, {}, hleads, hunslashed, not_hasFolder_of_none hnode, rfl,
          .inl ⟨rfl, rfl, hnode, hmay⟩⟩
      | some node =>
        cases node with
        | folder entries mode => simp [hnode] at h
        | file before mode =>
          simp only [hnode] at h
          split_ifs at h with hmay
          cases h
          exact ⟨folder, name, some before, mode, hleads, hunslashed, not_hasFolder_of_file hnode,
            rfl, .inr ⟨before, rfl, hnode, hmay⟩⟩

/-- Writing puts a file with the content where the path leads, where there was no folder. -/
theorem write_eq_ok (h : t.write path content = .ok t') :
    ∃ folder name mode, t.LeadsTo path folder name ∧ path.endsInSlash = false ∧
      ¬ t.HasFolder (folder ++ [name]) ∧
      t' = t.put (folder ++ [name]) (.file content mode) := by
  obtain ⟨folder, name, -, mode, hleads, hslash, hfile, rfl, -⟩ := modify_eq_ok h
  exact ⟨folder, name, mode, hleads, hslash, hfile, rfl⟩

/-- The working directory stays where it is when a file is written. -/
theorem origin_write (h : t.write path content = .ok t') : t'.origin = t.origin := by
  obtain ⟨folder, name, mode, -, -, -, rfl⟩ := write_eq_ok h
  exact origin_put ..

namespace LeadsTo

variable {mode : Mode}

theorem get?_put (h : t.LeadsTo path folder name) (node : Node) :
    (t.put (folder ++ [name]) node).get? (folder ++ [name]) = some node :=
  get?_alter_self h.passage.hasFolder name

theorem get?_erase (h : t.LeadsTo path folder name) :
    (t.erase (folder ++ [name])).get? (folder ++ [name]) = none :=
  get?_alter_self h.passage.hasFolder name

theorem holds_put (h : t.LeadsTo path folder name) (hslash : path.endsInSlash = false)
    (hfile : ¬ t.HasFolder (folder ++ [name])) :
    (t.put (folder ++ [name]) (.file content mode)).Holds path content :=
  ⟨mode, node_eq_ok.2 ⟨_, (h.alter hfile).locate_eq hslash (h.get?_put _), h.get?_put _⟩⟩

end LeadsTo

/-- The file that has been written holds what was written. -/
theorem holds_write (h : t.write path content = .ok t') : t'.Holds path content := by
  obtain ⟨folder, name, mode, hleads, hslash, hfile, rfl⟩ := write_eq_ok h
  exact hleads.holds_put hslash hfile

/-- A file that has been touched exists, and still does when something else, or the file itself, is
written. -/
theorem exists_holds_of_touch {touched : FileTree} (htouch : t.touch path = .ok touched)
    (hwrite : touched.write other content = .ok t') : ∃ kept, t'.Holds path kept := by
  obtain ⟨folder, name, before, mode, hleads, hslash, hfile, rfl, -⟩ := modify_eq_ok htouch
  obtain ⟨folder', name', mode', hleads', -, hfile', rfl⟩ := write_eq_ok hwrite
  have hafter := (hleads.alter (f := fun _ => some (.file (before.getD .empty) mode)) hfile).alter
    (f := fun _ => some (.file content mode')) hfile'
  by_cases hsame : folder ++ [name] = folder' ++ [name']
  · have hget := (congrArg _ hsame).trans (hleads'.get?_put (.file content mode'))
    exact ⟨_, mode', node_eq_ok.2 ⟨_, hafter.locate_eq hslash hget, hget⟩⟩
  · have hget := (kept_alter_of_ne (f := fun _ => some (.file content mode')) hfile' hsame
      (hleads.get?_put _)).file
    exact ⟨_, mode, node_eq_ok.2 ⟨_, hafter.locate_eq hslash hget, hget⟩⟩

/-- What is at the place of a path may be read if it is a file. -/
def MayRead (t : FileTree) (path : Path) : Prop :=
  ∀ content mode, t.get? (t.place path) = some (.file content mode) → mode.readable = true

theorem MayRead.modify {change : Option ByteArray → ByteArray}
    (h : t.modify path change = .ok t') (hother : t.MayRead other) : t'.MayRead other := by
  obtain ⟨folder, name, before, mode, hleads, -, hfile, rfl, hmode⟩ := modify_eq_ok h
  intro content mode' hget
  rw [place_put] at hget
  by_cases hloc : t.place other = folder ++ [name]
  · rw [hloc, hleads.get?_put] at hget
    cases hget
    rcases hmode with ⟨-, rfl, -⟩ | ⟨before, -, hbefore, -⟩
    · rfl
    · exact hother before mode (hloc ▸ hbefore)
  · have hnotFolder := not_hasFolder_of_file (hleads.get?_put (.file (change before) mode))
    have hprefix : ¬ folder ++ [name] <+: t.place other := fun hp =>
      hnotFolder (hasFolder_above hp (Ne.symm hloc) hget)
    have hkept := kept_alter (t := t) (f := fun _ => some (.file (change before) mode)) hprefix
    exact hother content mode' (hget ▸ hkept).of_file

theorem Holds.read_eq (h : t.Holds path content) (hread : t.MayRead path) :
    t.read path = .ok content := by
  obtain ⟨mode, hlocate, hget⟩ := h.exists_get?
  exact read_eq_ok.2 ⟨mode, node_eq_ok.2 ⟨_, hlocate, hget⟩, hread content mode hget⟩

/-- A file that has been written holds what was written, and may be read as before. -/
theorem read_write (h : t.write path content = .ok t') (hread : t.MayRead path) :
    t'.read path = .ok content :=
  (holds_write h).read_eq (hread.modify h)

/-! ## Moving -/

/-- A file can be moved to another place if that is not a folder, or a folder that the file lies in,
and if the folders of both places may be changed. -/
theorem checkMove_file_eq_ok_iff {mode : Mode} (hne : loc ≠ l) :
    t.checkMove (.file content mode) loc l = .ok () ↔
      ¬ l <+: loc ∧ t.mayChange loc.dropLast = true ∧ t.mayChange l.dropLast = true ∧
        ¬ t.HasFolder l := by
  unfold checkMove HasFolder
  rw [if_neg hne, if_neg (by simp [Node.isFolder])]
  split_ifs with habove hmay
  · simp [List.isPrefixOf_iff_prefix.1 habove]
  · rw [Bool.not_eq_true', ← Bool.not_eq_true, Bool.and_eq_true] at hmay
    simp only [false_iff]
    exact fun h => hmay ⟨h.2.1, h.2.2.1⟩
  · have hmays : t.mayChange loc.dropLast = true ∧ t.mayChange l.dropLast = true := by
      simpa using hmay
    rw [List.isPrefixOf_iff_prefix] at habove
    simp only [habove, hmays, not_false_eq_true, true_and]
    cases t.get? l with
    | none => simp
    | some node => cases node <;> simp

/-- What is there can be moved if both paths lead somewhere and nothing speaks against it. -/
theorem rename_eq_ok_iff : t.rename source target = .ok t' ↔
    ∃ fromFolder fromName toFolder toName moved,
      t.LeadsTo source fromFolder fromName ∧ t.LeadsTo target toFolder toName ∧
      t.get? (fromFolder ++ [fromName]) = some moved ∧
      (moved.isFolder = false → source.endsInSlash = false ∧ target.endsInSlash = false) ∧
      t.checkMove moved (fromFolder ++ [fromName]) (toFolder ++ [toName]) = .ok () ∧
      t' = if fromFolder ++ [fromName] = toFolder ++ [toName] then t
        else (t.erase (fromFolder ++ [fromName])).put (toFolder ++ [toName]) moved := by
  constructor
  · intro h
    unfold rename at h
    cases hfrom : t.goal source with
    | error cause => simp [hfrom, bind, Except.bind] at h
    | ok fromGoal =>
    cases hto : t.goal target with
    | error cause => simp [hfrom, hto, bind, Except.bind] at h
    | ok toGoal =>
    cases fromGoal with
    | back => simp [hfrom, hto, bind, Except.bind] at h
    | entry fromFolder fromName fromSlash =>
    cases toGoal with
    | back => simp [hfrom, hto, bind, Except.bind] at h
    | entry toFolder toName toSlash =>
    obtain ⟨hfromLeads, hfromSlash⟩ := goal_eq_entry_iff.1 hfrom
    obtain ⟨htoLeads, htoSlash⟩ := goal_eq_entry_iff.1 hto
    simp only [hfrom, hto, bind, Except.bind] at h
    cases hmoved : t.get? (fromFolder ++ [fromName]) with
    | none => simp [hmoved] at h
    | some moved =>
    simp only [hmoved] at h
    by_cases hslashed : (!moved.isFolder && (fromSlash || toSlash)) = true
    · simp [hslashed] at h
    · rw [if_neg hslashed] at h
      cases hcheck : t.checkMove moved (fromFolder ++ [fromName]) (toFolder ++ [toName]) with
      | error cause => simp [hcheck] at h
      | ok _ =>
        rw [hcheck] at h
        refine ⟨fromFolder, fromName, toFolder, toName, moved, hfromLeads, htoLeads, hmoved,
          fun hfile => ?_, hcheck, (Except.ok.inj h).symm⟩
        rw [hfromSlash, htoSlash]
        simpa [hfile] using hslashed
  · rintro ⟨fromFolder, fromName, toFolder, toName, moved, hfrom, hto, hmoved, hslashes, hcheck, rfl⟩
    have hnot : ¬ ((!moved.isFolder && (source.endsInSlash || target.endsInSlash)) = true) := by
      cases hfile : moved.isFolder with
      | true => simp
      | false => simp [hslashes hfile]
    simp only [rename, goal_eq_entry_iff.2 ⟨hfrom, rfl⟩, goal_eq_entry_iff.2 ⟨hto, rfl⟩, hmoved,
      hcheck, bind, Except.bind, if_neg hnot]
    rfl

/-- The working directory stays where it is when something is moved. -/
theorem origin_rename (h : t.rename source target = .ok t') : t'.origin = t.origin := by
  obtain ⟨fromFolder, fromName, toFolder, toName, moved, -, -, -, -, -, rfl⟩ :=
    rename_eq_ok_iff.1 h
  split_ifs <;> simp

/-- Moving what can only be a file of some content takes it away and puts it where the other path
leads, where there was no folder either. The folders of both are not protected. -/
theorem rename_eq_ok (h : t.rename source target = .ok t')
    (hsource : t.NothingBut source content) (hne : t.place source ≠ t.place target) :
    ∃ fromFolder fromName toFolder toName mode,
      t.LeadsTo source fromFolder fromName ∧ t.LeadsTo target toFolder toName ∧
      target.endsInSlash = false ∧
      t.get? (fromFolder ++ [fromName]) = some (.file content mode) ∧
      (t.mayChange fromFolder = true ∧ t.mayChange toFolder = true) ∧
      ¬ (t.erase (fromFolder ++ [fromName])).HasFolder (toFolder ++ [toName]) ∧
      t' = (t.erase (fromFolder ++ [fromName])).put (toFolder ++ [toName])
        (.file content mode) := by
  obtain ⟨fromFolder, fromName, toFolder, toName, moved, hfrom, hto, hmoved, hslashes, hcheck, rfl⟩ :=
    rename_eq_ok_iff.1 h
  obtain ⟨mode, rfl⟩ := hsource _ (hfrom.place_eq ▸ hmoved)
  have hplaces : fromFolder ++ [fromName] ≠ toFolder ++ [toName] := by
    rwa [hfrom.place_eq, hto.place_eq] at hne
  obtain ⟨-, hfromMay, htoMay, hfile⟩ := (checkMove_file_eq_ok_iff hplaces).1 hcheck
  rw [List.dropLast_concat] at hfromMay htoMay
  refine ⟨fromFolder, fromName, toFolder, toName, mode, hfrom, hto, (hslashes rfl).2, hmoved,
    ⟨hfromMay, htoMay⟩, ?_, if_neg hplaces⟩
  intro hfolder
  exact hfile (hfolder.of_alter (not_hasFolder_of_none hfrom.get?_erase))

/-- The file that something was moved to holds what was moved. -/
theorem holds_rename (h : t.rename source target = .ok t') (hsource : t.NothingBut source content)
    (hne : t.place source ≠ t.place target) : t'.Holds target content := by
  obtain ⟨fromFolder, fromName, toFolder, toName, mode, hfrom, hto, hslash, hmoved, -, htofile, rfl⟩ :=
    rename_eq_ok h hsource hne
  exact (hto.alter (not_hasFolder_of_file hmoved)).holds_put hslash htofile

end FileTree

end AsmHarness
