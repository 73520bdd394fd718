import AsmHarness.Proofs.FileTree.Content
import AsmHarness.Proofs.Noted
import AsmHarness.Proofs.Path.Steps

/-!
# What replacing a file comes to

A file is replaced by writing it or by moving another file onto it. Either way the path leads to the
new content afterwards, what was moved is gone from where it was, and everything else is as before:
the same files, in folders that the same paths lead to. A file that exists can be written if it is
not protected, and moved if neither the folder it lies in nor the one it gets into is; what is moved
takes along what may be done with it.
-/

namespace AsmHarness

namespace FileTree

variable {t t' : FileTree} {loc l folder here : Location} {f : Option Node → Option Node}
  {path other source : Path} {taken : Option Path} {name : String} {content before : ByteArray}

/-! ## Paths and files that are there -/

theorem leadsTo_alter_iff (hbefore : ¬ t.HasFolder loc) (hafter : ¬ (t.alter loc f).HasFolder loc) :
    (t.alter loc f).LeadsTo path folder name ↔ t.LeadsTo path folder name := by
  constructor
  · intro h
    have hpassage : t.HasPassage folder := h.passage.of_alter hafter
    have hback : ∀ {l node}, l ≠ loc → (t.alter loc f).get? l = some node →
        Node.Kept (some node) (t.get? l) := by
      intro l node hne hnode
      exact hnode ▸ (kept_alter_elsewhere hbefore hafter hne).symm
    exact { h with
      front := by
        rw [← start_congr (origin_alter t loc f)]
        exact follow_of_kept hback hafter h.front (hpassage.hasFolder.ne hbefore)
      passage := hpassage }
  · intro h
    exact h.alter hbefore

theorem content?_eq_some_iff : t.content? l = some content ↔
    ∃ mode, t.get? l = some (.file content mode) := by
  unfold content?
  cases hnode : t.get? l with
  | none => simp
  | some node => cases node <;> simp [Node.content?]

/-- Where parts lead to a file, the last one is its name in a folder. -/
theorem exists_concat_of_follow {parts : List String} {mode : Mode} (hparts : parts ≠ [])
    (h : t.follow here parts = .ok loc) (hfile : t.get? loc = some (.file content mode)) :
    ∃ front folder name, parts = front ++ [name] ∧ t.follow here front = .ok folder ∧
      t.HasPassage folder ∧ name ≠ "." ∧ name ≠ ".." ∧ name.utf8ByteSize ≤ maxNameSize ∧
      loc = folder ++ [name] := by
  have hnot : ∀ place, t.HasFolder place → loc ≠ place := by
    rintro place hplace rfl
    exact not_hasFolder_of_file hfile hplace
  rcases List.eq_nil_or_concat parts with rfl | ⟨front, name, rfl⟩
  · exact absurd rfl hparts
  · rw [List.concat_eq_append] at h ⊢
    rw [follow_append, bind_eq_ok] at h
    obtain ⟨folder, hfront, hname⟩ := h
    have hpassage := hasPassage_of_follow hname
    rw [follow_cons hpassage] at hname
    split_ifs at hname with hdot hup hlong hgone
    -- a file is not a folder, so the last part is neither of the names that stand for one
    · exact absurd (Except.ok.inj hname).symm (hnot folder hpassage.hasFolder)
    · have habove : t.HasFolder folder.dropLast := by
        obtain ⟨entries, mode, hfolder⟩ := hpassage.hasFolder
        by_cases hsame : folder.dropLast = folder
        · rw [hsame]
          exact hpassage.hasFolder
        · exact hasFolder_above (List.dropLast_prefix folder) hsame hfolder
      exact absurd (Except.ok.inj hname).symm (hnot _ habove)
    · exact ⟨front, folder, name, rfl, hfront, hpassage, hdot, hup, Nat.le_of_not_lt hlong,
        (Except.ok.inj hname).symm⟩

/-- A path leads to a file if its last part is the name of one. -/
theorem holds_iff : t.Holds path content ↔
    ∃ folder name, t.LeadsTo path folder name ∧ path.endsInSlash = false ∧
      t.content? (folder ++ [name]) = some content := by
  constructor
  · intro h
    obtain ⟨mode, hlocate, hget⟩ := h.exists_get?
    obtain ⟨hcheck, hfollow, hfolder⟩ := locate_eq_ok_iff.1 hlocate
    have hslash : path.endsInSlash = false := by
      by_contra hslash
      exact not_hasFolder_of_file hget (hfolder (by simpa using hslash))
    have hne : path ≠ "" := by
      rintro rfl
      cases hcheck
    obtain ⟨front, folder, name, hparts, hfront, hpassage, hdot, hup, hshort, hplace⟩ :=
      exists_concat_of_follow (Path.parts_ne_nil hne hslash) hfollow hget
    refine ⟨folder, name, ⟨hcheck, ?_, ?_, hpassage, hdot, hup, hshort⟩, hslash,
      content?_eq_some_iff.2 ⟨mode, hplace ▸ hget⟩⟩
    · rw [hparts, List.getLast?_concat]
    · rw [hparts, List.dropLast_concat]
      exact hfront
  · rintro ⟨folder, name, hleads, hslash, hcontent⟩
    obtain ⟨mode, hget⟩ := content?_eq_some_iff.1 hcontent
    exact ⟨mode, node_eq_ok.2 ⟨_, hleads.locate_eq hslash hget, hget⟩⟩

theorem Holds.content?_eq (h : t.Holds path content) :
    t.content? (t.place path) = some content := by
  obtain ⟨mode, -, hget⟩ := h.exists_get?
  exact content?_eq_some_iff.2 ⟨mode, hget⟩

/-! ## What may be changed -/

theorem mayChange_of_get? {node : Node} (h : t.get? l = some node) :
    t.mayChange l = node.mode.writable := by
  rw [mayChange, h, Option.any_some]

theorem mayChange_of_none (h : t.get? l = none) : t.mayChange l = false := by
  rw [mayChange, h, Option.any_none]

theorem mayChange_of_kept (h : Node.Kept (t.get? l) (t'.get? l)) :
    t'.mayChange l = t.mayChange l := by
  rw [mayChange, mayChange]
  generalize t.get? l = earlier at h
  generalize t'.get? l = later at h
  cases h <;> rfl

/-- A file that exists can be written if it is not protected. -/
theorem Holds.exists_write_iff (h : t.Holds path before) :
    (∃ t', t.write path content = .ok t') ↔ t.mayChange (t.place path) = true := by
  obtain ⟨folder, name, hleads, hslash, hcontent⟩ := holds_iff.1 h
  obtain ⟨mode, hget⟩ := content?_eq_some_iff.1 hcontent
  have hgoal := goal_eq_entry_iff.2 ⟨hleads, hslash⟩
  rw [hleads.place_eq, mayChange_of_get? hget, write, modify, hgoal]
  simp only [bind, Except.bind, hget, Bool.false_eq_true, if_false, Node.mode]
  split_ifs with hmay <;> simp [hmay]

/-- Files that exist can be moved onto each other if their folders are not protected. -/
theorem Holds.exists_rename_iff (h : t.Holds source content) (hpath : t.Holds path before)
    (hne : t.place source ≠ t.place path) :
    (∃ t', t.rename source path = .ok t') ↔
      t.mayChange (t.place source).dropLast = true ∧
        t.mayChange (t.place path).dropLast = true := by
  obtain ⟨fromFolder, fromName, hfrom, hfromSlash, hfromContent⟩ := holds_iff.1 h
  obtain ⟨toFolder, toName, hto, htoSlash, htoContent⟩ := holds_iff.1 hpath
  obtain ⟨fromMode, hfromGet⟩ := content?_eq_some_iff.1 hfromContent
  obtain ⟨toMode, htoGet⟩ := content?_eq_some_iff.1 htoContent
  constructor
  · rintro ⟨t', hrename⟩
    obtain ⟨otherFolder, otherName, lastFolder, lastName, mode, hother, hlast, -, -, hmays, -, -⟩ :=
      rename_eq_ok hrename h.nothingBut hne
    rw [hother.place_eq, hlast.place_eq, List.dropLast_concat, List.dropLast_concat]
    exact hmays
  · intro hmays
    rw [hfrom.place_eq, hto.place_eq] at hne hmays
    -- nothing lies below the file that is replaced
    have habove : ¬ toFolder ++ [toName] <+: fromFolder ++ [fromName] := fun hbelow =>
      not_hasFolder_of_file htoGet (hasFolder_above hbelow hne.symm hfromGet)
    refine ⟨_, rename_eq_ok_iff.2 ⟨fromFolder, fromName, toFolder, toName, _, hfrom, hto, hfromGet,
      fun _ => ⟨hfromSlash, htoSlash⟩, (checkMove_file_eq_ok_iff hne).2 ?_, rfl⟩⟩
    exact ⟨habove, hmays.1, hmays.2, not_hasFolder_of_file htoGet⟩

/-! ## What has been replaced -/

/-- A file has been replaced by some content, which may have been taken from elsewhere. -/
structure Puts (t t' : FileTree) (path : Path) (content : ByteArray) (taken : Option Path) :
    Prop where
  holds : t'.Holds path content
  /-- What was taken is gone. -/
  gone : ∀ source ∈ taken, t'.get? (t.place source) = none
  elsewhere : ∀ l, t.place path ≠ l → (∀ source ∈ taken, t.place source ≠ l) →
    Node.Kept (t.get? l) (t'.get? l)
  /-- The working directory is where it was. -/
  origin : t'.origin = t.origin
  /-- Paths lead to the same places. -/
  leads : ∀ {other folder name}, t'.LeadsTo other folder name ↔ t.LeadsTo other folder name

theorem puts_write (h : t.write path content = .ok t') : Puts t t' path content none := by
  have hholds := holds_write h
  have horigin := origin_write h
  obtain ⟨folder, name, mode, hleads, -, hfile, rfl⟩ := write_eq_ok h
  have hafter := not_hasFolder_of_file (hleads.get?_put (.file content mode))
  refine ⟨hholds, by simp, fun l hl _ => ?_, horigin, leadsTo_alter_iff hfile hafter⟩
  rw [hleads.place_eq] at hl
  exact kept_alter_elsewhere hfile hafter hl.symm

theorem puts_rename (h : t.rename source path = .ok t') (hsource : t.NothingBut source content)
    (hne : t.place source ≠ t.place path) : Puts t t' path content (some source) := by
  have hholds := holds_rename h hsource hne
  have horigin := origin_rename h
  obtain ⟨fromFolder, fromName, toFolder, toName, mode, hfrom, hto, -, hmoved, -, htofile, rfl⟩ :=
    rename_eq_ok h hsource hne
  have hfile := not_hasFolder_of_file hmoved
  have herased := hfrom.get?_erase
  have hgone := not_hasFolder_of_none herased
  have hput := not_hasFolder_of_file
    ((hto.alter (f := fun _ => none) hfile).get?_put (.file content mode))
  refine ⟨hholds, fun other hother => ?_, fun l hl hnotSource => ?_, horigin, fun {_ _ _} => ?_⟩
  · obtain rfl := Option.some_inj.1 hother
    rw [hfrom.place_eq] at hne ⊢
    rw [hto.place_eq] at hne
    have hkept := kept_alter_elsewhere (f := fun _ => some (.file content mode)) htofile hput hne
    rw [herased] at hkept
    exact hkept.none
  · have hfromNe := hnotSource source rfl
    rw [hfrom.place_eq] at hfromNe
    rw [hto.place_eq] at hl
    exact (kept_alter_elsewhere hfile hgone hfromNe.symm).trans
      (kept_alter_elsewhere htofile hput hl.symm)
  · exact (leadsTo_alter_iff htofile hput).trans (leadsTo_alter_iff hfile hgone)

/-- A file that exists may be changed after it has been written if it could be before. -/
theorem mayChange_write (h : t.write path content = .ok t') (hthere : t.get? (t.place path) ≠ none) :
    t'.mayChange = t.mayChange := by
  have helsewhere := (puts_write h).elsewhere
  obtain ⟨folder, name, earlier, mode, hleads, -, -, rfl, hmode⟩ := modify_eq_ok h
  rw [hleads.place_eq] at helsewhere hthere
  funext l
  by_cases hl : folder ++ [name] = l
  · subst hl
    rcases hmode with ⟨-, -, hnone, -⟩ | ⟨bytes, -, hget, -⟩
    · exact absurd hnone hthere
    · rw [mayChange_of_get? (hleads.get?_put _), mayChange_of_get? hget]
      rfl
  · exact mayChange_of_kept (helsewhere l hl (by simp))

/-- What is moved takes along what may be done with it. -/
theorem mayChange_rename (h : t.rename source path = .ok t') (hsource : t.NothingBut source content)
    (hne : t.place source ≠ t.place path) :
    t'.mayChange = Function.update (Function.update t.mayChange (t.place source) false)
      (t.place path) (t.mayChange (t.place source)) := by
  have hputs := puts_rename h hsource hne
  obtain ⟨fromFolder, fromName, toFolder, toName, mode, hfrom, hto, -, hmoved, -, -, rfl⟩ :=
    rename_eq_ok h hsource hne
  funext l
  by_cases hpath : l = t.place path
  · subst hpath
    have htoErased := hto.alter (f := fun _ => none) (not_hasFolder_of_file hmoved)
    rw [Function.update_self, hfrom.place_eq, mayChange_of_get? hmoved, hto.place_eq]
    exact mayChange_of_get? (htoErased.get?_put _)
  · rw [Function.update_of_ne hpath]
    by_cases hplace : l = t.place source
    · subst hplace
      rw [Function.update_self, mayChange_of_none (hputs.gone source rfl)]
    · rw [Function.update_of_ne hplace]
      refine mayChange_of_kept (hputs.elsewhere l (Ne.symm hpath) ?_)
      rintro other hother rfl
      obtain rfl := Option.some_inj.1 hother
      exact hplace rfl

namespace Puts

theorem place_eq (h : Puts t t' path content taken) (other : Path) :
    t'.place other = t.place other :=
  place_congr h.origin other

theorem content?_elsewhere (h : Puts t t' path content taken) (hl : t.place path ≠ l)
    (hnotTaken : ∀ source ∈ taken, t.place source ≠ l) : t'.content? l = t.content? l :=
  (h.elsewhere l hl hnotTaken).content?_eq

/-- A file that is neither replaced nor taken away keeps its content. -/
theorem holds_elsewhere (h : Puts t t' path content taken) (hpath : t.place path ≠ t.place other)
    (hnotTaken : ∀ source ∈ taken, t.place source ≠ t.place other) (hother : t.Holds other before) :
    t'.Holds other before := by
  obtain ⟨folder, name, hleads, hslash, hcontent⟩ := holds_iff.1 hother
  have hsame : t'.content? (folder ++ [name]) = t.content? (folder ++ [name]) := by
    rw [hleads.place_eq] at hpath hnotTaken
    exact h.content?_elsewhere hpath hnotTaken
  exact holds_iff.2 ⟨folder, name, h.leads.2 hleads, hslash, hsame.trans hcontent⟩

/-- What is there afterwards has been there before and has not been taken, unless it is the file that
has been replaced. -/
theorem still_there {node : Node} (h : Puts t t' path content taken) (hl : t.place path ≠ l)
    (hnode : t'.get? l = some node) :
    (∀ source ∈ taken, t.place source ≠ l) ∧
      ∃ before, t.get? l = some before ∧ Node.Kept (some before) (some node) := by
  have hnotTaken : ∀ source ∈ taken, t.place source ≠ l := by
    rintro source hsource rfl
    cases (h.gone source hsource).symm.trans hnode
  refine ⟨hnotTaken, ?_⟩
  have hkept := h.elsewhere l hl hnotTaken
  rw [hnode] at hkept
  cases hbefore : t.get? l with
  | none =>
    rw [hbefore] at hkept
    cases hkept.none
  | some before =>
    rw [hbefore] at hkept
    exact ⟨before, rfl, hkept⟩

/-- What is at the place of a path can only be some file, unless the path is that of the file that
has been replaced. -/
theorem nothingBut (h : Puts t t' path content taken) (hpath : t.place path ≠ t.place other)
    (hother : t.NothingBut other before) : t'.NothingBut other before := by
  intro node hnode
  rw [h.place_eq] at hnode
  obtain ⟨-, present, hpresent, hkept⟩ := h.still_there hpath hnode
  obtain ⟨mode, rfl⟩ := hother present hpresent
  cases hkept
  exact ⟨mode, rfl⟩

end Puts

end FileTree

end AsmHarness
