import AsmHarness.Proofs.FileTree.Access

/-!
# What lies at a location

The content at a location is that of the file there, if there is a file. A request that is made by
path alters the places that the paths lead to, and what lies below them: a folder that is moved
takes along all that is in it. At every other location there is the same content as before, and no
file where there was none.
-/

namespace AsmHarness

/-- The content of a node that is a file. -/
def Node.content? : Node → Option ByteArray
  | .file content _ => some content
  | .folder .. => none

theorem Node.Kept.content?_eq {before after : Option Node} (h : Kept before after) :
    after.bind Node.content? = before.bind Node.content? := by
  cases h <;> rfl

/-- A location is where the file of a path is, or lies below it. -/
def Path.Covers (path : Path) (origin location : Location) : Prop :=
  path.place origin <+: location

namespace FileTree

variable {t t' : FileTree} {loc location : Location} {f : Option Node → Option Node}
  {path source target : Path} {content : ByteArray}

/-- The content of the file at a location, none if there is no file. -/
def content? (t : FileTree) (location : Location) : Option ByteArray :=
  (t.get? location).bind Node.content?

theorem content?_alter (h : ¬ loc <+: location) :
    (t.alter loc f).content? location = t.content? location :=
  (kept_alter h).content?_eq

/-- Writing a file leaves the content at other locations as it is: nothing lies below a file. -/
theorem content?_write (h : t.write path content = .ok t') (hother : t.place path ≠ location) :
    t'.content? location = t.content? location := by
  obtain ⟨folder, name, mode, hleads, -, hfile, rfl⟩ := write_eq_ok h
  have hafter := not_hasFolder_of_file (hleads.get?_put (.file content mode))
  rw [hleads.place_eq] at hother
  exact (kept_alter_elsewhere hfile hafter hother.symm).content?_eq

/-- Moving leaves the files as they are, or takes away what one path leads to and puts it where the
other one leads. -/
theorem rename_cases (h : t.rename source target = .ok t') :
    t' = t ∨ ∃ moved, t' = (t.erase (t.place source)).put (t.place target) moved := by
  obtain ⟨fromFolder, fromName, toFolder, toName, moved, hfrom, hto, -, -, -, rfl⟩ :=
    rename_eq_ok_iff.1 h
  rw [hfrom.place_eq, hto.place_eq]
  by_cases hsame : fromFolder ++ [fromName] = toFolder ++ [toName]
  · exact .inl (if_pos hsame)
  · exact .inr ⟨moved, if_neg hsame⟩

/-- Moving leaves the content at other locations as it is. -/
theorem content?_rename (h : t.rename source target = .ok t')
    (hsource : ¬ source.Covers t.origin location) (htarget : ¬ target.Covers t.origin location) :
    t'.content? location = t.content? location := by
  rcases rename_cases h with rfl | ⟨moved, rfl⟩
  · rfl
  · have herased : (t.erase (t.place source)).content? location = t.content? location :=
      content?_alter hsource
    rw [← herased]
    exact content?_alter htarget

end FileTree

end AsmHarness
