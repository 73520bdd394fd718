import AsmHarness.FileTree.Locate
import Mathlib.Data.List.Infix
import Mathlib.Data.List.TakeWhile
import Mathlib.Tactic.SplitIfs

/-!
# Paths to the entries of a folder

The path to an entry is that of the folder joined with the name of the entry. Its parts are those of
the folder and the name, so it can be taken apart again: the name is its last part, and what stands
before it is the path of the folder, without the slashes and dots that it may end in.
-/

namespace AsmHarness

namespace Path

/-- A text that can be the name of an entry. -/
structure IsName (name : String) : Prop where
  /-- A name is not empty. -/
  ne_empty : name ≠ ""
  /-- It is not the one by which a folder names itself. -/
  ne_dot : name ≠ "."
  /-- It is not the one by which a folder names the folder above. -/
  ne_up : name ≠ ".."
  /-- It has no slash in it. -/
  no_slash : '/' ∉ name.toList
  /-- It has no zero character in it. -/
  no_nul : '\x00' ∉ name.toList
  /-- It is not too long. -/
  short : name.utf8ByteSize ≤ FileTree.maxNameSize

/-- A text that can be the last part of a path, without a step to the same folder or the one above.
-/
structure IsPart (name : String) : Prop where
  /-- A part is not empty. -/
  ne_empty : name ≠ ""
  /-- It is not a step to the same folder. -/
  ne_dot : name ≠ "."
  /-- It is not a step to the folder above. -/
  ne_up : name ≠ ".."
  /-- It has no slash in it. -/
  no_slash : '/' ∉ name.toList

theorem IsName.isPart {name : String} (h : IsName name) : IsPart name :=
  ⟨h.ne_empty, h.ne_dot, h.ne_up, h.no_slash⟩

/-- The path that leads from a folder along some names. -/
def along (folder : Path) (location : Location) : Path := location.foldl join folder

variable {path folder base : Path} {name : String} {location : Location}

@[simp] theorem along_nil (folder : Path) : folder.along [] = folder := rfl

@[simp] theorem along_cons (folder : Path) (name : String) (location : Location) :
    folder.along (name :: location) = (folder.join name).along location := rfl

theorem along_concat (folder : Path) (location : Location) (name : String) :
    folder.along (location ++ [name]) = (folder.along location).join name :=
  List.foldl_concat ..

/-! ## The text of a joined path -/

theorem join_of_isAbsolute {relative : Path} (h : isAbsolute relative) (folder : Path) :
    folder.join relative = relative := if_pos h

theorem not_isAbsolute_of_no_slash (hslash : '/' ∉ name.toList) : isAbsolute name = false :=
  decide_eq_false fun hhead => hslash (List.mem_of_head? hhead)

/-- A relative path is put behind the path of a folder, with a slash between if that is needed. -/
theorem toList_join_of_relative {relative : Path} (h : isAbsolute relative = false)
    (folder : Path) :
    (folder = "" ∧ (folder.join relative).toList = relative.toList) ∨
      ∃ front, (folder.toList = front ++ ['/'] ∨ folder.toList = front ∧ front ≠ []) ∧
        (folder.join relative).toList = front ++ '/' :: relative.toList := by
  unfold join
  rw [h, if_neg Bool.false_ne_true]
  split
  · next hlast =>
    have hempty : folder.toList = [] := List.getLast?_eq_none_iff.1 hlast
    exact .inl ⟨by rw [← String.toList_inj, hempty]; rfl, rfl⟩
  · next hlast =>
    obtain ⟨front, hfront⟩ := List.getLast?_eq_some_iff.1 hlast
    exact .inr ⟨front, .inl hfront, by simp [hfront]⟩
  · next last hlast hne =>
    have hnil : folder.toList ≠ [] := by
      intro hnil
      simp [hnil] at hne
    exact .inr ⟨folder.toList, .inr ⟨rfl, hnil⟩, by simp⟩

/-- A name is put behind the path of its folder, with a slash between if that is needed. -/
theorem toList_join (hslash : '/' ∉ name.toList) (folder : Path) :
    (folder = "" ∧ (folder.join name).toList = name.toList) ∨
      ∃ front, (folder.toList = front ++ ['/'] ∨ folder.toList = front ∧ front ≠ []) ∧
        (folder.join name).toList = front ++ '/' :: name.toList :=
  toList_join_of_relative (not_isAbsolute_of_no_slash hslash) folder

theorem isAbsolute_join_of_relative (h : isAbsolute relative = false) (folder : Path) :
    (folder.join relative).isAbsolute = folder.isAbsolute := by
  rcases toList_join_of_relative h folder with ⟨rfl, hjoin⟩ | ⟨front, hfront, hjoin⟩
  · rw [isAbsolute, hjoin]
    exact h
  · rw [isAbsolute, isAbsolute, hjoin]
    rcases hfront with hfront | ⟨hfront, hne⟩
    · cases front <;> simp [hfront]
    · obtain ⟨c, more, rfl⟩ := List.exists_cons_of_ne_nil hne
      simp [hfront]

/-- What is appended to a name that is joined is appended to the path. -/
theorem join_append (hne : name ≠ "") (folder : Path) (rest : String) :
    folder.join (name ++ rest) = folder.join name ++ rest := by
  have habsolute : isAbsolute (name ++ rest) = isAbsolute name := by
    obtain ⟨c, chars, hchars⟩ := List.exists_cons_of_ne_nil (mt String.toList_eq_nil_iff.1 hne)
    simp [isAbsolute, hchars]
  unfold join
  rw [habsolute]
  split
  · rfl
  · split
    · rfl
    · rw [String.append_assoc]
    · rw [String.append_assoc, String.append_assoc, String.append_assoc]

/-! ## Parts -/

/-- The parts of a text between its slashes. -/
def partsOf (chars : List Char) : List String :=
  ((chars.splitOn '/').filter (· ≠ [])).map String.ofList

theorem parts_eq_partsOf (path : Path) : path.parts = partsOf path.toList := rfl

@[simp] theorem partsOf_nil : partsOf [] = [] := by
  simp [partsOf]

theorem partsOf_append_slash (front rest : List Char) :
    partsOf (front ++ '/' :: rest) = partsOf front ++ partsOf rest := by
  rw [partsOf, List.splitOn_append_cons_self, List.filter_append, List.map_append]
  rfl

theorem partsOf_of_not_mem {chars : List Char} (hslash : '/' ∉ chars) (hne : chars ≠ []) :
    partsOf chars = [.ofList chars] := by
  simp [partsOf, List.splitOn_eq_singleton hslash, hne]

/-- The parts of a relative path come behind those of the folder that it is joined to. -/
theorem parts_join_of_relative {relative : Path} (h : isAbsolute relative = false)
    (folder : Path) : (folder.join relative).parts = folder.parts ++ relative.parts := by
  rw [parts_eq_partsOf, parts_eq_partsOf, parts_eq_partsOf]
  rcases toList_join_of_relative h folder with ⟨rfl, hjoin⟩ | ⟨front, hfront, hjoin⟩
  · rw [hjoin]
    simp
  · rw [hjoin, partsOf_append_slash]
    rcases hfront with hfront | ⟨hfront, -⟩
    · rw [hfront, partsOf_append_slash, partsOf_nil, List.append_nil]
    · rw [hfront]

/-- The last part of a joined path is what was joined. -/
theorem parts_join (hne : name ≠ "") (hslash : '/' ∉ name.toList) (folder : Path) :
    (folder.join name).parts = folder.parts ++ [name] := by
  have hname : parts name = [name] := by
    rw [parts_eq_partsOf, partsOf_of_not_mem hslash (by simpa using hne), String.ofList_toList]
  rw [parts_join_of_relative (not_isAbsolute_of_no_slash hslash), hname]

theorem parts_along (hnames : ∀ name ∈ location, IsName name) (folder : Path) :
    (folder.along location).parts = folder.parts ++ location := by
  induction location generalizing folder with
  | nil => simp
  | cons name rest ih =>
    rw [List.forall_mem_cons] at hnames
    rw [along_cons, ih hnames.2, parts_join hnames.1.ne_empty hnames.1.no_slash,
      List.append_assoc, List.singleton_append]

/-! ## Slashes and dots at the end -/

/-- A path without the slashes and the single dots at its end. -/
def trimmed (path : Path) : Path := .ofList (trimReversed path.toList.reverse).reverse

theorem partsOf_trimReversed (chars : List Char) :
    ∃ n, partsOf chars.reverse =
      partsOf (trimReversed chars).reverse ++ List.replicate n "." := by
  fun_induction trimReversed chars with
  | case1 c rest ih =>
    obtain ⟨n, hn⟩ := ih
    refine ⟨n, ?_⟩
    rw [List.reverse_cons, partsOf_append_slash, partsOf_nil, List.append_nil, hn]
  | case2 rest ih =>
    obtain ⟨n, hn⟩ := ih
    refine ⟨n + 1, ?_⟩
    have hdot : partsOf ['.'] = ["."] := by decide
    rw [List.reverse_cons, List.reverse_cons, List.append_assoc, List.singleton_append,
      partsOf_append_slash, hdot, List.replicate_succ', ← List.append_assoc, ← hn,
      List.reverse_cons, partsOf_append_slash, partsOf_nil, List.append_nil]
  | case3 chars => exact ⟨0, (List.append_nil _).symm⟩

/-- What is left out at the end of a path are parts that lead nowhere else. -/
theorem parts_trimmed (path : Path) :
    ∃ n, path.parts = path.trimmed.parts ++ List.replicate n "." := by
  obtain ⟨n, hn⟩ := partsOf_trimReversed path.toList.reverse
  refine ⟨n, ?_⟩
  rw [List.reverse_reverse] at hn
  rw [parts_eq_partsOf, parts_eq_partsOf, trimmed, String.toList_ofList, hn]

/-- Where a path leads on from a folder can be read off what is left of it. -/
theorem eq_of_trimmed_along {location other : Location} (hnames : ∀ name ∈ location, IsName name)
    (hothers : ∀ name ∈ other, IsName name)
    (h : (folder.along location).trimmed.parts = (folder.along other).trimmed.parts) :
    location = other := by
  -- what was left out consists of dots, but no name is a dot
  have hend : ∀ {location other : Location} {m n : Nat}, (∀ name ∈ other, IsName name) →
      (∃ parts, folder.parts ++ location = parts ++ List.replicate m "." ∧
        folder.parts ++ other = parts ++ List.replicate n ".") → m ≤ n → location = other := by
    rintro location other m n hothers ⟨parts, hlocation, hother⟩ hle
    obtain ⟨k, rfl⟩ := Nat.exists_eq_add_of_le hle
    rw [List.replicate_add, ← List.append_assoc, ← hlocation, List.append_assoc,
      List.append_cancel_left_eq] at hother
    cases k with
    | zero => simpa using hother.symm
    | succ k =>
      refine absurd rfl (hothers "." ?_).ne_dot
      rw [hother]
      simp
  obtain ⟨m, hm⟩ := parts_trimmed (folder.along location)
  obtain ⟨n, hn⟩ := parts_trimmed (folder.along other)
  rw [parts_along hnames, h] at hm
  rw [parts_along hothers] at hn
  rcases Nat.le_total m n with hle | hle
  · exact hend hothers ⟨_, hm, hn⟩ hle
  · exact (hend hnames ⟨_, hn, hm⟩ hle).symm

/-! ## Taking a joined path apart -/

/-- A name does not end in anything that would be left out. -/
theorem trimReversed_append (hname : IsPart name) {rest : List Char}
    (hrest : rest = [] ∨ ∃ more, rest = '/' :: more) :
    trimReversed (name.toList.reverse ++ rest) = name.toList.reverse ++ rest := by
  obtain ⟨chars, hchars⟩ : ∃ chars, name.toList.reverse = chars := ⟨_, rfl⟩
  have hslash : '/' ∉ chars := by
    rw [← hchars, List.mem_reverse]
    exact hname.no_slash
  have hdot : chars ≠ ['.'] := fun h =>
    hname.ne_dot (by rw [← String.toList_inj, ← List.reverse_inj, hchars, h]; rfl)
  rw [hchars]
  match chars with
  | [] =>
    exact absurd (by rw [← String.toList_inj, ← List.reverse_inj, hchars]; rfl) hname.ne_empty
  | [c] =>
    have hc : c ≠ '/' := fun h => hslash (by simp [h])
    have hc' : c ≠ '.' := fun h => hdot (by rw [h])
    rcases hrest with rfl | ⟨more, rfl⟩ <;> simp [trimReversed, hc, hc']
  | c :: d :: more =>
    have hc : c ≠ '/' := fun h => hslash (by simp [h])
    have hd : d ≠ '/' := fun h => hslash (by simp [h])
    simp [trimReversed, hc, hd]

/-- Read from its end, a joined path is the name and then the path of the folder, up to slashes and
dots at the end of the latter. -/
theorem reverse_toList_join (hname : IsPart name) (folder : Path) :
    ∃ rest, (folder.join name).toList.reverse = name.toList.reverse ++ rest ∧
      (rest = [] ∨ ∃ more, rest = '/' :: more) ∧
      trimReversed rest = trimReversed folder.toList.reverse := by
  rcases toList_join hname.no_slash folder with ⟨rfl, hjoin⟩ | ⟨front, hfront, hjoin⟩
  · exact ⟨[], by rw [hjoin, List.append_nil], .inl rfl, rfl⟩
  · refine ⟨'/' :: front.reverse, by rw [hjoin]; simp, .inr ⟨_, rfl⟩, ?_⟩
    rcases hfront with hfront | ⟨hfront, hne⟩
    · rw [hfront, List.reverse_concat]
    · obtain ⟨c, more, hmore⟩ := List.exists_cons_of_ne_nil (List.reverse_ne_nil_iff.2 hne)
      rw [hfront, hmore, trimReversed]

theorem splitReversed_join (hname : IsPart name) (folder : Path) :
    ∃ rest, splitReversed (folder.join name) = (name.toList.reverse, rest) ∧
      trimReversed rest = trimReversed folder.toList.reverse := by
  obtain ⟨rest, hreverse, hrest, htrim⟩ := reverse_toList_join hname folder
  have hall : ∀ c ∈ name.toList.reverse, decide (c ≠ '/') = true := by
    intro c hc
    rw [decide_eq_true_eq]
    exact fun hslash => hname.no_slash (hslash ▸ List.mem_reverse.1 hc)
  refine ⟨rest, ?_, htrim⟩
  rw [splitReversed, hreverse, trimReversed_append hname hrest]
  rcases hrest with rfl | ⟨more, rfl⟩
  · rw [List.append_nil, List.takeWhile_eq_self_iff.2 hall, List.dropWhile_eq_nil_iff.2 hall]
  · rw [List.takeWhile_append_of_pos hall, List.dropWhile_append_of_pos hall]
    simp

/-- The name of an entry is the last part of its path. -/
theorem fileName?_join (hname : IsPart name) (folder : Path) :
    (folder.join name).fileName? = some name := by
  obtain ⟨rest, hsplit, -⟩ := splitReversed_join hname folder
  have hback : ∀ chars, name.toList.reverse = chars → name = .ofList chars.reverse := by
    rintro chars rfl
    rw [List.reverse_reverse, String.ofList_toList]
  unfold fileName?
  rw [hsplit]
  dsimp only
  split
  · next h => exact absurd (hback _ h) hname.ne_empty
  · next h => exact absurd (hback _ h) hname.ne_dot
  · next h => exact absurd (hback _ h) hname.ne_up
  · rw [List.reverse_reverse, String.ofList_toList]

/-- An entry lies in its folder. -/
theorem parent?_join (hname : IsPart name) (folder : Path) :
    (folder.join name).parent? = some folder.trimmed := by
  obtain ⟨rest, hsplit, htrim⟩ := splitReversed_join hname folder
  have hne : name.toList.reverse ≠ [] := by simpa using hname.ne_empty
  unfold parent?
  rw [hsplit]
  split
  · next h => exact absurd (congrArg Prod.fst h) hne
  · next h =>
    cases h
    rw [htrim, trimmed]

/-! ## Extensions -/

/-- A name with an extension is cut at its last dot, which is not its first character. -/
theorem exists_of_extension? {extension : String} (hname : path.fileName? = some name)
    (h : path.extension? = some extension) :
    ∃ front, front ≠ "" ∧ name = front ++ "." ++ extension := by
  unfold extension? at h
  simp only [hname] at h
  split at h
  · cases h
  · cases h
  · next dot rest hne hdrop =>
    simp only [Option.some.injEq] at h
    have hdot : dot = '.' := by
      have hhead := List.head?_dropWhile_not (· ≠ '.') name.toList.reverse
      rw [hdrop] at hhead
      simpa using hhead
    subst hdot
    have hname : name.toList.reverse = extension.toList.reverse ++ '.' :: rest := by
      rw [← h, ← hdrop, String.toList_ofList, List.reverse_reverse, List.takeWhile_append_dropWhile]
    refine ⟨.ofList rest.reverse, ?_, ?_⟩
    · intro hempty
      have hrest : rest = [] := by simpa using hempty
      exact hne rfl hrest
    · rw [← String.toList_inj, ← List.reverse_inj, hname]
      simp

end Path

end AsmHarness
