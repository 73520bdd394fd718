import AsmHarness.Proofs.FileTree.Access
import AsmHarness.Proofs.Path

/-!
# Where joined paths lead

A path is followed step by step: what counts are its parts, but for the single dots, and whether it
starts at the root. Two ways to write a path have the same steps, and then they are of the same
place. A path that is put behind a folder lies in the folder itself only if it has one step.
-/

namespace AsmHarness.Path

variable {path folder base relative : Path} {name : String}

/-- Whether a path starts at the root, and its parts without those that lead nowhere. -/
def steps (path : Path) : Bool × List String := (path.isAbsolute, path.parts.filter (· ≠ "."))

/-- A path is one step from a folder. -/
def IsEntryOf (path folder : Path) : Prop :=
  ∃ name, path.steps = (folder.steps.1, folder.steps.2 ++ [name])

/-! ## Steps -/

/-- Steps to the same folder do not count for the place of a path. -/
theorem foldl_step_filter (here : Location) (parts : List String) :
    (parts.filter (· ≠ ".")).foldl Location.step here = parts.foldl Location.step here := by
  induction parts generalizing here with
  | nil => rfl
  | cons part rest ih =>
    by_cases hdot : part = "."
    · subst hdot
      rw [List.filter_cons_of_neg (by simp), List.foldl_cons, ih]
      rfl
    · rw [List.filter_cons_of_pos (by simpa using hdot), List.foldl_cons, List.foldl_cons, ih]

/-- Paths with the same steps are of the same place, wherever the working directory is. -/
theorem place_eq_of_steps_eq (h : path.steps = base.steps) (origin : Location) :
    path.place origin = base.place origin := by
  rw [steps, steps, Prod.mk.injEq] at h
  rw [place, place, ← foldl_step_filter _ path.parts, ← foldl_step_filter _ base.parts, h.1, h.2]

/-- A relative path goes on from the folder that it is joined to. -/
theorem steps_join_of_relative (h : isAbsolute relative = false) (folder : Path) :
    (folder.join relative).steps = (folder.steps.1, folder.steps.2 ++ relative.steps.2) := by
  rw [steps, isAbsolute_join_of_relative h, parts_join_of_relative h, List.filter_append]
  rfl

/-- Joined paths have the same steps if what is joined is absolute, or if the folders have. -/
theorem steps_join_eq_iff : (base.join relative).steps = (folder.join relative).steps ↔
    relative.isAbsolute ∨ base.steps = folder.steps := by
  cases h : isAbsolute relative with
  | true => simp [join_of_isAbsolute h]
  | false =>
    rw [steps_join_of_relative h, steps_join_of_relative h, Prod.mk.injEq,
      List.append_cancel_right_eq, ← Prod.ext_iff]
    simp

/-- A part that is joined is one more step. -/
theorem steps_join (hname : IsPart name) (folder : Path) :
    (folder.join name).steps = (folder.steps.1, folder.steps.2 ++ [name]) := by
  have habsolute := not_isAbsolute_of_no_slash hname.no_slash
  rw [steps, isAbsolute_join_of_relative habsolute, parts_join hname.ne_empty hname.no_slash,
    List.filter_append, List.filter_cons_of_pos (by simpa using hname.ne_dot)]
  rfl

theorem isEntryOf_join_iff (hname : IsPart name) :
    (base.join name).IsEntryOf folder ↔ base.steps = folder.steps := by
  unfold IsEntryOf
  rw [steps_join hname]
  constructor
  · rintro ⟨other, h⟩
    rw [Prod.mk.injEq] at h
    exact Prod.ext h.1 (List.append_inj_left' h.2 rfl)
  · rintro h
    exact ⟨name, by rw [h]⟩

/-! ## The folder of a path -/

theorem getLast?_trimReversed (chars : List Char) :
    (trimReversed chars).getLast? = chars.getLast? := by
  fun_induction trimReversed chars with
  | case1 c rest ih => rw [ih, List.getLast?_cons_cons]
  | case2 rest ih => rw [ih, List.getLast?_cons_cons]
  | case3 => rfl

/-- What is left out at the end of a path are no steps. -/
theorem steps_trimmed (path : Path) : path.trimmed.steps = path.steps := by
  have habsolute : path.trimmed.isAbsolute = path.isAbsolute := by
    rw [isAbsolute, isAbsolute, trimmed, String.toList_ofList, List.head?_reverse,
      getLast?_trimReversed, List.getLast?_reverse]
  obtain ⟨n, hn⟩ := parts_trimmed path
  rw [steps, steps, habsolute, hn, List.filter_append]
  simp

theorem exists_split_at_slash (text : String) :
    ∃ front last, text = front ++ last ∧ '/' ∉ last.toList ∧
      (front = "" ∨ front.toList.getLast? = some '/') := by
  by_cases hslash : '/' ∈ text.toList.reverse
  · obtain ⟨last, front, hsplit, hnone⟩ := List.eq_append_cons_of_mem hslash
    refine ⟨.ofList (front.reverse ++ ['/']), .ofList last.reverse, ?_, by simpa using hnone, ?_⟩
    · rw [← String.toList_inj, ← List.reverse_inj, hsplit]
      simp
    · simp
  · exact ⟨"", text, by simp, by simpa using hslash, .inl rfl⟩

/-- A path that does not end in a slash has a last part. -/
theorem parts_ne_nil (hne : path ≠ "") (hend : path.endsInSlash = false) : path.parts ≠ [] := by
  obtain ⟨front, last, rfl, hlast, hfront⟩ := exists_split_at_slash path
  have hsome : last.toList ≠ [] := by
    intro hnil
    obtain rfl := String.toList_eq_nil_iff.1 hnil
    rcases hfront with rfl | hfront
    · exact hne rfl
    · simp [endsInSlash, hfront] at hend
  rw [parts_eq_partsOf, String.toList_append]
  rcases hfront with rfl | hfront
  · rw [String.toList_empty, List.nil_append, partsOf_of_not_mem hlast hsome]
    exact List.cons_ne_nil _ _
  · obtain ⟨start, hstart⟩ := List.getLast?_eq_some_iff.1 hfront
    rw [hstart, List.append_assoc, List.singleton_append, partsOf_append_slash,
      partsOf_of_not_mem hlast hsome]
    exact List.append_ne_nil_of_right_ne_nil _ (List.cons_ne_nil _ _)

/-- A path ends in what was joined last. -/
theorem getLast?_join (hne : relative ≠ "") (folder : Path) :
    (folder.join relative).toList.getLast? = relative.toList.getLast? := by
  have hsome : ∃ c, relative.toList.getLast? = some c :=
    ⟨_, List.getLast?_eq_some_getLast (mt String.toList_eq_nil_iff.1 hne)⟩
  obtain ⟨c, hlast⟩ := hsome
  unfold join
  split_ifs
  · rfl
  · split <;> simp [List.getLast?_cons, hlast]

theorem join_of_getLast? (h : base.toList.getLast? = some '/')
    (hrelative : isAbsolute relative = false) : base.join relative = base ++ relative := by
  simp [join, hrelative, h]

/-- What is joined to a folder can be cut at its last slash: the path is that of one part behind a
folder, which is the same folder if there is no slash. -/
theorem exists_join_eq (folder : Path) (text suffix : String)
    (hsuffix : ∀ last : String, '/' ∉ last.toList → IsPart (last ++ suffix)) :
    ∃ base last, folder.join (text ++ suffix) = Path.join base (last ++ suffix) ∧
      '/' ∉ last.toList ∧ ('/' ∉ text.toList → base = folder) := by
  obtain ⟨front, last, rfl, hlast, hfront | hfront⟩ := exists_split_at_slash text
  · subst hfront
    exact ⟨folder, last, by rw [String.empty_append], hlast, fun _ => rfl⟩
  · have hpart := hsuffix last hlast
    refine ⟨folder.join front, last, ?_, hlast, fun hslash => ?_⟩
    · have hne : front ≠ "" := by
        rintro rfl
        cases hfront
      have hend : (folder.join front).toList.getLast? = some '/' := by
        rw [getLast?_join hne, hfront]
      rw [join_of_getLast? hend (not_isAbsolute_of_no_slash hpart.no_slash), String.append_assoc,
        join_append hne]
    · rw [String.toList_append, List.mem_append, not_or] at hslash
      exact absurd (List.mem_of_getLast? hfront) hslash.1

end AsmHarness.Path
