import AsmHarness.Text.Lines
import Mathlib.Control.Lawful

/-!
# Lines and line feeds

A text without line feeds is a line of its own wherever it is written on one. The lines that a text
is cut into are of this kind.
-/

namespace AsmHarness

theorem mem_of_mem_splitOn {α : Type} [BEq α] [LawfulBEq α] {sep x : α} {xs piece : List α}
    (hpiece : piece ∈ xs.splitOn sep) (hx : x ∈ piece) : x ∈ xs ∧ x ≠ sep := by
  induction xs generalizing piece with
  | nil =>
    have hnil : piece = [] := by simpa [List.splitOn_nil] using hpiece
    rw [hnil] at hx
    cases hx
  | cons y ys ih =>
    rw [List.splitOn_cons_eq_if_modifyHead] at hpiece
    split at hpiece
    · rcases List.mem_cons.1 hpiece with rfl | hlater
      · cases hx
      · exact ⟨List.mem_cons_of_mem _ (ih hlater hx).1, (ih hlater hx).2⟩
    · next hne =>
      obtain ⟨first, rest, hsplit⟩ := List.exists_cons_of_ne_nil (List.splitOn_ne_nil sep ys)
      rw [hsplit] at hpiece ih
      rcases List.mem_cons.1 hpiece with rfl | hlater
      · rcases List.mem_cons.1 hx with rfl | hfirst
        · exact ⟨List.mem_cons_self .., by simpa using hne⟩
        · have hmem := ih (List.mem_cons_self ..) hfirst
          exact ⟨List.mem_cons_of_mem _ hmem.1, hmem.2⟩
      · have hmem := ih (List.mem_cons_of_mem _ hlater) hx
        exact ⟨List.mem_cons_of_mem _ hmem.1, hmem.2⟩

namespace Text

/-- A text without line feeds. -/
def OneLine (text : String) : Prop := '\n' ∉ text.toList

instance (text : String) : Decidable (OneLine text) := inferInstanceAs (Decidable (¬ _))

variable {text more : String}

theorem OneLine.append (h : OneLine text) (hmore : OneLine more) : OneLine (text ++ more) := by
  intro hmem
  rw [String.toList_append] at hmem
  rcases List.mem_append.1 hmem with hfirst | hsecond
  · exact h hfirst
  · exact hmore hsecond

theorem OneLine.ofList {chars : List Char} (h : '\n' ∉ chars) : OneLine (.ofList chars) := by
  rwa [OneLine, String.toList_ofList]

theorem oneLine_toString_nat (n : Nat) : OneLine (toString n) := by
  intro hmem
  rw [Nat.toString_eq_repr, Nat.toList_repr] at hmem
  have hdigit := Nat.isDigit_of_mem_toDigits (by decide) (by decide) hmem
  exact absurd hdigit (by decide)

theorem oneLine_toString_int (n : Int) : OneLine (toString n) := by
  cases n with
  | ofNat n => exact oneLine_toString_nat n
  | negSucc n =>
    have hsign : OneLine "-" := by decide
    exact hsign.append (oneLine_toString_nat (n + 1))

theorem oneLine_of_mem_lines {line : String} (h : line ∈ lines text) : OneLine line := by
  obtain ⟨piece, hpiece, rfl⟩ := List.mem_map.1 h
  refine OneLine.ofList fun hmem => ?_
  exact (mem_of_mem_splitOn hpiece hmem).2 rfl

theorem oneLine_intercalate {sep : String} (hsep : OneLine sep) {texts : List String}
    (h : ∀ text ∈ texts, OneLine text) : OneLine (sep.intercalate texts) := by
  induction texts with
  | nil => simp [OneLine]
  | cons first rest ih =>
    rw [List.forall_mem_cons] at h
    cases rest with
    | nil => simpa using h.1
    | cons second rest =>
      rw [String.intercalate_cons_of_ne_nil (by simp)]
      exact (h.1.append hsep).append (ih h.2)

/-- Nothing is lost when a text is cut into lines. -/
theorem unlines_lines (text : String) : unlines (lines text) = text := by
  have hpieces : (lines text).map String.toList = text.toList.splitOn '\n' := by
    simp [lines, Function.comp_def]
  rw [unlines, hpieces, List.intercalate_splitOn, String.ofList_toList]

/-- Lines that are each ended by a line feed are cut off as they are, and nothing is left. -/
theorem lines_flatMap_lineFeed {texts : List String} (h : ∀ text ∈ texts, OneLine text) :
    lines (.ofList (texts.flatMap fun text => text.toList ++ ['\n'])) = texts ++ [""] := by
  induction texts with
  | nil => decide
  | cons first rest ih =>
    rw [List.forall_mem_cons] at h
    have hrest := ih h.2
    simp only [lines, String.toList_ofList] at hrest ⊢
    rw [List.flatMap_cons, List.append_assoc, List.singleton_append,
      List.splitOn_append_cons_self, List.splitOn_eq_singleton h.1, List.map_append, hrest]
    simp

end Text

end AsmHarness
