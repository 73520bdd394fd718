import AsmHarness.Environment
import AsmHarness.Proofs.Substitution
import Mathlib.Data.List.Induction
import Mathlib.Data.String.Basic

/-!
# What some entries make of the environment

Entries are read one by one, and of those that name one variable the last one counts. The changes
are kept sorted by name, so that each variable has at most one, and a list of changes is known by
its members.
-/

namespace AsmHarness.Change

/-- An entry asks for a change. -/
inductive Says (entry : String) : Change → Prop where
  /-- The name ends at the first equals sign, and behind it stands the value. -/
  | set {name value : String} (written : entry = name ++ "=" ++ value) (plain : '=' ∉ name.toList) :
    Says entry (name, some value)
  /-- Without an equals sign it is a name alone, of a variable to be removed. -/
  | remove (plain : '=' ∉ entry.toList) : Says entry (entry, none)

/-- A change is the one that the last entry to name its variable asks for. -/
def LastSaid (entries : List String) (change : Change) : Prop :=
  ∃ before entry after, entries = before ++ entry :: after ∧ Says entry change ∧
    ∀ later ∈ after, ∀ value, ¬ Says later (change.1, value)

section Entries

variable {entry : String} {change : Change}

theorem says_iff : Says entry change ↔ ofEntry entry = change := by
  constructor
  · intro h
    cases h with
    | @set name value written plain =>
      have hchars : entry.toList = name.toList ++ '=' :: value.toList := by
        rw [written, String.toList_append, String.toList_append, List.append_assoc]
        rfl
      obtain ⟨htake, hdrop⟩ := Substitution.span_ne '=' plain value.toList
      rw [← hchars] at htake hdrop
      simp only [ofEntry, hdrop, htake, String.ofList_toList]
    | remove plain =>
      have hdrop : entry.toList.dropWhile (· ≠ '=') = [] := by
        rw [List.dropWhile_eq_nil_iff]
        intro c hc
        exact decide_eq_true fun heq => plain (heq ▸ hc)
      simp only [ofEntry, hdrop]
  · rintro rfl
    have happend := List.takeWhile_append_dropWhile (p := (· ≠ '=')) (l := entry.toList)
    have hname : '=' ∉ entry.toList.takeWhile (· ≠ '=') := fun hmem =>
      absurd (List.mem_takeWhile_imp hmem) (by simp)
    simp only [ofEntry]
    cases hdrop : entry.toList.dropWhile (· ≠ '=') with
    | nil =>
      rw [hdrop, List.append_nil] at happend
      exact .remove (happend ▸ hname)
    | cons c value =>
      have hc : c = '=' := by
        have hhead := List.head?_dropWhile_not (p := (· ≠ '=')) entry.toList
        rw [hdrop] at hhead
        simpa using hhead
      rw [hdrop, hc] at happend
      refine .set ?_ (by rwa [String.toList_ofList])
      rw [← String.toList_inj]
      simp only [String.toList_append, String.toList_ofList, List.append_assoc]
      exact happend.symm

end Entries

/-! ## Sorted changes -/

section Sorted

variable {changes others : List Change} {change other : Change}

/-- Changes are in the order of their names, and no two have the same name. -/
def Sorted (changes : List Change) : Prop := changes.Pairwise (·.1 < ·.1)

theorem mem_insert_iff (h : Sorted changes) :
    other ∈ insert change changes ↔ other = change ∨ (other ∈ changes ∧ other.1 ≠ change.1) := by
  induction changes with
  | nil => simp [insert]
  | cons first rest ih =>
    obtain ⟨hfirst, hrest⟩ := List.pairwise_cons.1 h
    rw [insert]
    -- the change comes before all others, or takes the place of the first, or goes further down
    split_ifs with hlt heq
    · have hne : ∀ c ∈ first :: rest, c.1 ≠ change.1 := by
        intro c hc
        rcases List.mem_cons.1 hc with rfl | hc
        · exact (ne_of_lt hlt).symm
        · exact (ne_of_lt (hlt.trans (hfirst c hc))).symm
      rw [List.mem_cons]
      constructor
      · rintro (hother | hother)
        · exact .inl hother
        · exact .inr ⟨hother, hne other hother⟩
      · rintro (hother | ⟨hother, -⟩)
        · exact .inl hother
        · exact .inr hother
    · have hne : ∀ c ∈ rest, c.1 ≠ change.1 := by
        intro c hc
        rw [heq]
        exact (ne_of_lt (hfirst c hc)).symm
      simp only [List.mem_cons]
      constructor
      · rintro (hother | hother)
        · exact .inl hother
        · exact .inr ⟨.inr hother, hne other hother⟩
      · rintro (hother | ⟨rfl | hother, hname⟩)
        · exact .inl hother
        · exact absurd heq.symm hname
        · exact .inr hother
    · have hname : first.1 ≠ change.1 := Ne.symm heq
      rw [List.mem_cons, List.mem_cons, ih hrest]
      constructor
      · rintro (rfl | hother | ⟨hother, hne⟩)
        · exact .inr ⟨.inl rfl, hname⟩
        · exact .inl hother
        · exact .inr ⟨.inr hother, hne⟩
      · rintro (hother | ⟨hother | hother, hne⟩)
        · exact .inr (.inl hother)
        · exact .inl hother
        · exact .inr (.inr ⟨hother, hne⟩)

theorem sorted_insert (h : Sorted changes) : Sorted (insert change changes) := by
  induction changes with
  | nil => exact List.pairwise_singleton ..
  | cons first rest ih =>
    obtain ⟨hfirst, hrest⟩ := List.pairwise_cons.1 h
    rw [insert]
    split_ifs with hlt heq
    · refine List.pairwise_cons.2 ⟨fun c hc => ?_, h⟩
      rcases List.mem_cons.1 hc with rfl | hc
      · exact hlt
      · exact hlt.trans (hfirst c hc)
    · exact List.pairwise_cons.2 ⟨fun c hc => heq ▸ hfirst c hc, hrest⟩
    · refine List.pairwise_cons.2 ⟨fun c hc => ?_, ih hrest⟩
      rcases (mem_insert_iff hrest).1 hc with rfl | ⟨hc, -⟩
      · exact lt_of_le_of_ne (not_lt.1 hlt) (Ne.symm heq)
      · exact hfirst c hc

theorem byName_concat (changes : List Change) (change : Change) :
    byName (changes ++ [change]) = insert change (byName changes) := by
  rw [byName, List.foldl_append]
  rfl

theorem sorted_byName (changes : List Change) : Sorted (byName changes) := by
  induction changes using List.reverseRecOn with
  | nil => exact .nil
  | append_singleton changes change ih =>
    rw [byName_concat]
    exact sorted_insert ih

/-- Of several changes to one variable the last one is kept. -/
theorem mem_byName_iff : change ∈ byName changes ↔
    ∃ before after, changes = before ++ change :: after ∧ ∀ later ∈ after, later.1 ≠ change.1 := by
  induction changes using List.reverseRecOn with
  | nil => simp [byName]
  | append_singleton changes last ih =>
    rw [byName_concat, mem_insert_iff (sorted_byName changes), ih]
    constructor
    · rintro (rfl | ⟨⟨before, after, rfl, hafter⟩, hne⟩)
      · exact ⟨changes, [], rfl, by simp⟩
      · refine ⟨before, after ++ [last], by simp, fun later hlater => ?_⟩
        rcases List.mem_append.1 hlater with hlater | hlater
        · exact hafter later hlater
        · rw [List.mem_singleton.1 hlater]
          exact hne.symm
    · rintro ⟨before, after, hsplit, hafter⟩
      -- the last change is the one in question, or it comes later and has another name
      rcases List.eq_nil_or_concat after with rfl | ⟨front, c, rfl⟩
      · exact .inl (List.append_inj_right' hsplit rfl |> List.singleton_inj.1).symm
      · rw [List.concat_eq_append] at hsplit hafter
        have hfront : changes ++ [last] = (before ++ change :: front) ++ [c] := by
          rw [hsplit, List.append_assoc, List.cons_append]
        obtain ⟨rfl, hlast⟩ := List.append_inj' hfront rfl
        obtain rfl := List.singleton_inj.1 hlast
        refine .inr ⟨⟨before, front, rfl, fun later hlater => ?_⟩, ?_⟩
        · exact hafter later (List.mem_append_left _ hlater)
        · exact (hafter last (by simp)).symm

/-- Sorted changes are known by their members. -/
theorem Sorted.ext (h : Sorted changes) (hothers : Sorted others)
    (hmem : ∀ change, change ∈ changes ↔ change ∈ others) : changes = others := by
  have hnodup : ∀ {list : List Change}, Sorted list → list.Nodup := by
    intro list hlist
    refine hlist.imp ?_
    rintro a b hlt rfl
    exact lt_irrefl _ hlt
  have hperm : changes.Perm others := (List.perm_ext_iff_of_nodup (hnodup h) (hnodup hothers)).2 hmem
  refine hperm.eq_of_pairwise ?_ h hothers
  intro a b _ _ hab hba
  exact absurd hba (not_lt.2 hab.le)

end Sorted

/-- What is kept of some entries is what the last entry to name each variable asks for. -/
theorem mem_byName_ofEntry {entries : List String} {change : Change} :
    change ∈ byName (entries.map ofEntry) ↔ LastSaid entries change := by
  have hlater : ∀ after : List String,
      (∀ later ∈ after.map ofEntry, later.1 ≠ change.1) ↔
        ∀ later ∈ after, ∀ value, ¬ Says later (change.1, value) := by
    intro after
    rw [List.forall_mem_map]
    refine forall₂_congr fun later _ => ?_
    simp only [says_iff]
    constructor
    · intro hne value heq
      exact hne (heq ▸ rfl)
    · intro hnot heq
      exact hnot (ofEntry later).2 (Prod.ext heq rfl)
  rw [mem_byName_iff]
  constructor
  · rintro ⟨before, after, hsplit, hafter⟩
    obtain ⟨front, rest, rfl, rfl, hrest⟩ := List.map_eq_append_iff.1 hsplit
    obtain ⟨entry, back, rfl, hentry, rfl⟩ := List.map_eq_cons_iff.1 hrest
    exact ⟨front, entry, back, rfl, says_iff.2 hentry, (hlater back).1 hafter⟩
  · rintro ⟨before, entry, after, rfl, hsays, hafter⟩
    refine ⟨before.map ofEntry, after.map ofEntry, ?_, (hlater after).2 hafter⟩
    rw [List.map_append, List.map_cons, says_iff.1 hsays]

end AsmHarness.Change
