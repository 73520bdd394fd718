import AsmHarness.Json.Basic
import Mathlib.Data.List.Nodup
import Mathlib.Tactic.SplitIfs

/-!
# What the fields of an object hold

The operations on fields are read through the value that each key has afterwards. An object has each
of its keys once (`Distinct`); setting, removing and overlaying fields keeps it so.
-/

namespace AsmHarness.Json.Fields

/-- No key is written twice. -/
def Distinct (fields : Fields) : Prop := (fields.map (·.1)).Nodup

variable {fields own : Fields} {key other : String} {value : Json}

/-! ## Values -/

theorem get?_nil (key : String) : get? [] key = none := rfl

theorem get?_cons (field : String × Json) (rest : Fields) (key : String) :
    get? (field :: rest) key = if field.1 = key then some field.2 else get? rest key := rfl

/-- A key has a value if it is written. -/
theorem get?_eq_none_iff : fields.get? key = none ↔ key ∉ fields.map (·.1) := by
  induction fields with
  | nil => simp [get?_nil]
  | cons field rest ih =>
    rw [get?_cons, List.map_cons, List.mem_cons, not_or, ← ih]
    by_cases hkey : field.1 = key
    · simp [hkey]
    · simp [hkey, Ne.symm hkey]

theorem get?_append (fields more : Fields) (key : String) :
    get? (fields ++ more) key = (fields.get? key).or (more.get? key) := by
  induction fields with
  | nil => rfl
  | cons field rest ih =>
    rw [List.cons_append, get?_cons, get?_cons, ih]
    split_ifs <;> rfl

theorem get?_set (fields : Fields) (key : String) (value : Json) (other : String) :
    (fields.set key value).get? other = if key = other then some value else fields.get? other := by
  induction fields with
  | nil => rfl
  | cons field rest ih =>
    obtain ⟨k, v⟩ := field
    by_cases hk : k = key
    · subst hk
      rw [set, if_pos rfl, get?_cons, get?_cons]
      split_ifs <;> rfl
    · rw [set, if_neg hk, get?_cons, get?_cons, ih]
      by_cases hother : k = other
      · have hne : key ≠ other := fun heq => hk (hother.trans heq.symm)
        simp only [hother, if_true, if_neg hne]
      · simp only [if_neg hother]

theorem get?_erase_self (fields : Fields) (key : String) : (fields.erase key).get? key = none := by
  rw [get?_eq_none_iff, erase, List.mem_map]
  rintro ⟨field, hfield, rfl⟩
  simpa using (List.mem_filter.1 hfield).2

theorem get?_erase_of_ne (hne : other ≠ key) (fields : Fields) :
    (fields.erase key).get? other = fields.get? other := by
  induction fields with
  | nil => rfl
  | cons field rest ih =>
    rw [get?_cons, ← ih, erase, List.filter_cons]
    by_cases hkey : field.1 = key
    · have hfield : field.1 ≠ other := fun heq => hne (heq.symm.trans hkey)
      rw [if_neg (by simpa using hkey), if_neg hfield]
      rfl
    · rw [if_pos (by simpa using hkey), get?_cons]
      rfl

/-- Of two values of a key, one laid over the other, the upper one counts. -/
theorem get?_overlay (hown : own.Distinct) (fields : Fields) (key : String) :
    (fields.overlay own).get? key = (own.get? key).or (fields.get? key) := by
  induction own generalizing fields with
  | nil => rfl
  | cons field rest ih =>
    obtain ⟨hfirst, hrest⟩ := List.nodup_cons.1 hown
    have hstep : fields.overlay (field :: rest) = (fields.set field.1 field.2).overlay rest := rfl
    rw [hstep, ih hrest, get?_set, get?_cons]
    by_cases hkey : field.1 = key
    · have hnone : get? rest key = none := get?_eq_none_iff.2 (hkey ▸ hfirst)
      simp [hkey, hnone]
    · simp [hkey]

/-! ## Keys -/

theorem keys_set (fields : Fields) (key : String) (value : Json) :
    (fields.set key value).map (·.1) =
      if key ∈ fields.map (·.1) then fields.map (·.1) else fields.map (·.1) ++ [key] := by
  induction fields with
  | nil => rfl
  | cons field rest ih =>
    obtain ⟨k, v⟩ := field
    by_cases hk : k = key
    · simp [set, hk]
    · have hmem : key ∈ k :: rest.map (·.1) ↔ key ∈ rest.map (·.1) := by simp [Ne.symm hk]
      simp only [set, if_neg hk, List.map_cons, ih, hmem]
      split_ifs <;> rfl

/-- A field of a new key comes last. -/
theorem set_of_distinct (h : Distinct (fields ++ [(key, value)])) :
    fields.set key value = fields ++ [(key, value)] := by
  induction fields with
  | nil => rfl
  | cons field rest ih =>
    obtain ⟨k, v⟩ := field
    obtain ⟨hfirst, hrest⟩ := List.nodup_cons.1 h
    have hne : k ≠ key := fun heq => hfirst (by simp [heq])
    rw [set, if_neg hne, ih hrest, List.cons_append]

theorem Distinct.set (h : fields.Distinct) (key : String) (value : Json) :
    (fields.set key value).Distinct := by
  rw [Distinct, keys_set]
  split_ifs with hmem
  · exact h
  · exact List.nodup_append_comm.1 (List.nodup_cons.2 ⟨hmem, h⟩)

theorem Distinct.overlay (h : fields.Distinct) (own : Fields) : (fields.overlay own).Distinct := by
  induction own generalizing fields with
  | nil => exact h
  | cons field rest ih => exact ih (h.set field.1 field.2)

theorem Distinct.erase (h : fields.Distinct) (key : String) : (fields.erase key).Distinct :=
  h.sublist (List.filter_sublist.map _)

theorem keys_erase (fields : Fields) (key : String) :
    (fields.erase key).map (·.1) = (fields.map (·.1)).filter (· ≠ key) := by
  rw [erase, List.filter_map]
  rfl

/-- New keys come behind those that are there. -/
theorem keys_overlay (hown : own.Distinct) (fields : Fields) :
    (fields.overlay own).map (·.1) =
      fields.map (·.1) ++ (own.map (·.1)).filter (· ∉ fields.map (·.1)) := by
  induction own generalizing fields with
  | nil => simp [overlay]
  | cons field rest ih =>
    obtain ⟨hfirst, hrest⟩ := List.nodup_cons.1 hown
    have hstep : fields.overlay (field :: rest) = (fields.set field.1 field.2).overlay rest := rfl
    rw [hstep, ih hrest, keys_set, List.map_cons, List.filter_cons]
    by_cases hmem : field.1 ∈ fields.map (·.1)
    · simp only [hmem, if_true, not_true_eq_false, decide_false, Bool.false_eq_true, if_false]
    · -- the key is new, and none of the keys that follow is the same
      have hsame : (rest.map (·.1)).filter (· ∉ fields.map (·.1) ++ [field.1]) =
          (rest.map (·.1)).filter (· ∉ fields.map (·.1)) := by
        refine List.filter_congr fun key hkey => ?_
        have hne : key ≠ field.1 := by
          rintro rfl
          exact hfirst hkey
        simp [hne]
      simp only [hmem, if_false, not_false_eq_true, decide_true, if_true, hsame,
        List.append_assoc, List.singleton_append]

/-- Fields are known by their keys, in order, and by the value of each key. -/
theorem Distinct.ext {others : Fields} (h : fields.Distinct) (hothers : others.Distinct)
    (hkeys : fields.map (·.1) = others.map (·.1))
    (hvalues : ∀ key, fields.get? key = others.get? key) : fields = others := by
  induction fields generalizing others with
  | nil => exact (List.map_eq_nil_iff.1 hkeys.symm).symm
  | cons field rest ih =>
    obtain ⟨other, more, rfl, hother, hmore⟩ := List.map_eq_cons_iff.1 hkeys.symm
    obtain ⟨hfirst, hrest⟩ := List.nodup_cons.1 h
    obtain ⟨hfirst', hrest'⟩ := List.nodup_cons.1 hothers
    change other.1 = field.1 at hother
    have hvalue := hvalues field.1
    rw [get?_cons, if_pos rfl, get?_cons, if_pos hother] at hvalue
    have hfield : field = other := Prod.ext hother.symm (Option.some_inj.1 hvalue)
    refine congrArg₂ _ hfield (ih hrest hrest' hmore.symm fun key => ?_)
    by_cases hkey : field.1 = key
    · subst hkey
      rw [get?_eq_none_iff.2 hfirst, get?_eq_none_iff.2 (hother ▸ hfirst')]
    · have hkey' := hvalues key
      rwa [get?_cons, if_neg hkey, get?_cons, if_neg (hother ▸ hkey)] at hkey'

end AsmHarness.Json.Fields
