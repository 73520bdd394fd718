import AsmHarness.Descriptor.Template
import AsmHarness.Proofs.Json.Parser

/-!
# What a reference stands for

A reference stands for the last record that has the `id` it names, as that record is written. The
rule does not look at what becomes of other records, so references in templates are not followed,
records may refer to later ones or to themselves, and it does not matter who refers to a record.
-/

namespace AsmHarness.Template

open Json

/-- The last of the records that have an `id` is the object with these fields. -/
def LastWithId (records : List Json) (id : String) (template : Fields) : Prop :=
  ∃ before after, records = before ++ .object template :: after ∧
    template.text? "id" = some id ∧ ∀ later ∈ after, id? later ≠ some id

/-- What becomes of a record of a list. -/
inductive Expands (records : List Json) : Json → Json → Prop where
  /-- A record stays as it is if it is no object, or does not refer to another by a string, or if no
  record has the `id` that it names. -/
  | unchanged {record : Json}
    (unresolved : ∀ (own : Fields) id, record = .object own → own.text? "ref" = some id →
      ∀ other ∈ records, id? other ≠ some id) :
    Expands records record record
  /-- Else it has its own fields, and for every other key what is written in the record it refers
  to. It has no `id`. -/
  | inherited {own template fields : Fields} {id : String}
    (reference : own.text? "ref" = some id)
    (last : LastWithId records id template)
    (distinct : fields.Distinct)
    (anonymous : fields.get? "id" = none)
    (layered : ∀ key, key ≠ "id" → fields.get? key = (own.get? key).or (template.get? key)) :
    Expands records (.object own) (.object fields)

section Find

variable {records : List Json} {id : String} {template : Fields}

theorem exists_object_of_id? {record : Json} (h : id? record = some id) :
    ∃ fields : Fields, record = .object fields ∧ fields.text? "id" = some id := by
  cases record with
  | object fields => exact ⟨fields, rfl, h⟩
  | _ => cases h

/-- Nothing is found if no record has the `id`. -/
theorem find?_eq_none_iff : find? records id = none ↔ ∀ other ∈ records, id? other ≠ some id := by
  unfold find?
  cases hfound : records.reverse.find? (id? · = some id) with
  | none => simpa using hfound
  | some record =>
    have hid : id? record = some id := by simpa using List.find?_some hfound
    have hmem : record ∈ records := List.mem_reverse.1 (List.mem_of_find?_eq_some hfound)
    obtain ⟨fields, rfl, -⟩ := exists_object_of_id? hid
    simp only [reduceCtorEq, false_iff]
    exact fun hnone => hnone _ hmem hid

/-- What is found is the last record with the `id`. -/
theorem find?_eq_some_iff : find? records id = some template ↔ LastWithId records id template := by
  unfold find?
  constructor
  · intro h
    cases hfound : records.reverse.find? (id? · = some id) with
    | none => simp [hfound] at h
    | some record =>
      obtain ⟨hid, after, before, hsplit, hnone⟩ := List.find?_eq_some_iff_append.1 hfound
      obtain ⟨fields, rfl, htext⟩ := exists_object_of_id? (by simpa using hid)
      simp only [hfound, Option.some.injEq] at h
      subst h
      refine ⟨before.reverse, after.reverse, ?_, htext, ?_⟩
      · rw [← List.reverse_reverse records, hsplit]
        simp
      · intro later hlater
        simpa using hnone later (List.mem_reverse.1 hlater)
  · rintro ⟨before, after, rfl, htext, hnone⟩
    have hfound : (before ++ .object template :: after).reverse.find? (id? · = some id) =
        some (.object template) := by
      refine List.find?_eq_some_iff_append.2
        ⟨decide_eq_true htext, after.reverse, before.reverse, by simp, ?_⟩
      intro later hlater
      simpa using hnone later (List.mem_reverse.1 hlater)
    rw [hfound]

theorem LastWithId.mem (h : LastWithId records id template) : .object template ∈ records := by
  obtain ⟨before, after, rfl, -, -⟩ := h
  simp

end Find

/-- A record becomes what the rule says. -/
theorem expands_expandRecord {records : List Json}
    (hkeys : ∀ fields : Fields, .object fields ∈ records → fields.Distinct) {record : Json}
    (hmem : record ∈ records) : Expands records record (expandRecord records record) := by
  cases record with
  | object own =>
    rw [expandRecord, inherit]
    cases href : Fields.text? own "ref" with
    | none =>
      refine .unchanged fun fields id hfields hid => ?_
      cases hfields
      simp [href] at hid
    | some id =>
      rw [Option.bind_some]
      cases hfind : find? records id with
      | none =>
        refine .unchanged fun fields id' hfields hid => ?_
        cases hfields
        obtain rfl : id = id' := Option.some_inj.1 (href.symm.trans hid)
        exact find?_eq_none_iff.1 hfind
      | some template =>
        have hlast := find?_eq_some_iff.1 hfind
        refine .inherited href hlast (((hkeys _ hlast.mem).overlay own).erase "id")
          (Fields.get?_erase_self _ _) fun key hne => ?_
        rw [Fields.get?_erase_of_ne hne, Fields.get?_overlay (hkeys own hmem)]
  | _ => exact .unchanged fun own id hown => by cases hown

/-- A list of records keeps its length and its order, the records are numbered from one, and each
becomes what the rule says of it and of the records as they are written. -/
theorem expand_records (records : List Json)
    (hkeys : ∀ fields : Fields, .object fields ∈ records → fields.Distinct) :
    (expand records).length = records.length ∧
      ∀ (i : Nat) (record : Json), records[i]? = some record →
        ∃ result, (expand records)[i]? = some ⟨i + 1, result⟩ ∧ Expands records record result := by
  refine ⟨List.length_mapIdx, fun i record hrecord => ⟨expandRecord records record, ?_, ?_⟩⟩
  · rw [expand, List.getElem?_mapIdx, hrecord]
    rfl
  · exact expands_expandRecord hkeys (List.mem_of_getElem? hrecord)

/-- Records that refer to a later record, to one that refers on, and to one whose `id` is not the
last of its kind. -/
def chained : List Json :=
  [.object [("id", .string "a"), ("format", .string "bin"), ("ref", .string "b")],
    .object [("ref", .string "a"), ("format", .null)],
    .object [("id", .string "a"), ("ref", .string "b"), ("format", .string "elf"),
      ("option", .string "-O")],
    .object [("id", .string "b"), ("source", .string "b.asm")]]

/-- The second record refers to the third, not to the first. Its own `null` stays, and what the
third refers to is not looked at. -/
theorem expand_records_chained :
    (∀ fields : Fields, .object fields ∈ chained → fields.Distinct) ∧
      (expand chained).length = 4 ∧
      ∃ result, (expand chained)[1]? = some ⟨2, result⟩ ∧
        Expands chained (.object [("ref", .string "a"), ("format", .null)]) result ∧
        result = .object [("ref", .string "a"), ("format", .null), ("option", .string "-O")] := by
  have hkeys : ∀ fields : Fields, .object fields ∈ chained → fields.Distinct := by
    intro fields hmem
    simp only [chained, List.mem_cons, Json.object.injEq, List.not_mem_nil, or_false] at hmem
    rcases hmem with rfl | rfl | rfl | rfl <;> simp [Fields.Distinct]
  obtain ⟨hlength, heach⟩ := expand_records chained hkeys
  obtain ⟨result, hresult, hexpands⟩ := heach 1 _ rfl
  exact ⟨hkeys, hlength, result, hresult, hexpands, (congrArg (·.record) (Option.some_inj.1
    hresult)).symm⟩

end AsmHarness.Template
