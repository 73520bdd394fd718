import AsmHarness.Proofs.Template

/-!
# Replacing references a second time

A copy keeps the reference it was made by, but it has no `id`. So when references are replaced
again, a reference stands for the record it stood for before, or, if that one has become a copy, for
nothing. In both cases the copy stays as it is: all that its template has to give, it has already.
-/

namespace AsmHarness.Template

open Json

/-- No two records have the same `id`. -/
def Identified (records : List Json) : Prop := (records.filterMap id?).Nodup

/-- A record refers to another of a list, or to itself. -/
def InheritsFrom (records : List Json) (record : Json) (template : Fields) : Prop :=
  ∃ (own : Fields) (id : String), record = .object own ∧ own.text? "ref" = some id ∧
    LastWithId records id template

/-- The records of a list after references have been replaced, without their positions. -/
def results (records : List Json) : List Json := (expand records).map (·.record)

variable {records : List Json} {record : Json} {own template : Fields} {id : String}

theorem results_eq (records : List Json) :
    results records = records.map (expandRecord records) := by
  refine List.ext_getElem? fun i => ?_
  rw [results, expand, List.getElem?_map, List.getElem?_mapIdx, List.getElem?_map, Option.map_map]
  rfl

/-! ## Copies -/

theorem expandRecord_of_inheritsFrom (hown : own.text? "ref" = some id)
    (hlast : LastWithId records id template) :
    expandRecord records (.object own) = .object ((template.overlay own).erase "id") := by
  rw [expandRecord, inherit, hown, Option.bind_some, find?_eq_some_iff.2 hlast]

/-- A record that refers to no other stays as it is. -/
theorem expandRecord_of_not_inheritsFrom (h : ∀ template, ¬ InheritsFrom records record template) :
    expandRecord records record = record := by
  cases record with
  | object own =>
    rw [expandRecord, inherit]
    cases hfound : (Fields.text? own "ref").bind (find? records) with
    | none => rfl
    | some template =>
      obtain ⟨id, hid, hfind⟩ := Option.bind_eq_some_iff.1 hfound
      exact absurd ⟨own, id, rfl, hid, find?_eq_some_iff.1 hfind⟩ (h template)
  | _ => rfl

theorem text?_ref_copy (hown : own.Distinct) (hid : own.text? "ref" = some id)
    (template : Fields) : Fields.text? ((template.overlay own).erase "id") "ref" = some id := by
  cases hvalue : own.get? "ref" with
  | none => simp [Fields.text?, hvalue] at hid
  | some value =>
    rw [← hid, Fields.text?, Fields.text?, Fields.get?_erase_of_ne (by decide),
      Fields.get?_overlay hown, hvalue, Option.some_or]

theorem id?_of_inheritsFrom (h : InheritsFrom records record template) :
    id? (expandRecord records record) = none := by
  obtain ⟨own, id, rfl, hid, hlast⟩ := h
  rw [expandRecord_of_inheritsFrom hid hlast, id?, Fields.text?, Fields.get?_erase_self]

/-- So what has an `id` is a record as it was written. -/
theorem eq_of_id? (h : id? (expandRecord records record) = some id) :
    (∀ template, ¬ InheritsFrom records record template) ∧
      expandRecord records record = record := by
  have hnot : ∀ template, ¬ InheritsFrom records record template := by
    intro template hinherits
    rw [id?_of_inheritsFrom hinherits] at h
    cases h
  exact ⟨hnot, expandRecord_of_not_inheritsFrom hnot⟩

/-- What a template gives, its copies have already: laid over it again, a copy stays the same. -/
theorem overlay_again (htemplate : template.Distinct) (hown : own.Distinct) :
    (template.overlay ((template.overlay own).erase "id")).erase "id" =
      (template.overlay own).erase "id" := by
  have hcopy := (htemplate.overlay own).erase "id"
  refine ((htemplate.overlay _).erase "id").ext hcopy ?_ fun key => ?_
  · -- a key of the copy that the template does not have is one of the record itself
    simp only [Fields.keys_erase, Fields.keys_overlay hcopy, Fields.keys_overlay hown,
      List.filter_append, List.filter_filter]
    congr 1
    have hnone : (template.map (·.1)).filter
        (fun key => decide (key ≠ "id") && (decide (key ∉ template.map (·.1)) &&
          decide (key ≠ "id"))) = [] := by
      rw [List.filter_eq_nil_iff]
      intro key hkey
      simp [hkey]
    rw [hnone, List.nil_append]
    refine List.filter_congr fun key _ => ?_
    by_cases hid : key = "id" <;> by_cases hkey : key ∈ template.map (·.1) <;> simp [hid, hkey]
  · by_cases hid : key = "id"
    · rw [hid, Fields.get?_erase_self, Fields.get?_erase_self]
    · rw [Fields.get?_erase_of_ne hid, Fields.get?_overlay hcopy, Fields.get?_erase_of_ne hid,
        Fields.get?_overlay hown, Option.or_assoc, Option.or_self]

/-! ## What references stand for the second time -/

/-- The `id` of a record is that of no other. -/
theorem Identified.id?_ne {before after : List Json} (h : Identified (before ++ record :: after))
    (hid : id? record = some id) : ∀ other ∈ before ++ after, id? other ≠ some id := by
  unfold Identified at h
  rw [List.filterMap_append, List.filterMap_cons_some hid] at h
  have hnot : id ∉ before.filterMap id? ++ after.filterMap id? :=
    (List.nodup_cons.1 (List.nodup_middle.1 h)).1
  intro other hother heq
  rw [← List.filterMap_append] at hnot
  exact hnot (List.mem_filterMap.2 ⟨other, hother, heq⟩)

/-- What has an `id` in the end is what had it before, unless that has become a copy. -/
theorem lastWithId_results_iff (hids : Identified records) :
    LastWithId (results records) id template ↔
      LastWithId records id template ∧
        ∀ further, ¬ InheritsFrom records (.object template) further := by
  rw [results_eq]
  constructor
  · rintro ⟨front, back, hsplit, htext, -⟩
    obtain ⟨before, rest, hrecords, -, hrest⟩ := List.map_eq_append_iff.1 hsplit
    obtain ⟨record, after, rfl, hrecord, -⟩ := List.map_eq_cons_iff.1 hrest
    have hid : id? (expandRecord records record) = some id := by rwa [hrecord]
    obtain ⟨hnot, hsame⟩ := eq_of_id? hid
    obtain rfl : record = .object template := hsame.symm.trans hrecord
    have halone := (hrecords ▸ hids).id?_ne htext
    refine ⟨⟨before, after, hrecords, htext, fun later hlater => ?_⟩, hnot⟩
    exact halone later (List.mem_append_right _ hlater)
  · rintro ⟨⟨before, after, hrecords, htext, hafter⟩, hnot⟩
    refine ⟨before.map (expandRecord records), after.map (expandRecord records), ?_, htext, ?_⟩
    · rw [← expandRecord_of_not_inheritsFrom hnot, ← List.map_cons, ← List.map_append, ← hrecords]
    · intro later hlater heq
      obtain ⟨other, hother, rfl⟩ := List.mem_map.1 hlater
      rw [(eq_of_id? heq).2] at heq
      exact hafter other hother heq

theorem expandRecord_again
    (hkeys : ∀ fields : Fields, .object fields ∈ records → fields.Distinct)
    (hids : Identified records) (hmem : record ∈ records) :
    expandRecord (results records) (expandRecord records record) = expandRecord records record := by
  by_cases hinherits : ∃ template, InheritsFrom records record template
  · obtain ⟨template, own, id, rfl, hid, hlast⟩ := hinherits
    have hown := hkeys own hmem
    have hcopy := text?_ref_copy hown hid template
    rw [expandRecord_of_inheritsFrom hid hlast]
    by_cases hagain : LastWithId (results records) id template
    · rw [expandRecord_of_inheritsFrom hcopy hagain, overlay_again (hkeys _ hlast.mem) hown]
    · -- the template has become a copy, so the reference stands for nothing now
      refine expandRecord_of_not_inheritsFrom ?_
      rintro other ⟨fields, id', hfields, hid', hother⟩
      cases hfields
      obtain rfl : id = id' := Option.some_inj.1 (hcopy.symm.trans hid')
      have hfind := find?_eq_some_iff.2 ((lastWithId_results_iff hids).1 hother).1
      obtain rfl : template = other :=
        Option.some_inj.1 ((find?_eq_some_iff.2 hlast).symm.trans hfind)
      exact hagain hother
  · have hnot : ∀ template, ¬ InheritsFrom records record template := not_exists.1 hinherits
    rw [expandRecord_of_not_inheritsFrom hnot]
    refine expandRecord_of_not_inheritsFrom ?_
    rintro template ⟨own, id, hown, hid, hlast⟩
    exact hnot template ⟨own, id, hown, hid, ((lastWithId_results_iff hids).1 hlast).1⟩

/-- When references are replaced again, nothing changes. No copy has an `id`, so none is taken for a
template, and what a reference stands for the second time is a record as it was written, which
itself refers to no other. -/
theorem expand_results (records : List Json)
    (hkeys : ∀ fields : Fields, .object fields ∈ records → fields.Distinct)
    (hids : Identified records) :
    expand (results records) = expand records ∧
      (∀ (i : Nat) (record result : Json) (template : Fields), records[i]? = some record →
        (results records)[i]? = some result → InheritsFrom records record template →
        id? result = none) ∧
      ∀ (result : Json) (template : Fields), InheritsFrom (results records) result template →
        .object template ∈ records ∧
          ∀ further, ¬ InheritsFrom records (.object template) further := by
  refine ⟨?_, ?_, ?_⟩
  · refine List.ext_getElem? fun i => ?_
    rw [expand, expand, List.getElem?_mapIdx, List.getElem?_mapIdx]
    rw [results_eq, List.getElem?_map, Option.map_map, ← results_eq]
    cases hrecord : records[i]? with
    | none => rfl
    | some record =>
      rw [Option.map_some, Option.map_some, Function.comp_apply,
        expandRecord_again hkeys hids (List.mem_of_getElem? hrecord)]
  · intro i record result template hrecord hresult hinherits
    rw [results_eq, List.getElem?_map, hrecord, Option.map_some] at hresult
    obtain rfl := Option.some_inj.1 hresult
    exact id?_of_inheritsFrom hinherits
  · rintro result template ⟨own, id, -, -, hlast⟩
    obtain ⟨hwritten, hnot⟩ := (lastWithId_results_iff hids).1 hlast
    exact ⟨hwritten.mem, hnot⟩

/-- A record that refers to one that refers on, two that refer to each other, and one that refers to
itself. -/
def tangled : List Json :=
  [.object [("ref", .string "a"), ("format", .string "bin")],
    .object [("id", .string "a"), ("ref", .string "b"), ("option", .string "-O")],
    .object [("id", .string "b"), ("source", .string "b.asm")],
    .object [("id", .string "c"), ("ref", .string "d"), ("source", .string "c.asm")],
    .object [("id", .string "d"), ("ref", .string "c"), ("option", .string "-g")],
    .object [("id", .string "e"), ("ref", .string "e"), ("format", .null)]]

/-- The first record has got the option of the second, but never gets the source of the third, to
which the second refers. -/
theorem expand_results_tangled :
    (∀ fields : Fields, .object fields ∈ tangled → fields.Distinct) ∧ Identified tangled ∧
      expand (results tangled) = expand tangled ∧
      (results tangled)[0]? = some (.object
        [("ref", .string "a"), ("option", .string "-O"), ("format", .string "bin")]) := by
  have hkeys : ∀ fields : Fields, .object fields ∈ tangled → fields.Distinct := by
    intro fields hmem
    simp only [tangled, List.mem_cons, Json.object.injEq, List.not_mem_nil, or_false] at hmem
    rcases hmem with rfl | rfl | rfl | rfl | rfl | rfl <;> simp [Fields.Distinct]
  have hids : Identified tangled := by
    unfold Identified
    decide
  exact ⟨hkeys, hids, (expand_results tangled hkeys hids).1, rfl⟩

end AsmHarness.Template
