import AsmHarness.Proofs.Descriptor.Read
import AsmHarness.Proofs.FileTree.Access
import AsmHarness.Proofs.Json.Printer
import AsmHarness.Proofs.Template
import AsmHarness.Proofs.Utf8

/-!
# Records do not disturb each other

What is made of a record of a list is up to the record itself, its position, and the record that it
refers to. So a record that no other one refers to can be replaced by anything that no other one
refers to: all the others stay what they were, at their positions and in their order, and those that
were of no use are of no use for the same reason.
-/

namespace AsmHarness

namespace Template

open Json

/-- A record refers to an `id`. -/
def RefersTo (record : Json) (id : String) : Prop :=
  ∃ own : Fields, record = .object own ∧ own.text? "ref" = some id

variable {records : List Json} {record old new : Json} {id : String} {i : Nat}

/-- What an `id` stands for does not change when a record of another `id` is replaced by one of
another `id`. -/
theorem find?_set (hold : records[i]? = some old) (hid : id? old ≠ some id)
    (hnew : id? new ≠ some id) : find? (records.set i new) id = find? records id := by
  obtain ⟨hi, hget⟩ := List.getElem?_eq_some_iff.1 hold
  have hrecords : records = records.take i ++ old :: records.drop (i + 1) := by
    rw [← hget, ← List.drop_eq_getElem_cons hi, List.take_append_drop]
  rw [List.set_eq_take_append_cons_drop, if_pos hi]
  generalize records.take i = front at hrecords ⊢
  generalize records.drop (i + 1) = back at hrecords ⊢
  subst hrecords
  unfold find?
  simp [List.find?_append, hid, hnew]

theorem expandRecord_set (hold : records[i]? = some old)
    (hrefs : ∀ id, RefersTo record id → id? old ≠ some id ∧ id? new ≠ some id) :
    expandRecord (records.set i new) record = expandRecord records record := by
  cases record with
  | object own =>
    rw [expandRecord, expandRecord, inherit, inherit]
    cases href : Fields.text? own "ref" with
    | none => rfl
    | some id =>
      obtain ⟨hid, hnew⟩ := hrefs id ⟨own, rfl, href⟩
      rw [Option.bind_some, Option.bind_some, find?_set hold hid hnew]
  | _ => rfl

end Template

namespace Descriptor

open Template

variable {files other : FileTree} {path : Path} {items : List Json} {old new : Json} {i : Nat}

/-- What is made of the records of a list: of each, the descriptor if it can be used, and what is
noted of it. -/
def made (path : Path) (items : List Json) : List (Noted (Option Descriptor)) :=
  items.mapIdx fun i record => prepareNoted path (expandRecord items record) (some (i + 1))

theorem journal_prepareAll (path : Path) (records : List (Json × Option Nat)) :
    (prepareAll path records).journal =
      (records.map fun record => prepareNoted path record.1 record.2).foldr
        (fun noted journal => noted.journal ++ journal) .empty := by
  induction records with
  | nil => rfl
  | cons record rest ih =>
    obtain ⟨record, seq⟩ := record
    rw [List.map_cons, List.foldr_cons, ← ih]
    simp [prepareAll]

/-- What is read from a file is what was made of each of its records. -/
structure MadeOf (files : FileTree) (path : Path) (made : List (Noted (Option Descriptor))) :
    Prop where
  /-- The descriptors of the records that can be used, in their order. -/
  value : (read files path).run.value = .ok (made.filterMap (·.value))
  /-- What is noted of the records, in their order. -/
  journal : (read files path).run.journal =
    made.foldr (fun noted journal => noted.journal ++ journal) .empty
  /-- A descriptor is that of the record at a position if it was made of it. -/
  each : ∀ i d, ReadFrom files path (some (i + 1)) d ↔ made[i]?.bind (·.value) = some d

theorem madeOf_made (h : HoldsValue files path (.array items)) :
    MadeOf files path (made path items) := by
  obtain ⟨content, hread, hparse⟩ := id h
  have hrun : (read files path).run =
      ⟨.ok (prepareAll path ((records? (.array items)).getD [])).value,
        (prepareAll path ((records? (.array items)).getD [])).journal⟩ := by
    refine Noted.ext ?_ ?_ <;> simp [read, hread, hparse, records?_array]
  have hmade : made path items = ((records? (.array items)).getD []).map fun record =>
      prepareNoted path record.1 record.2 := by
    rw [records?_array, Option.getD_some, made]
    simp [List.mapIdx_eq_zipIdx_map]
  refine ⟨?_, ?_, fun i d => ⟨fun hd => ?_, fun hd => ?_⟩⟩
  · rw [hrun, value_prepareAll, hmade, List.filterMap_map]
    rfl
  · rw [hrun, journal_prepareAll, hmade]
  · cases hd with
    | member holds record_eq prepare =>
      obtain ⟨content', hread', hparse'⟩ := holds
      cases hread.symm.trans hread'
      cases hparse.symm.trans hparse'
      simp [made, List.getElem?_mapIdx, record_eq, prepare]
  · obtain ⟨noted, hnoted, hvalue⟩ := Option.bind_eq_some_iff.1 hd
    rw [made, List.getElem?_mapIdx, Option.map_eq_some_iff] at hnoted
    obtain ⟨record, hrecord, rfl⟩ := hnoted
    exact .member h hrecord hvalue

/-- Only what is made of the record itself changes when a record is replaced. -/
theorem made_set (path : Path) (hold : items[i]? = some old)
    (hrefs : ∀ j record id, j ≠ i → items[j]? = some record → RefersTo record id →
      id? old ≠ some id ∧ id? new ≠ some id) :
    made path (items.set i new) = (made path items).set i
      (prepareNoted path (expandRecord (items.set i new) new) (some (i + 1))) := by
  refine List.ext_getElem? fun j => ?_
  rw [made, List.getElem?_mapIdx, List.getElem?_set, List.getElem?_set]
  by_cases hj : i = j
  · subst hj
    simp only [made, List.length_mapIdx, if_true]
    split_ifs <;> rfl
  · -- Elsewhere the record is the same, and what it refers to is found as before.
    rw [if_neg hj, if_neg hj, made, List.getElem?_mapIdx]
    cases hrecord : items[j]? with
    | none => rfl
    | some record =>
      rw [Option.map_some, Option.map_some,
        expandRecord_set hold fun id => hrefs j record id (Ne.symm hj) hrecord]

/-- Let a record of a list be replaced, where no other record refers to what it was or to what it
becomes. Then what is made of the others stays the same: the descriptors and their names, their
order, which records are of no use, and what is noted of them. -/
theorem read_replaced (hfiles : HoldsValue files path (.array items))
    (hother : HoldsValue other path (.array (items.set i new))) (hold : items[i]? = some old)
    (hrefs : ∀ j record id, j ≠ i → items[j]? = some record → RefersTo record id →
      id? old ≠ some id ∧ id? new ≠ some id) :
    (∀ j d, j ≠ i →
      (ReadFrom other path (some (j + 1)) d ↔ ReadFrom files path (some (j + 1)) d)) ∧
    ∃ before replaced, before.length = items.length ∧ MadeOf files path before ∧
      MadeOf other path (before.set i replaced) := by
  have hbefore := madeOf_made hfiles
  have hafter := madeOf_made hother
  rw [made_set path hold hrefs] at hafter
  refine ⟨fun j d hj => ?_, made path items, _, List.length_mapIdx, hbefore, hafter⟩
  rw [hbefore.each, hafter.each, List.getElem?_set_ne (Ne.symm hj)]

/-- A tree with one file that a value is written to. -/
def holding (value : Json) : FileTree where
  entries := [("t.json", .file (Json.pretty value).toUTF8 {})]

theorem holdsValue_holding {value : Json} (h : Json.Readable 0 value) :
    HoldsValue (holding value) "t.json" value := by
  refine ⟨(Json.pretty value).toUTF8, FileTree.read_eq_ok.2 ⟨{}, ?_, rfl⟩, ?_⟩
  · exact FileTree.node_eq_ok.2 ⟨["t.json"], rfl, rfl⟩
  · rw [Utf8.decode_toUTF8, Json.parse?_pretty h]

/-- A record that no other one refers to, and two of which one refers to the other. -/
def referring : List Json :=
  [.object [("id", .string "a"), ("description", .string "x")],
    .object [("id", .string "b"), ("description", .string "y"), ("format", .string "elf")],
    .object [("ref", .string "b"), ("description", .string "z")]]

/-- A record that is of no use, since its targets are no list. -/
def misshapen : Json := .object [("id", .string "c"), ("target", .string "z.bin")]

/-- The third record is still read, and called the third, when the first one becomes useless. -/
theorem read_replaced_misshapen :
    HoldsValue (holding (.array referring)) "t.json" (.array referring) ∧
      HoldsValue (holding (.array (referring.set 0 misshapen))) "t.json"
        (.array (referring.set 0 misshapen)) ∧
      ∃ d, ReadFrom (holding (.array referring)) "t.json" (some 3) d ∧
        ReadFrom (holding (.array (referring.set 0 misshapen))) "t.json" (some 3) d ∧
        d.name = "t.3" ∧ d.format = some "elf" := by
  have hbefore : HoldsValue (holding (.array referring)) "t.json" (.array referring) := by
    refine holdsValue_holding ?_
    simp [referring, Json.maxDepth, Json.Fields.Distinct]
  have hafter : HoldsValue (holding (.array (referring.set 0 misshapen))) "t.json"
      (.array (referring.set 0 misshapen)) := by
    refine holdsValue_holding ?_
    simp [referring, misshapen, Json.maxDepth, Json.Fields.Distinct]
  obtain ⟨d, hd, hformat⟩ : ∃ d, (prepareNoted "t.json" (expandRecord referring
      (.object [("ref", .string "b"), ("description", .string "z")])) (some 3)).value = some d ∧
      d.format = some "elf" :=
    Option.map_eq_some_iff.1 rfl
  have hread : ReadFrom (holding (.array referring)) "t.json" (some 3) d :=
    .member hbefore rfl hd
  have hrefs : ∀ (j : Nat) record id, j ≠ 0 → referring[j]? = some record → RefersTo record id →
      id? (.object [("id", .string "a"), ("description", .string "x")]) ≠ some id ∧
        id? misshapen ≠ some id := by
    rintro j record id hj hrecord ⟨own, rfl, href⟩
    obtain rfl : id = "b" := by
      rcases j with _ | _ | _ | j
      · exact absurd rfl hj
      · cases hrecord
        cases href
      · cases hrecord
        cases href
        rfl
      · cases hrecord
    exact ⟨by decide, by decide⟩
  obtain ⟨hothers, -⟩ := read_replaced hbefore hafter rfl hrefs
  refine ⟨hbefore, hafter, d, hread, (hothers 2 d (by decide)).2 hread, ?_, hformat⟩
  rw [hread.origin.1]
  decide

end Descriptor

end AsmHarness
