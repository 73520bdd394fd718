import AsmHarness.Descriptor.Load
import AsmHarness.Proofs.Noted
import AsmHarness.Proofs.Template

/-!
# What a descriptor file holds

The descriptors of a file are those of its records that can be used, in their order. All that
matters of the files is the content of the one at the path, and a file that cannot be used holds
nothing.
-/

namespace AsmHarness.Descriptor

variable {files other : FileTree} {path : Path} {d : Descriptor}

/-! ## One record -/

section Record

variable {baseDir : Path} {fileName : String} {seq : Option Nat} {record : Json}

/-- A descriptor tells where its record was found, and is named after that. -/
theorem origin_of_prepare (h : (prepare record baseDir fileName seq).run.value = .ok d) :
    d.name = nameOf baseDir fileName seq ∧ d.baseDir = baseDir ∧ d.fileName = fileName := by
  unfold prepare at h
  split at h
  · split at h
    · rw [value_run_bind, bind_eq_ok] at h
      obtain ⟨targets, -, h⟩ := h
      rw [value_run_bind, bind_eq_ok] at h
      obtain ⟨errorMode, -, h⟩ := h
      cases h
      exact ⟨rfl, rfl, rfl⟩
    · cases h
  · cases h

theorem value_prepareNoted (path : Path) (record : Json) (seq : Option Nat) :
    (prepareNoted path record seq).value =
      (prepare record (path.parent?.getD "") (path.fileName?.getD "") seq).run.value.toOption := by
  unfold prepareNoted
  rw [Noted.value_bind]
  split <;> simp [*, Except.toOption]

/-- The descriptor of a record is named after the path of its file. -/
theorem origin_of_prepareNoted (h : (prepareNoted path record seq).value = some d) :
    d.name = nameOf (path.parent?.getD "") (path.fileName?.getD "") seq ∧
      d.baseDir = path.parent?.getD "" ∧ d.fileName = path.fileName?.getD "" := by
  rw [value_prepareNoted] at h
  exact origin_of_prepare (eq_ok_of_toOption h)

end Record

/-! ## The records of a file -/

theorem value_prepareAll (path : Path) (records : List (Json × Option Nat)) :
    (prepareAll path records).value =
      records.filterMap fun record => (prepareNoted path record.1 record.2).value := by
  induction records with
  | nil => rfl
  | cons record rest ih =>
    obtain ⟨record, seq⟩ := record
    rw [List.filterMap_cons]
    simp only [prepareAll, Noted.value_bind, Noted.value_pure, ih]
    cases (prepareNoted path record seq).value <;> rfl

/-- The file at a path holds a value. -/
def HoldsValue (files : FileTree) (path : Path) (value : Json) : Prop :=
  ∃ content, files.read path = .ok content ∧ Json.parse? (Utf8.decode content) = some value

/-- A file is of no use: it cannot be read, it is not JSON, or it holds neither a record nor a list.
-/
inductive Unusable (files : FileTree) (path : Path) : Prop where
  /-- The file cannot be read. -/
  | unreadable {cause : OsError} (read : files.read path = .error cause)
  /-- The file is not JSON. -/
  | malformed {content : ByteArray} (read : files.read path = .ok content)
    (parse : Json.parse? (Utf8.decode content) = none)
  /-- The file holds neither a record nor a list. -/
  | misshapen {value : Json} (holds : HoldsValue files path value)
    (noRecord : ∀ fields, value ≠ .object fields) (noList : ∀ items, value ≠ .array items)

theorem records?_eq_none {value : Json} (hrecord : ∀ fields, value ≠ .object fields)
    (hlist : ∀ items, value ≠ .array items) : records? value = none := by
  cases value with
  | object fields => exact absurd rfl (hrecord fields)
  | array items => exact absurd rfl (hlist items)
  | _ => rfl

theorem value_readUsable (files : FileTree) (path : Path) :
    (readUsable files path).value = ((read files path).run.value.toOption).getD [] := by
  unfold readUsable
  rw [Noted.value_bind]
  cases (read files path).run.value <;> rfl

theorem value_readUsable_of_holds {value : Json} {records : List (Json × Option Nat)}
    (h : HoldsValue files path value) (hrecords : records? value = some records) :
    (readUsable files path).value =
      records.filterMap fun record => (prepareNoted path record.1 record.2).value := by
  obtain ⟨content, hread, hparse⟩ := h
  rw [value_readUsable, ← value_prepareAll]
  simp only [read, hread, hparse, hrecords]
  rfl

/-- A file that is of no use holds no descriptors. -/
theorem Unusable.value_readUsable (h : Unusable files path) :
    (readUsable files path).value = [] := by
  rw [Descriptor.value_readUsable]
  cases h with
  | unreadable hread =>
    simp only [read, hread]
    rfl
  | malformed hread hparse =>
    simp only [read, hread, hparse]
    rfl
  | misshapen holds noRecord noList =>
    obtain ⟨content, hread, hparse⟩ := holds
    simp only [read, hread, hparse, records?_eq_none noRecord noList]
    rfl

/-- A file is of no use, or it holds a record or a list. -/
theorem usable_cases (files : FileTree) (path : Path) :
    Unusable files path ∨ (∃ fields, HoldsValue files path (.object fields)) ∨
      ∃ items, HoldsValue files path (.array items) := by
  cases hread : files.read path with
  | error cause => exact .inl (.unreadable hread)
  | ok content =>
    cases hparse : Json.parse? (Utf8.decode content) with
    | none => exact .inl (.malformed hread hparse)
    | some value =>
      have hholds : HoldsValue files path value := ⟨content, hread, hparse⟩
      cases value with
      | object fields => exact .inr (.inl ⟨fields, hholds⟩)
      | array items => exact .inr (.inr ⟨items, hholds⟩)
      | _ => exact .inl (.misshapen hholds nofun nofun)

/-- What a file holds depends on the content of that file alone. -/
theorem readUsable_congr (h : other.read path = files.read path) :
    readUsable other path = readUsable files path := by
  unfold readUsable read
  rw [h]

theorem filePath_of_extension (h : path.extension? = some descriptorExtension) :
    filePath path = path := if_pos h

/-! ## The descriptors of a file -/

/-- A descriptor is that of a record of a file: of the only one, or of the one at a position of the
list that the file holds, counted from one. -/
inductive ReadFrom (files : FileTree) (path : Path) : Option Nat → Descriptor → Prop where
  /-- The file holds one record. -/
  | single {fields : Json.Fields} {d : Descriptor} (holds : HoldsValue files path (.object fields))
    (prepare : (prepareNoted path (.object fields) none).value = some d) :
    ReadFrom files path none d
  /-- The file holds a list, whose records may refer to each other. -/
  | member {items : List Json} {i : Nat} {record : Json} {d : Descriptor}
    (holds : HoldsValue files path (.array items)) (record_eq : items[i]? = some record)
    (prepare :
      (prepareNoted path (Template.expandRecord items record) (some (i + 1))).value = some d) :
    ReadFrom files path (some (i + 1)) d

/-- A descriptor tells where its record was found, and is named after that. -/
theorem ReadFrom.origin {seq : Option Nat} (h : ReadFrom files path seq d) :
    d.name = nameOf (path.parent?.getD "") (path.fileName?.getD "") seq ∧
      d.baseDir = path.parent?.getD "" ∧ d.fileName = path.fileName?.getD "" := by
  cases h with
  | single holds prepare => exact origin_of_prepareNoted prepare
  | member holds record_eq prepare => exact origin_of_prepareNoted prepare

/-- The keys of an object are different if it is in a list that a file holds. -/
theorem HoldsValue.distinct {items : List Json} (h : HoldsValue files path (.array items))
    (fields : Json.Fields) (hmem : .object fields ∈ items) : fields.Distinct := by
  obtain ⟨content, -, hparse⟩ := h
  exact (Json.proper_of_parse? hparse).distinct fields hmem

/-- The descriptor of a record of a list is made from what the rule for references makes of the
record, whatever file holds the list. -/
theorem ReadFrom.expands {n : Nat} (h : ReadFrom files path (some n) d) :
    ∃ (items : List Json) (record result : Json), HoldsValue files path (.array items) ∧
      items[n - 1]? = some record ∧ Template.Expands items record result ∧
      (prepareNoted path result (some n)).value = some d := by
  cases h with
  | member holds record_eq prepare =>
    have hmem := List.mem_of_getElem? record_eq
    exact ⟨_, _, _, holds, record_eq, Template.expands_expandRecord holds.distinct hmem, prepare⟩

theorem ReadFrom.pos {n : Nat} (h : ReadFrom files path (some n) d) : 0 < n := by
  cases h
  exact Nat.succ_pos _

theorem records?_array (items : List Json) :
    records? (.array items) =
      some (items.mapIdx fun i record => (Template.expandRecord items record, some (i + 1))) := by
  simp [records?, Template.expand, List.mapIdx_eq_zipIdx_map]

/-- The descriptors of a file are those of its records. -/
theorem mem_readUsable_iff :
    d ∈ (readUsable files path).value ↔ ∃ seq, ReadFrom files path seq d := by
  constructor
  · intro h
    rcases usable_cases files path with hunusable | ⟨fields, hfields⟩ | ⟨items, hitems⟩
    · rw [hunusable.value_readUsable] at h
      cases h
    · rw [value_readUsable_of_holds hfields rfl] at h
      exact ⟨none, .single hfields (by simpa using h)⟩
    · rw [value_readUsable_of_holds hitems (records?_array items), List.mem_filterMap] at h
      obtain ⟨record, hmem, hprepare⟩ := h
      obtain ⟨i, hi, rfl⟩ := List.mem_mapIdx.1 hmem
      exact ⟨some (i + 1), .member hitems (List.getElem?_eq_getElem hi) hprepare⟩
  · rintro ⟨seq, hread⟩
    cases hread with
    | single holds prepare =>
      rw [value_readUsable_of_holds holds rfl]
      exact List.mem_filterMap.2 ⟨_, List.mem_singleton_self _, prepare⟩
    | member holds record_eq prepare =>
      obtain ⟨hi, rfl⟩ := List.getElem?_eq_some_iff.1 record_eq
      rw [value_readUsable_of_holds holds (records?_array _)]
      exact List.mem_filterMap.2 ⟨_, List.mem_mapIdx.2 ⟨_, hi, rfl⟩, prepare⟩

/-- If a file has several descriptors, they are those of the records of its list, in order. -/
theorem pairwise_readUsable (files : FileTree) (path : Path) :
    (readUsable files path).value.Pairwise fun a b =>
      ∃ m n, m < n ∧ ReadFrom files path (some m) a ∧ ReadFrom files path (some n) b := by
  rcases usable_cases files path with hunusable | ⟨fields, hfields⟩ | ⟨items, hitems⟩
  · rw [hunusable.value_readUsable]
    exact .nil
  · rw [value_readUsable_of_holds hfields rfl, List.pairwise_filterMap]
    exact List.pairwise_singleton ..
  · rw [value_readUsable_of_holds hitems (records?_array items), List.pairwise_filterMap,
      List.pairwise_iff_getElem]
    intro i j hi hj hlt a ha b hb
    rw [List.length_mapIdx] at hi hj
    rw [List.getElem_mapIdx] at ha hb
    exact ⟨i + 1, j + 1, Nat.succ_lt_succ hlt,
      .member hitems (List.getElem?_eq_getElem hi) ha,
      .member hitems (List.getElem?_eq_getElem hj) hb⟩

/-! ## Nothing is reported -/

theorem report_targets (name : String) (index : Nat) (records : List TargetRecord) :
    (TargetRecord.targets name index records).run.journal.report = [] := by
  induction records generalizing index with
  | nil => rfl
  | cons r rest ih =>
    rw [TargetRecord.targets]
    refine report_run_bind (report_run_liftExcept _) fun filter => ?_
    cases r.subject? with
    | some subject => exact report_run_bind (ih _) fun _ => rfl
    | none => exact report_run_bind rfl fun _ => ih _

theorem report_errorModeOf (name : String) (error : Option String) :
    (errorModeOf name error).journal.report = [] := by
  unfold errorModeOf
  split
  · rfl
  · split <;> rfl

theorem report_prepare (record : Json) (baseDir : Path) (fileName : String) (seq : Option Nat) :
    (prepare record baseDir fileName seq).run.journal.report = [] := by
  unfold prepare
  split
  · split
    · refine report_run_bind (report_targets ..) fun targets => ?_
      exact report_run_bind ((report_run_liftM _).trans (report_errorModeOf ..)) fun _ => rfl
    · rfl
  · rfl

theorem report_prepareNoted (path : Path) (record : Json) (seq : Option Nat) :
    (prepareNoted path record seq).journal.report = [] := by
  unfold prepareNoted
  rw [Noted.journal_bind, Journal.report_append, report_prepare]
  split <;> rfl

theorem report_prepareAll (path : Path) (records : List (Json × Option Nat)) :
    (prepareAll path records).journal.report = [] := by
  induction records with
  | nil => rfl
  | cons record rest ih =>
    simp [prepareAll, report_prepareNoted, ih]

/-- Reading a file is noted in the log only. -/
theorem report_readUsable (files : FileTree) (path : Path) :
    (readUsable files path).journal.report = [] := by
  have hread : (read files path).run.journal.report = [] := by
    unfold read
    split
    · rfl
    · split
      · rfl
      · split
        · rfl
        · exact (report_run_liftM _).trans (report_prepareAll ..)
  unfold readUsable
  rw [Noted.journal_bind, Journal.report_append, hread]
  split <;> rfl

end AsmHarness.Descriptor
