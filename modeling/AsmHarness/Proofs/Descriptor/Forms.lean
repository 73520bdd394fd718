import AsmHarness.Proofs.Descriptor.Prepare
import AsmHarness.Proofs.Json.Fields

/-!
# Two forms of a record

A record can be written as an object, which names its fields, or as an array, which holds them in
order. The same goes for each of its targets and for the filter of each target, and the forms can be
mixed. What becomes of a record does not depend on the forms that are chosen.
-/

namespace AsmHarness

namespace Record

/-! ## The same said in other forms -/

section Forms

variable {α : Type} {keys : List String} {Same : String → Json → Json → Prop} {a b : Json}
  {fields others : Json.Fields} {read : Json → Option α}

/-- Two values have the same fields, in either form. `Same` says of each key which values count as
the same. -/
inductive Restates (keys : List String) (Same : String → Json → Json → Prop) :
    Json → Json → Prop where
  | same (value : Json) : Restates keys Same value value
  | fields {a b : Json} {fields others : Json.Fields} (first : HasFields keys a fields)
    (second : HasFields keys b others)
    (held : ∀ key, Option.Rel (Same key) (fields.get? key) (others.get? key)) :
    Restates keys Same a b

/-- Two values are the same list but for the forms of its items. -/
inductive RestatesItems (Same : Json → Json → Prop) : Json → Json → Prop where
  | same (value : Json) : RestatesItems Same value value
  | items {items others : List Json} (held : List.Forall₂ Same items others) :
    RestatesItems Same (.array items) (.array others)

/-- Two values are the same filter. -/
def SameFilter : Json → Json → Prop := Restates ["match", "subst"] fun _ a b => a = b

/-- Two values are the same target. -/
def SameTarget : Json → Json → Prop :=
  Restates ["output", "match", "option", "stdout", "stderr", "filter"] fun key a b =>
    if key = "filter" then SameFilter a b else a = b

/-- Two values are the same record. -/
def SameRecord : Json → Json → Prop :=
  Restates ["description", "format", "source", "option", "error", "disable", "update", "environ",
    "target"] fun key a b => if key = "target" then RestatesItems SameTarget a b else a = b

theorem HasFields.ne_null {value : Json} (h : HasFields keys value fields) : value ≠ .null := by
  rintro rfl
  cases h

theorem Restates.null_iff (h : Restates keys Same a b) : a = .null ↔ b = .null := by
  cases h with
  | same => rfl
  | fields hfirst hsecond => exact iff_of_false hfirst.ne_null hsecond.ne_null

theorem RestatesItems.null_iff {Same : Json → Json → Prop} (h : RestatesItems Same a b) :
    a = .null ↔ b = .null := by
  cases h with
  | same => rfl
  | items => exact iff_of_false (fun h => nomatch h) (fun h => nomatch h)

/-- Fields that are the same one by one are the same by their keys. -/
theorem rel_get? (h : List.Forall₂ (fun field other => field.1 = other.1 ∧
    Same field.1 field.2 other.2) fields others) (key : String) :
    Option.Rel (Same key) (fields.get? key) (others.get? key) := by
  induction h with
  | nil => exact .none
  | @cons field other _ _ hfield _ ih =>
    obtain ⟨hkey, hsame⟩ := hfield
    rw [Json.Fields.get?_cons, Json.Fields.get?_cons, ← hkey]
    by_cases heq : field.1 = key
    · rw [if_pos heq, if_pos heq]
      exact .some (heq ▸ hsame)
    · rw [if_neg heq, if_neg heq]
      exact ih

/-! ## Reading either form -/

/-- Fields are the same if their values count as the same only when they are. -/
theorem eq_of_rel {R : Json → Json → Prop} {found other : Option Json}
    (hsame : ∀ a b, R a b → a = b) (h : Option.Rel R found other) : found = other := by
  cases h with
  | none => rfl
  | some hvalue => rw [hsame _ _ hvalue]

/-- A field that can be left out is read the same in both forms, if what it holds is. -/
theorem optional?_congr {R : Json → Json → Prop} {found other : Option Json}
    (hread : ∀ a b, R a b → read a = read b) (hnull : ∀ a b, R a b → (a = .null ↔ b = .null))
    (h : Option.Rel R found other) : optional? read found = optional? read other := by
  have hpresent {value : Json} (hne : value ≠ .null) :
      optional? read (some value) = (read value).map some := by
    cases value <;> first | exact absurd rfl hne | rfl
  cases h with
  | none => rfl
  | @some a b hab =>
    by_cases ha : a = .null
    · rw [ha, (hnull a b hab).1 ha]
    · rw [hpresent ha, hpresent fun hb => ha ((hnull a b hab).2 hb), hread a b hab]

theorem list?_congr {R : Json → Json → Prop} (hread : ∀ a b, R a b → read a = read b)
    (h : RestatesItems R a b) : list? read a = list? read b := by
  cases h with
  | same => rfl
  | @items items others hitems =>
    show items.mapM read = others.mapM read
    induction hitems with
    | nil => rfl
    | cons hfirst _ ih => rw [List.mapM_cons, List.mapM_cons, hread _ _ hfirst, ih]

end Forms

end Record

open Record

theorem FilterRecord.ofJson?_congr {a b : Json} (h : SameFilter a b) : ofJson? a = ofJson? b := by
  cases h with
  | same => rfl
  | @fields _ fields others hfirst hsecond hheld =>
    have hget (key : String) : fields.get? key = others.get? key :=
      eq_of_rel (fun _ _ heq => heq) (hheld key)
    unfold ofJson?
    rw [names, fields?_eq_some_iff.2 hfirst, fields?_eq_some_iff.2 hsecond]
    simp only [Option.bind_eq_bind, Option.bind_some, hget]

theorem TargetRecord.ofJson?_congr {a b : Json} (h : SameTarget a b) : ofJson? a = ofJson? b := by
  cases h with
  | same => rfl
  | @fields _ fields others hfirst hsecond hheld =>
    have hget {key : String} (hne : key ≠ "filter") : fields.get? key = others.get? key := by
      refine eq_of_rel ?_ (hheld key)
      intro a b hab
      rwa [if_neg hne] at hab
    have hfilter : optional? FilterRecord.ofJson? (fields.get? "filter") =
        optional? FilterRecord.ofJson? (others.get? "filter") :=
      optional?_congr (fun _ _ => FilterRecord.ofJson?_congr) (fun _ _ => Restates.null_iff)
        (hheld "filter")
    unfold ofJson?
    rw [names, fields?_eq_some_iff.2 hfirst, fields?_eq_some_iff.2 hsecond]
    simp only [Option.bind_eq_bind, Option.bind_some, optionalField?, hfilter]
    rw [hget (by decide : "output" ≠ "filter"), hget (by decide : "match" ≠ "filter"),
      hget (by decide : "option" ≠ "filter"), hget (by decide : "stdout" ≠ "filter"),
      hget (by decide : "stderr" ≠ "filter")]

theorem Record.ofJson?_congr {a b : Json} (h : SameRecord a b) : ofJson? a = ofJson? b := by
  cases h with
  | same => rfl
  | @fields _ fields others hfirst hsecond hheld =>
    have hget {key : String} (hne : key ≠ "target") : fields.get? key = others.get? key := by
      refine eq_of_rel ?_ (hheld key)
      intro a b hab
      rwa [if_neg hne] at hab
    have htargets : optional? (list? TargetRecord.ofJson?) (fields.get? "target") =
        optional? (list? TargetRecord.ofJson?) (others.get? "target") :=
      optional?_congr (fun _ _ => list?_congr fun _ _ => TargetRecord.ofJson?_congr)
        (fun _ _ => RestatesItems.null_iff) (hheld "target")
    unfold ofJson?
    rw [names, fields?_eq_some_iff.2 hfirst, fields?_eq_some_iff.2 hsecond]
    simp only [Option.bind_eq_bind, Option.bind_some, optionalField?, htargets]
    rw [hget (by decide : "description" ≠ "target"), hget (by decide : "format" ≠ "target"),
      hget (by decide : "source" ≠ "target"), hget (by decide : "option" ≠ "target"),
      hget (by decide : "error" ≠ "target"), hget (by decide : "disable" ≠ "target"),
      hget (by decide : "update" ≠ "target"), hget (by decide : "environ" ≠ "target")]

/-! ## Reading an array -/

/-- The value of a key is the item in its place. -/
theorem Json.Fields.get?_zip {names : List String} (hnames : names.Nodup) (items : List Json)
    {i : Nat} {key : String} (hkey : names[i]? = some key) :
    Json.Fields.get? (names.zip items) key = items[i]? := by
  induction names generalizing items i with
  | nil => cases hkey
  | cons first rest ih =>
    obtain ⟨hfirst, hrest⟩ := List.nodup_cons.1 hnames
    cases items with
    | nil => rfl
    | cons item items =>
      rw [List.zip_cons_cons, get?_cons]
      cases i with
      | zero => rw [if_pos (Option.some_inj.1 hkey), List.getElem?_cons_zero]
      | succ i =>
        rw [List.getElem?_cons_succ] at hkey
        have hne : first ≠ key := by
          rintro rfl
          exact hfirst (List.mem_of_getElem? hkey)
        rw [if_neg hne, ih hrest items hkey, List.getElem?_cons_succ]

/-- Some values in order are those of a filter. -/
structure FilterRecord.ListedIn (items : List Json) (f : FilterRecord) : Prop where
  pattern : items[0]? = some (.string f.pattern)
  substitution : items[1]? = some (.string f.substitution)

/-- Some values in order are those of a target. The last ones may be missing. -/
structure TargetRecord.ListedIn (items : List Json) (r : TargetRecord) : Prop where
  output : Optionally IsText items[0]? r.output
  reference : Optionally IsText items[1]? r.reference
  option : Optionally IsText items[2]? r.option
  stdout : Optionally IsText items[3]? r.stdout
  stderr : Optionally IsText items[4]? r.stderr
  filter : Optionally FilterRecord.WrittenAs items[5]? r.filter

/-- Some values in order are those of a record. The last ones may be missing. -/
structure Record.ListedIn (items : List Json) (r : Record) : Prop where
  description : Optionally IsText items[0]? r.description
  format : Optionally IsText items[1]? r.format
  source : Optionally IsText items[2]? r.source
  option : Optionally IsText items[3]? r.option
  error : Optionally IsText items[4]? r.error
  disable : Optionally IsText items[5]? r.disable
  update : ∀ value ∈ items[6]?, value = .null ∨ ∃ no, IsToggle value no
  keepsReferences : r.keepsReferences = true ↔
    items[6]? = some (.bool false) ∨ items[6]? = some (.string "false")
  environ : IsList IsText (items[7]?.getD (.array [])) r.environ
  targets : Optionally (IsList TargetRecord.WrittenAs) items[8]? r.targets

section Listed

variable {items : List Json}

theorem FilterRecord.ofJson?_array {f : FilterRecord} :
    ofJson? (.array items) = some f ↔ items.length ≤ 2 ∧ f.ListedIn items := by
  have hget {i : Nat} {key : String} (hkey : names[i]? = some key) :
      Json.Fields.get? (names.zip items) key = items[i]? :=
    Json.Fields.get?_zip (by decide) items hkey
  have hpattern := @hget 0 "match" rfl
  have hsubstitution := @hget 1 "subst" rfl
  rw [ofJson?_eq_some_iff]
  constructor
  · rintro ⟨_, ⟨⟩ | hshort, h⟩
    exact ⟨hshort, hpattern ▸ h.pattern, hsubstitution ▸ h.substitution⟩
  · rintro ⟨hshort, h⟩
    exact ⟨_, .array hshort, hpattern ▸ h.pattern, hsubstitution ▸ h.substitution⟩

theorem TargetRecord.ofJson?_array {r : TargetRecord} :
    ofJson? (.array items) = some r ↔ items.length ≤ 6 ∧ r.ListedIn items := by
  have hget {i : Nat} {key : String} (hkey : names[i]? = some key) :
      Json.Fields.get? (names.zip items) key = items[i]? :=
    Json.Fields.get?_zip (by decide) items hkey
  have houtput := @hget 0 "output" rfl
  have hreference := @hget 1 "match" rfl
  have hoption := @hget 2 "option" rfl
  have hstdout := @hget 3 "stdout" rfl
  have hstderr := @hget 4 "stderr" rfl
  have hfilter := @hget 5 "filter" rfl
  rw [ofJson?_eq_some_iff]
  constructor
  · rintro ⟨_, ⟨⟩ | hshort, h⟩
    exact ⟨hshort, houtput ▸ h.output, hreference ▸ h.reference, hoption ▸ h.option,
      hstdout ▸ h.stdout, hstderr ▸ h.stderr, hfilter ▸ h.filter⟩
  · rintro ⟨hshort, h⟩
    exact ⟨_, .array hshort, houtput ▸ h.output, hreference ▸ h.reference, hoption ▸ h.option,
      hstdout ▸ h.stdout, hstderr ▸ h.stderr, hfilter ▸ h.filter⟩

theorem Record.ofJson?_array {r : Record} :
    ofJson? (.array items) = some r ↔ items.length ≤ 9 ∧ r.ListedIn items := by
  have hget {i : Nat} {key : String} (hkey : names[i]? = some key) :
      Json.Fields.get? (names.zip items) key = items[i]? :=
    Json.Fields.get?_zip (by decide) items hkey
  have hdescription := @hget 0 "description" rfl
  have hformat := @hget 1 "format" rfl
  have hsource := @hget 2 "source" rfl
  have hoption := @hget 3 "option" rfl
  have herror := @hget 4 "error" rfl
  have hdisable := @hget 5 "disable" rfl
  have hupdate := @hget 6 "update" rfl
  have henviron := @hget 7 "environ" rfl
  have htargets := @hget 8 "target" rfl
  rw [ofJson?_eq_some_iff]
  constructor
  · rintro ⟨_, ⟨⟩ | hshort, h⟩
    exact ⟨hshort, hdescription ▸ h.description, hformat ▸ h.format, hsource ▸ h.source,
      hoption ▸ h.option, herror ▸ h.error, hdisable ▸ h.disable, hupdate ▸ h.update,
      hupdate ▸ h.keepsReferences, henviron ▸ h.environ, htargets ▸ h.targets⟩
  · rintro ⟨hshort, h⟩
    exact ⟨_, .array hshort, hdescription ▸ h.description, hformat ▸ h.format, hsource ▸ h.source,
      hoption ▸ h.option, herror ▸ h.error, hdisable ▸ h.disable, hupdate ▸ h.update,
      hupdate ▸ h.keepsReferences, henviron ▸ h.environ, htargets ▸ h.targets⟩

end Listed

namespace Descriptor

/-! ## Preparing either form -/

/-- The values of a record in order make the same test as the object that names them, or are refused
for the same reason; and so do any two values that differ only in the forms of the record, of its
targets and of their filters. What is read of an array is what its items hold, each in its place. -/
theorem prepare_forms (baseDir : Path) (fileName : String) (seq : Option Nat) :
    (∀ items : List Json, items.length ≤ 9 →
      prepare (.array items) baseDir fileName seq =
        prepare (.object (["description", "format", "source", "option", "error", "disable",
          "update", "environ", "target"].zip items)) baseDir fileName seq) ∧
      (∀ value other, SameRecord value other →
        prepare value baseDir fileName seq = prepare other baseDir fileName seq) ∧
      ∀ items : List Json,
        (∀ r, Record.ofJson? (.array items) = some r ↔ items.length ≤ 9 ∧ r.ListedIn items) ∧
        (∀ r, TargetRecord.ofJson? (.array items) = some r ↔
          items.length ≤ 6 ∧ r.ListedIn items) ∧
        ∀ f, FilterRecord.ofJson? (.array items) = some f ↔
          items.length ≤ 2 ∧ f.ListedIn items := by
  have hforms : ∀ value other, SameRecord value other →
      prepare value baseDir fileName seq = prepare other baseDir fileName seq := by
    intro value other hsame
    exact prepare_congr (Record.ofJson?_congr hsame) baseDir fileName seq
  refine ⟨?_, hforms, fun items => ⟨fun r => Record.ofJson?_array,
    fun r => TargetRecord.ofJson?_array, fun f => FilterRecord.ofJson?_array⟩⟩
  intro items hshort
  refine hforms _ _ (.fields (.array hshort) (.object _) (rel_get? ?_))
  rw [List.forall₂_same]
  intro field _
  by_cases htarget : field.1 = "target"
  · simp [htarget, RestatesItems.same]
  · simp [htarget]

/-! ## An example -/

/-- A record in order, and the fields that its values belong to. -/
def listedRecord (target : Json) : List Json :=
  [.string "mixed", .null, .string "s.asm", .null, .null, .null, .string "false",
    .array [.string "A=1"], .array [target]]

def namedRecord (target : Json) : Json.Fields :=
  [("description", .string "mixed"), ("format", .null), ("source", .string "s.asm"),
    ("option", .null), ("error", .null), ("disable", .null), ("update", .string "false"),
    ("environ", .array [.string "A=1"]), ("target", .array [target])]

def listedTarget (filter : Json) : Json :=
  .array [.null, .null, .null, .string "s.stdout", .null, filter]

def namedTarget (filter : Json) : Json :=
  .object [("output", .null), ("match", .null), ("option", .null), ("stdout", .string "s.stdout"),
    ("stderr", .null), ("filter", filter)]

def listedFilter : Json := .array [.string "[0-9]+", .string "N"]

def namedFilter : Json := .object [("match", .string "[0-9]+"), ("subst", .string "N")]

theorem sameFilter_mixed : SameFilter listedFilter namedFilter :=
  .fields (.array (by decide)) (.object _) (rel_get? (by simp))

theorem sameTarget_mixed : SameTarget (namedTarget listedFilter) (listedTarget namedFilter) :=
  .fields (.object _) (.array (by decide)) (rel_get? (by simp [sameFilter_mixed]))

theorem sameRecord_mixed : SameRecord (.array (listedRecord (namedTarget listedFilter)))
    (.object (namedRecord (listedTarget namedFilter))) := by
  have htargets : RestatesItems SameTarget (.array [namedTarget listedFilter])
      (.array [listedTarget namedFilter]) :=
    .items (.cons sameTarget_mixed .nil)
  exact .fields (.array (by decide)) (.object _)
    (rel_get? (by simp [listedRecord, namedRecord, htargets]))

/-- A record that is written in order, with a target that names its fields and has a filter in
order, and the same record with each form turned into the other. -/
theorem prepare_forms_mixed :
    (listedRecord (namedTarget listedFilter)).length ≤ 9 ∧
      SameRecord (.array (listedRecord (namedTarget listedFilter)))
        (.object (namedRecord (listedTarget namedFilter))) ∧
      (Record.ofJson? (.array (listedRecord (namedTarget listedFilter)))).isSome = true ∧
      prepare (.array (listedRecord (namedTarget listedFilter))) "t" "s.json" none =
        prepare (.object (namedRecord (namedTarget listedFilter))) "t" "s.json" none ∧
      prepare (.array (listedRecord (namedTarget listedFilter))) "t" "s.json" none =
        prepare (.object (namedRecord (listedTarget namedFilter))) "t" "s.json" none := by
  obtain ⟨hlisted, hforms, -⟩ := prepare_forms "t" "s.json" none
  have hshort : (listedRecord (namedTarget listedFilter)).length ≤ 9 := by decide
  exact ⟨hshort, sameRecord_mixed, rfl, hlisted _ hshort, hforms _ _ sameRecord_mixed⟩

end Descriptor

end AsmHarness
