import AsmHarness.Descriptor.Record
import Mathlib.Data.List.Forall2
import Mathlib.Data.Option.Basic

/-!
# How records are written

A value is a record if each of its fields holds what the field is for. The fields of an object have
keys, those of an array have places. Reading decides this: a value that is not a record is refused,
and of a record everything is read.
-/

namespace AsmHarness

namespace Record

/-! ## Parts of a record -/

section Parts

variable {α : Type} {Holds : Json → α → Prop} {read : Json → Option α}

/-- A value has some fields. Those of an array are named by their places, and the last ones may be
missing. -/
inductive HasFields (names : List String) : Json → Json.Fields → Prop where
  | object (fields : Json.Fields) : HasFields names (.object fields) fields
  | array {items : List Json} (short : items.length ≤ names.length) :
    HasFields names (.array items) (names.zip items)

/-- A field that is missing or `null` holds nothing; else something is to be held. -/
inductive Optionally (Holds : Json → α → Prop) : Option Json → Option α → Prop where
  | missing : Optionally Holds none none
  | null : Optionally Holds (some .null) none
  | present {value : Json} {a : α} (proper : value ≠ .null) (holds : Holds value a) :
    Optionally Holds (some value) (some a)

def IsText (value : Json) (text : String) : Prop := value = .string text

/-- A value is a list, each item of which holds something. -/
def IsList (Holds : Json → α → Prop) (value : Json) (contents : List α) : Prop :=
  ∃ items, value = .array items ∧ List.Forall₂ Holds items contents

/-- A value is a toggle: a truth value or a text. It says no if it is `false` or reads so. -/
inductive IsToggle : Json → Bool → Prop where
  | bool (value : Bool) : IsToggle (.bool value) (!value)
  | text (text : String) : IsToggle (.string text) (decide (text = "false"))

theorem fields?_eq_some_iff {names : List String} {value : Json} {fields : Json.Fields} :
    fields? names value = some fields ↔ HasFields names value fields := by
  constructor
  · intro h
    cases value with
    | object own =>
      obtain rfl : own = fields := Option.some_inj.1 h
      exact .object own
    | array items =>
      rw [fields?, Option.ite_none_right_eq_some] at h
      obtain ⟨hshort, heq⟩ := h
      obtain rfl := Option.some_inj.1 heq
      exact .array hshort
    | _ => cases h
  · intro h
    cases h with
    | object => rfl
    | array hshort => exact if_pos hshort

theorem string?_eq_some_iff (value : Json) (text : String) :
    string? value = some text ↔ IsText value text := by
  unfold IsText
  cases value <;> simp [string?]

theorem isNo?_eq_some_iff (value : Json) (no : Bool) :
    isNo? value = some no ↔ IsToggle value no := by
  constructor
  · intro h
    cases value with
    | bool value =>
      obtain rfl : (!value) = no := Option.some_inj.1 h
      exact .bool value
    | string text =>
      obtain rfl : decide (text = "false") = no := Option.some_inj.1 h
      exact .text text
    | _ => cases h
  · intro h
    cases h <;> rfl

theorem optional?_eq_some_iff (h : ∀ value a, read value = some a ↔ Holds value a)
    (found : Option Json) (a : Option α) :
    optional? read found = some a ↔ Optionally Holds found a := by
  constructor
  · intro heq
    cases found with
    | none =>
      obtain rfl : none = a := Option.some_inj.1 heq
      exact .missing
    | some value =>
      by_cases hnull : value = .null
      · subst hnull
        obtain rfl : none = a := Option.some_inj.1 heq
        exact .null
      · have hread : (read value).map some = some a := by
          cases value <;> first | exact absurd rfl hnull | exact heq
        obtain ⟨content, hcontent, rfl⟩ := Option.map_eq_some_iff.1 hread
        exact .present hnull ((h value content).1 hcontent)
  · intro hfield
    cases hfield with
    | missing => rfl
    | null => rfl
    | @present value content hnull holds =>
      have hread : optional? read (some value) = (read value).map some := by
        cases value <;> first | exact absurd rfl hnull | rfl
      rw [hread, (h value content).2 holds]
      rfl

theorem mapM_eq_some_iff (h : ∀ value a, read value = some a ↔ Holds value a) {items : List Json}
    {contents : List α} : items.mapM read = some contents ↔ List.Forall₂ Holds items contents := by
  induction items generalizing contents with
  | nil =>
    rw [List.mapM_nil, List.forall₂_nil_left_iff]
    exact Option.some_inj.trans eq_comm
  | cons item rest ih =>
    simp only [List.mapM_cons, Option.bind_eq_bind, Option.bind_eq_some_iff, h, ih,
      List.forall₂_cons_left_iff]
    constructor
    · rintro ⟨a, ha, more, hmore, heq⟩
      exact ⟨a, more, ha, hmore, (Option.some_inj.1 heq).symm⟩
    · rintro ⟨a, more, ha, hmore, rfl⟩
      exact ⟨a, ha, more, hmore, rfl⟩

theorem list?_eq_some_iff (h : ∀ value a, read value = some a ↔ Holds value a) (value : Json)
    (contents : List α) : list? read value = some contents ↔ IsList Holds value contents := by
  constructor
  · intro heq
    cases value with
    | array items => exact ⟨items, rfl, (mapM_eq_some_iff h).1 heq⟩
    | _ => cases heq
  · rintro ⟨items, rfl, hitems⟩
    exact (mapM_eq_some_iff h).2 hitems

/-- A field with a toggle says no in two ways only. -/
theorem exists_toggle_iff {found : Option Json} {keeps : Bool} :
    (∃ no, Optionally IsToggle found no ∧ no.getD false = keeps) ↔
      (∀ value ∈ found, value = .null ∨ ∃ no, IsToggle value no) ∧
        (keeps = true ↔ found = some (.bool false) ∨ found = some (.string "false")) := by
  constructor
  · rintro ⟨no, hfield, rfl⟩
    cases hfield with
    | missing => simp
    | null => simp
    | present hnull htoggle =>
      refine ⟨fun value hvalue => .inr ?_, ?_⟩
      · obtain rfl := Option.some_inj.1 hvalue
        exact ⟨_, htoggle⟩
      · cases htoggle <;> simp
  · rintro ⟨htoggle, hkeeps⟩
    cases found with
    | none =>
      refine ⟨none, .missing, ?_⟩
      cases keeps <;> simp_all
    | some value =>
      rcases htoggle value rfl with rfl | ⟨no, hno⟩
      · refine ⟨none, .null, ?_⟩
        cases keeps <;> simp_all
      · have hnull : value ≠ .null := by
          rintro rfl
          cases hno
        refine ⟨some no, .present hnull hno, ?_⟩
        cases hno <;> cases keeps <;> simp_all

end Parts

end Record

open Record

/-! ## Filters, targets, records -/

/-- Some fields are those of a filter. -/
structure FilterRecord.WrittenIn (fields : Json.Fields) (f : FilterRecord) : Prop where
  pattern : fields.get? "match" = some (.string f.pattern)
  substitution : fields.get? "subst" = some (.string f.substitution)

/-- A value is a filter. -/
def FilterRecord.WrittenAs (value : Json) (f : FilterRecord) : Prop :=
  ∃ fields, HasFields names value fields ∧ f.WrittenIn fields

/-- Some fields are those of a target. -/
structure TargetRecord.WrittenIn (fields : Json.Fields) (r : TargetRecord) : Prop where
  output : Optionally IsText (fields.get? "output") r.output
  reference : Optionally IsText (fields.get? "match") r.reference
  option : Optionally IsText (fields.get? "option") r.option
  stdout : Optionally IsText (fields.get? "stdout") r.stdout
  stderr : Optionally IsText (fields.get? "stderr") r.stderr
  filter : Optionally FilterRecord.WrittenAs (fields.get? "filter") r.filter

/-- A value is a target. -/
def TargetRecord.WrittenAs (value : Json) (r : TargetRecord) : Prop :=
  ∃ fields, HasFields names value fields ∧ r.WrittenIn fields

namespace Record

/-- Some fields are those of a record. -/
structure WrittenIn (fields : Json.Fields) (r : Record) : Prop where
  description : Optionally IsText (fields.get? "description") r.description
  format : Optionally IsText (fields.get? "format") r.format
  source : Optionally IsText (fields.get? "source") r.source
  option : Optionally IsText (fields.get? "option") r.option
  error : Optionally IsText (fields.get? "error") r.error
  disable : Optionally IsText (fields.get? "disable") r.disable
  /-- What is said about replacing the references is a toggle. -/
  update : ∀ value ∈ fields.get? "update", value = .null ∨ ∃ no, IsToggle value no
  /-- References are kept if it says no. -/
  keepsReferences : r.keepsReferences = true ↔
    fields.get? "update" = some (.bool false) ∨ fields.get? "update" = some (.string "false")
  /-- The list of entries can be missing, but it cannot be `null`. -/
  environ : IsList IsText ((fields.get? "environ").getD (.array [])) r.environ
  targets : Optionally (IsList TargetRecord.WrittenAs) (fields.get? "target") r.targets

/-- A value is a record. -/
def WrittenAs (value : Json) (r : Record) : Prop :=
  ∃ fields, HasFields names value fields ∧ r.WrittenIn fields

end Record

theorem FilterRecord.ofJson?_eq_some_iff (value : Json) (f : FilterRecord) :
    ofJson? value = some f ↔ f.WrittenAs value := by
  simp only [ofJson?, Option.bind_eq_bind, Option.bind_eq_some_iff, fields?_eq_some_iff,
    string?_eq_some_iff]
  constructor
  · rintro ⟨fields, hfields, first, hfirst, pattern, rfl, second, hsecond, substitution, rfl, heq⟩
    obtain rfl := Option.some_inj.1 heq
    exact ⟨fields, hfields, hfirst, hsecond⟩
  · rintro ⟨fields, hfields, hpattern, hsubstitution⟩
    exact ⟨fields, hfields, _, hpattern, _, rfl, _, hsubstitution, _, rfl, rfl⟩

theorem TargetRecord.ofJson?_eq_some_iff (value : Json) (r : TargetRecord) :
    ofJson? value = some r ↔ r.WrittenAs value := by
  simp only [ofJson?, Option.bind_eq_bind, Option.bind_eq_some_iff, fields?_eq_some_iff,
    optionalField?, optional?_eq_some_iff string?_eq_some_iff,
    optional?_eq_some_iff FilterRecord.ofJson?_eq_some_iff]
  constructor
  · rintro ⟨fields, hfields, output, houtput, reference, hreference, option, hoption, stdout,
      hstdout, stderr, hstderr, filter, hfilter, heq⟩
    obtain rfl := Option.some_inj.1 heq
    exact ⟨fields, hfields, houtput, hreference, hoption, hstdout, hstderr, hfilter⟩
  · rintro ⟨fields, hfields, h⟩
    exact ⟨fields, hfields, _, h.output, _, h.reference, _, h.option, _, h.stdout, _, h.stderr, _,
      h.filter, rfl⟩

/-- A record is read of a value if and only if the value is that record. -/
theorem Record.ofJson?_eq_some_iff (value : Json) (r : Record) :
    ofJson? value = some r ↔ r.WrittenAs value := by
  simp only [ofJson?, Option.bind_eq_bind, Option.bind_eq_some_iff, fields?_eq_some_iff,
    optionalField?, optional?_eq_some_iff string?_eq_some_iff,
    optional?_eq_some_iff isNo?_eq_some_iff, list?_eq_some_iff string?_eq_some_iff,
    optional?_eq_some_iff (list?_eq_some_iff TargetRecord.ofJson?_eq_some_iff)]
  constructor
  · rintro ⟨fields, hfields, description, hdescription, format, hformat, source, hsource, option,
      hoption, error, herror, disable, hdisable, no, hno, environ, henviron, targets, htargets, heq⟩
    obtain rfl := Option.some_inj.1 heq
    obtain ⟨hupdate, hkeeps⟩ := exists_toggle_iff.1 ⟨no, hno, rfl⟩
    exact ⟨fields, hfields, hdescription, hformat, hsource, hoption, herror, hdisable, hupdate,
      hkeeps, henviron, htargets⟩
  · rintro ⟨fields, hfields, h⟩
    obtain ⟨no, hno, hkeeps⟩ := exists_toggle_iff.2 ⟨h.update, h.keepsReferences⟩
    refine ⟨fields, hfields, _, h.description, _, h.format, _, h.source, _, h.option, _, h.error,
      _, h.disable, no, hno, _, h.environ, _, h.targets, ?_⟩
    rw [hkeeps]

end AsmHarness
