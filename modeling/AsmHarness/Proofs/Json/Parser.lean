import AsmHarness.Json.Parser
import AsmHarness.Proofs.Json.Fields

/-!
# What values are read

The machine that reads JSON sets the fields of an object one by one, so that a key which is written
twice has one field. Every value that it keeps, on its stack or as its result, is proper: no object
in it has two fields of one key.
-/

namespace AsmHarness.Json

/-- No object in a value has two fields of one key. -/
inductive Proper : Json → Prop where
  /-- Nothing is in `null`. -/
  | null : Proper .null
  /-- Nothing is in a truth value. -/
  | bool (value : Bool) : Proper (.bool value)
  /-- Nothing is in a number. -/
  | number (value : Decimal) : Proper (.number value)
  /-- Nothing is in a string. -/
  | string (text : String) : Proper (.string text)
  /-- It is so in every item. -/
  | array {items : List Json} (each : ∀ item ∈ items, Proper item) : Proper (.array items)
  /-- The keys are different, and it is so in the value of every field. -/
  | object {fields : Fields} (distinct : fields.Distinct)
    (each : ∀ field ∈ fields, Proper field.2) : Proper (.object fields)

/-- The fields of an object that is being read are those of a proper value. -/
def Fields.Proper (fields : Fields) : Prop :=
  fields.Distinct ∧ ∀ field ∈ fields, field.2.Proper

theorem Fields.proper_nil : Fields.Proper [] :=
  ⟨List.nodup_nil, by simp⟩

theorem Fields.mem_set {fields : Fields} {key : String} {value : Json} {field : String × Json}
    (h : field ∈ fields.set key value) : field ∈ fields ∨ field.2 = value := by
  induction fields with
  | nil =>
    obtain rfl := List.mem_singleton.1 h
    exact .inr rfl
  | cons first rest ih =>
    obtain ⟨k, v⟩ := first
    rw [set] at h
    split_ifs at h with hk
    · rcases List.mem_cons.1 h with rfl | hrest
      · exact .inr rfl
      · exact .inl (List.mem_cons_of_mem _ hrest)
    · rcases List.mem_cons.1 h with rfl | hrest
      · exact .inl List.mem_cons_self
      · exact (ih hrest).imp_left (List.mem_cons_of_mem _)

theorem Fields.Proper.set {fields : Fields} (h : fields.Proper) (key : String) {value : Json}
    (hvalue : value.Proper) : (fields.set key value).Proper := by
  refine ⟨h.1.set key value, fun field hfield => ?_⟩
  rcases Fields.mem_set hfield with hmem | rfl
  · exact h.2 field hmem
  · exact hvalue

/-! ## Tokens -/

/-- A token that stands for a value stands for a proper one. -/
def Token.Proper : Token → Prop
  | .atom value => value.Proper
  | _ => True

theorem proper_of_number? {negative : Bool} {s rest : List Char} {value : Json}
    (h : number? negative s = some (value, rest)) : value.Proper := by
  unfold number? at h
  dsimp only at h
  split at h
  · cases h
  · split at h
    · cases h
    · split at h
      · cases h
      · simp only [Option.ite_none_right_eq_some, Option.some.injEq, Prod.mk.injEq] at h
        obtain ⟨-, rfl, -⟩ := h
        exact .number _

theorem Token.proper_of_start {c : Char} {rest after : List Char} {token : Token}
    (h : Token.start c rest = some (token, after)) : token.Proper := by
  unfold Token.start at h
  split at h <;>
    simp only [Option.map_eq_some_iff, Option.some.injEq, Prod.mk.injEq, Prod.exists] at h
  case h_7 => obtain ⟨_, _, -, rfl, -⟩ := h; trivial
  case h_8 => obtain ⟨_, -, rfl, -⟩ := h; exact .null
  case h_9 | h_10 => obtain ⟨_, -, rfl, -⟩ := h; exact .bool _
  case h_11 | h_12 => obtain ⟨_, _, hnumber, rfl, -⟩ := h; exact proper_of_number? hnumber
  all_goals obtain ⟨rfl, -⟩ := h; trivial

/-! ## The machine -/

/-- What has been read of a container is proper. -/
def Open.Proper : Open → Prop
  | .array items => ∀ item ∈ items, item.Proper
  | .object fields _ => fields.Proper

/-- All that the machine keeps is proper. -/
def State.Proper : State → Prop
  | .value stack | .arrayStart stack | .objectStart stack => ∀ container ∈ stack, container.Proper
  | .key fields stack | .colon fields _ stack =>
    fields.Proper ∧ ∀ container ∈ stack, container.Proper
  | .after v stack => v.Proper ∧ ∀ container ∈ stack, container.Proper

variable {state next : State} {token : Token} {stack : List Open}

theorem State.proper_of_begin? (hstack : ∀ container ∈ stack, container.Proper)
    (htoken : token.Proper) (h : begin? stack token = some next) : next.Proper := by
  unfold begin? at h
  split at h
  · split_ifs at h
    cases h
    exact hstack
  · split_ifs at h
    cases h
    exact hstack
  · cases h
    exact ⟨.string _, hstack⟩
  · cases h
    exact ⟨htoken, hstack⟩
  · cases h

/-- Every token leaves the machine with proper values. -/
theorem State.Proper.step (hstate : state.Proper) (htoken : token.Proper)
    (h : state.step token = some next) : next.Proper := by
  unfold State.step at h
  split at h
  case h_1 => exact proper_of_begin? hstate htoken h
  case h_2 =>
    cases h
    exact ⟨.array (by simp), hstate⟩
  case h_3 =>
    refine proper_of_begin? ?_ htoken h
    rw [List.forall_mem_cons]
    exact ⟨by simp [Open.Proper], hstate⟩
  case h_4 =>
    cases h
    exact ⟨.object Fields.proper_nil.1 Fields.proper_nil.2, hstate⟩
  case h_5 =>
    cases h
    exact ⟨Fields.proper_nil, hstate⟩
  case h_6 =>
    cases h
    exact hstate
  case h_7 =>
    cases h
    exact List.forall_mem_cons.2 hstate
  case h_8 =>
    cases h
    obtain ⟨hvalue, hstack⟩ := hstate
    obtain ⟨hitems, hrest⟩ := List.forall_mem_cons.1 hstack
    exact List.forall_mem_cons.2 ⟨List.forall_mem_cons.2 ⟨hvalue, hitems⟩, hrest⟩
  case h_9 =>
    cases h
    obtain ⟨hvalue, hstack⟩ := hstate
    obtain ⟨hitems, hrest⟩ := List.forall_mem_cons.1 hstack
    refine ⟨.array fun item hitem => ?_, hrest⟩
    exact List.forall_mem_cons.2 ⟨hvalue, hitems⟩ item (List.mem_reverse.1 hitem)
  case h_10 =>
    cases h
    obtain ⟨hvalue, hstack⟩ := hstate
    obtain ⟨hfields, hrest⟩ := List.forall_mem_cons.1 hstack
    exact ⟨Fields.Proper.set hfields _ hvalue, hrest⟩
  case h_11 v fields name stack =>
    cases h
    obtain ⟨hvalue, hstack⟩ := hstate
    obtain ⟨hfields, hrest⟩ := List.forall_mem_cons.1 hstack
    have hset := Fields.Proper.set hfields name hvalue
    exact ⟨.object hset.1 hset.2, hrest⟩
  case h_12 => cases h

/-- A text leaves the machine with proper values. -/
theorem State.Proper.run {s : List Char} (hstate : state.Proper) (h : run state s = some next) :
    next.Proper := by
  fun_induction Json.run state s with
  | case1 =>
    cases h
    exact hstate
  | case2 state c rest hblank ih => exact ih hstate h
  | case3 => cases h
  | case4 => cases h
  | case5 state c rest hblank token after hstart hlength next' hstep ih =>
    exact ih (hstate.step (Token.proper_of_start hstart) hstep) h

/-- A value that is read is proper. -/
theorem proper_of_parse? {text : String} {value : Json} (h : parse? text = some value) :
    value.Proper := by
  obtain ⟨state, hrun, hresult⟩ := Option.bind_eq_some_iff.1 h
  have hstate : state.Proper := State.Proper.run (by simp [State.Proper]) hrun
  unfold State.result? at hresult
  split at hresult
  · cases hresult
    exact hstate.1
  · cases hresult

/-- No object of a list that is read has two fields of one key. -/
theorem Proper.distinct {items : List Json} (h : (Json.array items).Proper) (fields : Fields)
    (hmem : .object fields ∈ items) : fields.Distinct := by
  cases h with
  | array each =>
    cases each _ hmem with
    | object distinct _ => exact distinct

/-- One token of a text is read. -/
theorem run_token {state next : State} {c : Char} {rest after : List Char} {token : Token}
    (hblank : isBlank c = false) (hstart : Token.start c rest = some (token, after))
    (hstep : state.step token = some next) : run state (c :: rest) = run next after := by
  rw [run, if_neg (by simp [hblank])]
  split
  · next hnone => simp [hnone] at hstart
  · next hsome =>
    cases hstart.symm.trans hsome
    rw [hstep]

end AsmHarness.Json
