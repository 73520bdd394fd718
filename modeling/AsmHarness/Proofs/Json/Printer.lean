import AsmHarness.Json.Printer
import AsmHarness.Proofs.Json.Parser

/-!
# Values are read as they were written

The text of a value leads the machine that reads JSON from where a value may begin to where that
value has been read, whatever containers are open around it. Strings may hold any characters: what
is escaped is read back. Numbers are left out; nothing that the harness writes has any.
-/

namespace AsmHarness.Json

/-! ## Strings -/

section Strings

variable {sofar rest after : List Char} {c : Char}

theorem stringRest_escape (h : unescape? rest = some (c, after)) :
    stringRest sofar ('\\' :: rest) = stringRest (c :: sofar) after := by
  rw [stringRest, if_neg (by decide), if_pos rfl]
  split
  · next hnone => simp [hnone] at h
  · next hsome =>
    cases h.symm.trans hsome
    rfl

theorem stringRest_plain (hquote : c ≠ '"') (hbackslash : c ≠ '\\') (hcontrol : ¬ c < ' ') :
    stringRest sofar (c :: rest) = stringRest (c :: sofar) rest := by
  rw [stringRest, if_neg hquote, if_neg hbackslash, if_neg hcontrol]

/-- Control characters are written with two hexadecimal digits. -/
theorem hexNumber?_control : ∀ n < 32,
    Text.hexNumber? ['0', '0', Nat.digitChar (n / 16), Nat.digitChar (n % 16)] = some n := by
  decide

theorem unescape?_control (hcontrol : c < ' ') :
    unescape? ('u' :: '0' :: '0' :: Nat.digitChar (c.toNat / 16) ::
      Nat.digitChar (c.toNat % 16) :: rest) = some (c, rest) := by
  have hlt : c.toNat < 32 := hcontrol
  have hplane : c.toNat < 0xD800 ∨ 0xDFFF < c.toNat := .inl (by omega)
  rw [unescape?, if_pos rfl, codeEscape?, hex4?, hexNumber?_control _ hlt]
  simp only [Option.map_some, if_pos hplane, Char.ofNat_toNat]

/-- A character is read from what it is written as. -/
theorem stringRest_escapeChar (c : Char) :
    stringRest sofar (escapeChar c ++ rest) = stringRest (c :: sofar) rest := by
  unfold escapeChar
  split_ifs with hquote hbackslash hback hfeed hline hreturn htab hcontrol
  · subst hquote
    exact stringRest_escape rfl
  · subst hbackslash
    exact stringRest_escape rfl
  · subst hback
    exact stringRest_escape rfl
  · subst hfeed
    exact stringRest_escape rfl
  · subst hline
    exact stringRest_escape rfl
  · subst hreturn
    exact stringRest_escape rfl
  · subst htab
    exact stringRest_escape rfl
  · exact stringRest_escape (unescape?_control hcontrol)
  · exact stringRest_plain hquote hbackslash hcontrol

theorem stringRest_flatMap (chars sofar rest : List Char) :
    stringRest sofar (chars.flatMap escapeChar ++ '"' :: rest) =
      some (.ofList (sofar.reverse ++ chars), rest) := by
  induction chars generalizing sofar with
  | nil =>
    rw [List.flatMap_nil, List.nil_append, stringRest, if_pos rfl, List.append_nil]
  | cons c chars ih =>
    rw [List.flatMap_cons, List.append_assoc, stringRest_escapeChar, ih, List.reverse_cons,
      List.append_assoc, List.singleton_append]

theorem start_string (text : String) (rest : List Char) :
    Token.start '"' (text.toList.flatMap escapeChar ++ '"' :: rest) = some (.text text, rest) := by
  simp [Token.start, stringRest_flatMap]

end Strings

/-! ## The machine -/

section Machine

variable {state : State} {stack : List Open} {depth n : Nat} {v : Json}

/-- A value may come next, inside of some open containers. -/
def State.Awaits (state : State) (stack : List Open) : Prop :=
  ∀ token, token ≠ .closeArray → state.step token = State.begin? stack token

theorem State.awaits_value (stack : List Open) : (State.value stack).Awaits stack :=
  fun _ _ => rfl

theorem State.awaits_arrayStart (stack : List Open) :
    (State.arrayStart stack).Awaits (.array [] :: stack) := by
  intro token htoken
  cases token with
  | closeArray => exact absurd rfl htoken
  | _ => rfl

theorem run_newline (state : State) (depth : Nat) (rest : List Char) :
    run state (newline depth ++ rest) = run state rest := by
  have htabs : run state (List.replicate depth '\t' ++ rest) = run state rest := by
    induction depth with
    | zero => rfl
    | succ depth ih => rw [List.replicate_succ, List.cons_append, run, if_pos (by decide), ih]
  rw [newline, List.cons_append, run, if_pos (by decide), htabs]

theorem run_printString {next : State} {text : String}
    (hstep : state.step (.text text) = some next) (rest : List Char) :
    run state (printString text ++ rest) = run next rest := by
  rw [printString, List.cons_append, List.append_assoc, List.singleton_append]
  exact run_token (by decide) (start_string text rest) hstep

/-- The text of a value leads from where a value may begin to where it has been read. -/
def ReadBack (depth n : Nat) (v : Json) : Prop :=
  ∀ {stack : List Open} {state : State}, stack.length = n → state.Awaits stack →
    ∀ rest, run state (print depth v ++ rest) = run (.after v stack) rest

/-- The items after the first one are read one by one up to the end of the array. -/
theorem run_printItems {more : List Json} (hread : ∀ item ∈ more, ReadBack (depth + 1) (n + 1) item)
    (hstack : stack.length = n) (items : List Json) (v : Json) (rest : List Char) :
    run (.after v (.array items :: stack))
        (printItems (depth + 1) more ++ (newline depth ++ ']' :: rest)) =
      run (.after (.array (items.reverse ++ v :: more)) stack) rest := by
  induction more generalizing items v with
  | nil =>
    have hend : (State.after v (.array items :: stack)).step .closeArray =
        some (.after (.array (items.reverse ++ [v])) stack) := by
      simp [State.step]
    rw [printItems, List.nil_append, run_newline, run_token (c := ']') (by decide) rfl hend]
  | cons item more ih =>
    rw [List.forall_mem_cons] at hread
    have hcomma : (State.after v (.array items :: stack)).step .comma =
        some (.value (.array (v :: items) :: stack)) := rfl
    rw [printItems]
    simp only [List.cons_append, List.append_assoc]
    rw [run_token (c := ',') (by decide) rfl hcomma, run_newline,
      hread.1 (by simp [hstack]) (State.awaits_value _), ih hread.2, List.reverse_cons,
      List.append_assoc, List.singleton_append]

/-- The fields after the first one are read one by one up to the end of the object. -/
theorem run_printFields {more : Fields}
    (hread : ∀ field ∈ more, ReadBack (depth + 1) (n + 1) field.2) (hstack : stack.length = n)
    (fields : Fields) (key : String) (v : Json)
    (hdistinct : Fields.Distinct (fields ++ (key, v) :: more)) (rest : List Char) :
    run (.after v (.object fields key :: stack))
        (printFields (depth + 1) more ++ (newline depth ++ '\x7d' :: rest)) =
      run (.after (.object (fields ++ (key, v) :: more)) stack) rest := by
  induction more generalizing fields key v with
  | nil =>
    have hend : (State.after v (.object fields key :: stack)).step .closeObject =
        some (.after (.object (fields ++ [(key, v)])) stack) := by
      rw [State.step, Fields.set_of_distinct hdistinct]
    rw [printFields, List.nil_append, run_newline, run_token (c := '\x7d') (by decide) rfl hend]
  | cons field more ih =>
    obtain ⟨nextKey, w⟩ := field
    rw [List.forall_mem_cons] at hread
    have hcomma : (State.after v (.object fields key :: stack)).step .comma =
        some (.key (fields ++ [(key, v)]) stack) := by
      have hfirst : Fields.Distinct (fields ++ [(key, v)]) := by
        refine List.Nodup.sublist ?_ hdistinct
        simp
      rw [State.step, Fields.set_of_distinct hfirst]
    have hkey : (State.key (fields ++ [(key, v)]) stack).step (.text nextKey) =
        some (.colon (fields ++ [(key, v)]) nextKey stack) := rfl
    have hcolon : (State.colon (fields ++ [(key, v)]) nextKey stack).step .colon =
        some (.value (.object (fields ++ [(key, v)]) nextKey :: stack)) := rfl
    rw [printFields]
    simp only [List.cons_append, List.append_assoc, List.nil_append]
    rw [run_token (c := ',') (by decide) rfl hcomma, run_newline, run_printString hkey,
      run_token (c := ':') (by decide) rfl hcolon, run, if_pos (by decide),
      hread.1 (by simp [hstack]) (State.awaits_value _), ih hread.2]
    · simp
    · simpa using hdistinct

end Machine

/-! ## Values -/

/-- A value without numbers that can be read inside of some containers: its keys are different in
every object, and nothing is nested too deeply. -/
inductive Readable : Nat → Json → Prop where
  /-- Nothing is in `null`. -/
  | null {n : Nat} : Readable n .null
  /-- Nothing is in a truth value. -/
  | bool {n : Nat} (value : Bool) : Readable n (.bool value)
  /-- A string can hold anything. -/
  | string {n : Nat} (text : String) : Readable n (.string text)
  /-- One more container is around the items of an array. -/
  | array {n : Nat} {items : List Json} (shallow : n < maxDepth)
    (each : ∀ item ∈ items, Readable (n + 1) item) : Readable n (.array items)
  /-- One more container is around the values of an object. -/
  | object {n : Nat} {fields : Fields} (shallow : n < maxDepth) (distinct : fields.Distinct)
    (each : ∀ field ∈ fields, Readable (n + 1) field.2) : Readable n (.object fields)

section Readable

variable {n : Nat} {items : List Json} {fields : Fields}

@[simp] theorem readable_string (n : Nat) (text : String) : Readable n (.string text) :=
  .string text

@[simp] theorem readable_array :
    Readable n (.array items) ↔ n < maxDepth ∧ ∀ item ∈ items, Readable (n + 1) item := by
  constructor
  · rintro ⟨⟩
    exact ⟨‹_›, ‹_›⟩
  · rintro ⟨hshallow, heach⟩
    exact .array hshallow heach

@[simp] theorem readable_object : Readable n (.object fields) ↔
    n < maxDepth ∧ fields.Distinct ∧ ∀ field ∈ fields, Readable (n + 1) field.2 := by
  constructor
  · rintro ⟨⟩
    exact ⟨‹_›, ‹_›, ‹_›⟩
  · rintro ⟨hshallow, hdistinct, heach⟩
    exact .object hshallow hdistinct heach

end Readable

theorem Readable.readBack {n : Nat} {v : Json} (h : Readable n v) (depth : Nat) :
    ReadBack depth n v := by
  induction h generalizing depth with
  | null =>
    intro stack state hstack hstate rest
    exact run_token (by decide) rfl (hstate _ nofun)
  | bool value =>
    intro stack state hstack hstate rest
    cases value <;> exact run_token (by decide) rfl (hstate _ nofun)
  | string text =>
    intro stack state hstack hstate rest
    exact run_printString (hstate _ nofun) rest
  | @array n items shallow each ih =>
    intro stack state hstack hstate rest
    have hopen : state.step .openArray = some (.arrayStart stack) := by
      rw [hstate .openArray nofun, State.begin?, if_pos (hstack ▸ shallow)]
    cases items with
    | nil =>
      have hclose : (State.arrayStart stack).step .closeArray =
          some (.after (.array []) stack) := rfl
      rw [print, List.cons_append, run_token (c := '[') (by decide) rfl hopen,
        List.singleton_append,
        run_token (c := ']') (by decide) rfl hclose]
    | cons v more =>
      rw [List.forall_mem_cons] at ih
      rw [print]
      simp only [List.cons_append, List.append_assoc, List.nil_append]
      rw [run_token (c := '[') (by decide) rfl hopen, run_newline,
        ih.1 (depth + 1) (by simp [hstack]) (State.awaits_arrayStart stack),
        run_printItems (fun item hmem => ih.2 item hmem (depth + 1)) hstack]
      rfl
  | @object n fields shallow distinct each ih =>
    intro stack state hstack hstate rest
    have hopen : state.step .openObject = some (.objectStart stack) := by
      rw [hstate .openObject nofun, State.begin?, if_pos (hstack ▸ shallow)]
    cases fields with
    | nil =>
      have hclose : (State.objectStart stack).step .closeObject =
          some (.after (.object []) stack) := rfl
      rw [print, List.cons_append, run_token (c := '\x7b') (by decide) rfl hopen,
        List.singleton_append,
        run_token (c := '\x7d') (by decide) rfl hclose]
    | cons field more =>
      obtain ⟨key, v⟩ := field
      rw [List.forall_mem_cons] at ih
      have hkey : (State.objectStart stack).step (.text key) = some (.colon [] key stack) := rfl
      have hcolon : (State.colon [] key stack).step .colon =
          some (.value (.object [] key :: stack)) := rfl
      rw [print]
      simp only [List.cons_append, List.append_assoc, List.nil_append]
      rw [run_token (c := '\x7b') (by decide) rfl hopen, run_newline, run_printString hkey,
        run_token (c := ':') (by decide) rfl hcolon, run, if_pos (by decide),
        ih.1 (depth + 1) (by simp [hstack]) (State.awaits_value _),
        run_printFields (fun field hmem => ih.2 field hmem (depth + 1)) hstack [] key v distinct]
      rfl

/-- A value is read as it was written. -/
theorem parse?_pretty {v : Json} (h : Readable 0 v) : parse? (pretty v) = some v := by
  have hline : run (.after v []) ['\n'] = some (.after v []) := by
    rw [run, if_pos (by decide), run]
  rw [parse?, pretty, String.toList_ofList, h.readBack 0 rfl (State.awaits_value []), hline]
  rfl

end AsmHarness.Json
