import AsmHarness.Proofs.Utf8.Unfinished

/-!
# What is read where bytes are not UTF-8

Bytes are read as the characters that stand in them. Where no character begins, the longest run of
bytes that some character begins with, or a single byte if there is none, is read as one replacement
character, as the Unicode Standard recommends. This rule determines the text, and the machine
follows it: inside a character it knows what may come next, so it stops exactly where no character
goes on.
-/

namespace AsmHarness.Utf8

/-! ## The rule -/

/-- No character stands at the beginning of some bytes. -/
def Unconvertible (bytes : List UInt8) : Prop := ∀ c, ¬ String.utf8EncodeChar c <+: bytes

/-- The bytes that are replaced where no character stands: the longest part that begins a character,
or one byte if no part does. -/
structure MaximalPart (part bytes : List UInt8) : Prop where
  nonempty : part ≠ []
  isPrefix : part <+: bytes
  begins : part.length = 1 ∨ Begins part
  longest : ∀ other, other <+: bytes → other.length = 1 ∨ Begins other →
    other.length ≤ part.length

/-- Some bytes are read as some characters, with replacement characters for what is not UTF-8. -/
inductive Lossy : List UInt8 → List Char → Prop where
  | nil : Lossy [] []
  | char {rest : List UInt8} {text : List Char} (c : Char) (next : Lossy rest text) :
      Lossy (String.utf8EncodeChar c ++ rest) (c :: text)
  | broken {part rest : List UInt8} {text : List Char} (none : Unconvertible (part ++ rest))
      (maximal : MaximalPart part (part ++ rest)) (next : Lossy rest text) :
      Lossy (part ++ rest) (replacement :: text)

section Rule

variable {part rest bytes : List UInt8} {text other : List Char}

/-- A prefix of `part ++ rest` ends in `part`, or goes on with the first byte of `rest`. -/
theorem prefix_append_cases (h : bytes <+: part ++ rest) :
    bytes <+: part ∨ ∃ b ∈ rest.head?, part ++ [b] <+: bytes := by
  by_cases hlength : bytes.length ≤ part.length
  · exact .inl (List.prefix_of_prefix_length_le h (List.prefix_append part rest) hlength)
  · cases rest with
    | nil =>
      rw [List.append_nil] at h
      exact .inl h
    | cons b rest =>
      have hmore : part ++ [b] <+: part ++ b :: rest := by simp
      refine .inr ⟨b, rfl, List.prefix_of_prefix_length_le hmore h ?_⟩
      rw [List.length_append, List.length_singleton]
      omega

/-- A part that no byte continues as a character does is replaced as a whole. -/
theorem maximalPart_of_stop (hne : part ≠ []) (hbegins : part.length = 1 ∨ Begins part)
    (hnone : Unconvertible part) (hstop : ∀ b ∈ rest.head?, ¬ Begins (part ++ [b])) :
    Unconvertible (part ++ rest) ∧ MaximalPart part (part ++ rest) := by
  constructor
  · intro c hc
    rcases prefix_append_cases hc with hc | ⟨b, hb, hc⟩
    · exact hnone c hc
    · exact hstop b hb ⟨c, hc⟩
  · refine ⟨hne, List.prefix_append part rest, hbegins, fun longer hlonger hcase => ?_⟩
    rcases prefix_append_cases hlonger with hpart | ⟨b, hb, hmore⟩
    · exact hpart.length_le
    · rcases hcase with hone | hlonger
      · rw [hone]
        exact List.length_pos_iff.2 hne
      · exact absurd (hlonger.of_prefix hmore) (hstop b hb)

theorem MaximalPart.unique {part' : List UInt8} (h : MaximalPart part bytes)
    (h' : MaximalPart part' bytes) : part = part' := by
  have hlength : part.length = part'.length :=
    Nat.le_antisymm (h'.longest part h.isPrefix h.begins) (h.longest part' h'.isPrefix h'.begins)
  have hprefix : part <+: part' :=
    List.prefix_of_prefix_length_le h.isPrefix h'.isPrefix (Nat.le_of_eq hlength)
  exact hprefix.eq_of_length hlength

/-- The first character is known from its bytes, whatever follows. -/
theorem utf8EncodeChar_append_inj {c c' : Char} {rest' : List UInt8}
    (h : String.utf8EncodeChar c ++ rest = String.utf8EncodeChar c' ++ rest') :
    c = c' ∧ rest = rest' := by
  have hdecode : ∀ (c : Char) (rest : List UInt8),
      ByteArray.utf8DecodeChar? (String.utf8EncodeChar c ++ rest).toByteArray 0 = some c := by
    intro c rest
    rw [List.toByteArray_append]
    exact ByteArray.utf8DecodeChar?_utf8EncodeChar_append
  have hsame := hdecode c rest
  rw [h, hdecode c' rest'] at hsame
  obtain rfl := Option.some_inj.1 hsame
  exact ⟨rfl, List.append_cancel_left h⟩

/-- The rule determines the text. -/
theorem Lossy.unique (h : Lossy bytes text) (hother : Lossy bytes other) : text = other := by
  induction h generalizing other with
  | nil =>
    generalize hbytes : ([] : List UInt8) = bytes at hother
    cases hother with
    | nil => rfl
    | char c _ => exact absurd (List.append_eq_nil_iff.1 hbytes.symm).1 (utf8EncodeChar_ne_nil c)
    | broken _ hmaximal _ =>
      exact absurd (List.append_eq_nil_iff.1 hbytes.symm).1 hmaximal.nonempty
  | @char rest text c _ ih =>
    generalize hbytes : String.utf8EncodeChar c ++ rest = bytes at hother
    cases hother with
    | nil => exact absurd (List.append_eq_nil_iff.1 hbytes).1 (utf8EncodeChar_ne_nil c)
    | char c' hnext =>
      obtain ⟨rfl, rfl⟩ := utf8EncodeChar_append_inj hbytes
      rw [ih hnext]
    | broken hnone _ _ => exact absurd (hbytes ▸ List.prefix_append _ _) (hnone c)
  | @broken part rest text hnone hmaximal _ ih =>
    generalize hbytes : part ++ rest = bytes at hother
    cases hother with
    | nil => exact absurd (List.append_eq_nil_iff.1 hbytes).1 hmaximal.nonempty
    | char c _ => exact absurd (hbytes ▸ List.prefix_append _ _) (hnone c)
    | broken _ hmaximal' hnext =>
      rw [hbytes] at hmaximal
      obtain rfl := hmaximal.unique hmaximal'
      rw [ih (List.append_cancel_left hbytes ▸ hnext)]

theorem lossy_nil_iff : Lossy bytes [] ↔ bytes = [] := by
  constructor
  · rintro ⟨⟩
    rfl
  · rintro rfl
    exact .nil

end Rule

/-! ## The machine follows the rule -/

namespace Decoder

/-- What is written behind some text is what some bytes are read as. -/
def Reads (text : String) (bytes : List UInt8) (written : String) : Prop :=
  ∃ more, written = text ++ String.ofList more ∧ Lossy bytes more

section Reads

variable {part rest : List UInt8} {text written : String} {b : UInt8}

theorem push_append (text : String) (c : Char) (more : List Char) :
    text.push c ++ String.ofList more = text ++ String.ofList (c :: more) := by
  rw [← String.toList_inj]
  simp

theorem Reads.nil : Reads text [] text := ⟨[], by simp, .nil⟩

theorem Reads.char {c : Char} (hc : String.utf8EncodeChar c = part)
    (h : Reads (text.push c) rest written) : Reads text (part ++ rest) written := by
  obtain ⟨more, rfl, hmore⟩ := h
  exact ⟨c :: more, push_append text c more, hc ▸ .char c hmore⟩

/-- A replacement character is written for some bytes that no byte continues as a character does. -/
theorem Reads.broken (hne : part ≠ []) (hbegins : part.length = 1 ∨ Begins part)
    (hnone : Unconvertible part) (hstop : ∀ b ∈ rest.head?, ¬ Begins (part ++ [b]))
    (h : Reads (text.push replacement) rest written) : Reads text (part ++ rest) written := by
  obtain ⟨more, rfl, hmore⟩ := h
  obtain ⟨hunconvertible, hmaximal⟩ := maximalPart_of_stop hne hbegins hnone hstop
  exact ⟨replacement :: more, push_append text replacement more,
    .broken hunconvertible hmaximal hmore⟩

/-- The machine follows the rule on some bytes, at rest or inside a character. -/
structure Follows (rest : List UInt8) : Prop where
  rested : ∀ text, Reads text rest (rest.foldl step ⟨text, none⟩).finish
  inside : ∀ text u pending, u.Pending pending →
    Reads text (pending ++ rest) (rest.foldl step ⟨text, some u⟩).finish

/-- A first byte is all of a character, promises more of one, or is replaced alone. -/
theorem Follows.lead (h : Follows rest) (text : String) (b : UInt8) :
    Reads text (b :: rest) (rest.foldl step (lead text b)).finish := by
  unfold Decoder.lead
  split_ifs with hb
  · exact (h.rested _).char (utf8EncodeChar_one hb)
  · split
    · next u hlead => exact h.inside text u [b] (Unfinished.pending_of_lead hlead)
    · next hlead =>
      have hnone := Unfinished.not_begins_of_lead hb hlead
      have hunconvertible : Unconvertible [b] := by
        intro c hc
        rcases List.prefix_cons_iff.1 hc with hnil | ⟨tail, htail, -⟩
        · exact utf8EncodeChar_ne_nil c hnil
        · exact hnone ⟨c, tail, htail.symm⟩
      have hstop : ∀ next ∈ rest.head?, ¬ Begins ([b] ++ [next]) := fun next _ hmore =>
        hnone (hmore.of_prefix (List.prefix_append [b] [next]))
      exact (h.rested _).broken (List.cons_ne_nil b []) (.inl rfl) hunconvertible hstop

/-- The induction is on the bytes still to come. A byte that is refused counts twice: it ends what
is replaced, and it is a first byte. -/
theorem follows (rest : List UInt8) : Follows rest := by
  induction rest with
  | nil =>
    refine ⟨fun text => .nil, fun text u pending hpending => ?_⟩
    exact Reads.nil.broken hpending.nonempty (.inr hpending.begins) hpending.unfinished (by simp)
  | cons b rest ih =>
    refine ⟨fun text => ih.lead text b, fun text u pending hpending => ?_⟩
    obtain ⟨further, bits, least, greatest⟩ := u
    by_cases hb : least ≤ b ∧ b ≤ greatest
    · simp only [List.foldl_cons, step, if_pos hb]
      rw [← List.singleton_append, ← List.append_assoc]
      cases further with
      | zero => exact (ih.rested _).char (hpending.last hb)
      | succ further => exact ih.inside text _ _ (hpending.more hb)
    · have hstop : ∀ next ∈ (b :: rest).head?, ¬ Begins (pending ++ [next]) := by
        rintro next ⟨⟩
        exact hpending.refused hb
      simp only [List.foldl_cons, step, if_neg hb]
      exact (ih.lead (text.push replacement) b).broken hpending.nonempty (.inr hpending.begins)
        hpending.unfinished hstop

end Reads

/-! ## A beginning of the bytes -/

/-- What has been written is never taken back. -/
theorem text_prefix_step (d : Decoder) (b : UInt8) :
    d.text.toList <+: (step d b).text.toList := by
  have hlead : ∀ text, text.toList <+: (lead text b).text.toList := by
    intro text
    unfold lead
    split_ifs
    · simp
    · split <;> simp
  obtain ⟨text, _ | u⟩ := d
  · exact hlead text
  · simp only [step]
    split_ifs
    · split <;> simp
    · exact List.IsPrefix.trans (by simp) (hlead (text.push replacement))

theorem text_prefix_foldl (bytes : List UInt8) (d : Decoder) :
    d.text.toList <+: (bytes.foldl step d).text.toList := by
  induction bytes generalizing d with
  | nil => exact List.prefix_refl _
  | cons b bytes ih => exact (text_prefix_step d b).trans (ih (step d b))

theorem text_prefix_finish (d : Decoder) : d.text.toList <+: d.finish.toList := by
  obtain ⟨text, _ | u⟩ := d <;> simp [finish]

/-- At the end one character may be written that was not there before. -/
theorem dropLast_finish_prefix (d : Decoder) : d.finish.toList.dropLast <+: d.text.toList := by
  obtain ⟨text, _ | u⟩ := d
  · exact List.dropLast_prefix _
  · simp [finish]

end Decoder

/-- The machine reads bytes by the rule. -/
theorem lossy_iff {bytes : List UInt8} {text : List Char} :
    Lossy bytes text ↔ text = (bytes.foldl Decoder.step Decoder.start).finish.toList := by
  have hread : Lossy bytes (bytes.foldl Decoder.step Decoder.start).finish.toList := by
    obtain ⟨more, hwritten, hmore⟩ := (Decoder.follows bytes).rested ""
    rw [Decoder.start, hwritten]
    simpa using hmore
  constructor
  · exact fun h => h.unique hread
  · rintro rfl
    exact hread

theorem lossy_decode (bytes : ByteArray) : Lossy bytes.data.toList (decode bytes).toList := by
  rw [lossy_iff, decode, Array.foldl_toList]

/-- Bytes that are cut off are read as the others are, up to the character that was cut. -/
theorem dropLast_prefix_of_lossy {bytes part : List UInt8} {text cut : List Char}
    (hpart : part <+: bytes) (hcut : Lossy part cut) (htext : Lossy bytes text) :
    cut.dropLast <+: text := by
  obtain ⟨rest, rfl⟩ := hpart
  rw [lossy_iff.1 hcut, lossy_iff.1 htext, List.foldl_append]
  exact (Decoder.dropLast_finish_prefix _).trans
    ((Decoder.text_prefix_foldl rest _).trans (Decoder.text_prefix_finish _))

end AsmHarness.Utf8
