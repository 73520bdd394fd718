import AsmHarness.Proofs.Utf8

/-!
# Inside a character

When the machine has read the first bytes of a character, it knows which bytes complete it: exactly
those that stand behind them in the bytes of some character. So a byte it refuses continues no
character, and a byte it takes continues one.
-/

namespace AsmHarness.Utf8

/-- Some bytes are all of a character or the first bytes of one. -/
def Begins (bytes : List UInt8) : Prop := ∃ c, bytes <+: String.utf8EncodeChar c

theorem Begins.of_prefix {part bytes : List UInt8} (h : Begins bytes) (hpart : part <+: bytes) :
    Begins part := by
  obtain ⟨c, hc⟩ := h
  exact ⟨c, hpart.trans hc⟩

theorem utf8EncodeChar_ne_nil (c : Char) : String.utf8EncodeChar c ≠ [] := by
  rw [← List.length_pos_iff, String.length_utf8EncodeChar]
  exact c.utf8Size_pos

namespace Unfinished

/-- Some bytes complete an unfinished character. -/
inductive Completes : Unfinished → List UInt8 → Char → Prop where
  | last {bits : Nat} {least greatest b : UInt8} (inRange : least ≤ b ∧ b ≤ greatest) :
      Completes ⟨0, bits, least, greatest⟩ [b] (Char.ofNat (bits * 0x40 + b.toNat % 0x40))
  | more {further bits : Nat} {least greatest b : UInt8} {rest : List UInt8} {c : Char}
      (inRange : least ≤ b ∧ b ≤ greatest)
      (next : Completes ⟨further, bits * 0x40 + b.toNat % 0x40, 0x80, 0xBF⟩ rest c) :
      Completes ⟨further + 1, bits, least, greatest⟩ (b :: rest) c

variable {u : Unfinished} {b : UInt8} {tail : List UInt8} {c : Char}

theorem Completes.inRange (h : u.Completes (b :: tail) c) : u.least ≤ b ∧ b ≤ u.greatest := by
  cases h <;> assumption

/-- Every unfinished character can be completed. -/
theorem exists_completes (h : u.least ≤ u.greatest) : ∃ tail c, u.Completes tail c := by
  obtain ⟨further, bits, least, greatest⟩ := u
  induction further generalizing bits least greatest with
  | zero => exact ⟨_, _, .last ⟨UInt8.le_refl _, h⟩⟩
  | succ further ih =>
    have hrange : (0x80 : UInt8) ≤ 0xBF := by decide
    obtain ⟨tail, c, hnext⟩ := ih (bits * 0x40 + least.toNat % 0x40) 0x80 0xBF hrange
    exact ⟨_, c, .more ⟨UInt8.le_refl _, h⟩ hnext⟩

/-! ### Written characters are completed -/

/-- A byte behind the first of a character, as it is written, is in a range. -/
theorem written_inRange {m : Nat} {least greatest : UInt8} (hleast : least.toNat ≤ m % 0x40 + 0x80)
    (hgreatest : m % 0x40 + 0x80 ≤ greatest.toNat) :
    least ≤ UInt8.ofNat (m % 0x40 + 0x80) ∧ UInt8.ofNat (m % 0x40 + 0x80) ≤ greatest := by
  rw [UInt8.le_iff_toNat_le, UInt8.le_iff_toNat_le, Decoder.toNat_ofNat (by omega)]
  exact ⟨hleast, hgreatest⟩

theorem completes_written {m bits v : Nat} {least greatest : UInt8}
    (hleast : least.toNat ≤ m % 0x40 + 0x80) (hgreatest : m % 0x40 + 0x80 ≤ greatest.toNat)
    (hbits : bits * 0x40 + m % 0x40 = v) :
    Completes ⟨0, bits, least, greatest⟩ [UInt8.ofNat (m % 0x40 + 0x80)] (Char.ofNat v) := by
  have hlast : Completes ⟨0, bits, least, greatest⟩ _ _ :=
    .last (written_inRange hleast hgreatest)
  rw [Decoder.toNat_ofNat (by omega)] at hlast
  rwa [show (m % 0x40 + 0x80) % 0x40 = m % 0x40 by omega, hbits] at hlast

theorem completes_written_more {m bits further : Nat} {least greatest : UInt8} {rest : List UInt8}
    (hleast : least.toNat ≤ m % 0x40 + 0x80) (hgreatest : m % 0x40 + 0x80 ≤ greatest.toNat)
    (hnext : Completes ⟨further, bits * 0x40 + m % 0x40, 0x80, 0xBF⟩ rest c) :
    Completes ⟨further + 1, bits, least, greatest⟩ (UInt8.ofNat (m % 0x40 + 0x80) :: rest) c := by
  refine .more (written_inRange hleast hgreatest) ?_
  rwa [Decoder.toNat_ofNat (by omega), show (m % 0x40 + 0x80) % 0x40 = m % 0x40 by omega]

/-- The first byte of a character is all of it, or promises the bytes that follow. -/
theorem lead_of_utf8EncodeChar (h : String.utf8EncodeChar c = b :: tail) :
    (b < 0x80 ∧ tail = []) ∨ ∃ u, ofLead b = some u ∧ u.Completes tail c := by
  have hc : Char.ofNat c.val.toNat = c := Char.ofNat_toNat c
  have hvalid : c.val.toNat < 0xD800 ∨ (0xDFFF < c.val.toNat ∧ c.val.toNat < 0x110000) := c.valid
  unfold String.utf8EncodeChar at h
  generalize c.val.toNat = v at hc hvalid h
  subst hc
  dsimp only at h
  split_ifs at h with hone htwo hthree
  · obtain ⟨rfl, rfl⟩ := List.cons.inj h
    refine .inl ⟨?_, rfl⟩
    rw [UInt8.lt_iff_toNat_lt, Decoder.toNat_ofNat (by omega)]
    exact Nat.lt_of_le_of_lt hone (by decide)
  · obtain ⟨rfl, rfl⟩ := List.cons.inj h
    refine .inr ⟨_, ofLead_two (v / 64 % 0x20) (by omega) (by omega), ?_⟩
    exact completes_written (by simp) (by simp; omega) (by omega)
  · obtain ⟨rfl, rfl⟩ := List.cons.inj h
    refine .inr ⟨_, ofLead_three (v / 4096 % 0x10) (by omega), ?_⟩
    refine completes_written_more (by split_ifs <;> simp; omega)
      (by split_ifs <;> simp <;> omega) ?_
    exact completes_written (by simp) (by simp; omega) (by omega)
  · obtain ⟨rfl, rfl⟩ := List.cons.inj h
    refine .inr ⟨_, ofLead_four (v / 262144 % 0x08) (by omega), ?_⟩
    refine completes_written_more (by split_ifs <;> simp; omega)
      (by split_ifs <;> simp <;> omega) ?_
    refine completes_written_more (by simp) (by simp; omega) ?_
    exact completes_written (by simp) (by simp; omega) (by omega)

/-! ### Completed characters are written so -/

theorem val_ofNat {v : Nat} (h : v.isValidChar) : (Char.ofNat v).val.toNat = v := by
  rw [Char.ofNat, dif_pos h]
  rfl

theorem utf8EncodeChar_two {v : Nat} (hlow : 0x80 ≤ v) (hhigh : v < 0x800) :
    String.utf8EncodeChar (Char.ofNat v) =
      [UInt8.ofNat (v / 64 % 0x20 + 0xc0), UInt8.ofNat (v % 0x40 + 0x80)] := by
  unfold String.utf8EncodeChar
  rw [val_ofNat (.inl (by omega))]
  dsimp only
  rw [if_neg (by omega), if_pos (by omega)]

theorem utf8EncodeChar_three {v : Nat} (hlow : 0x800 ≤ v) (hhigh : v < 0x10000)
    (hvalid : v.isValidChar) : String.utf8EncodeChar (Char.ofNat v) =
      [UInt8.ofNat (v / 4096 % 0x10 + 0xe0), UInt8.ofNat (v / 64 % 0x40 + 0x80),
        UInt8.ofNat (v % 0x40 + 0x80)] := by
  unfold String.utf8EncodeChar
  rw [val_ofNat hvalid]
  dsimp only
  rw [if_neg (by omega), if_neg (by omega), if_pos (by omega)]

theorem utf8EncodeChar_four {v : Nat} (hlow : 0x10000 ≤ v) (hhigh : v < 0x110000) :
    String.utf8EncodeChar (Char.ofNat v) =
      [UInt8.ofNat (v / 262144 % 0x08 + 0xf0), UInt8.ofNat (v / 4096 % 0x40 + 0x80),
        UInt8.ofNat (v / 64 % 0x40 + 0x80), UInt8.ofNat (v % 0x40 + 0x80)] := by
  unfold String.utf8EncodeChar
  rw [val_ofNat (.inr ⟨by omega, by omega⟩)]
  dsimp only
  rw [if_neg (by omega), if_neg (by omega), if_neg (by omega)]

theorem ofNat_eq {n : Nat} (h : b.toNat = n) : UInt8.ofNat n = b := by
  rw [← h, UInt8.ofNat_toNat]

/-- The range of a second byte depends on the first. -/
theorem bounds_of_inRange {b₁ x y low low' high high' : UInt8}
    (h : (if b = x then low' else low) ≤ b₁ ∧ b₁ ≤ if b = y then high' else high) :
    (b.toNat = x.toNat → low'.toNat ≤ b₁.toNat) ∧ (b.toNat ≠ x.toNat → low.toNat ≤ b₁.toNat) ∧
      (b.toNat = y.toNat → b₁.toNat ≤ high'.toNat) ∧
      (b.toNat ≠ y.toNat → b₁.toNat ≤ high.toNat) := by
  simp only [Ne, UInt8.toNat_inj, ← UInt8.le_iff_toNat_le]
  refine ⟨fun hx => ?_, fun hx => ?_, fun hy => ?_, fun hy => ?_⟩
  · rw [if_pos hx] at h
    exact h.1
  · rw [if_neg hx] at h
    exact h.1
  · rw [if_pos hy] at h
    exact h.2
  · rw [if_neg hy] at h
    exact h.2

/-- What completes the character that a byte promises is written behind it. -/
theorem Completes.utf8EncodeChar_eq (hlead : ofLead b = some u) (h : u.Completes tail c) :
    String.utf8EncodeChar c = b :: tail := by
  unfold ofLead at hlead
  split at hlead
  · next htwo =>
    obtain rfl := Option.some_inj.1 hlead
    obtain @⟨_, _, _, b₁, h₁⟩ := h
    simp only [UInt8.le_iff_toNat_le, UInt8.reduceToNat] at htwo h₁
    rw [utf8EncodeChar_two (by omega) (by omega), ofNat_eq (b := b) (by omega),
      ofNat_eq (b := b₁) (by omega)]
  · split at hlead
    · next hthree =>
      obtain rfl := Option.some_inj.1 hlead
      cases h with
      | @more _ _ _ _ b₁ _ _ h₁ next =>
      obtain @⟨_, _, _, b₂, h₂⟩ := next
      replace h₁ := bounds_of_inRange h₁
      simp only [UInt8.le_iff_toNat_le, UInt8.reduceToNat] at hthree h₁ h₂
      have hvalid : Nat.isValidChar
          ((b.toNat % 0x10 * 0x40 + b₁.toNat % 0x40) * 0x40 + b₂.toNat % 0x40) := by
        unfold Nat.isValidChar
        omega
      rw [utf8EncodeChar_three (by omega) (by omega) hvalid, ofNat_eq (b := b) (by omega),
        ofNat_eq (b := b₁) (by omega), ofNat_eq (b := b₂) (by omega)]
    · split at hlead
      · next hfour =>
        obtain rfl := Option.some_inj.1 hlead
        cases h with
        | @more _ _ _ _ b₁ _ _ h₁ next =>
        cases next with
        | @more _ _ _ _ b₂ _ _ h₂ next =>
        obtain @⟨_, _, _, b₃, h₃⟩ := next
        replace h₁ := bounds_of_inRange h₁
        simp only [UInt8.le_iff_toNat_le, UInt8.reduceToNat] at hfour h₁ h₂ h₃
        rw [utf8EncodeChar_four (by omega) (by omega), ofNat_eq (b := b) (by omega),
          ofNat_eq (b := b₁) (by omega), ofNat_eq (b := b₂) (by omega),
          ofNat_eq (b := b₃) (by omega)]
      · cases hlead

/-! ### The bytes read so far -/

theorem ofLead_one : ∀ n < 0x80, ofLead (UInt8.ofNat n) = none := by
  decide

theorem least_le_greatest_ofLead :
    ∀ n < 256, ∀ u ∈ ofLead (UInt8.ofNat n), u.least ≤ u.greatest := by
  decide +kernel

/-- Some bytes are the first bytes of a character, and what is known of it is what can follow. -/
structure Pending (u : Unfinished) (bytes : List UInt8) : Prop where
  nonempty : bytes ≠ []
  completable : u.least ≤ u.greatest
  /-- No character stands at their beginning. -/
  unfinished : ∀ c, ¬ String.utf8EncodeChar c <+: bytes
  completes : ∀ tail c, u.Completes tail c ↔ String.utf8EncodeChar c = bytes ++ tail

section Pending

variable {bytes : List UInt8} {further bits : Nat} {least greatest : UInt8}

theorem not_completes_nil : ¬ u.Completes [] c := by
  rintro ⟨⟩

/-- If a character is completed by further bytes only, it does not stand at the beginning. -/
theorem unfinished_of_completes
    (h : ∀ tail c, u.Completes tail c ↔ String.utf8EncodeChar c = bytes ++ [b] ++ tail)
    (hbefore : ∀ c, ¬ String.utf8EncodeChar c <+: bytes) (c : Char) :
    ¬ String.utf8EncodeChar c <+: bytes ++ [b] := by
  intro hc
  rcases List.prefix_concat_iff.1 hc with heq | hshort
  · exact not_completes_nil ((h [] c).2 (by rw [heq, List.append_nil]))
  · exact hbefore c hshort

/-- The first byte of a character longer than that. -/
theorem pending_of_lead (hlead : ofLead b = some u) : u.Pending [b] := by
  have hbyte : UInt8.ofNat b.toNat = b := UInt8.ofNat_toNat
  have hcompletes : ∀ tail c, u.Completes tail c ↔ String.utf8EncodeChar c = [] ++ [b] ++ tail := by
    refine fun tail c => ⟨fun h => h.utf8EncodeChar_eq hlead, fun h => ?_⟩
    rcases lead_of_utf8EncodeChar h with ⟨hb, -⟩ | ⟨u', hu', hcompletes⟩
    · have hnone := ofLead_one b.toNat (UInt8.lt_iff_toNat_lt.1 hb)
      rw [hbyte, hlead] at hnone
      cases hnone
    · obtain rfl := Option.some_inj.1 (hlead.symm.trans hu')
      exact hcompletes
  refine ⟨List.cons_ne_nil b [], ?_, ?_, hcompletes⟩
  · refine least_le_greatest_ofLead b.toNat b.toNat_lt u ?_
    rw [hbyte, hlead]
    rfl
  · exact unfinished_of_completes hcompletes fun c hc =>
      utf8EncodeChar_ne_nil c (List.prefix_nil.1 hc)

/-- A byte that is not the last one of a character. -/
theorem Pending.more (h : Pending ⟨further + 1, bits, least, greatest⟩ bytes)
    (hb : least ≤ b ∧ b ≤ greatest) :
    Pending ⟨further, bits * 0x40 + b.toNat % 0x40, 0x80, 0xBF⟩ (bytes ++ [b]) := by
  have hcompletes : ∀ tail c,
      Completes ⟨further, bits * 0x40 + b.toNat % 0x40, 0x80, 0xBF⟩ tail c ↔
        String.utf8EncodeChar c = bytes ++ [b] ++ tail := by
    intro tail c
    rw [List.append_assoc, List.singleton_append, ← h.completes (b :: tail) c]
    constructor
    · exact .more hb
    · rintro ⟨⟩
      assumption
  have hrange : (0x80 : UInt8) ≤ 0xBF := by decide
  exact ⟨by simp, hrange, unfinished_of_completes hcompletes h.unfinished, hcompletes⟩

/-- The last byte of a character. -/
theorem Pending.last (h : Pending ⟨0, bits, least, greatest⟩ bytes)
    (hb : least ≤ b ∧ b ≤ greatest) :
    String.utf8EncodeChar (Char.ofNat (bits * 0x40 + b.toNat % 0x40)) = bytes ++ [b] :=
  (h.completes [b] _).1 (.last hb)

theorem Pending.begins (h : u.Pending bytes) : Begins bytes := by
  obtain ⟨tail, c, hcompletes⟩ := exists_completes h.completable
  exact ⟨c, tail, ((h.completes tail c).1 hcompletes).symm⟩

/-- A byte that is refused continues no character. -/
theorem Pending.refused (h : u.Pending bytes) (hb : ¬ (u.least ≤ b ∧ b ≤ u.greatest)) :
    ¬ Begins (bytes ++ [b]) := by
  rintro ⟨c, tail, hc⟩
  rw [List.append_assoc, List.singleton_append] at hc
  exact hb ((h.completes (b :: tail) c).2 hc.symm).inRange

end Pending

/-- Where nothing is promised, no character begins. -/
theorem not_begins_of_lead (hb : ¬ b < 0x80) (hlead : ofLead b = none) : ¬ Begins [b] := by
  rintro ⟨c, tail, hc⟩
  rcases lead_of_utf8EncodeChar hc.symm with ⟨hlow, -⟩ | ⟨u, hu, -⟩
  · exact hb hlow
  · rw [hlead] at hu
    cases hu

end Unfinished

/-- A byte that is a character of its own. -/
theorem utf8EncodeChar_one {b : UInt8} (hb : b < 0x80) :
    String.utf8EncodeChar (Char.ofNat b.toNat) = [b] := by
  rw [UInt8.lt_iff_toNat_lt] at hb
  have hlow : b.toNat < 128 := hb
  unfold String.utf8EncodeChar
  rw [Unfinished.val_ofNat (.inl (by omega))]
  dsimp only
  rw [if_pos (by omega), UInt8.ofNat_toNat]

end AsmHarness.Utf8
