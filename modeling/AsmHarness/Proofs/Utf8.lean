import AsmHarness.Text.Utf8
import Mathlib.Tactic.SplitIfs

/-!
# Reading text that was written

The bytes that a text is written as are read as the same text. The machine takes the bytes of one
character after the other; at the end of each it is at rest again, with that character written.
-/

namespace AsmHarness.Utf8

namespace Decoder

/-! ## Single bytes -/

theorem toNat_ofNat {n : Nat} (h : n < 256) : (UInt8.ofNat n).toNat = n := by
  simpa using h

theorem start_one {n : Nat} (h : n ≤ 0x7f) (text : String) :
    step ⟨text, none⟩ (UInt8.ofNat n) = ⟨text.push (Char.ofNat n), none⟩ := by
  have hn := toNat_ofNat (n := n) (by omega)
  have hlt : UInt8.ofNat n < 0x80 := by
    rw [UInt8.lt_iff_toNat_lt, hn]
    exact Nat.lt_of_le_of_lt h (by decide)
  simp only [step, lead, if_pos hlt, hn]

/-- A byte that promises more bytes. -/
theorem start_more {n : Nat} (h : 0x80 ≤ n) (hn : n < 256) (text : String) {u : Unfinished}
    (hu : Unfinished.ofLead (UInt8.ofNat n) = some u) :
    step ⟨text, none⟩ (UInt8.ofNat n) = ⟨text, some u⟩ := by
  have hge : ¬ UInt8.ofNat n < 0x80 := by
    rw [UInt8.lt_iff_toNat_lt, toNat_ofNat hn]
    exact Nat.not_lt.2 h
  simp only [step, lead, if_neg hge, hu]

/-- A byte that continues a character, as it is written: six bits of it below a mark. -/
theorem step_continue {n bits m : Nat} {least greatest : UInt8} (text : String)
    (hleast : least.toNat ≤ m % 0x40 + 0x80) (hgreatest : m % 0x40 + 0x80 ≤ greatest.toNat) :
    step ⟨text, some ⟨n, bits, least, greatest⟩⟩ (UInt8.ofNat (m % 0x40 + 0x80)) =
      match n with
      | 0 => ⟨text.push (Char.ofNat (bits * 0x40 + m % 0x40)), none⟩
      | n + 1 => ⟨text, some ⟨n, bits * 0x40 + m % 0x40, 0x80, 0xBF⟩⟩ := by
  have hm := toNat_ofNat (n := m % 0x40 + 0x80) (by omega)
  have hrange : least ≤ UInt8.ofNat (m % 0x40 + 0x80) ∧
      UInt8.ofNat (m % 0x40 + 0x80) ≤ greatest := by
    rw [UInt8.le_iff_toNat_le, UInt8.le_iff_toNat_le, hm]
    exact ⟨hleast, hgreatest⟩
  have hbits : (m % 0x40 + 0x80) % 0x40 = m % 0x40 := by omega
  cases n <;> simp only [step, if_pos hrange, hm, hbits]

end Decoder

/-! ## Whole characters -/

theorem ofLead_two : ∀ a < 0x20, 2 ≤ a →
    Unfinished.ofLead (UInt8.ofNat (a + 0xc0)) = some ⟨0, a, 0x80, 0xBF⟩ := by
  decide

theorem ofLead_three : ∀ a < 0x10, Unfinished.ofLead (UInt8.ofNat (a + 0xe0)) =
    some ⟨1, a, if a = 0 then 0xA0 else 0x80, if a = 0xd then 0x9F else 0xBF⟩ := by
  decide

theorem ofLead_four : ∀ a < 0x05, Unfinished.ofLead (UInt8.ofNat (a + 0xf0)) =
    some ⟨2, a, if a = 0 then 0x90 else 0x80, if a = 4 then 0x8F else 0xBF⟩ := by
  decide

/-- A character is read from the bytes it is written as. The four forms differ in how many bits the
first byte holds; the restrictions on the second byte are met because a character is written in the
shortest form, is no surrogate and is not beyond the last code point. -/
theorem foldl_step_utf8EncodeChar (c : Char) (text : String) :
    (String.utf8EncodeChar c).foldl Decoder.step ⟨text, none⟩ = ⟨text.push c, none⟩ := by
  have hc : Char.ofNat c.val.toNat = c := Char.ofNat_toNat c
  have hvalid : c.val.toNat < 0xD800 ∨ (0xDFFF < c.val.toNat ∧ c.val.toNat < 0x110000) := c.valid
  unfold String.utf8EncodeChar
  generalize c.val.toNat = v at hc hvalid
  dsimp only
  split_ifs with hone htwo hthree
  · rw [List.foldl_cons, List.foldl_nil, Decoder.start_one hone, hc]
  · have hlead := ofLead_two (v / 64 % 0x20) (by omega) (by omega)
    have hbits : v / 64 % 0x20 * 0x40 + v % 0x40 = v := by omega
    rw [List.foldl_cons, List.foldl_cons, List.foldl_nil,
      Decoder.start_more (by omega) (by omega) text hlead,
      Decoder.step_continue text (by simp) (by simp; omega)]
    simp only [hbits, hc]
  · have hlead := ofLead_three (v / 4096 % 0x10) (by omega)
    have hbits : (v / 4096 % 0x10 * 0x40 + v / 64 % 0x40) * 0x40 + v % 0x40 = v := by omega
    have hleast : (if v / 4096 % 0x10 = 0 then 0xA0 else 0x80 : UInt8).toNat ≤
        v / 64 % 0x40 + 0x80 := by
      split_ifs
      · simp
        omega
      · simp
    have hgreatest : v / 64 % 0x40 + 0x80 ≤
        (if v / 4096 % 0x10 = 0xd then 0x9F else 0xBF : UInt8).toNat := by
      split_ifs <;> (simp; omega)
    rw [List.foldl_cons, List.foldl_cons, List.foldl_cons, List.foldl_nil,
      Decoder.start_more (by omega) (by omega) text hlead,
      Decoder.step_continue text hleast hgreatest]
    dsimp only
    rw [Decoder.step_continue text (by simp) (by simp; omega)]
    simp only [hbits, hc]
  · have hlead := ofLead_four (v / 262144 % 0x08) (by omega)
    have hbits : ((v / 262144 % 0x08 * 0x40 + v / 4096 % 0x40) * 0x40 + v / 64 % 0x40) * 0x40 +
        v % 0x40 = v := by omega
    have hleast : (if v / 262144 % 0x08 = 0 then 0x90 else 0x80 : UInt8).toNat ≤
        v / 4096 % 0x40 + 0x80 := by
      split_ifs
      · simp
        omega
      · simp
    have hgreatest : v / 4096 % 0x40 + 0x80 ≤
        (if v / 262144 % 0x08 = 4 then 0x8F else 0xBF : UInt8).toNat := by
      split_ifs <;> (simp; omega)
    rw [List.foldl_cons, List.foldl_cons, List.foldl_cons, List.foldl_cons, List.foldl_nil,
      Decoder.start_more (by omega) (by omega) text hlead,
      Decoder.step_continue text hleast hgreatest]
    dsimp only
    rw [Decoder.step_continue text (by simp) (by simp; omega)]
    dsimp only
    rw [Decoder.step_continue text (by simp) (by simp; omega)]
    simp only [hbits, hc]

theorem foldl_step_flatMap (chars : List Char) (text : String) :
    (chars.flatMap String.utf8EncodeChar).foldl Decoder.step ⟨text, none⟩ =
      ⟨text ++ String.ofList chars, none⟩ := by
  induction chars generalizing text with
  | nil => simp
  | cons c rest ih =>
    rw [List.flatMap_cons, List.foldl_append, foldl_step_utf8EncodeChar, ih]
    congr 1
    rw [← String.toList_inj]
    simp

theorem toList_data_toUTF8 (text : String) :
    text.toUTF8.data.toList = text.toList.flatMap String.utf8EncodeChar := by
  have h : (String.ofList text.toList).toUTF8 = text.toList.utf8Encode := rfl
  rw [String.ofList_toList] at h
  rw [h, List.utf8Encode, List.toList_data_toByteArray]

/-- Text that was written is read as it was. -/
theorem decode_toUTF8 (text : String) : decode text.toUTF8 = text := by
  rw [decode, ← Array.foldl_toList, toList_data_toUTF8, Decoder.start, foldl_step_flatMap]
  simp [Decoder.finish]

end AsmHarness.Utf8
