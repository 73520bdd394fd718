import AsmHarness.Proofs.Utf8
import Mathlib.Data.String.Basic

/-!
# The order of bytes

Names are compared byte by byte. The bytes of a character are chosen such that this is the same as
comparing texts character by character.
-/

namespace AsmHarness.Utf8

/-- The bytes that a text is written as. -/
def bytes (text : String) : List UInt8 := text.toUTF8.data.toList

theorem ofNat_lt_ofNat {m n : Nat} (hm : m < 256) (hn : n < 256) :
    UInt8.ofNat m < UInt8.ofNat n ↔ m < n := by
  rw [UInt8.lt_iff_toNat_lt, Decoder.toNat_ofNat hm, Decoder.toNat_ofNat hn]

theorem ofNat_inj {m n : Nat} (hm : m < 256) (hn : n < 256) :
    UInt8.ofNat m = UInt8.ofNat n ↔ m = n := by
  rw [← UInt8.toNat_inj, Decoder.toNat_ofNat hm, Decoder.toNat_ofNat hn]

/-- The bytes of two characters decide a comparison, whatever follows them. A longer form begins
with a greater byte; in forms of one length the bits of the greater character come first. -/
theorem utf8EncodeChar_append_lt {c d : Char} (h : c < d) (s t : List UInt8) :
    String.utf8EncodeChar c ++ s < String.utf8EncodeChar d ++ t := by
  have hlt : c.val.toNat < d.val.toNat := h
  have hmax : d.val.toNat < 0xD800 ∨ (0xDFFF < d.val.toNat ∧ d.val.toNat < 0x110000) := d.valid
  unfold String.utf8EncodeChar
  generalize c.val.toNat = m at hlt
  generalize d.val.toNat = n at hlt hmax
  -- the remainders, in terms of quotients alone
  have hbits : ∀ k < 0x110000, k / 262144 % 8 = k / 262144 ∧
      k / 4096 % 64 = k / 4096 - k / 262144 * 64 ∧ k / 64 % 64 = k / 64 - k / 4096 * 64 := by
    omega
  have hm := hbits m (by omega)
  have hn := hbits n (by omega)
  dsimp only
  split_ifs <;>
    simp (disch := omega) only [List.cons_append, List.nil_append, List.cons_lt_cons_iff,
      ofNat_lt_ofNat, ofNat_inj] <;>
    omega

theorem flatMap_utf8EncodeChar_lt {a b : List Char} (h : a < b) :
    a.flatMap String.utf8EncodeChar < b.flatMap String.utf8EncodeChar := by
  induction h with
  | @nil c rest =>
    rw [List.flatMap_nil, List.flatMap_cons]
    obtain ⟨first, more, hmore⟩ :=
      List.exists_cons_of_ne_nil (String.utf8EncodeChar_ne_nil (c := c))
    rw [hmore]
    exact .nil
  | @rel c _ d _ hlt => exact utf8EncodeChar_append_lt hlt _ _
  | @cons c s t _ ih => exact List.Lex.append_left _ ih _

/-- Texts are in the order of their bytes. -/
theorem bytes_lt_iff {a b : String} : bytes a < bytes b ↔ a < b := by
  have hmono : ∀ {a b : String}, a < b → bytes a < bytes b := by
    intro a b h
    rw [bytes, bytes, toList_data_toUTF8, toList_data_toUTF8]
    exact flatMap_utf8EncodeChar_lt (String.lt_iff_toList_lt.1 h)
  refine ⟨fun h => ?_, hmono⟩
  rcases lt_trichotomy a b with hlt | rfl | hgt
  · exact hlt
  · exact absurd h (List.lt_irrefl _)
  · exact absurd h (List.lt_asymm (hmono hgt))

theorem bytes_le_iff {a b : String} : bytes a ≤ bytes b ↔ a ≤ b := by
  rw [← List.not_lt, ← not_lt, bytes_lt_iff]

end AsmHarness.Utf8
