/-!
# Reading bytes as UTF-8

Bytes become text by a machine that takes one byte at a time. Between characters it stands at rest;
inside one it knows how many continuation bytes are still needed and which range the next one must
fall in, so it refuses a byte as soon as no character can contain it. `decode` writes a replacement
character for each run of bytes that was refused or broken off, and thus never fails; what it has
written for a beginning of the bytes it never takes back.
-/

namespace AsmHarness.Utf8

/-- The character written in place of bytes that are not UTF-8. -/
def replacement : Char := '\ufffd'

/-- A character whose first bytes have been read. -/
structure Unfinished where
  /-- How many more bytes it needs after the next one. -/
  further : Nat
  /-- The bits of its code point read so far. -/
  bits : Nat
  /-- The least byte that may come next. -/
  least : UInt8
  /-- The greatest byte that may come next. -/
  greatest : UInt8
  deriving Repr, DecidableEq

/-- The state of the machine: the text written so far, and the character it is inside of. -/
structure Decoder where
  /-- The text written so far. -/
  text : String
  /-- The character whose first bytes have been read, if any. -/
  unfinished : Option Unfinished
  deriving Repr, DecidableEq

/-- What the first byte of a character longer than one byte promises. No such character begins with
a continuation byte, with a byte that only longer-than-needed forms begin with, or with one that
would lead beyond the last code point; the second byte is restricted for the same reasons and to
keep surrogates out. -/
def Unfinished.ofLead (b : UInt8) : Option Unfinished :=
  if 0xC2 ≤ b ∧ b ≤ 0xDF then some ⟨0, b.toNat % 0x20, 0x80, 0xBF⟩
  else if 0xE0 ≤ b ∧ b ≤ 0xEF then
    some ⟨1, b.toNat % 0x10, if b = 0xE0 then 0xA0 else 0x80, if b = 0xED then 0x9F else 0xBF⟩
  else if 0xF0 ≤ b ∧ b ≤ 0xF4 then
    some ⟨2, b.toNat % 0x08, if b = 0xF0 then 0x90 else 0x80, if b = 0xF4 then 0x8F else 0xBF⟩
  else none

namespace Decoder

/-- The machine before the first byte. -/
def start : Decoder := ⟨"", none⟩

/-- Reads the first byte of a character. -/
def lead (text : String) (b : UInt8) : Decoder :=
  if b < 0x80 then ⟨text.push (Char.ofNat b.toNat), none⟩
  else match Unfinished.ofLead b with
    | some u => ⟨text, some u⟩
    | none => ⟨text.push replacement, none⟩

/-- Reads one byte. A byte that cannot continue the current character ends it with a replacement
character and is then read as a first byte. -/
def step (d : Decoder) (b : UInt8) : Decoder :=
  match d with
  | ⟨text, none⟩ => lead text b
  | ⟨text, some u⟩ =>
    if u.least ≤ b ∧ b ≤ u.greatest then
      let bits := u.bits * 0x40 + b.toNat % 0x40
      match u.further with
      | 0 => ⟨text.push (Char.ofNat bits), none⟩
      | n + 1 => ⟨text, some ⟨n, bits, 0x80, 0xBF⟩⟩
    else lead (text.push replacement) b

/-- Ends the text: a character broken off by the end becomes a replacement character. -/
def finish (d : Decoder) : String :=
  match d.unfinished with
  | none => d.text
  | some _ => d.text.push replacement

end Decoder

/-- The text of some bytes, with replacement characters where they are not UTF-8. -/
def decode (bytes : ByteArray) : String :=
  (bytes.data.foldl Decoder.step Decoder.start).finish

/-- The text of some bytes, none unless all of them are UTF-8. -/
def decode? (bytes : ByteArray) : Option String :=
  String.fromUTF8? bytes

end AsmHarness.Utf8
