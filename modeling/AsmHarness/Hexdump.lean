/-!
# Hexdumps

A hexdump shows bytes in rows of sixteen: the offset of the row, the bytes in hexadecimal with a
dash in the middle, and the same bytes as text. Places after the last byte are left blank, so all
rows are equally wide.
-/

namespace AsmHarness.Hexdump

/-- How many bytes a row shows. -/
def rowSize : Nat := 16

/-- The digits of a number in hexadecimal, with leading zeros up to the given width. -/
def hexDigits (width n : Nat) : List Char :=
  let digits := Nat.toDigits 16 n
  List.replicate (width - digits.length) '0' ++ digits

/-- The hexadecimal column of one place in a row: a blank and two digits, all blank after the last
byte. -/
def column : Option UInt8 → List Char
  | some b => ' ' :: hexDigits 2 b.toNat
  | none => [' ', ' ', ' ']

/-- The text column of one place in a row: visible characters of ASCII stand for themselves, other
bytes are dots, and places after the last byte are blank. -/
def glyph : Option UInt8 → Char
  | some b => if 32 ≤ b ∧ b ≤ 126 then Char.ofNat b.toNat else '.'
  | none => ' '

/-- The places of a row, those after the last byte being empty. -/
def places (bytes : List UInt8) : List (Option UInt8) :=
  (List.range rowSize).map (bytes[·]?)

/-- The row that shows the given bytes, at most sixteen, from the given offset. -/
def row (offset : Nat) (bytes : List UInt8) : List Char :=
  let cells := places bytes
  hexDigits 8 offset ++ [' ', ' '] ++ (cells.take 8).flatMap column ++ [' ', '-'] ++
    (cells.drop 8).flatMap column ++ [' ', ' ', '|'] ++ cells.map glyph ++ ['|']

/-- The rows that show the given bytes: as many as are needed, row `k` from offset `16 * k` on. -/
def rows (bytes : Array UInt8) : List (List Char) :=
  (List.range ((bytes.size + rowSize - 1) / rowSize)).map fun k =>
    row (rowSize * k) (bytes.extract (rowSize * k) (rowSize * (k + 1))).toList

end AsmHarness.Hexdump

namespace AsmHarness

/-- The hexdump of some bytes, each row ended by a line feed. -/
def hexdump (bytes : ByteArray) : String :=
  .ofList ((Hexdump.rows bytes.data).flatMap (· ++ ['\n']))

end AsmHarness
