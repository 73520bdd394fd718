import AsmHarness.Report
import AsmHarness.Text.Digits
import AsmHarness.Proofs.Diff.Unified
import AsmHarness.Proofs.Text.Lines
import Mathlib.Algebra.Group.Nat.Defs
import Mathlib.Data.List.Forall2
import Mathlib.Data.List.ReduceOption

/-!
# Reading hexdumps

A hexdump is read back line by line: the digits of the offset, sixteen columns that hold a byte or
nothing, and the text beside them. What is read of the dump of some bytes is these bytes, so dumps
tell bytes apart, and the diff of the dumps of two files that differ is never empty.
-/

namespace AsmHarness.Hexdump

open Text (OneLine hexDigit? hexNumber?)

/-! ## A reader -/

/-- What stands in a line. -/
structure Reading where
  /-- The digits of the offset. -/
  digits : List Char
  /-- What the columns hold. -/
  cells : List (Option UInt8)
  /-- The text beside the columns. -/
  text : List Char

/-- What a column holds: nothing if it is blank, else a byte in two digits behind a blank. -/
def cell? : List Char → Option (Option UInt8)
  | [' ', ' ', ' '] => some none
  | [' ', high, low] => (hexNumber? [high, low]).map fun n => some (UInt8.ofNat n)
  | _ => none

/-- What so many columns hold, and what follows them. -/
def cells? : Nat → List Char → Option (List (Option UInt8) × List Char)
  | 0, chars => some ([], chars)
  | n + 1, chars => do
    let cell ← cell? (chars.take 3)
    let (cells, rest) ← cells? n (chars.drop 3)
    some (cell :: cells, rest)

/-- What stands in a line, if it is laid out as a line of a hexdump. -/
def reading? (line : List Char) : Option Reading := do
  let columns ← (line.dropWhile (· ≠ ' ')).dropPrefix? [' ', ' ']
  let (left, rest) ← cells? 8 columns
  let columns ← rest.dropPrefix? [' ', '-']
  let (right, rest) ← cells? 8 columns
  let text ← rest.dropPrefix? [' ', ' ', '|']
  if text.drop 16 = ['|'] then
    some ⟨line.takeWhile (· ≠ ' '), left ++ right, text.take 16⟩
  else none

/-- The bytes that a dump shows. -/
def bytes? (dump : String) : Option (List UInt8) :=
  ((Text.lines dump).dropLast.mapM fun line => reading? line.toList).map fun readings =>
    readings.flatMap (·.cells.reduceOption)

/-- What stands for a place in the text of a line. -/
inductive Glyph : Option UInt8 → Char → Prop where
  | visible {b : UInt8} {c : Char} (least : 32 ≤ b) (greatest : b ≤ 126)
    (same : c.toNat = b.toNat) : Glyph (some b) c
  | other {b : UInt8} (invisible : b < 32 ∨ 126 < b) : Glyph (some b) '.'
  | missing : Glyph none ' '

/-- A line shows the sixteen places from an offset on, some of which may lie behind the bytes. -/
structure Reading.Shows (r : Reading) (bytes : List UInt8) (offset : Nat) : Prop where
  names : hexNumber? r.digits = some offset
  wide : 8 ≤ r.digits.length
  narrow : offset < 16 ^ 8 → r.digits.length = 8
  cells : r.cells = (List.range 16).map fun i => bytes[offset + i]?
  text : List.Forall₂ Glyph r.cells r.text

/-! ## Digits -/

section Digits

variable {digits : List Char} {c : Char} {m n : Nat}

theorem hexDigit?_digitChar (h : n < 16) : hexDigit? n.digitChar = some n := by
  have hall : ∀ n < 16, hexDigit? n.digitChar = some n := by decide
  exact hall n h

/-- A further digit counts sixteen times less than those before it. -/
theorem hexNumber?_concat (hdigits : hexNumber? digits = some m) (hc : hexDigit? c = some n) :
    hexNumber? (digits ++ [c]) = some (16 * m + n) := by
  obtain ⟨values, hvalues, rfl⟩ := Option.map_eq_some_iff.1 hdigits
  simp [hexNumber?, List.mapM_append, hvalues, hc]

theorem hexNumber?_zero_cons (digits : List Char) :
    hexNumber? ('0' :: digits) = hexNumber? digits := by
  have hzero : hexDigit? '0' = some 0 := by decide
  unfold hexNumber?
  rw [List.mapM_cons, hzero]
  cases digits.mapM hexDigit? <;> rfl

theorem hexNumber?_toDigits (n : Nat) : hexNumber? (Nat.toDigits 16 n) = some n := by
  induction n using Nat.strongRecOn with
  | ind n ih =>
    have hempty : hexNumber? [] = some 0 := rfl
    by_cases hn : n < 16
    · have hlast := hexNumber?_concat hempty (hexDigit?_digitChar hn)
      rw [Nat.toDigits_of_lt_base hn]
      simpa using hlast
    · have hfirst := ih (n / 16) (by omega)
      have hlast : hexDigit? (n % 16).digitChar = some (n % 16) :=
        hexDigit?_digitChar (Nat.mod_lt n (by decide))
      rw [Nat.toDigits_of_base_le (by decide) (by omega), hexNumber?_concat hfirst hlast,
        Nat.div_add_mod]

/-- Leading zeros do not change what digits stand for. -/
theorem hexNumber?_hexDigits (width n : Nat) : hexNumber? (hexDigits width n) = some n := by
  simp only [hexDigits]
  generalize width - (Nat.toDigits 16 n).length = zeros
  induction zeros with
  | zero => exact hexNumber?_toDigits n
  | succ zeros ih => rwa [List.replicate_succ, List.cons_append, hexNumber?_zero_cons]

theorem length_hexDigits (width n : Nat) :
    (hexDigits width n).length = max width (Nat.toDigits 16 n).length := by
  simp only [hexDigits, List.length_append, List.length_replicate]
  omega

/-- Digits that stay within the width fill it. -/
theorem length_hexDigits_of_lt {width : Nat} (hwidth : 0 < width) (h : n < 16 ^ width) :
    (hexDigits width n).length = width := by
  have hfits := (Nat.length_toDigits_le_iff (by decide) hwidth).2 h
  rw [length_hexDigits, Nat.max_eq_left hfits]

theorem not_mem_of_hexNumber? (hdigits : hexNumber? digits = some n) (hc : hexDigit? c = none) :
    c ∉ digits := by
  obtain ⟨values, hvalues, -⟩ := Option.map_eq_some_iff.1 hdigits
  clear hdigits
  induction digits generalizing values with
  | nil => simp
  | cons first rest ih =>
    rw [List.mapM_cons, Option.bind_eq_bind, Option.bind_eq_some_iff] at hvalues
    obtain ⟨value, hfirst, hrest⟩ := hvalues
    obtain ⟨more, hmore, -⟩ := Option.bind_eq_some_iff.1 hrest
    rw [List.mem_cons, not_or]
    refine ⟨?_, ih more hmore⟩
    rintro rfl
    rw [hc] at hfirst
    cases hfirst

theorem blank_not_mem_hexDigits (width n : Nat) : ' ' ∉ hexDigits width n :=
  not_mem_of_hexNumber? (hexNumber?_hexDigits width n) (by decide)

theorem lineFeed_not_mem_hexDigits (width n : Nat) : '\n' ∉ hexDigits width n :=
  not_mem_of_hexNumber? (hexNumber?_hexDigits width n) (by decide)

end Digits

/-! ## Columns -/

section Columns

variable (cell : Option UInt8) (cells : List (Option UInt8)) (rest : List Char)

theorem length_hexDigits_byte (b : UInt8) : (hexDigits 2 b.toNat).length = 2 :=
  length_hexDigits_of_lt (by decide) b.toNat_lt

theorem length_column : (column cell).length = 3 := by
  cases cell with
  | none => rfl
  | some b => rw [column, List.length_cons, length_hexDigits_byte]

theorem cell?_column : cell? (column cell) = some cell := by
  cases cell with
  | none => rfl
  | some b =>
    obtain ⟨high, low, hdigits⟩ := List.length_eq_two.1 (length_hexDigits_byte b)
    have hblank : ' ' ∉ [high, low] := hdigits ▸ blank_not_mem_hexDigits 2 b.toNat
    have hnumber : hexNumber? [high, low] = some b.toNat :=
      hdigits ▸ hexNumber?_hexDigits 2 b.toNat
    have hshown : high = ' ' → low ≠ ' ' := by
      rintro rfl
      exact absurd List.mem_cons_self hblank
    rw [column, hdigits, cell?, hnumber, Option.map_some, UInt8.ofNat_toNat]
    exact hshown

theorem length_columns : (cells.flatMap column).length = 3 * cells.length := by
  induction cells with
  | nil => rfl
  | cons cell cells ih =>
    rw [List.flatMap_cons, List.length_append, length_column, ih, List.length_cons]
    omega

/-- Columns are read up to where they end. -/
theorem cells?_columns {n : Nat} (hlength : cells.length = n) :
    cells? n (cells.flatMap column ++ rest) = some (cells, rest) := by
  subst hlength
  induction cells with
  | nil => rfl
  | cons cell cells ih =>
    rw [List.flatMap_cons, List.append_assoc, List.length_cons, cells?,
      List.take_left' (length_column cell), List.drop_left' (length_column cell), cell?_column]
    simp [ih]

theorem glyph_shows : Glyph cell (glyph cell) := by
  cases cell with
  | none => exact .missing
  | some b =>
    by_cases hvisible : 32 ≤ b ∧ b ≤ 126
    · have hle : b.toNat ≤ 126 := hvisible.2
      have hvalid : b.toNat.isValidChar := .inl (by omega)
      have hsame : (Char.ofNat b.toNat).toNat = b.toNat := by
        rw [Char.ofNat, dif_pos hvalid]
        rfl
      rw [glyph, if_pos hvisible]
      exact .visible hvisible.1 hvisible.2 hsame
    · rw [glyph, if_neg hvisible]
      rw [not_and_or, UInt8.not_le, UInt8.not_le] at hvisible
      exact .other hvisible

end Columns

/-! ## Lines -/

theorem length_places (bytes : List UInt8) : (places bytes).length = 16 := by
  simp [places, rowSize]

theorem row_eq (offset : Nat) (bytes : List UInt8) :
    row offset bytes = hexDigits 8 offset ++ ([' ', ' '] ++
      (((places bytes).take 8).flatMap column ++ ([' ', '-'] ++
        (((places bytes).drop 8).flatMap column ++ ([' ', ' ', '|'] ++
          ((places bytes).map glyph ++ ['|'])))))) := by
  simp only [row, List.append_assoc]

theorem dropPrefix?_append (mark rest : List Char) : (mark ++ rest).dropPrefix? mark = some rest :=
  List.dropPrefix?_eq_some_iff.2 ⟨mark, rfl, beq_self_eq_true mark⟩

/-- A line is read as it was laid out. -/
theorem reading?_row (offset : Nat) (bytes : List UInt8) :
    reading? (row offset bytes) =
      some ⟨hexDigits 8 offset, places bytes, (places bytes).map glyph⟩ := by
  have hdigits : ∀ c ∈ hexDigits 8 offset, decide (c ≠ ' ') = true := by
    intro c hc
    refine decide_eq_true ?_
    rintro rfl
    exact blank_not_mem_hexDigits 8 offset hc
  have hleft : ((places bytes).take 8).length = 8 := by simp [length_places]
  have hright : ((places bytes).drop 8).length = 8 := by simp [length_places]
  have hglyphs : ((places bytes).map glyph).length = 16 := by
    rw [List.length_map, length_places]
  have hskipped (rest : List Char) :
      ([' ', ' '] ++ rest).dropWhile (· ≠ ' ') = [' ', ' '] ++ rest := rfl
  have htaken (rest : List Char) : ([' ', ' '] ++ rest).takeWhile (· ≠ ' ') = [] := rfl
  rw [row_eq, reading?, List.dropWhile_append_of_pos hdigits, List.takeWhile_append_of_pos hdigits,
    hskipped, htaken, dropPrefix?_append]
  simp only [Option.bind_eq_bind, Option.bind_some, cells?_columns _ _ hleft,
    cells?_columns _ _ hright, dropPrefix?_append, List.drop_left' hglyphs,
    List.take_left' hglyphs, List.take_append_drop, List.append_nil, if_true]

theorem length_row (offset : Nat) (bytes : List UInt8) :
    (row offset bytes).length = (hexDigits 8 offset).length + 72 := by
  simp only [row_eq, List.length_append, length_columns, List.length_take, List.length_drop,
    List.length_map, length_places, List.length_cons, List.length_nil]
  omega

theorem Glyph.ne_lineFeed {cell : Option UInt8} {c : Char} (h : Glyph cell c) : c ≠ '\n' := by
  cases h with
  | @visible b _ hleast _ hsame =>
    rintro rfl
    have hle : 32 ≤ b.toNat := hleast
    have hten : ('\n' : Char).toNat = 10 := rfl
    omega
  | other => decide
  | missing => decide

theorem lineFeed_not_mem_column (cell : Option UInt8) : '\n' ∉ column cell := by
  cases cell with
  | none => decide
  | some b =>
    rw [column, List.mem_cons, not_or]
    exact ⟨by decide, lineFeed_not_mem_hexDigits 2 b.toNat⟩

/-- A line has no line feeds, whatever bytes it shows. -/
theorem lineFeed_not_mem_row (offset : Nat) (bytes : List UInt8) : '\n' ∉ row offset bytes := by
  have hcolumns (cells : List (Option UInt8)) : '\n' ∉ cells.flatMap column := by
    intro hmem
    obtain ⟨cell, -, hcell⟩ := List.mem_flatMap.1 hmem
    exact lineFeed_not_mem_column cell hcell
  have hglyphs : '\n' ∉ (places bytes).map glyph := by
    intro hmem
    obtain ⟨cell, -, hcell⟩ := List.mem_map.1 hmem
    exact (glyph_shows cell).ne_lineFeed hcell
  have hblanks : '\n' ∉ [' ', ' '] := by decide
  have hdash : '\n' ∉ [' ', '-'] := by decide
  have hopen : '\n' ∉ [' ', ' ', '|'] := by decide
  have hclose : '\n' ∉ ['|'] := by decide
  simp only [row_eq, List.mem_append, not_or]
  exact ⟨lineFeed_not_mem_hexDigits 8 offset, hblanks, hcolumns _, hdash, hcolumns _, hopen,
    hglyphs, hclose⟩

/-! ## Dumps -/

section Dumps

variable (bytes : ByteArray) (k : Nat)

/-- The bytes of a line. -/
def part : List UInt8 := (bytes.data.toList.drop (16 * k)).take 16

/-- What is read of a line. -/
def partReading : Reading :=
  ⟨hexDigits 8 (16 * k), places (part bytes k), (places (part bytes k)).map glyph⟩

theorem rows_eq : rows bytes.data =
    (List.range ((bytes.size + 15) / 16)).map fun k => row (16 * k) (part bytes k) := by
  have hpart (k : Nat) :
      (bytes.data.extract (rowSize * k) (rowSize * (k + 1))).toList = part bytes k := by
    have hlength : rowSize * (k + 1) - rowSize * k = 16 := by
      rw [rowSize]
      omega
    rw [Array.toList_extract, List.extract_eq_take_drop, hlength]
    rfl
  simp only [rows, hpart]
  rfl

theorem shows_partReading : (partReading bytes k).Shows bytes.data.toList (16 * k) where
  names := hexNumber?_hexDigits 8 (16 * k)
  wide := by
    rw [partReading, length_hexDigits]
    exact Nat.le_max_left ..
  narrow := length_hexDigits_of_lt (by decide)
  cells := by
    refine List.map_congr_left fun i hi => ?_
    have hlt : i < 16 := List.mem_range.1 hi
    rw [part, List.getElem?_take_of_lt hlt, List.getElem?_drop]
  text := by
    simp only [partReading, List.forall₂_map_right_iff, List.forall₂_same]
    exact fun cell _ => glyph_shows cell

theorem eq_row_of_getElem? {line : String}
    (h : ((rows bytes.data).map String.ofList)[k]? = some line) :
    line = .ofList (row (16 * k) (part bytes k)) := by
  rw [rows_eq, List.map_map, List.getElem?_map, Option.map_eq_some_iff] at h
  obtain ⟨i, hi, rfl⟩ := h
  obtain ⟨-, rfl⟩ := List.getElem?_eq_some_iff.1 hi
  rw [List.getElem_range]
  rfl

theorem lines_hexdump :
    Text.lines (hexdump bytes) = (rows bytes.data).map String.ofList ++ [""] := by
  have hdump : hexdump bytes = .ofList
      (((rows bytes.data).map String.ofList).flatMap fun line => line.toList ++ ['\n']) := by
    simp only [hexdump, List.flatMap_map, String.toList_ofList]
  rw [hdump, Text.lines_flatMap_lineFeed]
  intro line hline
  obtain ⟨chars, hchars, rfl⟩ := List.mem_map.1 hline
  rw [rows_eq] at hchars
  obtain ⟨k, -, rfl⟩ := List.mem_map.1 hchars
  exact OneLine.ofList (lineFeed_not_mem_row _ _)

/-- The places that hold something hold the items, in order. -/
theorem reduceOption_places {α : Type} (items : List α) (n : Nat) :
    ((List.range n).map (items[·]?)).reduceOption = items.take n := by
  induction n with
  | zero => rfl
  | succ n ih =>
    have hlast : ([n].map (items[·]?)).reduceOption = items[n]?.toList := by
      rw [List.map_singleton, List.reduceOption_singleton]
    rw [List.range_succ, List.map_append, List.reduceOption_append, ih, hlast, List.take_add_one]

/-- Parts of one length that follow each other make up the beginning of a list. -/
theorem flatMap_parts {α : Type} (items : List α) (size n : Nat) :
    ((List.range n).flatMap fun k => (items.drop (size * k)).take size) =
      items.take (size * n) := by
  induction n with
  | zero => simp
  | succ n ih =>
    rw [List.range_succ, List.flatMap_append, ih, List.flatMap_singleton, Nat.mul_succ,
      List.take_add]

/-- What is read of the dump of some bytes is these bytes. -/
theorem bytes?_hexdump : bytes? (hexdump bytes) = some bytes.data.toList := by
  have hread : (fun k => reading? (row (16 * k) (part bytes k))) =
      fun k => pure (partReading bytes k) :=
    funext fun k => reading?_row (16 * k) (part bytes k)
  have hcells (k : Nat) : (partReading bytes k).cells.reduceOption = part bytes k := by
    have hplaces := reduceOption_places (part bytes k) 16
    rwa [part, List.take_take, Nat.min_self] at hplaces
  have hall : bytes.data.toList.length ≤ 16 * ((bytes.size + 15) / 16) := by
    rw [Array.length_toList, ByteArray.size_data]
    omega
  rw [bytes?, lines_hexdump, List.dropLast_concat, List.mapM_map, rows_eq, List.mapM_map]
  simp only [Function.comp_def, String.toList_ofList]
  rw [hread, List.mapM_pure, Option.pure_def, Option.map_some, List.flatMap_map]
  simp only [hcells, part]
  rw [flatMap_parts, List.take_of_length_le hall]

theorem hexdump_inj {bytes others : ByteArray} :
    hexdump bytes = hexdump others ↔ bytes = others := by
  constructor
  · intro h
    have hread := bytes?_hexdump bytes
    rw [h, bytes?_hexdump others] at hread
    exact ByteArray.ext (Array.toList_inj.1 (Option.some_inj.1 hread)).symm
  · rintro rfl
    rfl

theorem lines_hexdump_ne {bytes others : ByteArray} (h : bytes ≠ others) :
    Text.lines (hexdump bytes) ≠ Text.lines (hexdump others) := by
  intro hlines
  have htexts := congrArg Text.unlines hlines
  rw [Text.unlines_lines, Text.unlines_lines] at htexts
  exact h (hexdump_inj.1 htexts)

/-- The dump of some bytes has a line for every sixteen of them and one for what is left. Each line
names its offset and shows the bytes from there on, in columns and as text, and all lines are
equally wide as long as eight digits suffice for the offset. The columns give back the bytes, so
that only equal bytes have equal dumps; a report of two files that differ has a diff that shows
something. -/
theorem hexdump_read_back (bytes others : ByteArray) :
    (∃ lines : List String,
      Text.lines (hexdump bytes) = lines ++ [""] ∧ lines.length = (bytes.size + 15) / 16 ∧
      ∀ k line, lines[k]? = some line →
        (∃ r, reading? line.toList = some r ∧ r.Shows bytes.data.toList (16 * k)) ∧
          (16 * k < 16 ^ 8 → line.length = 80)) ∧
      bytes? (hexdump bytes) = some bytes.data.toList ∧
      (hexdump bytes = hexdump others ↔ bytes = others) ∧
      (bytes ≠ others → ∀ fromName toName : String, ∃ shown, shown ≠ [] ∧
        (Report.Entry.binaryMismatch fromName bytes toName others).lines =
          [Report.indented ("--- hexdump " ++ fromName)] ++ Report.block (hexdump bytes) ++
            [Report.indented ("--- hexdump " ++ toName)] ++ Report.block (hexdump others) ++
            (("--- " ++ fromName) :: ("+++ " ++ toName) :: shown).map Report.indented ++
            [Report.indented "---"]) := by
  refine ⟨⟨(rows bytes.data).map String.ofList, lines_hexdump bytes, ?_, ?_⟩, bytes?_hexdump bytes,
    hexdump_inj, ?_⟩
  · rw [List.length_map, rows_eq, List.length_map, List.length_range]
  · intro k line hline
    rw [eq_row_of_getElem? bytes k hline, String.toList_ofList, String.length_ofList]
    refine ⟨⟨partReading bytes k, reading?_row _ _, shows_partReading bytes k⟩, ?_⟩
    intro hoffset
    rw [length_row, length_hexDigits_of_lt (by decide) hoffset]
  · intro hne fromName toName
    obtain ⟨shown, hshown, hdiff⟩ :=
      Diff.exists_unified_of_ne (lines_hexdump_ne hne) fromName toName
    refine ⟨shown, hshown, ?_⟩
    have htitle (name : String) : "--- hexdump " ++ name = "--- " ++ ("hexdump " ++ name) := by
      rw [← String.append_assoc]
      rfl
    rw [Report.Entry.lines, Report.mismatch, hdiff, htitle, htitle]

/-- A blank at the end and no byte there look the same as text, but not in the columns. -/
theorem hexdump_read_back_blank :
    (⟨#[0x41, 0x20]⟩ : ByteArray) ≠ ⟨#[0x41]⟩ ∧
      hexdump ⟨#[0x41, 0x20]⟩ ≠ hexdump ⟨#[0x41]⟩ ∧
      (∃ line r, Text.lines (hexdump ⟨#[0x41, 0x20]⟩) = [line, ""] ∧
        reading? line.toList = some r ∧ r.Shows [0x41, 0x20] 0 ∧ line.length = 80) ∧
      ∃ shown, shown ≠ [] ∧
        (Report.Entry.binaryMismatch "o.t" ⟨#[0x41, 0x20]⟩ "o" ⟨#[0x41]⟩).lines =
          [Report.indented ("--- hexdump " ++ "o.t")] ++ Report.block (hexdump ⟨#[0x41, 0x20]⟩) ++
            [Report.indented ("--- hexdump " ++ "o")] ++ Report.block (hexdump ⟨#[0x41]⟩) ++
            (("--- " ++ "o.t") :: ("+++ " ++ "o") :: shown).map Report.indented ++
            [Report.indented "---"] := by
  have hne : (⟨#[0x41, 0x20]⟩ : ByteArray) ≠ ⟨#[0x41]⟩ := by
    intro h
    exact absurd (congrArg (fun bytes : ByteArray => bytes.data.size) h) (by decide)
  obtain ⟨⟨lines, hlines, hlength, hread⟩, -, hinj, hreport⟩ :=
    hexdump_read_back ⟨#[0x41, 0x20]⟩ ⟨#[0x41]⟩
  obtain ⟨line, rfl⟩ := List.length_eq_one_iff.1 hlength
  obtain ⟨⟨r, hr, hshows⟩, hwidth⟩ := hread 0 line rfl
  exact ⟨hne, fun h => hne (hinj.1 h), ⟨line, r, hlines, hr, hshows, hwidth (by decide)⟩,
    hreport hne "o.t" "o"⟩

end Dumps

end AsmHarness.Hexdump
