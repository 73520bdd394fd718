import AsmHarness.Proofs.Diff.Hunks
import AsmHarness.Proofs.Diff.Patch
import AsmHarness.Proofs.Diff.Shortest

/-!
# Unified diffs are patches

The hunks of a unified diff show the lines of both sequences where they stand, in order, and the
lines between them are the same. So a diff can be applied as a patch, in either direction. A header
names the lines of its hunk if these begin and end with kept lines. Where a sequence begins or ends
with a change, the header may give the place of an empty stretch that changes have moved past, and
so a wrong place or a wrong number of lines.
-/

namespace AsmHarness.Diff

variable {old new : Array String} {tiled : Prop} {i j p q p' q' n : Nat} {e : Edit}
  {edits : List Edit} {groups : List (List Edit)} {h : Hunk}

/-! ## Rows of an edit -/

/-- The lines of a sequence from one place to another. -/
def slice (lines : Array String) (i i' : Nat) : List String := (lines.extract i i').toList

theorem slice_append (lines : Array String) (hi : i ≤ p) (hp : p ≤ p') :
    slice lines i p ++ slice lines p p' = slice lines i p' := by
  rw [slice, slice, ← Array.toList_append, Array.extract_append_extract, Nat.min_eq_left hi,
    Nat.max_eq_right hp, slice]

theorem length_slice (lines : Array String) (hp : p ≤ lines.size) :
    (slice lines i p).length = p - i := by
  rw [slice, Array.length_toList, Array.size_extract, Nat.min_eq_left hp]

theorem slice_eq_of_same (hp : p + n ≤ old.size) (hq : q + n ≤ new.size)
    (equal : ∀ k < n, sameLine old new (p + k) (q + k) = true) :
    slice old p (p + n) = slice new q (q + n) := by
  refine List.ext_getElem? fun k => ?_
  simp only [slice, Array.getElem?_toList, Array.getElem?_extract]
  by_cases hk : k < n
  · have hline := equal k hk
    rw [if_pos (by omega), if_pos (by omega)]
    simpa [sameLine] using hline
  · rw [if_neg (by omega), if_neg (by omega)]

/-- The rows that show an edit. -/
def rowsOf (old new : Array String) (e : Edit) : List Row :=
  match e.kind with
  | .keep => (slice old e.old.start e.old.stop).map .kept
  | .delete => (slice old e.old.start e.old.stop).map .deleted
  | .insert => (slice new e.new.start e.new.stop).map .inserted
  | .replace => (slice old e.old.start e.old.stop).map .deleted ++
      (slice new e.new.start e.new.stop).map .inserted

theorem text_rowsOf (e : Edit) : (rowsOf old new e).map Row.text = bodyLines old new e := by
  unfold rowsOf bodyLines marked slice
  cases e.kind <;> simp [Row.text, Function.comp_def]

theorem lines_rowsOf (he : e.Fits (sameLine old new) p q) (hp : p + e.old.length ≤ old.size)
    (hq : q + e.new.length ≤ new.size) :
    (rowsOf old new e).filterMap Row.oldLine? = slice old p (p + e.old.length) ∧
      (rowsOf old new e).filterMap Row.newLine? = slice new q (q + e.new.length) := by
  have hnone (lines : Array String) (k : Nat) : slice lines k (k + 0) = [] := by simp [slice]
  cases he with
  | keep pos equal =>
    have hsame := slice_eq_of_same hp hq equal
    refine ⟨Row.filterMap_oldLine?_kept _, ?_⟩
    exact (Row.filterMap_newLine?_kept _).trans hsame
  | delete =>
    refine ⟨Row.filterMap_oldLine?_deleted _, ?_⟩
    exact (Row.filterMap_newLine?_deleted _).trans (hnone new q).symm
  | insert =>
    refine ⟨?_, Row.filterMap_newLine?_inserted _⟩
    exact (Row.filterMap_oldLine?_inserted _).trans (hnone old p).symm
  | replace =>
    rw [rowsOf, List.filterMap_append, List.filterMap_append, Row.filterMap_oldLine?_deleted,
      Row.filterMap_oldLine?_inserted, Row.filterMap_newLine?_deleted,
      Row.filterMap_newLine?_inserted, List.append_nil]
    exact ⟨rfl, rfl⟩

theorem rowsOf_ne_nil (he : e.Fits (sameLine old new) p q) (hp : p + e.old.length ≤ old.size)
    (hq : q + e.new.length ≤ new.size) : rowsOf old new e ≠ [] := by
  intro hnone
  obtain ⟨hold, hnew⟩ := lines_rowsOf he hp hq
  rw [hnone] at hold hnew
  have holdLength := congrArg List.length hold
  have hnewLength := congrArg List.length hnew
  rw [length_slice _ hp, Nat.add_sub_cancel_left] at holdLength
  rw [length_slice _ hq, Nat.add_sub_cancel_left] at hnewLength
  cases he with
  | keep pos => exact Nat.ne_of_lt pos holdLength
  | delete pos => exact Nat.ne_of_lt pos holdLength
  | insert pos => exact Nat.ne_of_lt pos hnewLength
  | replace posOld _ => exact Nat.ne_of_lt posOld holdLength

theorem kept_iff_of_mem_rowsOf {row : Row} (h : row ∈ rowsOf old new e) :
    (∃ line, row = .kept line) ↔ e.kind = .keep := by
  unfold rowsOf at h
  cases hkind : e.kind with
  | keep =>
    simp only [hkind, List.mem_map] at h
    obtain ⟨line, -, rfl⟩ := h
    simp
  | delete =>
    simp only [hkind, List.mem_map] at h
    obtain ⟨line, -, rfl⟩ := h
    simp
  | insert =>
    simp only [hkind, List.mem_map] at h
    obtain ⟨line, -, rfl⟩ := h
    simp
  | replace =>
    simp only [hkind, List.mem_append, List.mem_map] at h
    obtain ⟨line, -, rfl⟩ | ⟨line, -, rfl⟩ := h
    · simp
    · simp

/-- The rows of some edits show the lines of both sequences from their beginning to their end. -/
theorem lines_spans (h : Spans (Edit.Stands (sameLine old new) tiled) p q edits p' q')
    (hp : p' ≤ old.size) (hq : q' ≤ new.size) :
    (edits.flatMap (rowsOf old new)).filterMap Row.oldLine? = slice old p p' ∧
      (edits.flatMap (rowsOf old new)).filterMap Row.newLine? = slice new q q' := by
  induction edits generalizing p q with
  | nil =>
    obtain ⟨rfl, rfl⟩ := h
    simp [slice]
  | cons e rest ih =>
    obtain ⟨he, hrest⟩ := h
    have hle := spans_le hrest
    obtain ⟨hold, hnew⟩ := lines_rowsOf he.1 (by omega) (by omega)
    obtain ⟨holdRest, hnewRest⟩ := ih hrest
    rw [List.flatMap_cons, List.filterMap_append, List.filterMap_append, hold, hnew, holdRest,
      hnewRest]
    exact ⟨slice_append old (by omega) hle.1, slice_append new (by omega) hle.2⟩

/-! ## Hunks of a diff -/

/-- A hunk shows a group of edits. -/
structure Shows (old new : Array String) (tiled : Prop) (edits : List Edit) (h : Hunk) : Prop where
  rows : h.rows = edits.flatMap (rowsOf old new)
  nonempty : edits ≠ []
  spans : Spans (Edit.Stands (sameLine old new) tiled) h.oldStart h.newStart edits h.oldStop
    h.newStop
  oldLe : h.oldStop ≤ old.size
  newLe : h.newStop ≤ new.size
  opens : Opens h.oldStart h.newStart edits
  closes : Closes old.size new.size h.oldStop h.newStop edits

/-- Some edits are shown by a hunk that has their lines of both sequences. -/
theorem exists_shows (spans : Spans (Edit.Stands (sameLine old new) tiled) p q edits p' q')
    (nonempty : edits ≠ []) (opens : Opens p q edits)
    (closes : Closes old.size new.size p' q' edits) (hp : p' ≤ old.size) (hq : q' ≤ new.size) :
    ∃ h : Hunk, Shows old new tiled edits h ∧ h.oldStart = p ∧ h.newStart = q ∧ h.oldStop = p' ∧
      h.newStop = q' ∧ h.old = slice old p p' ∧ h.new = slice new q q' := by
  have hle := spans_le spans
  obtain ⟨hold, hnew⟩ := lines_spans spans hp hq
  obtain ⟨h, hrows⟩ : ∃ h : Hunk, h = ⟨p, q, edits.flatMap (rowsOf old new)⟩ := ⟨_, rfl⟩
  have hold : h.old = slice old p p' := by rw [hrows]; exact hold
  have hnew : h.new = slice new q q' := by rw [hrows]; exact hnew
  have holdStart : h.oldStart = p := by rw [hrows]
  have hnewStart : h.newStart = q := by rw [hrows]
  have holdStop : h.oldStop = p' := by
    rw [Hunk.oldStop, hold, length_slice _ hp]
    omega
  have hnewStop : h.newStop = q' := by
    rw [Hunk.newStop, hnew, length_slice _ hq]
    omega
  refine ⟨h, ⟨by rw [hrows], nonempty, ?_, by omega, by omega, ?_, ?_⟩, holdStart, hnewStart,
    holdStop, hnewStop, hold, hnew⟩
  · rw [holdStart, hnewStart, holdStop, hnewStop]
    exact spans
  · rw [holdStart, hnewStart]
    exact opens
  · rw [holdStop, hnewStop]
    exact closes

theorem Grouped.describes
    (g : Grouped (sameLine old new) tiled old.size new.size i j groups) :
    ∃ shown : List (List Edit × Hunk), shown.map Prod.fst = groups ∧
      Describes i j (slice old i old.size) (slice new j new.size) (shown.map Prod.snd) ∧
      ∀ s ∈ shown, Shows old new tiled s.1 s.2 := by
  induction g with
  | done gap =>
    obtain ⟨n, hold, hnew, equal⟩ := gap
    have hsame := slice_eq_of_same (Nat.le_of_eq hold.symm) (Nat.le_of_eq hnew.symm) equal
    refine ⟨[], rfl, ?_, by simp⟩
    rw [hold, hnew, hsame]
    exact .done
  | @group i j p q p' q' edits groups gap spans nonempty opens closes rest ih =>
    obtain ⟨shown, hgroups, hdescribes, hshows⟩ := ih
    obtain ⟨n, hp, hq, equal⟩ := gap
    have hle := spans_le spans
    have hend := rest.le
    obtain ⟨h, hshown, holdStart, hnewStart, holdStop, hnewStop, hold, hnew⟩ :=
      exists_shows spans nonempty opens closes hend.1 hend.2
    have hgap : slice old i p = slice new j q := by
      rw [hp, hq]
      exact slice_eq_of_same (by omega) (by omega) equal
    have hgapLength : (slice old i p).length = n := by
      rw [length_slice _ (by omega)]
      omega
    have holdLines : slice old i old.size = slice old i p ++ h.old ++ slice old p' old.size := by
      rw [hold, slice_append old (by omega) hle.1, slice_append old (by omega) hend.1]
    have hnewLines : slice new j new.size = slice old i p ++ h.new ++ slice new q' new.size := by
      rw [hgap, hnew, slice_append new (by omega) hle.2, slice_append new (by omega) hend.2]
    refine ⟨(edits, h) :: shown, by rw [List.map_cons, hgroups], ?_, ?_⟩
    · rw [holdLines, hnewLines, List.map_cons]
      refine .hunk (by omega) (by omega) ?_
      rw [holdStop, hnewStop]
      exact hdescribes
    · rw [List.forall_mem_cons]
      exact ⟨hshown, hshows⟩

/-! ## What a hunk shows -/

theorem rangeText_eq (start stop : Nat) :
    rangeText start stop = rangeName start (stop - start) := by
  unfold rangeText rangeName
  split
  · next hnone =>
    have hzero : ",0" = "," ++ toString 0 := by decide
    rw [hnone, hzero, ← String.append_assoc]
    rfl
  · next hone =>
    rw [hone]
    rfl
  · next n hnone hone => rw [if_neg hnone, if_neg hone]

namespace Shows

variable (s : Shows old new tiled edits h)
include s

theorem text_rows : h.rows.map Row.text = edits.flatMap (bodyLines old new) := by
  rw [s.rows, List.map_flatMap]
  exact congrArg (List.flatMap · edits) (funext text_rowsOf)

theorem exists_first : ∃ first rest, edits = first :: rest ∧
    first.Stands (sameLine old new) tiled h.oldStart h.newStart ∧
    ∃ row ∈ rowsOf old new first, h.rows.head? = some row := by
  obtain ⟨rows, nonempty, spans, oldLe, newLe, -, -⟩ := s
  cases edits with
  | nil => exact absurd rfl nonempty
  | cons first rest =>
    obtain ⟨hfirst, hrest⟩ := spans
    have hle := spans_le hrest
    have hne := rowsOf_ne_nil hfirst.1 (by omega) (by omega)
    obtain ⟨row, more, hrow⟩ := List.exists_cons_of_ne_nil hne
    refine ⟨first, rest, rfl, hfirst, row, by simp [hrow], ?_⟩
    rw [rows, List.flatMap_cons, hrow]
    rfl

theorem exists_last : ∃ init last p q, edits = init ++ [last] ∧
    last.Stands (sameLine old new) tiled p q ∧ p + last.old.length = h.oldStop ∧
    q + last.new.length = h.newStop ∧ ∃ row ∈ rowsOf old new last, h.rows.getLast? = some row := by
  obtain ⟨rows, nonempty, spans, oldLe, newLe, -, -⟩ := s
  obtain rfl | ⟨init, last, rfl⟩ := List.eq_nil_or_concat edits
  · exact absurd rfl nonempty
  · rw [List.concat_eq_append] at spans rows ⊢
    obtain ⟨p, q, -, hlast, hold, hnew⟩ := spans_concat.1 spans
    have hne := rowsOf_ne_nil hlast.1 (by omega) (by omega)
    obtain hnil | ⟨more, row, hrow⟩ := List.eq_nil_or_concat (rowsOf old new last)
    · exact absurd hnil hne
    · rw [List.concat_eq_append] at hrow
      refine ⟨init, last, p, q, rfl, hlast, hold, hnew, row, by simp [hrow], ?_⟩
      rw [rows, List.flatMap_append, List.flatMap_singleton, hrow, ← List.append_assoc,
        List.getLast?_concat]

theorem opensKept_iff : h.OpensKept ↔ ∀ e ∈ edits.head?, e.kind = .keep := by
  obtain ⟨first, rest, rfl, -, row, hmem, hrow⟩ := s.exists_first
  have hkept := kept_iff_of_mem_rowsOf hmem
  simp [Hunk.OpensKept, hrow, hkept]

theorem closesKept_iff : h.ClosesKept ↔ ∀ e ∈ edits.getLast?, e.kind = .keep := by
  obtain ⟨init, last, p, q, rfl, -, -, -, row, hmem, hrow⟩ := s.exists_last
  have hkept := kept_iff_of_mem_rowsOf hmem
  simp [Hunk.ClosesKept, hrow, hkept]

theorem opensKept_or : h.OpensKept ∨ h.oldStart = 0 ∧ h.newStart = 0 := by
  obtain ⟨first, rest, rfl, -⟩ := s.exists_first
  rcases s.opens first rfl with hkeep | hstart
  · refine .inl (s.opensKept_iff.2 ?_)
    simpa using hkeep
  · exact .inr hstart

theorem closesKept_or : h.ClosesKept ∨ h.oldStop = old.size ∧ h.newStop = new.size := by
  obtain ⟨init, last, p, q, rfl, -⟩ := s.exists_last
  rcases s.closes last List.getLast?_concat with hkeep | hstop
  · refine .inl (s.closesKept_iff.2 ?_)
    simpa using hkeep
  · exact .inr hstop

/-- The header of a hunk names its lines if the first and the last edit stand where they say. -/
theorem header_eq (hfirst : ∀ e ∈ edits.head?, e.kind = .keep ∨ tiled)
    (hlast : ∀ e ∈ edits.getLast?, e.kind = .keep ∨ tiled) : Diff.header edits = h.header := by
  obtain ⟨first, rest, hedits, hfirstStands, -⟩ := s.exists_first
  obtain ⟨init, last, p, q, hedits', hlastStands, hold, hnew, -⟩ := s.exists_last
  have hhead : edits.head? = some first := by rw [hedits]; rfl
  have hgetLast : edits.getLast? = some last := by rw [hedits', List.getLast?_concat]
  obtain ⟨holdFirst, hnewFirst⟩ := hfirstStands.startsAt (hfirst first hhead)
  obtain ⟨holdLast, hnewLast⟩ := hlastStands.startsAt (hlast last hgetLast)
  have holdStop : last.old.stop = h.oldStop := by rw [Stretch.stop, holdLast, hold]
  have hnewStop : last.new.stop = h.newStop := by rw [Stretch.stop, hnewLast, hnew]
  have holdLength : h.oldStop - h.oldStart = h.old.length := Nat.add_sub_cancel_left ..
  have hnewLength : h.newStop - h.newStart = h.new.length := Nat.add_sub_cancel_left ..
  rw [Diff.header, hhead, hgetLast]
  simp only [rangeText_eq, holdFirst, hnewFirst, holdStop, hnewStop, holdLength, hnewLength]
  rfl

end Shows

/-! ## Equal sequences -/

theorem hunks_script_self (lines : Array String) : hunks (script lines lines) = [] := by
  rw [script_self]
  split_ifs
  · rfl
  · -- the context leaves too few of the kept lines for a hunk to end in them
    have hshort : lines.size - (lines.size - context) ≤ 2 * context := by
      simp only [context]
      omega
    have hkeep (p q n : Nat) : (Edit.keep p q n).kind = .keep := rfl
    have hlength (p q n : Nat) : (Edit.keep p q n).old.length = n := rfl
    rw [hunks, trimFirst, if_pos (hkeep ..), takeEnd_keep, trimLast, if_pos (hkeep ..),
      takeStart_keep, hunksFrom, hlength, if_neg (by omega)]
    rfl

theorem eq_of_gap (h : Gap (sameLine old new) 0 0 old.size new.size) : old = new := by
  obtain ⟨n, hold, hnew, equal⟩ := h
  have hwhole (lines : Array String) (hsize : lines.size = 0 + n) :
      slice lines 0 (0 + n) = lines.toList := by
    rw [← hsize]
    simp [slice]
  have hsame := slice_eq_of_same (Nat.le_of_eq hold.symm) (Nat.le_of_eq hnew.symm) equal
  rw [hwhole old hold, hwhole new hnew] at hsame
  exact Array.toList_inj.1 hsame

/-- There are no hunks if and only if the sequences are equal. -/
theorem hunks_script_eq_nil : hunks (script old new) = [] ↔ old = new := by
  constructor
  · intro hnone
    have hgroups := grouped_hunks (spans_script old new)
    rw [hnone] at hgroups
    cases hgroups with
    | done gap => exact eq_of_gap gap
  · rintro rfl
    exact hunks_script_self old

/-! ## The diff as a patch -/

theorem unified_of_hunks {old new : List String} {oldName newName : String} :
    unified old new oldName newName =
      if hunks (script old.toArray new.toArray) = [] then []
      else ("--- " ++ oldName) :: ("+++ " ++ newName) ::
        (hunks (script old.toArray new.toArray)).flatMap
          (hunkLines old.toArray new.toArray) := by
  cases hshown : hunks (script old.toArray new.toArray) with
  | nil => simp [unified, hshown]
  | cons first rest => simp [unified, hshown]

/-- The diff of sequences that differ has more than the names of them. -/
theorem exists_unified_of_ne {old new : List String} (h : old ≠ new) (oldName newName : String) :
    ∃ shown, shown ≠ [] ∧
      unified old new oldName newName = ("--- " ++ oldName) :: ("+++ " ++ newName) :: shown := by
  have hhunks : hunks (script old.toArray new.toArray) ≠ [] := by
    rw [Ne, hunks_script_eq_nil]
    exact fun heq => h (List.toArray_inj heq)
  obtain ⟨hunk, rest, hcons⟩ := List.exists_cons_of_ne_nil hhunks
  refine ⟨_, ?_, unified_of_hunks.trans (if_neg hhunks)⟩
  rw [hcons, List.flatMap_cons, hunkLines, List.cons_append]
  exact List.cons_ne_nil _ _

/-- A diff is empty if and only if the sequences are equal. Otherwise it is a patch that turns the
old sequence into the new one, and reversed the new one into the old one; its hunks show the lines
of both sequences where they stand. The header of a hunk names these lines if the hunk begins and
ends with kept lines, as it does except where both sequences begin or end. If the script is tiled,
with no empty stretch out of its place, every header does. -/
theorem unified_describes (old new : List String) (oldName newName : String) :
    (unified old new oldName newName = [] ↔ old = new) ∧
      (old ≠ new → ∃ shown : List (String × Hunk),
        unified old new oldName newName = ("--- " ++ oldName) :: ("+++ " ++ newName) ::
          shown.flatMap (fun s => s.1 :: s.2.rows.map Row.text) ∧
        Describes 0 0 old new (shown.map Prod.snd) ∧
        patch 0 old (shown.map Prod.snd) = some new ∧
        patch 0 new (shown.map (Hunk.reverse ∘ Prod.snd)) = some old ∧
        (∀ s ∈ shown,
          s.2.old <+: old.drop s.2.oldStart ∧ s.2.new <+: new.drop s.2.newStart ∧
          (s.2.OpensKept ∨ s.2.oldStart = 0 ∧ s.2.newStart = 0) ∧
          (s.2.ClosesKept ∨ s.2.oldStop = old.length ∧ s.2.newStop = new.length) ∧
          (s.2.OpensKept → s.2.ClosesKept → s.1 = s.2.header)) ∧
        (Spans Edit.StartsAt 0 0 (script old.toArray new.toArray) old.length new.length →
          ∀ s ∈ shown, s.1 = s.2.header)) := by
  have hempty : hunks (script old.toArray new.toArray) = [] ↔ old = new := by
    rw [hunks_script_eq_nil]
    exact ⟨List.toArray_inj, congrArg List.toArray⟩
  rw [unified_of_hunks]
  constructor
  · split_ifs with hnone
    · simpa using hempty.1 hnone
    · simpa using fun h => hnone (hempty.2 h)
  intro hne
  rw [if_neg fun hnone => hne (hempty.1 hnone)]
  obtain ⟨shown, hgroups, hdescribes, hshows⟩ :=
    (grouped_hunks (spans_script old.toArray new.toArray)).describes
  have hwhole (lines : List String) : slice lines.toArray 0 lines.toArray.size = lines := by
    simp [slice]
  rw [hwhole, hwhole] at hdescribes
  have hhunks : (shown.map fun s => (header s.1, s.2)).map Prod.snd = shown.map Prod.snd := by
    simp [Function.comp_def]
  rw [← hhunks] at hdescribes
  refine ⟨shown.map fun s => (header s.1, s.2), ?_, hdescribes, hdescribes.patch, ?_, ?_, ?_⟩
  · rw [← hgroups, List.flatMap_map, List.flatMap_map]
    have hlines : ∀ s ∈ shown, hunkLines old.toArray new.toArray s.1 =
        header s.1 :: s.2.rows.map Row.text := by
      intro s hs
      rw [hunkLines, (hshows s hs).text_rows]
    rw [List.flatMap_def, List.flatMap_def, List.map_congr_left hlines]
  · have hreverse := hdescribes.reverse.patch
    rwa [List.map_map] at hreverse
  · intro _ hs
    obtain ⟨s, hmem, rfl⟩ := List.mem_map.1 hs
    have hshown := hshows s hmem
    have hlines := hdescribes.shows (List.mem_map_of_mem hs)
    refine ⟨by simpa using hlines.2.1, by simpa using hlines.2.2.2, hshown.opensKept_or,
      by simpa using hshown.closesKept_or, ?_⟩
    intro hopens hcloses
    exact hshown.header_eq (fun e he => .inl (hshown.opensKept_iff.1 hopens e he))
      (fun e he => .inl (hshown.closesKept_iff.1 hcloses e he))
  · intro htiled _ hs
    obtain ⟨s, hmem, rfl⟩ := List.mem_map.1 hs
    exact (hshows s hmem).header_eq (fun _ _ => .inr htiled) (fun _ _ => .inr htiled)

/-- Changing one line of three gives a tiled script. -/
theorem unified_describes_change :
    ∃ shown : List (String × Hunk),
      unified ["a", "b", "c"] ["a", "B", "c"] "ref" "stdout" =
        ("--- " ++ "ref") :: ("+++ " ++ "stdout") ::
          shown.flatMap (fun s => s.1 :: s.2.rows.map Row.text) ∧
      Describes 0 0 ["a", "b", "c"] ["a", "B", "c"] (shown.map Prod.snd) ∧
      ∀ s ∈ shown, s.1 = s.2.header := by
  obtain ⟨shown, hshown, hdescribes, -, -, -, htiled⟩ :=
    (unified_describes ["a", "b", "c"] ["a", "B", "c"] "ref" "stdout").2 (by decide)
  have hscript : script #["a", "b", "c"] #["a", "B", "c"] =
      [.keep 0 0 1, ⟨.replace, ⟨1, 1⟩, ⟨1, 1⟩⟩, .keep 2 2 1] := by
    decide +kernel
  refine ⟨shown, hshown, hdescribes, htiled ?_⟩
  rw [hscript]
  simp [Spans, Edit.StartsAt, Edit.keep]

/-- The header of a hunk that ends with a deletion may give a wrong number of new lines. -/
theorem not_header_names_lines :
    ["a", "b"] ≠ ["b", "a", "a"] ∧
      ¬ ∃ hunks : List Hunk,
        unified ["a", "b"] ["b", "a", "a"] "a" "b" = ("--- " ++ "a") :: ("+++ " ++ "b") ::
          hunks.flatMap (fun h => h.header :: h.rows.map Row.text) ∧
        Describes 0 0 ["a", "b"] ["b", "a", "a"] hunks := by
  refine ⟨by decide, ?_⟩
  rintro ⟨hunks, hunified, hdescribes⟩
  have hshown : unified ["a", "b"] ["b", "a", "a"] "a" "b" =
      "--- a" :: "+++ b" :: "@@ -1,2 +1,2 @@" ::
        [Row.inserted "b", .inserted "a", .kept "a", .deleted "b"].map Row.text := by
    decide +kernel
  rw [hshown] at hunified
  cases hunks with
  | nil => simp at hunified
  | cons h rest =>
    rw [List.flatMap_cons, List.cons_append] at hunified
    simp only [List.cons.injEq] at hunified
    obtain ⟨-, -, hheader, hrows⟩ := hunified
    have hlast : rest = [] := by
      cases rest with
      | nil => rfl
      | cons next rest =>
        have hmem : next.header ∈ h.rows.map Row.text ++
            (next :: rest).flatMap fun h => h.header :: h.rows.map Row.text := by
          simp
        rw [← hrows] at hmem
        obtain ⟨row, -, hrow⟩ := List.mem_map.1 hmem
        exact absurd hrow.symm (next.header_ne_text row)
    rw [hlast, List.flatMap_nil, List.append_nil] at hrows
    have hrows := (List.map_inj_right fun _ _ heq => Row.text_injective heq).1 hrows
    have hold : h.old = ["a", "b"] := by rw [Hunk.old, ← hrows]; rfl
    have hnew : h.new = ["b", "a", "a"] := by rw [Hunk.new, ← hrows]; rfl
    -- all lines are shown, so the hunk stands at the beginning of both sequences
    obtain ⟨-, holdShown, -, hnewShown⟩ := hdescribes.shows List.mem_cons_self
    have holdLength := holdShown.length_le
    have hnewLength := hnewShown.length_le
    rw [hold, List.length_drop] at holdLength
    rw [hnew, List.length_drop] at hnewLength
    simp only [List.length_cons, List.length_nil] at holdLength hnewLength
    have holdStart : h.oldStart = 0 := by omega
    have hnewStart : h.newStart = 0 := by omega
    rw [Hunk.header, hold, hnew, holdStart, hnewStart] at hheader
    exact absurd hheader (by decide)

end AsmHarness.Diff
