import AsmHarness.Report
import AsmHarness.Proofs.Text.Lines

/-!
# The lines of a report

The report mixes fixed text with text from outside. Captured text and the content of files are cut
into lines, and each line is indented; names, paths and reasons are written as they are. So an entry
is made of as many lines as it says, provided that no name, path or reason has a line feed.
-/

namespace AsmHarness.Report

open Text (OneLine)

/-! ## Diffs -/

section Diffs

variable {old new : List String} {oldName newName : String}

theorem oneLine_rangeText (start stop : Nat) : OneLine (Diff.rangeText start stop) := by
  have hcomma : OneLine "," := by decide
  unfold Diff.rangeText
  split
  · exact (Text.oneLine_toString_nat _).append (by decide)
  · exact Text.oneLine_toString_nat _
  · exact ((Text.oneLine_toString_nat _).append hcomma).append (Text.oneLine_toString_nat _)

theorem oneLine_header (hunk : List Diff.Edit) : OneLine (Diff.header hunk) := by
  have hopen : OneLine "@@ -" := by decide
  have hmiddle : OneLine " +" := by decide
  have hclose : OneLine " @@" := by decide
  unfold Diff.header
  split
  · exact (((hopen.append (oneLine_rangeText _ _)).append hmiddle).append
      (oneLine_rangeText _ _)).append hclose
  · decide

theorem oneLine_of_mem_marked {mark line : String} {lines : Array String} {s : Diff.Stretch}
    (hmark : OneLine mark) (hlines : ∀ line ∈ lines, OneLine line)
    (h : line ∈ Diff.marked mark lines s) : OneLine line := by
  obtain ⟨shown, hshown, rfl⟩ := List.mem_map.1 h
  rw [Array.mem_toList_iff] at hshown
  obtain ⟨i, hi, rfl⟩ := Array.mem_extract_iff_getElem.1 hshown
  exact hmark.append (hlines _ (Array.getElem_mem _))

theorem oneLine_of_mem_bodyLines {line : String} {old new : Array String} {edit : Diff.Edit}
    (hold : ∀ line ∈ old, OneLine line) (hnew : ∀ line ∈ new, OneLine line)
    (h : line ∈ Diff.bodyLines old new edit) : OneLine line := by
  unfold Diff.bodyLines at h
  split at h
  · exact oneLine_of_mem_marked (by decide) hold h
  · exact oneLine_of_mem_marked (by decide) hold h
  · exact oneLine_of_mem_marked (by decide) hnew h
  · rcases List.mem_append.1 h with h | h
    · exact oneLine_of_mem_marked (by decide) hold h
    · exact oneLine_of_mem_marked (by decide) hnew h

/-- A diff of lines is made of lines. -/
theorem oneLine_of_mem_unified {line : String} (hold : ∀ line ∈ old, OneLine line)
    (hnew : ∀ line ∈ new, OneLine line) (holdName : OneLine oldName) (hnewName : OneLine newName)
    (h : line ∈ Diff.unified old new oldName newName) : OneLine line := by
  have hminus : OneLine "--- " := by decide
  have hplus : OneLine "+++ " := by decide
  simp only [Diff.unified] at h
  split at h
  · cases h
  · rcases List.mem_cons.1 h with rfl | h
    · exact hminus.append holdName
    rcases List.mem_cons.1 h with rfl | h
    · exact hplus.append hnewName
    obtain ⟨hunk, -, hmem⟩ := List.mem_flatMap.1 h
    rcases List.mem_cons.1 hmem with rfl | hmem
    · exact oneLine_header hunk
    · obtain ⟨edit, -, hline⟩ := List.mem_flatMap.1 hmem
      refine oneLine_of_mem_bodyLines ?_ ?_ hline
      · simpa using hold
      · simpa using hnew

end Diffs

/-! ## Indented lines -/

/-- A line that is indented, and is one line. -/
def IndentedLine (line : String) : Prop := ∃ text, OneLine text ∧ line = indented text

theorem indentedLine {text : String} (h : OneLine text) : IndentedLine (indented text) :=
  ⟨text, h, rfl⟩

theorem IndentedLine.oneLine {line : String} (h : IndentedLine line) : OneLine line := by
  obtain ⟨text, htext, rfl⟩ := h
  have htab : OneLine "\t" := by decide
  exact htab.append htext

/-- Whatever a text is, it is shown in indented lines. -/
theorem indentedLine_of_mem_block {text line : String} (h : line ∈ block text) :
    IndentedLine line := by
  obtain ⟨piece, hpiece, rfl⟩ := List.mem_map.1 h
  exact indentedLine (Text.oneLine_of_mem_lines hpiece)

theorem indentedLine_of_mem_shown {line name text : String} (hname : OneLine name)
    (h : line ∈ (Entry.shown name text).lines) : IndentedLine line := by
  have hdash : OneLine "--- " := by decide
  simp only [Entry.lines, List.mem_append, List.mem_singleton] at h
  rcases h with (rfl | h) | rfl
  · exact indentedLine (hdash.append hname)
  · exact indentedLine_of_mem_block h
  · exact indentedLine (by decide)

theorem indentedLine_of_mem_mismatch
    {line fromTitle fromText toTitle toText fromName toName : String}
    (hfromTitle : OneLine fromTitle) (htoTitle : OneLine toTitle) (hfromName : OneLine fromName)
    (htoName : OneLine toName)
    (h : line ∈ mismatch fromTitle fromText toTitle toText fromName toName) :
    IndentedLine line := by
  have hdash : OneLine "--- " := by decide
  simp only [mismatch, List.mem_append, List.mem_singleton] at h
  rcases h with ((((rfl | h) | rfl) | h) | h) | rfl
  · exact indentedLine (hdash.append hfromTitle)
  · exact indentedLine_of_mem_block h
  · exact indentedLine (hdash.append htoTitle)
  · exact indentedLine_of_mem_block h
  · obtain ⟨shown, hshown, rfl⟩ := List.mem_map.1 h
    exact indentedLine (oneLine_of_mem_unified (fun _ => Text.oneLine_of_mem_lines)
      (fun _ => Text.oneLine_of_mem_lines) hfromName htoName hshown)
  · exact indentedLine (by decide)

/-! ## Entries -/

namespace Entry

/-- An entry says what is being done, not how it ended, and no name or path in it has a line feed.
Captured text and the content of files may have some. -/
def Quiet : Entry → Prop
  | .running name | .updating name | .processing name => OneLine name
  | .executing commandLine => OneLine commandLine
  | .comparingFiles output reference => OneLine output ∧ OneLine reference
  | .comparingStream stream => OneLine stream
  | .moving source reference => OneLine source ∧ OneLine reference
  | .shown name _ => OneLine name
  | .textMismatch fromName _ toName _ | .binaryMismatch fromName _ toName _ =>
    OneLine fromName ∧ OneLine toName
  | .line _ | .banner .. | .listed .. => False

variable {entry : Entry} {line : String}

/-- The lines of such an entry are indented, but for the one that says what is done. -/
theorem Quiet.line_cases (h : entry.Quiet) (hline : line ∈ entry.lines) :
    IndentedLine line ∨ ∃ name, OneLine name ∧
      (line = "=== Running " ++ name ++ " ===" ∨ line = "=== Updating " ++ name ++ " ===") := by
  cases entry with
  | running name => exact .inr ⟨name, h, .inl (List.mem_singleton.1 hline)⟩
  | updating name => exact .inr ⟨name, h, .inr (List.mem_singleton.1 hline)⟩
  | processing name =>
    have hword : OneLine "Processing " := by decide
    rw [List.mem_singleton.1 hline]
    exact .inl (indentedLine (hword.append h))
  | executing commandLine =>
    have hword : OneLine "Executing " := by decide
    rw [List.mem_singleton.1 hline]
    exact .inl (indentedLine (hword.append h))
  | comparingFiles output reference =>
    have hword : OneLine "Comparing " := by decide
    have hblank : OneLine " " := by decide
    rw [List.mem_singleton.1 hline]
    exact .inl (indentedLine (((hword.append h.1).append hblank).append h.2))
  | comparingStream stream =>
    have hword : OneLine "Comparing " := by decide
    rw [List.mem_singleton.1 hline]
    exact .inl (indentedLine (hword.append h))
  | moving source reference =>
    have hword : OneLine "Moving " := by decide
    have hto : OneLine " to " := by decide
    rw [List.mem_singleton.1 hline]
    exact .inl (indentedLine (((hword.append h.1).append hto).append h.2))
  | shown name text => exact .inl (indentedLine_of_mem_shown h hline)
  | textMismatch fromName fromText toName toText =>
    exact .inl (indentedLine_of_mem_mismatch h.1 h.2 h.1 h.2 hline)
  | binaryMismatch fromName fromBytes toName toBytes =>
    have hword : OneLine "hexdump " := by decide
    exact .inl (indentedLine_of_mem_mismatch (hword.append h.1) (hword.append h.2) h.1 h.2 hline)
  | line text => exact h.elim
  | banner mark name reason => exact h.elim
  | listed name description => exact h.elim

theorem Quiet.oneLine (h : entry.Quiet) (hline : line ∈ entry.lines) : OneLine line := by
  have hclose : OneLine " ===" := by decide
  rcases h.line_cases hline with hindented | ⟨name, hname, rfl | rfl⟩
  · exact hindented.oneLine
  · have hopen : OneLine "=== Running " := by decide
    exact (hopen.append hname).append hclose
  · have hopen : OneLine "=== Updating " := by decide
    exact (hopen.append hname).append hclose

end Entry

theorem render_append (first second : List Entry) :
    render (first ++ second) = render first ++ render second := by
  rw [render, List.flatMap_append, String.ofList_append]
  rfl

/-- A report is cut into the lines that its entries are written as, and nothing is left. -/
theorem lines_render {entries : List Entry}
    (h : ∀ entry ∈ entries, ∀ line ∈ entry.lines, OneLine line) :
    Text.lines (render entries) = entries.flatMap (·.lines) ++ [""] := by
  have hall : ∀ line ∈ entries.flatMap (·.lines), OneLine line := by
    intro line hline
    obtain ⟨entry, hentry, hmem⟩ := List.mem_flatMap.1 hline
    exact h entry hentry line hmem
  rw [← Text.lines_flatMap_lineFeed hall, List.flatMap_assoc]
  rfl

end AsmHarness.Report
