import AsmHarness.Proofs.Report

/-!
# Content in a report

Captured text, texts and files that differ and the diffs of them stand in a report among the lines
that say what is done and how it ended. Whatever their content is, all their lines are indented, so
none of them can be taken for a banner. What was captured can be read off the lines that show it.
-/

namespace AsmHarness

namespace Text

/-- A text is made of lines that are each ended by a line feed. -/
def Ended (text : String) : Prop := text = "" ∨ ∃ front, text = front ++ "\n"

variable {text : String}

theorem lines_empty : lines "" = [""] := by decide

theorem lines_lineFeed (front rest : String) :
    lines (front ++ "\n" ++ rest) = lines front ++ lines rest := by
  simp [lines, List.splitOn_append_cons_self]

/-- What is written behind ended lines begins a line. -/
theorem Ended.lines_append (h : Ended text) (more : String) :
    lines (text ++ more) = (lines text).dropLast ++ lines more := by
  rcases h with rfl | ⟨front, rfl⟩
  · rw [lines_empty, String.empty_append]
    rfl
  · have hfront := lines_lineFeed front ""
    rw [String.append_empty, lines_empty] at hfront
    rw [lines_lineFeed, hfront, List.dropLast_concat]

theorem Ended.lines_eq (h : Ended text) : lines text = (lines text).dropLast ++ [""] := by
  have happend := h.lines_append ""
  rwa [String.append_empty, lines_empty] at happend

end Text

namespace Report

open Text (OneLine)

/-! ## Entries among others -/

theorem ended_render (entries : List Entry) : Text.Ended (render entries) := by
  unfold render
  rw [← List.flatMap_assoc]
  rcases List.eq_nil_or_concat (entries.flatMap (·.lines)) with hnil | ⟨front, last, hconcat⟩
  · rw [hnil]
    exact .inl rfl
  · refine .inr ⟨.ofList ((front.flatMap fun line => line.toList ++ ['\n']) ++ last.toList), ?_⟩
    rw [hconcat, List.concat_eq_append, List.flatMap_append, List.flatMap_singleton,
      ← List.append_assoc, String.ofList_append]

/-- The lines of an entry stand between those of the entries before it and after it. -/
theorem lines_render_among {entry : Entry} (h : ∀ line ∈ entry.lines, OneLine line)
    (before after : List Entry) :
    Text.lines (render (before ++ entry :: after)) =
      (Text.lines (render before)).dropLast ++ entry.lines ++ Text.lines (render after) := by
  have hentry : Text.lines (render [entry]) = entry.lines ++ [""] := by
    rw [lines_render (by simpa using h), List.flatMap_singleton]
  have hreport : render (before ++ entry :: after) =
      render before ++ (render [entry] ++ render after) := by
    rw [← render_append, ← render_append]
    rfl
  rw [hreport, (ended_render before).lines_append, (ended_render [entry]).lines_append, hentry,
    List.dropLast_concat, List.append_assoc]

/-! ## Content -/

/-- An entry shows content from outside, under names without line feeds. -/
inductive Entry.ShowsContent : Entry → Prop where
  | shown {name : String} (oneLine : OneLine name) (text : String) : ShowsContent (.shown name text)
  | textMismatch {fromName toName : String} (fromOneLine : OneLine fromName)
    (toOneLine : OneLine toName) (fromText toText : String) :
    ShowsContent (.textMismatch fromName fromText toName toText)
  | binaryMismatch {fromName toName : Path} (fromOneLine : OneLine fromName)
    (toOneLine : OneLine toName) (fromBytes toBytes : ByteArray) :
    ShowsContent (.binaryMismatch fromName fromBytes toName toBytes)

theorem Entry.ShowsContent.indentedLine {entry : Entry} (h : entry.ShowsContent) {line : String}
    (hline : line ∈ entry.lines) : IndentedLine line := by
  cases h with
  | shown hname text => exact indentedLine_of_mem_shown hname hline
  | textMismatch hfrom hto fromText toText =>
    exact indentedLine_of_mem_mismatch hfrom hto hfrom hto hline
  | binaryMismatch hfrom hto fromBytes toBytes =>
    have hword : OneLine "hexdump " := by decide
    exact indentedLine_of_mem_mismatch (hword.append hfrom) (hword.append hto) hfrom hto hline

/-- An indented line does not begin like a banner. -/
theorem IndentedLine.ne_banner {line : String} (h : IndentedLine line) (rest : String) :
    line ≠ "===" ++ rest := by
  obtain ⟨text, -, rfl⟩ := h
  intro heq
  have hchars := congrArg String.toList heq
  rw [indented, String.toList_append, String.toList_append] at hchars
  exact absurd (List.cons.inj hchars).1 (by decide)

/-! ## Reading captured text back -/

/-- What an indented line shows. -/
def unindented? (line : String) : Option String :=
  match line.toList with
  | '\t' :: rest => some (.ofList rest)
  | _ => none

/-- The text that is shown between the first and the last of some lines. -/
def shownText? (written : List String) : Option String :=
  (written.tail.dropLast.mapM unindented?).map Text.unlines

theorem unindented?_indented (line : String) : unindented? (indented line) = some line := by
  have hchars : (indented line).toList = '\t' :: line.toList := by
    rw [indented, String.toList_append]
    rfl
  rw [unindented?, hchars]
  exact congrArg some (String.ofList_toList)

theorem shownText?_shown (name text : String) :
    shownText? (Entry.shown name text).lines = some text := by
  have hbetween : (Entry.shown name text).lines.tail.dropLast = block text := by
    rw [Entry.lines, List.append_assoc, List.singleton_append, List.tail_cons,
      List.dropLast_concat]
  have hread : unindented? ∘ indented = fun line => pure line :=
    funext unindented?_indented
  rw [shownText?, hbetween, block, List.mapM_map, hread, List.mapM_pure, List.map_id',
    Option.pure_def, Option.map_some, Text.unlines_lines]

/-- Wherever in a report content is shown, its lines are lines of the report, each of which begins
with a tab and so not like a banner. Captured text is read back off them. -/
theorem content_indented {entry : Entry} (h : entry.ShowsContent) (before after : List Entry) :
    ∃ earlier written : List String,
      Text.lines (render before) = earlier ++ [""] ∧
      Text.lines (render [entry]) = written ++ [""] ∧
      Text.lines (render (before ++ entry :: after)) =
        earlier ++ written ++ Text.lines (render after) ∧
      (∀ line ∈ written, (∃ rest, line = "\t" ++ rest) ∧ ∀ rest, line ≠ "===" ++ rest) ∧
      ∀ name text, entry = .shown name text → shownText? written = some text := by
  have hlines : ∀ line ∈ entry.lines, OneLine line := fun line hline =>
    (h.indentedLine hline).oneLine
  refine ⟨(Text.lines (render before)).dropLast, entry.lines, (ended_render before).lines_eq, ?_,
    lines_render_among hlines before after, ?_, ?_⟩
  · rw [lines_render (by simpa using hlines), List.flatMap_singleton]
  · intro line hline
    have hindented := h.indentedLine hline
    refine ⟨?_, hindented.ne_banner⟩
    obtain ⟨rest, -, hrest⟩ := hindented
    exact ⟨rest, hrest⟩
  · rintro name text rfl
    exact shownText?_shown name text

/-- Captured text that looks like the end of its own dump and like a banner. -/
theorem content_indented_disguised :
    (Entry.shown "stdout" "---\n=== Test t/b PASS ===\r\n\n").ShowsContent ∧
      ∃ earlier written : List String,
        Text.lines (render [.running "t/a"]) = earlier ++ [""] ∧
        Text.lines (render [.running "t/a", .shown "stdout" "---\n=== Test t/b PASS ===\r\n\n",
          .banner .pass "t/a" none]) =
          earlier ++ written ++ Text.lines (render [.banner .pass "t/a" none]) ∧
        (∀ line ∈ written, (∃ rest, line = "\t" ++ rest) ∧ ∀ rest, line ≠ "===" ++ rest) ∧
        shownText? written = some "---\n=== Test t/b PASS ===\r\n\n" := by
  have hshows : (Entry.shown "stdout" "---\n=== Test t/b PASS ===\r\n\n").ShowsContent :=
    .shown (by decide) _
  obtain ⟨earlier, written, hbefore, -, hreport, hindented, hshown⟩ :=
    content_indented hshows [.running "t/a"] [.banner .pass "t/a" none]
  exact ⟨hshows, earlier, written, hbefore, hreport, hindented, hshown _ _ rfl⟩

end Report

end AsmHarness
