/-!
# Lines of a text

A text is cut into lines at its line feeds. The pieces are what stands between them, so a text that
ends in a line feed has an empty last line, and joining the lines with line feeds gives back the
text.
-/

namespace AsmHarness.Text

/-- The lines of a text. -/
def lines (text : String) : List String :=
  (text.toList.splitOn '\n').map String.ofList

/-- The text that has the given lines. -/
def unlines (pieces : List String) : String :=
  .ofList (List.intercalate ['\n'] (pieces.map String.toList))

end AsmHarness.Text
