import AsmHarness.Diff.Unified
import AsmHarness.Hexdump
import AsmHarness.Path
import AsmHarness.Text.Lines

/-!
# The report

The report tells people, and scripts that look for its banners, what happened to each test. It is a
list of entries, each of which is written as one or more lines. What comes from outside, such as
captured text, is indented by a tab, so that it cannot be taken for a banner.
-/

namespace AsmHarness.Report

/-- What a banner says about a test. -/
inductive Mark where
  /-- It passed. -/
  | pass
  /-- It failed. -/
  | fail
  /-- It was not run. -/
  | skip
  /-- Nothing is done after it. -/
  | abort
  /-- It failed, and that is tolerated. -/
  | errorOver
  /-- Its references were replaced. -/
  | updated
  deriving DecidableEq, Repr

/-- The word of a banner. -/
def Mark.word : Mark → String
  | .pass => "PASS"
  | .fail => "FAIL"
  | .skip => "SKIP"
  | .abort => "ABORT"
  | .errorOver => "ERROR OVER"
  | .updated => "UPDATED"

/-- An entry of the report. -/
inductive Entry where
  /-- A line of its own. -/
  | line (text : String)
  /-- A test is run. -/
  | running (name : String)
  /-- The references of a test are replaced. -/
  | updating (name : String)
  /-- The assembler is about to be started for a test. -/
  | processing (name : String)
  /-- The assembler is started. -/
  | executing (commandLine : String)
  /-- An output is compared with its reference. -/
  | comparingFiles (output reference : Path)
  /-- A captured stream is compared with its reference. -/
  | comparingStream (stream : String)
  /-- Something replaces a reference. -/
  | moving (source : String) (reference : Path)
  /-- Captured text is shown. -/
  | shown (name text : String)
  /-- Two texts differ. -/
  | textMismatch (fromName fromText toName toText : String)
  /-- Two files differ. -/
  | binaryMismatch (fromName : Path) (fromBytes : ByteArray) (toName : Path) (toBytes : ByteArray)
  /-- The verdict on a test, with the reason for it. -/
  | banner (mark : Mark) (name : String) (reason : Option String)
  /-- A test in the list of tests. -/
  | listed (name description : String)

/-- How wide the names in the list of tests are at least. -/
def nameWidth : Nat := 32

/-- A line indented by a tab. -/
def indented (line : String) : String := "\t" ++ line

/-- The lines of a text, indented. -/
def block (text : String) : List String := (Text.lines text).map indented

/-- A text filled up with blanks to a width. -/
def padded (width : Nat) (text : String) : String :=
  text ++ .ofList (List.replicate (width - text.length) ' ')

/-- Two texts in full, and the diff of them. -/
def mismatch (fromTitle fromText toTitle toText fromName toName : String) : List String :=
  [indented ("--- " ++ fromTitle)] ++ block fromText ++
    [indented ("--- " ++ toTitle)] ++ block toText ++
    (Diff.unified (Text.lines fromText) (Text.lines toText) fromName toName).map indented ++
    [indented "---"]

namespace Entry

/-- The lines that an entry is written as. -/
def lines : Entry → List String
  | .line text => [text]
  | .running name => ["=== Running " ++ name ++ " ==="]
  | .updating name => ["=== Updating " ++ name ++ " ==="]
  | .processing name => [indented ("Processing " ++ name)]
  | .executing commandLine => [indented ("Executing " ++ commandLine)]
  | .comparingFiles output reference => [indented ("Comparing " ++ output ++ " " ++ reference)]
  | .comparingStream stream => [indented ("Comparing " ++ stream)]
  | .moving source reference => [indented ("Moving " ++ source ++ " to " ++ reference)]
  | .shown name text => [indented ("--- " ++ name)] ++ block text ++ [indented "---"]
  | .textMismatch fromName fromText toName toText =>
    mismatch fromName fromText toName toText fromName toName
  | .binaryMismatch fromName fromBytes toName toBytes =>
    mismatch ("hexdump " ++ fromName) (hexdump fromBytes) ("hexdump " ++ toName) (hexdump toBytes)
      fromName toName
  | .banner mark name reason =>
    (reason.toList.map fun reason => indented (name ++ ": " ++ reason)) ++
      ["=== Test " ++ name ++ " " ++ mark.word ++ " ==="]
  | .listed name description => [padded nameWidth name ++ " " ++ description]

end Entry

/-- The text of a report: every line of every entry, ended by a line feed. -/
def render (entries : List Entry) : String :=
  .ofList (entries.flatMap fun entry => entry.lines.flatMap fun line => line.toList ++ ['\n'])

end AsmHarness.Report
