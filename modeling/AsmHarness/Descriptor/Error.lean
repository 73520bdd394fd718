import AsmHarness.OsError
import AsmHarness.Path

/-!
# What is wrong with descriptors

Why a descriptor file, or one record of it, cannot be used. Where a parser has refused a text, its own
words about the text follow in a message behind a colon; they are left out here.
-/

namespace AsmHarness

/-- Why a descriptor file or a record is discarded. -/
inductive DescriptorError where
  /-- The file cannot be read. -/
  | unreadable (path : Path) (cause : OsError)
  /-- The file is not JSON. -/
  | malformed (path : Path)
  /-- The file holds neither a record nor a list of records. -/
  | unexpectedShape (path : Path)
  /-- A field of the record has a value it cannot have. -/
  | invalidRecord
  /-- The record describes no test. -/
  | missingDescription
  /-- The pattern of a filter is not well formed. -/
  | invalidFilter (pattern : String)
  deriving DecidableEq, Repr

/-- The cause in words, but for those of a parser and the pattern that they are about. -/
def DescriptorError.message : DescriptorError → String
  | .unreadable path cause => "failed to read " ++ path ++ ": " ++ cause.message
  | .malformed path => "malformed JSON in " ++ path
  | .unexpectedShape path => path ++ " holds neither an object nor an array"
  | .invalidRecord => "record fields have the wrong shape"
  | .missingDescription => "record has no description"
  | .invalidFilter _ => "invalid filter pattern"

end AsmHarness
