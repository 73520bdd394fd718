import AsmHarness.Execution

/-!
# What becomes of a test

A test that is run, or whose references are replaced, ends in one of three ways. A failure has a
cause; whether it counts is up to the descriptor.
-/

namespace AsmHarness

/-- Why a test failed. -/
inductive Failure where
  /-- The assembler did not do its work. -/
  | exec (cause : ExecError)
  /-- An output is not what its reference says. -/
  | artifactMismatch (reference output : Path)
  /-- A captured stream is not what its reference says. -/
  | streamMismatch (stream : Stream)
  /-- A file cannot be read. -/
  | unreadable (path : Path) (cause : OsError)
  /-- Something was written to a stream that is not compared with anything. -/
  | unconsumed (stream : Stream)
  /-- An output cannot take the place of its reference. -/
  | notMoved (reference : Path) (cause : OsError)
  /-- A reference cannot be written. -/
  | notWritten (reference : Path) (cause : OsError)
  deriving DecidableEq, Repr

/-- The cause in words. -/
def Failure.message : Failure → String
  | .exec cause => cause.message
  | .artifactMismatch reference output => reference ++ " and " ++ output ++ " files are different"
  | .streamMismatch stream => stream.name ++ " mismatch"
  | .unreadable path cause => "Can't read " ++ path ++ ": " ++ cause.message
  | .unconsumed stream => stream.name ++ " is not empty"
  | .notMoved reference cause =>
    "Failed to move output onto " ++ reference ++ ": " ++ cause.message
  | .notWritten reference cause => "Failed to write " ++ reference ++ ": " ++ cause.message

/-- How a test ended. -/
inductive Outcome where
  /-- All that was to be done was done. -/
  | done
  /-- Nothing was done. -/
  | skipped (reason : String)
  /-- Something went wrong. -/
  | failed (failure : Failure)
  deriving DecidableEq, Repr

/-- How the end of a test counts. -/
inductive Verdict where
  /-- As a success. -/
  | pass
  /-- As a failure. -/
  | fail
  /-- As a test that was passed over. -/
  | skip
  /-- As a failure that is tolerated. -/
  | tolerated
  deriving DecidableEq, Repr

namespace Verdict

/-- How a failure of a test counts. -/
def ofFailure (d : Descriptor) : Verdict := if d.toleratesFailure then .tolerated else .fail

/-- How an end of a test counts. -/
def of (d : Descriptor) : Outcome → Verdict
  | .done => .pass
  | .skipped _ => .skip
  | .failed _ => ofFailure d

end Verdict

end AsmHarness
