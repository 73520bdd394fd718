/-!
# Output streams

The two streams an assembler writes to while it runs.
-/

namespace AsmHarness

/-- A stream that is captured. -/
inductive Stream where
  /-- Regular output. -/
  | stdout
  /-- Messages about errors. -/
  | stderr
  deriving DecidableEq, Repr

/-- The name of a stream. -/
def Stream.name : Stream → String
  | .stdout => "stdout"
  | .stderr => "stderr"

end AsmHarness
