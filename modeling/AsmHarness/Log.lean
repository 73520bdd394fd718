import AsmHarness.Descriptor.Error
import AsmHarness.Stream
import AsmHarness.Text.Quoted

/-!
# The log

While the report tells how the tests went, the log tells what the harness came across on its way:
files it could not use, records it passed over, programs it started.
-/

namespace AsmHarness.Log

/-- How important a message is. -/
inductive Level where
  /-- Of interest when something is looked for. -/
  | debug
  /-- Of general interest. -/
  | info
  /-- Something is not as it should be. -/
  | warn
  deriving DecidableEq, Repr

/-- The name of a level. -/
def Level.name : Level → String
  | .debug => "debug"
  | .info => "info"
  | .warn => "warn"

/-- A message of the log. -/
inductive Message where
  /-- A configuration file is in use. -/
  | configLoaded (path : Path)
  /-- A descriptor file is of no use. -/
  | fileUnusable (cause : DescriptorError)
  /-- The entries of a folder cannot be listed. -/
  | cannotList (path : Path) (cause : OsError)
  /-- A record has no description. -/
  | recordUndescribed (path : Path) (seq : Option Nat)
  /-- A record is of no use. -/
  | recordUnusable (path : Path) (seq : Option Nat) (cause : DescriptorError)
  /-- A target says nothing about what is to be compared. -/
  | targetUnnamed (name : String) (index : Nat)
  /-- An error mode is not known. -/
  | errorModeUnknown (name mode : String)
  /-- Two descriptors or more have the same name. -/
  | nameShared (name : String)
  /-- A program is started. -/
  | spawning (program : Path)
  /-- A stream is cut off. -/
  | truncated (kept dropped : Nat)
  /-- Captured text is filtered. -/
  | filtering (name : String) (stream : Stream) (pattern : String)
  /-- How many tests ended in which way. -/
  | ran (passed failed tolerated skipped : Nat)
  /-- How many updates ended in which way. -/
  | updated (changed failed skipped : Nat)
  deriving DecidableEq, Repr

namespace Message

/-- How important a message is. -/
def level : Message → Level
  | .configLoaded .. | .recordUndescribed .. | .errorModeUnknown .. | .spawning ..
  | .filtering .. => .debug
  | .ran .. | .updated .. => .info
  | .fileUnusable .. | .cannotList .. | .recordUnusable .. | .targetUnnamed .. | .nameShared ..
  | .truncated .. => .warn

/-- How a message names a record: by its position in a list, if it comes from one. -/
def recordText : Option Nat → String
  | some seq => "record Some(" ++ toString seq ++ ")"
  | none => "record None"

/-- The text of a message. -/
def text : Message → String
  | .configLoaded path => "loaded configuration from " ++ path
  | .fileUnusable cause => cause.message
  | .cannotList path cause => "cannot list " ++ path ++ ": " ++ cause.message
  | .recordUndescribed path seq =>
    path ++ ": skipping " ++ recordText seq ++ " without description"
  | .recordUnusable path seq cause =>
    path ++ ": skipping " ++ recordText seq ++ ": " ++ cause.message
  | .targetUnnamed name index =>
    name ++ ": target " ++ toString index ++ " names no output, stdout or stderr"
  | .errorModeUnknown name mode =>
    name ++ ": ignoring unknown error mode " ++ Text.quoted mode
  | .nameShared name => "several descriptors are named " ++ name
  | .spawning program => "spawning " ++ program
  | .truncated kept dropped =>
    "captured stream truncated to " ++ toString kept ++ " bytes, " ++ toString dropped ++ " dropped"
  | .filtering name stream pattern =>
    name ++ ": filtering " ++ stream.name ++ " with " ++ Text.quoted pattern
  | .ran passed failed tolerated skipped =>
    toString passed ++ " passed, " ++ toString failed ++ " failed, " ++ toString tolerated ++
      " tolerated, " ++ toString skipped ++ " skipped"
  | .updated changed failed skipped =>
    toString changed ++ " updated, " ++ toString failed ++ " failed, " ++ toString skipped ++
      " skipped"

end Message

end AsmHarness.Log
