import AsmHarness.Config.Basic
import AsmHarness.Config.Toml
import AsmHarness.FileTree.Access
import AsmHarness.Journal
import AsmHarness.Text.Utf8

/-!
# Configuration files

Settings are read from a file that is named on the command line, or else from one of a fixed name,
if it exists. Each setting is assigned once at most, and nothing else may be assigned.
-/

namespace AsmHarness

/-- The configuration file that is used when none is named. -/
def defaultConfigFile : Path := "nasm-t.toml"

/-- Why a configuration file cannot be used. -/
inductive ConfigError where
  /-- It cannot be read. -/
  | unreadable (path : Path) (cause : OsError)
  /-- It holds no settings. What the parser says about it is not kept. -/
  | invalid (path : Path)
  deriving DecidableEq, Repr

namespace Settings

/-- The settings with one more assigned, none if that is not possible. -/
def assign? (s : Settings) : String × Toml.Value → Option Settings
  | ("directory", .string path) =>
    if s.directory.isNone then some { s with directory := some path } else none
  | ("nasm", .string path) =>
    if s.assembler.isNone then some { s with assembler := some path } else none
  | ("stop", .bool value) => if s.stop.isNone then some { s with stop := some value } else none
  | _ => none

/-- The settings that a text assigns. -/
def ofText? (text : String) : Option Settings := do
  (← Toml.assignments? text).foldlM assign? {}

/-- The settings of a file. -/
def read (files : FileTree) (path : Path) : ExceptT ConfigError Noted Settings := do
  match files.read path with
  | .error cause => throw (.unreadable path cause)
  | .ok content =>
    match Utf8.decode? content with
    | none => throw (.unreadable path .notUtf8)
    | some text =>
      match ofText? text with
      | none => throw (.invalid path)
      | some settings =>
        Noted.log (.configLoaded path)
        return settings

/-- The settings of the file that is named, or of the default one if none is named and that one
exists. -/
def discover (files : FileTree) : (named : Option Path) → ExceptT ConfigError Noted Settings
  | some path => read files path
  | none => if files.contains defaultConfigFile then read files defaultConfigFile else pure {}

end Settings

end AsmHarness
