import AsmHarness.Json.Basic

/-!
# Records of descriptor files

A record is a descriptor as it is written in JSON: an object with some fields, all of which can be
left out, or an array that holds the fields in their order. Fields that are not known are ignored; a
field of the wrong type makes the record invalid.
-/

namespace AsmHarness

/-- A filter as it is written. -/
structure FilterRecord where
  /-- The pattern. -/
  pattern : String
  /-- What a match is replaced by. -/
  substitution : String
  deriving DecidableEq, Repr

/-- A target as it is written. -/
structure TargetRecord where
  /-- The file the assembler writes. -/
  output : Option String
  /-- What that file is compared with. -/
  reference : Option String
  /-- Options for the assembler. -/
  option : Option String
  /-- What regular output is compared with. -/
  stdout : Option String
  /-- What messages about errors are compared with. -/
  stderr : Option String
  /-- What is applied to captured text. -/
  filter : Option FilterRecord
  deriving DecidableEq, Repr

/-- A record as it is written. -/
structure Record where
  /-- What the test is about. -/
  description : Option String
  /-- The output format. -/
  format : Option String
  /-- The source to assemble. -/
  source : Option String
  /-- Options for the assembler. -/
  option : Option String
  /-- The name of an error mode. -/
  error : Option String
  /-- Why the test is not to be run. -/
  disable : Option String
  /-- Whether it is said that the references may not be replaced. -/
  keepsReferences : Bool
  /-- Entries that change the environment. -/
  environ : List String
  /-- The targets, if there is a list of them. -/
  targets : Option (List TargetRecord)
  deriving DecidableEq, Repr

namespace Record

/-! ## Fields -/

/-- The fields of a value: those of an object, or the items of an array under the given names. An
array may be shorter than the list of names, but not longer. -/
def fields? (names : List String) : Json → Option Json.Fields
  | .object fields => some fields
  | .array items => if items.length ≤ names.length then some (names.zip items) else none
  | _ => none

/-- A string. -/
def string? : Json → Option String
  | .string text => some text
  | _ => none

/-- A list of values. -/
def list? {α : Type} (item? : Json → Option α) : Json → Option (List α)
  | .array items => items.mapM item?
  | _ => none

/-- A value that can be left out, or be `null`. -/
def optional? {α : Type} (value? : Json → Option α) : Option Json → Option (Option α)
  | none | some .null => some none
  | some value => (value? value).map some

/-- A field that can be left out. -/
def optionalField? {α : Type} (value? : Json → Option α) (fields : Json.Fields) (key : String) :
    Option (Option α) :=
  optional? value? (fields.get? key)

/-- Whether a value says that something is not so: the value `false`, or the string that reads the
same. -/
def isNo? : Json → Option Bool
  | .bool value => some !value
  | .string text => some (text = "false")
  | _ => none

end Record

open Record

/-- The fields of a filter, in order. -/
def FilterRecord.names : List String := ["match", "subst"]

/-- The filter that a value describes. -/
def FilterRecord.ofJson? (value : Json) : Option FilterRecord := do
  let fields ← fields? names value
  let pattern ← string? (← fields.get? "match")
  let substitution ← string? (← fields.get? "subst")
  some ⟨pattern, substitution⟩

/-- The fields of a target, in order. -/
def TargetRecord.names : List String := ["output", "match", "option", "stdout", "stderr", "filter"]

/-- The target that a value describes. -/
def TargetRecord.ofJson? (value : Json) : Option TargetRecord := do
  let fields ← fields? names value
  let output ← optionalField? string? fields "output"
  let reference ← optionalField? string? fields "match"
  let option ← optionalField? string? fields "option"
  let stdout ← optionalField? string? fields "stdout"
  let stderr ← optionalField? string? fields "stderr"
  let filter ← optionalField? FilterRecord.ofJson? fields "filter"
  some ⟨output, reference, option, stdout, stderr, filter⟩

namespace Record

/-- The fields of a record, in order. -/
def names : List String :=
  ["description", "format", "source", "option", "error", "disable", "update", "environ", "target"]

/-- The record that a value describes. The list of changes to the environment can be left out, but
not be `null`. -/
def ofJson? (value : Json) : Option Record := do
  let fields ← fields? names value
  let description ← optionalField? string? fields "description"
  let format ← optionalField? string? fields "format"
  let source ← optionalField? string? fields "source"
  let option ← optionalField? string? fields "option"
  let error ← optionalField? string? fields "error"
  let disable ← optionalField? string? fields "disable"
  let update ← optionalField? isNo? fields "update"
  let environ ← list? string? ((fields.get? "environ").getD (.array []))
  let targets ← optionalField? (list? TargetRecord.ofJson?) fields "target"
  some ⟨description, format, source, option, error, disable, update.getD false, environ, targets⟩

end Record

end AsmHarness
