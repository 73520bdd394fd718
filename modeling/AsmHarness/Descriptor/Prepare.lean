import AsmHarness.Descriptor.Basic
import AsmHarness.Descriptor.Record
import AsmHarness.Journal

/-!
# From records to descriptors

A record is checked and turned into a descriptor: its name is put together, its targets are told
apart, and its filters are compiled. The log hears of what has no effect.
-/

namespace AsmHarness

/-- What is appended to the name of an output to name its reference, where nothing else is said. -/
def referenceSuffix : String := ".t"

namespace TargetRecord

/-- The filter of a target. -/
def filter? (r : TargetRecord) : Except DescriptorError (Option Filter) :=
  match r.filter with
  | none => .ok none
  | some ⟨pattern, substitution⟩ =>
    match Filter.ofText? pattern substitution with
    | some filter => .ok (some filter)
    | none => .error (.invalidFilter pattern)

/-- What a target compares, if it says anything: the output before the streams, and regular output
before messages. -/
def subject? (r : TargetRecord) : Option Subject :=
  match r.output, r.stdout, r.stderr with
  | some output, _, _ =>
    some (.artifact output (r.reference.getD (output ++ referenceSuffix)) r.option)
  | none, some reference, _ => some (.capture .stdout reference)
  | none, none, some reference => some (.capture .stderr reference)
  | none, none, none => none

/-- The targets of a test. One that does not say what to compare is passed over, but its filter is
checked all the same. -/
def targets (name : String) (index : Nat) :
    List TargetRecord → ExceptT DescriptorError Noted (List Target)
  | [] => pure []
  | r :: rest => do
    let filter ← liftExcept r.filter?
    match r.subject? with
    | some subject => return ⟨subject, filter⟩ :: (← targets name (index + 1) rest)
    | none =>
      Noted.log (.targetUnnamed name index)
      targets name (index + 1) rest

end TargetRecord

namespace Descriptor

/-- The name of a file without the extension of descriptor files. -/
def stem (fileName : String) : String :=
  let chars := fileName.toList
  let extension := ['.', 'j', 's', 'o', 'n']
  if extension.isSuffixOf chars then .ofList (chars.take (chars.length - extension.length))
  else fileName

/-- The name of the test that is described in a file, possibly at a position of a list. -/
def nameOf (baseDir : Path) (fileName : String) (seq : Option Nat) : String :=
  baseDir.join (stem fileName) ++ seq.elim "" fun n => "." ++ toString n

/-- The error mode of a record. A mode that is not known is none. -/
def errorModeOf (name : String) (error : Option String) : Noted (Option ErrorMode) := do
  match error with
  | none => return none
  | some mode =>
    match ErrorMode.ofName? mode with
    | some known => return some known
    | none =>
      Noted.log (.errorModeUnknown name mode)
      return none

/-- The descriptor that a record describes. The file it was found in is named by its folder and its
name, and its position by `seq` if the file holds a list. -/
def prepare (record : Json) (baseDir : Path) (fileName : String) (seq : Option Nat) :
    ExceptT DescriptorError Noted Descriptor := do
  let some record := Record.ofJson? record | throw .invalidRecord
  let some description := record.description.filter (· ≠ "") | throw .missingDescription
  let name := nameOf baseDir fileName seq
  let targets ← TargetRecord.targets name 0 (record.targets.getD [])
  let errorMode ← errorModeOf name record.error
  return { name, description, baseDir, fileName, targets, errorMode
           format := record.format
           source := record.source
           option := record.option
           update := record.targets.isSome && !record.keepsReferences
           disabled := record.disable
           environ := Change.byName (record.environ.map Change.ofEntry) }

end Descriptor

end AsmHarness
