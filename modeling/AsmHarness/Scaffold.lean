import AsmHarness.Descriptor.Basic
import AsmHarness.Json.Printer

/-!
# New tests

A new test starts as a descriptor file with one record and a source, which may be empty. The record
is put together from a few answers; what is left empty is left out.
-/

namespace AsmHarness

/-- What is known about a new test. -/
structure Scaffold where
  /-- What the files of the test are named after. -/
  id : String
  /-- What the test is about. -/
  description : String := "Description of a test"
  /-- The output format. -/
  format : String := "bin"
  /-- The source, if it is not named after the test. -/
  source : Option String := none
  /-- Options for the assembler. -/
  option : String := "-Ox"
  /-- The test whose fields the new one has. -/
  reference : Option String := none
  /-- What is said about failure. -/
  errorMode : Option ErrorMode := none
  /-- Whether there is an output: `y`, `n` or the name of it. -/
  output : String := "y"
  /-- Whether regular output is compared: `y`, `n` or the name of what with. -/
  stdout : String := "y"
  /-- Whether messages are compared: `y`, `n` or the name of what with. -/
  stderr : String := "y"
  deriving DecidableEq, Repr

namespace Scaffold

/-- The extension that outputs of a format have. -/
def extension (format : String) : String :=
  if format = "bin" then ".bin"
  else if ["elf", "elf32", "elf64", "elfx32", "macho", "macho32", "macho64", "as86"].contains format
    then ".o"
  else if ["obj", "win32", "win64", "coff"].contains format then ".obj"
  else if format = "ith" then ".ith"
  else if format = "srec" then ".srec"
  else if format = "rdf" then ".rdf"
  else ".out"

/-- The name of a file that an answer asks for, if it asks for one. -/
def fileName? (answer default : String) : Option String :=
  if answer = "n" ∨ answer = "" then none
  else if answer = "y" then some default
  else some answer

/-- The error mode that an answer asks for, if it asks for one. -/
def errorMode? : String → Option ErrorMode
  | "y" => some .expected
  | "i" => some .tolerated
  | _ => none

/-- The source of the test. -/
def sourceName (s : Scaffold) : String := s.source.getD (s.id ++ ".asm")

/-- A field with a text, unless the text is empty. -/
def textField (key text : String) : Json.Fields :=
  if text = "" then [] else [(key, .string text)]

/-- A field with a text, if there is one. -/
def optionalField (key : String) (text : Option String) : Json.Fields :=
  text.toList.map fun text => (key, .string text)

/-- The name of an error mode. -/
def errorName : ErrorMode → String
  | .expected => "expected"
  | .tolerated => "over"

/-- The targets of the test: what is asked for, each in an object of its own. -/
def targets (s : Scaffold) : List Json :=
  [("output", fileName? s.output (s.id ++ extension s.format)),
   ("stdout", fileName? s.stdout (s.id ++ ".stdout")),
   ("stderr", fileName? s.stderr (s.id ++ ".stderr"))].filterMap fun (key, name) =>
    name.map fun name => .object [(key, .string name)]

/-- The fields of the record. -/
def fields (s : Scaffold) (source : String) : Json.Fields :=
  textField "description" s.description ++ [("id", .string s.id)] ++
    textField "format" s.format ++ [("source", .string source)] ++
    textField "option" s.option ++ optionalField "ref" s.reference ++
    optionalField "error" (s.errorMode.map errorName) ++
    if s.targets.isEmpty then [] else [("target", .array s.targets)]

/-- The text of the descriptor file: a list of one record. -/
def render (s : Scaffold) (source : String) : String :=
  Json.pretty (.array [.object (s.fields source)])

end Scaffold

end AsmHarness
