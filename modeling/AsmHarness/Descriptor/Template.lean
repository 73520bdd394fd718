import AsmHarness.Json.Basic

/-!
# Templates

A record of a list can refer to another by its `id`: it then has the fields of that record, its own
fields being laid over them. The records referred to are taken as they are written, so a reference
in a template is not followed.
-/

namespace AsmHarness.Template

/-- A record of a list after references have been replaced. -/
structure Expanded where
  /-- The position of the record in the list, counted from one. -/
  seq : Nat
  /-- The record. -/
  record : Json
  deriving Repr

/-- The `id` of a record. -/
def id? : Json → Option String
  | .object fields => Json.Fields.text? fields "id"
  | _ => none

/-- The fields of the record with the given `id`; of several, those of the last. -/
def find? (records : List Json) (id : String) : Option Json.Fields :=
  match records.reverse.find? (id? · = some id) with
  | some (.object fields) => some fields
  | _ => none

/-- The fields of a record laid over those of the record it refers to. The result is no template, so
it has no `id`. -/
def inherit (records : List Json) (own : Json.Fields) : Json.Fields :=
  match (own.text? "ref").bind (find? records) with
  | some template => (template.overlay own).erase "id"
  | none => own

/-- A record after its reference has been replaced. -/
def expandRecord (records : List Json) : Json → Json
  | .object own => .object (inherit records own)
  | record => record

/-- The records of a list after references have been replaced, each with its position. -/
def expand (records : List Json) : List Expanded :=
  records.mapIdx fun index record => ⟨index + 1, expandRecord records record⟩

end AsmHarness.Template
