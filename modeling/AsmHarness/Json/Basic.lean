/-!
# JSON values

The values a descriptor file is made of. The fields of an object are kept in the order in which
their keys first appear, and setting a field that is there already replaces its value, so that a
key that is written twice has the value written last.
-/

namespace AsmHarness

/-- A number in decimal notation: `mantissa * 10 ^ exponent`. -/
structure Decimal where
  /-- The digits, as one signed number. -/
  mantissa : Int
  /-- The power of ten they are to be multiplied by. -/
  exponent : Int
  deriving DecidableEq, Repr

/-- A JSON value. -/
inductive Json where
  /-- The value `null`. -/
  | null
  /-- A truth value. -/
  | bool (value : Bool)
  /-- A number. -/
  | number (value : Decimal)
  /-- A string. -/
  | string (text : String)
  /-- An array. -/
  | array (items : List Json)
  /-- An object. -/
  | object (fields : List (String × Json))
  deriving Repr, Inhabited

/-- The fields of an object. -/
abbrev Json.Fields := List (String × Json)

namespace Json.Fields

/-- The value of a field. -/
def get? : Fields → String → Option Json
  | [], _ => none
  | (k, v) :: rest, key => if k = key then some v else get? rest key

/-- The fields with one of them set. -/
def set : Fields → String → Json → Fields
  | [], key, value => [(key, value)]
  | (k, v) :: rest, key, value =>
    if k = key then (k, value) :: rest else (k, v) :: set rest key value

/-- The fields without one of them. -/
def erase (fields : Fields) (key : String) : Fields :=
  fields.filter (·.1 ≠ key)

/-- The fields with all of `own` set, in turn. -/
def overlay (fields own : Fields) : Fields :=
  own.foldl (fun result field => result.set field.1 field.2) fields

/-- The text of a field that holds a string. -/
def text? (fields : Fields) (key : String) : Option String :=
  match fields.get? key with
  | some (.string text) => some text
  | _ => none

end Json.Fields

end AsmHarness
