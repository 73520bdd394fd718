/-!
# Tables of code points

Facts about code points come as sorted tables: a `CodePoints` is a set given by the places where
membership changes, a `Runs` a function given by the places where its value changes. Both are read
from a list of hexadecimal numbers, and both are looked up by bisection.
-/

namespace AsmHarness.Unicode

/-- The value of a hexadecimal digit; characters that are none count as zero. -/
def hexValue (c : Char) : Nat :=
  if '0' ≤ c ∧ c ≤ '9' then c.toNat - '0'.toNat
  else if 'a' ≤ c ∧ c ≤ 'f' then c.toNat - 'a'.toNat + 10
  else if 'A' ≤ c ∧ c ≤ 'F' then c.toNat - 'A'.toNat + 10
  else 0

/-- The number written in hexadecimal by `digits`. -/
def readHex (digits : List Char) : Nat :=
  digits.foldl (fun n c => 16 * n + hexValue c) 0

/-- The words of a table, which are separated by single spaces or by the ends of its lines. -/
def words (lines : List String) : List (List Char) :=
  lines.flatMap fun line => line.toList.splitOn ' '

/-- How many of the places from `lo` to before `hi` hold, in an ascending sequence `key`, a value of
at most `x`, counted from the start of the sequence: the place where bisection ends. -/
def countUpTo (key : Nat → Nat) (x lo hi : Nat) : Nat :=
  if lo < hi then
    let middle := (lo + hi) / 2
    if key middle ≤ x then countUpTo key x (middle + 1) hi else countUpTo key x lo middle
  else lo
termination_by hi - lo

/-- A set of code points: the first one in it, the first one after that which is not, and so on. -/
structure CodePoints where
  /-- The places where membership changes, in ascending order. -/
  bounds : Array Nat
  deriving Repr

namespace CodePoints

/-- Reads a set from its boundaries, written in hexadecimal and separated by spaces or lines. -/
def read (lines : List String) : CodePoints :=
  ⟨((words lines).map readHex).toArray⟩

/-- Whether a code point is in the set: an odd number of boundaries lies at or before it. -/
def contains (set : CodePoints) (code : Nat) : Bool :=
  countUpTo (fun i => set.bounds.getD i 0) code 0 set.bounds.size % 2 = 1

end CodePoints

/-- A function on code points: the places where its value changes, each with the value from there
on. -/
structure Runs (α : Type) where
  /-- The places where the value changes, in ascending order. -/
  runs : Array (Nat × α)
  deriving Repr

namespace Runs

variable {α : Type}

/-- Reads a table of words, each the hexadecimal code point at which a run begins, in lower case,
followed by the name of its value. Words whose name means nothing are left out. -/
def read (value? : String → Option α) (lines : List String) : Runs α :=
  ⟨((words lines).filterMap fun word =>
    let isDigit (c : Char) : Bool := c.isDigit || ('a' ≤ c && c ≤ 'f')
    (value? (.ofList (word.dropWhile isDigit))).map (readHex (word.takeWhile isDigit), ·)).toArray⟩

/-- The value at a code point, none before the first run. -/
def find? (table : Runs α) (code : Nat) : Option α :=
  match countUpTo (fun i => (table.runs[i]?.map (·.1)).getD 0) code 0 table.runs.size with
  | 0 => none
  | n + 1 => table.runs[n]?.map (·.2)

/-- The code points whose value is wanted. -/
def select (table : Runs α) (wanted : α → Bool) : CodePoints :=
  ⟨(table.runs.foldl (fun (bounds, inside) (start, value) =>
    if wanted value = inside then (bounds, inside) else (bounds.push start, !inside))
    (#[], false)).1⟩

end Runs

end AsmHarness.Unicode
