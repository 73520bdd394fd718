/-!
# Environment variables

A program is started with the variables of the harness, changed in some places: a change gives a
variable a value or takes it away. Of several changes to one variable the last one counts, and so it
is with a variable that the harness has been given twice.
-/

namespace AsmHarness

/-- A change to the variable of the given name: a new value, or none if the variable is removed. -/
abbrev Change := String × Option String

namespace Change

/-- The change that an entry asks for. What stands before the first equals sign is the name; an
entry without one removes the variable. -/
def ofEntry (entry : String) : Change :=
  let chars := entry.toList
  match chars.dropWhile (· ≠ '=') with
  | [] => (entry, none)
  | _ :: value => (.ofList (chars.takeWhile (· ≠ '=')), some (.ofList value))

/-- Puts a change into a list sorted by name, where it replaces one to the same variable. -/
def insert (change : Change) : List Change → List Change
  | [] => [change]
  | other :: rest =>
    if change.1 < other.1 then change :: other :: rest
    else if change.1 = other.1 then change :: rest
    else other :: insert change rest

/-- The changes sorted by name, of several to one variable only the last. -/
def byName (changes : List Change) : List Change :=
  changes.foldl (fun sorted change => insert change sorted) []

end Change

/-- The variables a program is started with, each with its value. -/
structure Environment where
  /-- The variables in the order in which they were set. -/
  entries : List (String × String)
  /-- Each of them is there once. -/
  distinct : (entries.map (·.1)).Nodup
  deriving DecidableEq, Repr

namespace Environment

/-- The environment without variables. -/
def empty : Environment := ⟨[], List.nodup_nil⟩

/-- The value of a variable. -/
def get? (environment : Environment) (name : String) : Option String :=
  environment.entries.lookup name

/-- The environment with the variables whose names are wanted. -/
def keep (environment : Environment) (wanted : String → Bool) : Environment where
  entries := environment.entries.filter fun entry => wanted entry.1
  distinct := environment.distinct.sublist (List.filter_sublist.map _)

/-- The environment without a variable. -/
def erase (environment : Environment) (name : String) : Environment :=
  environment.keep (· ≠ name)

/-- The environment with a variable set. -/
def set (environment : Environment) (name value : String) : Environment where
  entries := (environment.erase name).entries ++ [(name, value)]
  distinct := by
    rw [List.map_append, List.nodup_append]
    refine ⟨(environment.erase name).distinct, List.pairwise_singleton .., ?_⟩
    intro other hother last hlast
    obtain ⟨entry, hentry, rfl⟩ := List.mem_map.1 hother
    obtain rfl := List.mem_singleton.1 hlast
    simpa using (List.mem_filter.1 hentry).2

/-- The environment after one change. -/
def change (environment : Environment) : Change → Environment
  | (name, some value) => environment.set name value
  | (name, none) => environment.erase name

/-- The environment after some changes, in turn. -/
def apply (environment : Environment) (changes : List Change) : Environment :=
  changes.foldl change environment

/-- The environment that is collected from some entries, in turn. -/
def ofEntries (entries : List (String × String)) : Environment :=
  empty.apply (entries.map fun entry => (entry.1, some entry.2))

end Environment

end AsmHarness
