import AsmHarness.Diff.Settle

/-!
# Unified diffs

A unified diff shows the changes of a script in hunks, each with up to three kept lines around the
changes; changes that are close enough share a hunk. A hunk starts with a header that names its
stretch of the old and of the new sequence, followed by its lines, marked as kept, deleted or
inserted. Nothing is shown for equal sequences.
-/

namespace AsmHarness.Diff

/-- How many kept lines a hunk shows on each side of its changes. -/
def context : Nat := 3

namespace Edit

/-- A keep without all but its last `n` lines. -/
def takeEnd (e : Edit) (n : Nat) : Edit :=
  let dropped := e.old.length - n
  (e.down dropped).shrink dropped

/-- A keep without all but its first `n` lines. -/
def takeStart (e : Edit) (n : Nat) : Edit :=
  e.shrink (e.old.length - n)

end Edit

/-- A script whose first edit shows no more than the context before the first change. -/
def trimFirst : List Edit → List Edit
  | [] => []
  | e :: rest => (if e.kind = .keep then e.takeEnd context else e) :: rest

/-- A script whose last edit shows no more than the context after the last change. -/
def trimLast : List Edit → List Edit
  | [] => []
  | [e] => [if e.kind = .keep then e.takeStart context else e]
  | e :: rest => e :: trimLast rest

/-- The edits of each hunk of a trimmed script: a keep of more than twice the context ends one hunk
and begins the next. What remains at the end is a hunk unless it shows no change. -/
def hunksFrom (current : List Edit) : List Edit → List (List Edit)
  | [] =>
    match current with
    | [] => []
    | [e] => if e.kind = .keep then [] else [current]
    | _ => [current]
  | e :: rest =>
    if e.kind = .keep ∧ 2 * context < e.old.length then
      (current ++ [e.takeStart context]) :: hunksFrom [e.takeEnd context] rest
    else hunksFrom (current ++ [e]) rest

/-- The edits of each hunk of a script. -/
def hunks (edits : List Edit) : List (List Edit) :=
  hunksFrom [] (trimLast (trimFirst edits))

/-- How a header names a stretch: the number of its first line, and its length unless that is one.
An empty stretch is named by the line before it. -/
def rangeText (start stop : Nat) : String :=
  match stop - start with
  | 0 => toString start ++ ",0"
  | 1 => toString (start + 1)
  | n => toString (start + 1) ++ "," ++ toString n

/-- The header of a hunk. -/
def header (hunk : List Edit) : String :=
  match hunk.head?, hunk.getLast? with
  | some first, some last =>
    "@@ -" ++ rangeText first.old.start last.old.stop ++ " +" ++
      rangeText first.new.start last.new.stop ++ " @@"
  | _, _ => ""

/-- The lines of a stretch, each behind the given mark. -/
def marked (mark : String) (lines : Array String) (s : Stretch) : List String :=
  (lines.extract s.start s.stop).toList.map (mark ++ ·)

/-- The lines that show an edit: what it deletes before what it inserts. -/
def bodyLines (old new : Array String) (e : Edit) : List String :=
  match e.kind with
  | .keep => marked " " old e.old
  | .delete => marked "-" old e.old
  | .insert => marked "+" new e.new
  | .replace => marked "-" old e.old ++ marked "+" new e.new

/-- The lines of a hunk. -/
def hunkLines (old new : Array String) (hunk : List Edit) : List String :=
  header hunk :: hunk.flatMap (bodyLines old new)

/-- The unified diff of two sequences of lines, under the given names. -/
def unified (old new : List String) (oldName newName : String) : List String :=
  let old := old.toArray
  let new := new.toArray
  match hunks (script old new) with
  | [] => []
  | shown => ("--- " ++ oldName) :: ("+++ " ++ newName) :: shown.flatMap (hunkLines old new)

end AsmHarness.Diff
