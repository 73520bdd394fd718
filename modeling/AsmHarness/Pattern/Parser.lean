import AsmHarness.Pattern.Lexical

/-!
# Reading patterns

The groups that are open while a pattern is read are kept on a stack, each with the alternatives and
items it has so far; bracketed classes are read by recursion. Every step takes at least one
character, so the length of the pattern bounds the number of steps.
-/

namespace AsmHarness.Pattern

/-! ## Bracketed classes -/

/-- The class a name between colons stands for. -/
def asciiClass? (name : String) : Option AsciiClass :=
  [("alnum", AsciiClass.alnum), ("alpha", .alpha), ("ascii", .ascii), ("blank", .blank),
    ("cntrl", .cntrl), ("digit", .digit), ("graph", .graph), ("lower", .lower), ("print", .print),
    ("punct", .punct), ("space", .space), ("upper", .upper), ("word", .word),
    ("xdigit", .xdigit)].lookup name

/-- Reads a class named between colons, from after its opening bracket. -/
def namedClass? (s : List Char) : Option (ClassSet × List Char) :=
  match s with
  | ':' :: rest =>
    let (negated, rest) := match rest with
      | '^' :: rest => (true, rest)
      | rest => (false, rest)
    match rest.dropWhile (· ≠ ':') with
    | ':' :: ']' :: after =>
      (asciiClass? (.ofList (rest.takeWhile (· ≠ ':')))).map (.named · negated, after)
    | _ => none
  | _ => none

/-- One item of a class, which is a character or an escape. -/
def classItem? (spaced : Bool) (s : List Char) : Option (Primitive × List Char) :=
  match s with
  | [] => none
  | '\\' :: rest => escape? spaced rest
  | c :: rest => some (.literal ⟨c, false⟩, rest)

/-- The set that an item stands for when it is no end of a range. -/
def Primitive.set? : Primitive → Option ClassSet
  | .literal value => some (.range value value)
  | .shorthand kind negated => some (.shorthand kind negated)
  | .property name value negated => some (.property name value negated)
  | .assertion _ => none

/-- One item of a class, or a range of characters. A minus sign makes a range unless it stands
before the closing bracket or before another minus sign. -/
def classRange? (spaced : Bool) (s : List Char) : Option (ClassSet × List Char) :=
  match classItem? spaced s with
  | none => none
  | some (first, rest) =>
    match skip spaced rest with
    | [] => none
    | c :: rest =>
      let next := peek spaced rest
      if c ≠ '-' ∨ next = some ']' ∨ next = some '-' then first.set?.map (·, c :: rest)
      else match skip spaced rest with
        | [] => none
        | rest =>
          match first, classItem? spaced rest with
          | .literal low, some (.literal high, rest) =>
            if low.char ≤ high.char then some (.range low high, rest) else none
          | _, _ => none

/-- The set that several items make up together. -/
def ClassSet.ofItems : List ClassSet → ClassSet
  | [item] => item
  | items => .union items

/-- A set joined to the one that waits for its right side, if there is one. -/
def ClassSet.join (waiting : Option (SetOperation × ClassSet)) (set : ClassSet) : ClassSet :=
  match waiting with
  | none => set
  | some (operation, left) => .combine operation left set

/-- The operation that begins a text, if it begins with one. -/
def setOperation? : List Char → Option (SetOperation × List Char)
  | '&' :: '&' :: rest => some (.intersection, rest)
  | '-' :: '-' :: rest => some (.difference, rest)
  | '~' :: '~' :: rest => some (.symmetricDifference, rest)
  | _ => none

/-- The minus signs that begin a class stand for themselves. -/
def leadingMinus (spaced : Bool) : (fuel : Nat) → List Char → List ClassSet × List Char
  | fuel + 1, '-' :: rest =>
    let (more, rest) := leadingMinus spaced fuel (skip spaced rest)
    (.range ⟨'-', false⟩ ⟨'-', false⟩ :: more, rest)
  | _, s => ([], s)

/-- Reads the beginning of a class, from after its bracket: whether it is negated, and the items
that only there stand for themselves. -/
def classStart? (spaced : Bool) (s : List Char) : Option (Bool × List ClassSet × List Char) :=
  let (negated, s) := match skip spaced s with
    | '^' :: rest => (true, skip spaced rest)
    | s => (false, s)
  match leadingMinus spaced s.length s with
  | (_, []) => none
  | ([], ']' :: rest) =>
    match skip spaced rest with
    | [] => none
    | rest => some (negated, [.range ⟨']', false⟩ ⟨']', false⟩], rest)
  | (items, rest) => some (negated, items, rest)

/-- Reads a class up to its closing bracket, given whether it is negated, the set that waits for its
right side and the items read since, the latest first. -/
def classRest? (spaced : Bool) (fuel : Nat) (negated : Bool)
    (waiting : Option (SetOperation × ClassSet)) (items : List ClassSet) (s : List Char) :
    Option (ClassSet × List Char) :=
  match fuel with
  | 0 => none
  | fuel + 1 =>
    match skip spaced s with
    | [] => none
    | '[' :: rest =>
      match namedClass? rest with
      | some (item, rest) => classRest? spaced fuel negated waiting (item :: items) rest
      | none =>
        match classStart? spaced rest with
        | none => none
        | some (innerNegated, innerItems, rest) =>
          match classRest? spaced fuel innerNegated none innerItems.reverse rest with
          | none => none
          | some (item, rest) => classRest? spaced fuel negated waiting (item :: items) rest
    | ']' :: rest => some (.nested (.join waiting (.ofItems items.reverse)) negated, rest)
    | s =>
      match setOperation? s with
      | some (operation, rest) =>
        let left := ClassSet.join waiting (.ofItems items.reverse)
        classRest? spaced fuel negated (some (operation, left)) [] rest
      | none =>
        match classRange? spaced s with
        | none => none
        | some (item, rest) => classRest? spaced fuel negated waiting (item :: items) rest

/-- Reads a class, from after its opening bracket. -/
def bracketed? (spaced : Bool) (s : List Char) : Option (ClassSet × List Char) :=
  match classStart? spaced s with
  | none => none
  | some (negated, items, rest) =>
    classRest? spaced (2 * s.length + 2) negated none items.reverse rest

/-! ## Repetition -/

/-- How often a text in braces says something is repeated, from after the opening brace. The text
after the closing brace is given back as it is. -/
def counts? (spaced : Bool) (s : List Char) : Option (Nat × Option Nat × List Char) :=
  match number? spaced (skip spaced s) with
  | none => none
  | some (least, ',' :: rest) =>
    match skip spaced rest with
    | '\x7d' :: rest => some (least, none, rest)
    | rest =>
      match number? spaced rest with
      | some (most, '\x7d' :: rest) => if least ≤ most then some (least, some most, rest) else none
      | _ => none
  | some (least, '\x7d' :: rest) => some (least, some least, rest)
  | some _ => none

/-- A question mark after a repetition makes it reluctant. -/
def greed : List Char → Bool × List Char
  | '?' :: rest => (false, rest)
  | rest => (true, rest)

/-- Reads how often something is repeated, from the mark on. -/
def repeat? (spaced : Bool) (s : List Char) : Option (Repeat × List Char) :=
  let once (least : Nat) (most : Option Nat) (rest : List Char) :=
    let (greedy, rest) := greed rest
    some (⟨least, most, greedy⟩, rest)
  match s with
  | '?' :: rest => once 0 (some 1) rest
  | '*' :: rest => once 0 none rest
  | '+' :: rest => once 1 none rest
  | '\x7b' :: rest =>
    match counts? spaced rest with
    | some (least, most, rest) => once least most (skip spaced rest)
    | none => none
  | _ => none

/-! ## Groups and alternatives -/

/-- A group that is being read. -/
structure Frame where
  /-- What the group does, none for the whole pattern. -/
  kind : Option GroupKind
  /-- Whether the text around the group is spaced. -/
  outerSpaced : Bool
  /-- The alternatives that are complete, the latest first. -/
  alternatives : List Syntax
  /-- The items of the current alternative, the latest first. -/
  items : List Syntax

namespace Frame

/-- The current alternative as one part. -/
def alternative (f : Frame) : Syntax :=
  match f.items with
  | [] => .empty
  | [item] => item
  | items => .sequence items.reverse

/-- The content of the group as one part. -/
def content (f : Frame) : Syntax :=
  match f.alternatives with
  | [] => f.alternative
  | done => .alternatives (f.alternative :: done).reverse

/-- The group with one more item. -/
def push (f : Frame) (item : Syntax) : Frame := { f with items := item :: f.items }

end Frame

/-- A pattern as far as it has been read. -/
structure Progress where
  /-- Whether the text is spaced. -/
  spaced : Bool
  /-- How many groups that capture have been opened. -/
  captures : Nat
  /-- The names of groups, each with its number. -/
  names : List (String × Nat)
  /-- The innermost open group. -/
  frame : Frame
  /-- The groups around it, the innermost first. -/
  outer : List Frame

/-- The value a change gives to a flag, if it names the flag. -/
def FlagChange.value? (change : FlagChange) (flag : Flag) : Option Bool :=
  List.lookup flag change

namespace Progress

/-- Opens a group. -/
def openGroup (p : Progress) (kind : GroupKind) : Progress :=
  let spaced := match kind with
    | .flags change => (change.value? .spaced).getD p.spaced
    | .capture .. => p.spaced
  { p with spaced, frame := ⟨some kind, p.spaced, [], []⟩, outer := p.frame :: p.outer }

/-- Opens a group that captures. No two groups have the same name. -/
def openCapture? (p : Progress) (name : Option String) : Option Progress :=
  let index := p.captures + 1
  let p := { p with captures := index }
  match name with
  | none => some (p.openGroup (.capture index none))
  | some name =>
    if p.names.any (·.1 = name) then none
    else some ({ p with names := (name, index) :: p.names }.openGroup (.capture index (some name)))

/-- Adds an item to the innermost group. -/
def push (p : Progress) (item : Syntax) : Progress := { p with frame := p.frame.push item }

/-- Reads what follows an opening parenthesis. -/
def group? (p : Progress) (s : List Char) : Option (Progress × List Char) :=
  let named (rest : List Char) :=
    match groupName? rest with
    | none => none
    | some (name, rest) => (p.openCapture? (some name)).map (·, rest)
  match skip p.spaced s with
  | '?' :: '=' :: _ | '?' :: '!' :: _ | '?' :: '<' :: '=' :: _ | '?' :: '<' :: '!' :: _ => none
  | '?' :: 'P' :: '<' :: rest => named rest
  | '?' :: '<' :: rest => named rest
  | '?' :: rest =>
    match flags? [] false false rest with
    | some (change, ':' :: rest) => some (p.openGroup (.flags change), rest)
    | some ([], _) | none => none
    | some (change, _ :: rest) =>
      let spaced := (change.value? .spaced).getD p.spaced
      some ({ p with spaced }.push (.flags change), rest)
    | some (_, []) => none
  | rest => (p.openCapture? none).map (·, rest)

/-- Closes the innermost group. -/
def close? (p : Progress) : Option Progress :=
  match p.outer, p.frame.kind with
  | around :: outer, some kind =>
    some { p with
      spaced := p.frame.outerSpaced
      frame := around.push (.group kind p.frame.content)
      outer }
  | _, _ => none

/-- Ends the current alternative. -/
def alternate (p : Progress) : Progress :=
  { p with frame := { p.frame with alternatives := p.frame.alternative :: p.frame.alternatives
                                   items := [] } }

/-- Repeats the last item, of which there must be one that can be repeated. -/
def repeatLast? (p : Progress) (times : Repeat) : Option Progress :=
  match p.frame.items with
  | [] | .empty :: _ | .flags _ :: _ => none
  | item :: items =>
    some { p with frame := { p.frame with items := .repeated times item :: items } }

end Progress

/-- The item that a primitive is. -/
def Primitive.syntax_ : Primitive → Syntax
  | .literal value => .literal value
  | .assertion kind => .assertion kind
  | .shorthand kind negated => .set (.shorthand kind negated)
  | .property name value negated => .set (.property name value negated)

/-- Reads one part of a pattern, which begins with the character `c`. -/
def part? (p : Progress) (c : Char) (rest : List Char) : Option (Progress × List Char) :=
  match c with
  | '(' => p.group? rest
  | ')' => p.close?.map (·, rest)
  | '|' => some (p.alternate, rest)
  | '[' => (bracketed? p.spaced rest).map fun (set, rest) => (p.push (.set set), rest)
  | '?' | '*' | '+' | '\x7b' =>
    match repeat? p.spaced (c :: rest) with
    | none => none
    | some (times, rest) => (p.repeatLast? times).map (·, rest)
  | '\\' => (escape? p.spaced rest).map fun (item, rest) => (p.push item.syntax_, rest)
  | '.' => some (p.push .dot, rest)
  | '^' => some (p.push (.assertion .lineStart), rest)
  | '$' => some (p.push (.assertion .lineEnd), rest)
  | c => some (p.push (.literal ⟨c, false⟩), rest)

/-- Reads the parts of a pattern to its end. -/
def parts? : (fuel : Nat) → Progress → List Char → Option Progress
  | 0, _, _ => none
  | fuel + 1, p, s =>
    match skip p.spaced s with
    | [] => some p
    | c :: rest =>
      match part? p c rest with
      | none => none
      | some (p, rest) => parts? fuel p rest

/-- How deeply a pattern may be nested. -/
def maxDepth : Nat := 250

/-- A pattern as written, with the number of its groups that capture and the names among them. -/
structure Parsed where
  /-- What is written. -/
  body : Syntax
  /-- The number of groups that capture. -/
  captures : Nat
  /-- The names of groups, each with its number. -/
  names : List (String × Nat)

/-- Reads a pattern, none if it is not well formed. -/
def parse? (text : String) : Option Parsed :=
  let s := text.toList
  match parts? (s.length + 1) ⟨false, 0, [], ⟨none, false, [], []⟩, []⟩ s with
  | some ⟨_, captures, names, frame, []⟩ =>
    let body := frame.content
    if body.depth ≤ maxDepth then some ⟨body, captures, names⟩ else none
  | _ => none

end AsmHarness.Pattern
