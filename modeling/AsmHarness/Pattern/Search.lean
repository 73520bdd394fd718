import AsmHarness.Pattern.Program

/-!
# Searching for patterns

A program is run over a text by following all ways through it at once, one character at a time. The
ways that are still open form a list in order of preference; two ways that have come to the same
instruction are one from there on, so the list is never longer than the program. A way that reaches
the end is a match, and closes all ways of less preference. Matches are looked for from every place
on until one is found, so the match found begins as early as possible, and among those that begin
there it is the preferred one.
-/

namespace AsmHarness.Pattern

/-- The places noted in the slots: slot `2 * i` holds where group `i` begins, slot `2 * i + 1` where
it ends. -/
abbrev Slots := Array (Option Nat)

/-! ## Conditions on places -/

/-- Whether the character at a place belongs to a word. -/
def isWordAt (text : Array Char) (unicode : Bool) (place : Nat) : Bool :=
  text[place]?.any (isWordChar unicode)

/-- Whether the character before a place belongs to a word. -/
def isWordBefore (text : Array Char) (unicode : Bool) : (place : Nat) → Bool
  | 0 => false
  | i + 1 => isWordAt text unicode i

/-- Whether the character before a place is the given one. -/
def isBefore (text : Array Char) (c : Char) : (place : Nat) → Bool
  | 0 => false
  | i + 1 => text[i]? == some c

/-- Whether a condition holds at a place of a text. -/
def Look.holds (text : Array Char) (place : Nat) : Look → Bool
  | .start => place = 0
  | .stop => place = text.size
  | .lineStart => place = 0 || isBefore text '\n' place
  | .lineStop => place = text.size || text[place]? == some '\n'
  | .anyLineStart =>
    place = 0 || isBefore text '\n' place ||
      (isBefore text '\r' place && text[place]? != some '\n')
  | .anyLineStop =>
    place = text.size || text[place]? == some '\r' ||
      (text[place]? == some '\n' && !isBefore text '\r' place)
  | .word kind unicode =>
    let before := isWordBefore text unicode place
    let after := isWordAt text unicode place
    match kind with
    | .wordBoundary => before != after
    | .notWordBoundary => before == after
    | .wordStart => !before && after
    | .wordEnd => before && !after
    | .wordStartHalf => !before
    | .wordEndHalf => !after
    | _ => false

/-! ## Ways through a program -/

/-- A way through the program that is still open. -/
structure Way where
  /-- The instruction it has come to. -/
  state : Nat
  /-- The places it has noted. -/
  slots : Slots

/-- The ways open at a place. -/
structure Ways where
  /-- The ways, in order of preference. They stand before a character or at the end. -/
  standing : Array Way
  /-- Which instructions some way has come to at this place. -/
  reached : Array Bool

namespace Ways

/-- No way at all. -/
def none (size : Nat) : Ways := ⟨#[], Array.replicate size false⟩

/-- Follows ways, the first one before the others, up to the next character or the end. Each
instruction is followed once and leads on in two ways at most, which bounds `fuel`. -/
def followAll (code : Code) (text : Array Char) (place : Nat) :
    (fuel : Nat) → List Way → Ways → Ways
  | 0, _, ways => ways
  | _, [], ways => ways
  | fuel + 1, way :: rest, ⟨found, reached⟩ =>
    if reached.getD way.state true then followAll code text place fuel rest ⟨found, reached⟩
    else
      let ways : Ways := ⟨found, reached.setIfInBounds way.state true⟩
      match code[way.state]? with
      | some (.split first second) =>
        followAll code text place fuel
          ({ way with state := first } :: { way with state := second } :: rest) ways
      | some (.look kind next) =>
        if kind.holds text place then
          followAll code text place fuel ({ way with state := next } :: rest) ways
        else followAll code text place fuel rest ways
      | some (.save slot next) =>
        followAll code text place fuel
          (⟨next, way.slots.setIfInBounds slot (some place)⟩ :: rest) ways
      | _ =>
        let ⟨found, reached⟩ := ways
        followAll code text place fuel rest ⟨found.push way, reached⟩

/-- Adds a way, of less preference than those there are. -/
def add (ways : Ways) (code : Code) (text : Array Char) (place : Nat) (way : Way) : Ways :=
  followAll code text place (2 * code.size + 2) [way] ways

end Ways

/-- What has come of the ways open at a place after one character: the ways open at the next place,
and the match found, if any. -/
structure Advance where
  /-- The ways open at the next place. -/
  ways : Ways
  /-- The match, as the slots of the way that found it. -/
  found : Option Slots

/-- Takes the ways in order of preference over the character at a place. The first one that is at
the end is a match, and the others are dropped. -/
def advance (code : Code) (text : Array Char) (place : Nat) : List Way → Advance → Advance
  | [], result => result
  | way :: rest, ⟨ways, found⟩ =>
    match code[way.state]? with
    | some .accept => ⟨ways, some way.slots⟩
    | some (.char chars next) =>
      match text[place]? with
      | some c =>
        if chars.contains c.toNat then
          let ways := ways.add code text (place + 1) { way with state := next }
          advance code text place rest ⟨ways, found⟩
        else advance code text place rest ⟨ways, found⟩
      | none => advance code text place rest ⟨ways, found⟩
    | _ => advance code text place rest ⟨ways, found⟩

namespace Program

/-- Searches from a place on, given the ways open there and the match found so far; `fuel` is the
number of places left. -/
def searchFrom (p : Program) (text : Array Char) :
    (fuel : Nat) → (place : Nat) → Ways → (found : Option Slots) → Option Slots
  | 0, _, _, found => found
  | fuel + 1, place, ways, found =>
    let ways :=
      if found.isSome then ways
      else ways.add p.code text place ⟨p.start, Array.replicate p.slots none⟩
    if ways.standing.isEmpty && found.isSome then found
    else
      let next := advance p.code text place ways.standing.toList ⟨.none p.code.size, found⟩
      p.searchFrom text fuel (place + 1) next.ways next.found

/-- The first match at a place or after it. -/
def search (p : Program) (text : Array Char) (place : Nat) : Option Slots :=
  p.searchFrom text (text.size + 1 - place) place (.none p.code.size) none

end Program

/-- What a match has captured. -/
structure Match where
  /-- The slots of the way that found the match. -/
  slots : Slots
  deriving Repr, DecidableEq

namespace Match

/-- Where the text of a group begins and ends, if the group took part in the match. -/
def group? (m : Match) (index : Nat) : Option (Nat × Nat) :=
  match m.slots[2 * index]?, m.slots[2 * index + 1]? with
  | some (some first), some (some last) => some (first, last)
  | _, _ => none

/-- Where the match begins. -/
def start (m : Match) : Nat := (m.group? 0).elim 0 (·.1)

/-- Where the match ends. -/
def stop (m : Match) : Nat := (m.group? 0).elim 0 (·.2)

end Match

namespace Program

/-- The matches that follow one that ended at `place`. A match of the empty text right there is
passed over, and the search goes on one character later. -/
def matchesFrom (p : Program) (text : Array Char) :
    (fuel : Nat) → (place : Nat) → (last : Option Nat) → List Match
  | 0, _, _ => []
  | fuel + 1, place, last =>
    let found := (p.search text place).map Match.mk
    let found := match found with
      | some m =>
        if m.start = m.stop ∧ last = some m.stop then (p.search text (place + 1)).map Match.mk
        else some m
      | none => none
    match found with
    | none => []
    | some m => m :: p.matchesFrom text fuel m.stop (some m.stop)

/-- The matches in a text, from the first to the last; none overlaps another. -/
def allMatches (p : Program) (text : Array Char) : List Match :=
  p.matchesFrom text (2 * text.size + 2) 0 none

end Program

end AsmHarness.Pattern
