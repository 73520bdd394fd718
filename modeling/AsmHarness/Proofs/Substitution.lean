import AsmHarness.Filter
import Mathlib.Data.List.TakeWhile
import Mathlib.Tactic.SplitIfs

/-!
# What a substitution stands for

A substitution is written with backslashes and handed on as a template, in which a dollar sign has a
meaning of its own. So a second reader, that of templates, takes apart what the first one has
written. Whatever stands next to each other in a substitution, the second reader finds the pieces
that the first one has written, one after the other; hence a match is replaced by what the
substitution says.
-/

namespace AsmHarness

namespace Substitution

/-! ## How substitutions are read -/

/-- A piece of what a substitution stands for. -/
inductive Piece where
  /-- A character. -/
  | char (c : Char)
  /-- The text of the group of a number. -/
  | number (value : Nat)
  /-- The text of the group of a name. -/
  | name (value : List Char)
  deriving DecidableEq, Repr

/-- A digit that the number of a group can begin with. -/
def IsFirstDigit (c : Char) : Prop := c.isDigit ∧ c ≠ '0'

instance (c : Char) : Decidable (IsFirstDigit c) := inferInstanceAs (Decidable (_ ∧ _))

/-- What stands behind a backslash begins with an escape: the piece that it stands for, and what
follows it. -/
inductive Escape : List Char → Piece → List Char → Prop where
  /-- Two digits are the number of a group. -/
  | twoDigits {d e : Char} (first : IsFirstDigit d) (second : e.isDigit) (rest : List Char) :
    Escape (d :: e :: rest) (.number (Text.decimal [d, e])) rest
  /-- One digit is, if no other follows. -/
  | oneDigit {d : Char} {rest : List Char} (first : IsFirstDigit d)
    (single : ∀ e ∈ rest.head?, ¬ e.isDigit) :
    Escape (d :: rest) (.number (Text.decimal [d])) rest
  /-- A name in angle brackets is the name of a group. -/
  | closed {name text rest : List Char} (inside : '>' ∉ name) (ends : text = name ++ '>' :: rest) :
    Escape ('g' :: '<' :: text) (.name name) rest
  /-- A name that is not closed runs to the end. -/
  | unclosed {name : List Char} (inside : '>' ∉ name) : Escape ('g' :: '<' :: name) (.name name) []
  /-- A line feed. -/
  | newline (rest : List Char) : Escape ('n' :: rest) (.char '\n') rest
  /-- A tab. -/
  | tab (rest : List Char) : Escape ('t' :: rest) (.char '\t') rest
  /-- A backslash. -/
  | backslash (rest : List Char) : Escape ('\\' :: rest) (.char '\\') rest

/-- A substitution, read from left to right, stands for some pieces. -/
inductive Reads : List Char → List Piece → Prop where
  /-- The end. -/
  | done : Reads [] []
  /-- A backslash and what it gives a meaning to. -/
  | escape {text rest : List Char} {piece : Piece} {pieces : List Piece}
    (h : Escape text piece rest) (next : Reads rest pieces) :
    Reads ('\\' :: text) (piece :: pieces)
  /-- A backslash in front of anything else, or at the end, stands for itself. -/
  | lone {rest : List Char} {pieces : List Piece} (h : ∀ piece after, ¬ Escape rest piece after)
    (next : Reads rest pieces) : Reads ('\\' :: rest) (.char '\\' :: pieces)
  /-- Every other character stands for itself. -/
  | char {c : Char} {rest : List Char} {pieces : List Piece} (h : c ≠ '\\')
    (next : Reads rest pieces) : Reads (c :: rest) (.char c :: pieces)

section Readings

variable {text rest after : List Char} {piece other : Piece} {pieces others : List Piece} {d : Char}

theorem IsFirstDigit.ne (h : IsFirstDigit d) : d ≠ 'g' ∧ d ≠ 'n' ∧ d ≠ 't' ∧ d ≠ '\\' := by
  obtain ⟨hdigit, -⟩ := h
  refine ⟨?_, ?_, ?_, ?_⟩ <;> rintro rfl <;> simp at hdigit

/-- A stretch without a character ends where that character comes. -/
theorem span_ne (stop : Char) (inside : stop ∉ text) (rest : List Char) :
    (text ++ stop :: rest).takeWhile (· ≠ stop) = text ∧
      (text ++ stop :: rest).dropWhile (· ≠ stop) = stop :: rest := by
  have hall : ∀ c ∈ text, decide (c ≠ stop) = true := by
    intro c hc
    exact decide_eq_true fun heq => inside (heq ▸ hc)
  constructor
  · rw [List.takeWhile_append_of_pos hall, List.takeWhile_cons_of_neg (by simp), List.append_nil]
  · rw [List.dropWhile_append_of_pos hall, List.dropWhile_cons_of_neg (by simp)]

/-- The name that is read where one is closed, and what is left then. -/
theorem closed_name (inside : '>' ∉ text) (rest : List Char) :
    (text ++ '>' :: rest).takeWhile (· ≠ '>') = text ∧ afterName (text ++ '>' :: rest) = rest := by
  obtain ⟨htake, hdrop⟩ := span_ne '>' inside rest
  exact ⟨htake, by rw [afterName, hdrop, List.tail_cons]⟩

/-- Without a bracket, all is read as the name. -/
theorem unclosed_name (inside : '>' ∉ text) :
    text.takeWhile (· ≠ '>') = text ∧ afterName text = [] := by
  have hall : ∀ c ∈ text, decide (c ≠ '>') = true := by
    intro c hc
    exact decide_eq_true fun heq => inside (heq ▸ hc)
  have hafter : afterName text = [] := by
    rw [afterName, List.dropWhile_eq_nil_iff.2 hall]
    rfl
  exact ⟨List.takeWhile_eq_self_iff.2 hall, hafter⟩

theorem Escape.length_lt (h : Escape text piece rest) : rest.length < text.length := by
  cases h with
  | closed inside ends =>
    subst ends
    simp only [List.length_cons, List.length_append]
    omega
  | _ =>
    simp only [List.length_cons, List.length_nil]
    omega

/-- An escape can be read in one way only. -/
theorem Escape.unique (h : Escape text piece rest) (hother : Escape text other after) :
    piece = other ∧ rest = after := by
  cases h with
  | twoDigits first second =>
    obtain ⟨hg, hn, ht, hb⟩ := first.ne
    cases hother with
    | twoDigits => exact ⟨rfl, rfl⟩
    | oneDigit _ single => exact absurd second (single _ rfl)
    | _ => contradiction
  | oneDigit first single =>
    obtain ⟨hg, hn, ht, hb⟩ := first.ne
    cases hother with
    | twoDigits _ second => exact absurd second (single _ rfl)
    | oneDigit => exact ⟨rfl, rfl⟩
    | _ => contradiction
  | closed inside ends =>
    cases hother with
    | twoDigits first => exact absurd rfl first.ne.1
    | oneDigit first => exact absurd rfl first.ne.1
    | closed inside' ends' =>
      obtain ⟨hname, hafter⟩ := closed_name inside rest
      obtain ⟨hname', hafter'⟩ := closed_name inside' after
      rw [← ends] at hname hafter
      rw [← ends'] at hname' hafter'
      exact ⟨congrArg Piece.name (hname.symm.trans hname'), hafter.symm.trans hafter'⟩
    | unclosed inside' => exact absurd (ends ▸ by simp) inside'
  | unclosed inside =>
    cases hother with
    | twoDigits first => exact absurd rfl first.ne.1
    | oneDigit first => exact absurd rfl first.ne.1
    | closed inside' ends' => exact absurd (ends' ▸ by simp) inside
    | unclosed => exact ⟨rfl, rfl⟩
  | newline =>
    cases hother with
    | newline => exact ⟨rfl, rfl⟩
    | twoDigits first => exact absurd rfl first.ne.2.1
    | oneDigit first => exact absurd rfl first.ne.2.1
  | tab =>
    cases hother with
    | tab => exact ⟨rfl, rfl⟩
    | twoDigits first => exact absurd rfl first.ne.2.2.1
    | oneDigit first => exact absurd rfl first.ne.2.2.1
  | backslash =>
    cases hother with
    | backslash => exact ⟨rfl, rfl⟩
    | twoDigits first => exact absurd rfl first.ne.2.2.2
    | oneDigit first => exact absurd rfl first.ne.2.2.2

theorem name_cases (text : List Char) :
    (∃ name rest, text = name ++ '>' :: rest ∧ '>' ∉ name) ∨ '>' ∉ text := by
  by_cases h : '>' ∈ text
  · obtain ⟨name, rest, hsplit, hname⟩ := List.eq_append_cons_of_mem h
    exact .inl ⟨name, rest, hsplit, hname⟩
  · exact .inr h

/-- Every substitution can be read. -/
theorem exists_reads (text : List Char) : ∃ pieces, Reads text pieces := by
  induction hn : text.length using Nat.strong_induction_on generalizing text with
  | _ n ih =>
    subst hn
    cases text with
    | nil => exact ⟨[], .done⟩
    | cons c rest =>
      obtain ⟨pieces, hrest⟩ := ih rest.length (by simp) rest rfl
      by_cases hc : c = '\\'
      · subst hc
        by_cases hescape : ∃ piece after, Escape rest piece after
        · obtain ⟨piece, after, hescape⟩ := hescape
          have hlt := hescape.length_lt
          obtain ⟨pieces, hafter⟩ := ih after.length (by simp; omega) after rfl
          exact ⟨piece :: pieces, .escape hescape hafter⟩
        · have hnone : ∀ piece after, ¬ Escape rest piece after :=
            fun piece after h => hescape ⟨piece, after, h⟩
          exact ⟨.char '\\' :: pieces, .lone hnone hrest⟩
      · exact ⟨.char c :: pieces, .char hc hrest⟩

/-- It can be read in one way only. -/
theorem Reads.unique (h : Reads text pieces) (hother : Reads text others) : pieces = others := by
  induction h generalizing others with
  | done =>
    cases hother
    rfl
  | escape hescape next ih =>
    cases hother with
    | escape hescape' next' =>
      obtain ⟨rfl, rfl⟩ := hescape.unique hescape'
      rw [ih next']
    | lone hnone => exact absurd hescape (hnone _ _)
    | char hc => exact absurd rfl hc
  | lone hnone next ih =>
    cases hother with
    | escape hescape => exact absurd hescape (hnone _ _)
    | lone _ next' => rw [ih next']
    | char hc => exact absurd rfl hc
  | char hc next ih =>
    cases hother with
    | escape => exact absurd rfl hc
    | lone => exact absurd rfl hc
    | char _ next' => rw [ih next']

end Readings

/-! ## How templates are read -/

/-- What a piece is written as in a template. -/
def Piece.part : Piece → Pattern.Part
  | .char c => .char c
  | .number value => .group (.index value)
  | .name value => .group (.ofName value)

/-- No name of a group has a closing brace in it. -/
def Braceless (pieces : List Piece) : Prop := ∀ name, .name name ∈ pieces → '\x7d' ∉ name

section Templates

open Pattern

variable {text rest name : List Char} {piece : Piece} {pieces : List Piece} {c d e : Char}

/-- A name in braces is read as a reference, whatever follows. -/
theorem parts_braced (inside : '\x7d' ∉ name) (rest : List Char) :
    parts (braced name ++ rest) = .group (.ofName name) :: parts rest := by
  obtain ⟨htake, hdrop⟩ := span_ne '\x7d' inside rest
  have hreference :
      reference? ('\x7b' :: (name ++ '\x7d' :: rest)) = some (.ofName name, rest) := by
    rw [reference?, hdrop, htake]
  have hsplit : braced name ++ rest = '$' :: '\x7b' :: (name ++ '\x7d' :: rest) := by
    simp [braced]
  rw [hsplit, parts.eq_3 _ (by simp)]
  split
  · next ref after h =>
    rw [hreference] at h
    cases h
    rfl
  · next h => simp [hreference] at h

/-- A character other than a dollar sign is read as itself, whatever follows. -/
theorem parts_char (hc : c ≠ '$') (rest : List Char) :
    parts (c :: rest) = .char c :: parts rest :=
  parts.eq_4 c rest (fun _ h => absurd h hc) hc

/-- Digits are read as a number. -/
theorem ofName_digits {more : List Char} (hd : d.isDigit) (hmore : more.all Char.isDigit)
    (hsmall : Text.decimal (d :: more) ≤ maxGroupNumber) :
    GroupRef.ofName (d :: more) = .index (Text.decimal (d :: more)) := by
  have hplus : d ≠ '+' := by
    rintro rfl
    simp at hd
  have hall : ∀ c ∈ more, c.isDigit = true := List.all_eq_true.1 hmore
  simpa [GroupRef.ofName, hplus, hd, hsmall] using hall

theorem digit_le (h : d.isDigit) : d.toNat - '0'.toNat ≤ 9 := by
  simp only [Char.isDigit, Bool.and_eq_true, decide_eq_true_eq] at h
  have hle : d.toNat ≤ '9'.toNat := UInt32.le_iff_toNat_le.1 h.2
  have hspan : '9'.toNat - '0'.toNat = 9 := rfl
  omega

theorem brace_ne_digit (h : d.isDigit) : '\x7d' ≠ d := by
  rintro rfl
  simp at h

/-- The number of a group is written as its digits in braces, and read as the number. -/
theorem parts_number {more : List Char} (hd : d.isDigit)
    (hmore : more = [] ∨ ∃ e, e.isDigit ∧ more = [e]) (rest : List Char) :
    parts (braced (d :: more) ++ rest) =
      .group (.index (Text.decimal (d :: more))) :: parts rest := by
  have hdigit := digit_le hd
  rcases hmore with rfl | ⟨e, he, rfl⟩
  · have hsmall : Text.decimal [d] ≤ maxGroupNumber := by
      simp only [Text.decimal, List.foldl_cons, List.foldl_nil, maxGroupNumber]
      omega
    rw [parts_braced (by simp [brace_ne_digit hd]), ofName_digits hd (by simp) hsmall]
  · have hdigit' := digit_le he
    have hsmall : Text.decimal [d, e] ≤ maxGroupNumber := by
      simp only [Text.decimal, List.foldl_cons, List.foldl_nil, maxGroupNumber]
      omega
    rw [parts_braced (by simp [brace_ne_digit hd, brace_ne_digit he]),
      ofName_digits hd (by simp [he]) hsmall]

/-- An escape is read back as its piece, whatever follows. -/
theorem parts_escape (h : Escape text piece rest)
    (hname : ∀ name, piece = .name name → '\x7d' ∉ name) :
    parts (template ('\\' :: text)) = piece.part :: parts (template rest) := by
  cases h with
  | @twoDigits d e first second =>
    obtain ⟨hg, hn, ht, hb⟩ := first.ne
    rw [template.eq_8 d e rest (fun h _ => hg h) hg hn ht hb, if_pos ⟨first.1, first.2⟩,
      if_pos second, parts_number first.1 (.inr ⟨e, second, rfl⟩)]
    rfl
  | @oneDigit d _ first single =>
    obtain ⟨hg, hn, ht, hb⟩ := first.ne
    have hsingle := parts_number first.1 (.inl rfl) (template rest)
    cases rest with
    | nil =>
      rw [template.eq_9 d hg hn ht hb, if_pos ⟨first.1, first.2⟩]
      rw [template, List.append_nil] at hsingle
      rw [hsingle, template]
      rfl
    | cons e rest =>
      rw [template.eq_8 d e rest (fun h _ => hg h) hg hn ht hb, if_pos ⟨first.1, first.2⟩,
        if_neg (single e rfl), hsingle]
      rfl
  | @closed name text _ inside ends =>
    obtain ⟨htake, hafter⟩ := closed_name inside rest
    rw [template.eq_3, ends, htake, hafter, parts_braced (hname name rfl)]
    rfl
  | unclosed inside =>
    obtain ⟨htake, hafter⟩ := unclosed_name inside
    rw [template.eq_3, htake, hafter, parts_braced (hname _ rfl), template]
    rfl
  | newline =>
    rw [template, parts_char (by decide)]
    rfl
  | tab =>
    rw [template, parts_char (by decide)]
    rfl
  | backslash =>
    rw [template, parts_char (by decide)]
    rfl

/-- A backslash that begins no escape is written as it is. -/
theorem template_lone (hnone : ∀ piece after, ¬ Escape rest piece after) :
    template ('\\' :: rest) = '\\' :: template rest := by
  cases rest with
  | nil => rw [template.eq_10 _ _ (by simp) (by simp) (by simp) (by simp) (by simp) (by simp)
      (by simp) (by simp)]
  | cons d rest =>
    have hn : d ≠ 'n' := by
      rintro rfl
      exact hnone _ _ (.newline rest)
    have ht : d ≠ 't' := by
      rintro rfl
      exact hnone _ _ (.tab rest)
    have hb : d ≠ '\\' := by
      rintro rfl
      exact hnone _ _ (.backslash rest)
    have hdigit : ¬ (d.isDigit ∧ d ≠ '0') := by
      intro first
      cases rest with
      | nil => exact hnone _ _ (.oneDigit first (by simp))
      | cons e rest =>
        by_cases he : e.isDigit
        · exact hnone _ _ (.twoDigits first he rest)
        · exact hnone _ _ (.oneDigit first (by simpa using he))
    by_cases hg : d = 'g'
    · subst hg
      have hbracket : ∀ text, rest ≠ '<' :: text := by
        rintro text rfl
        rcases name_cases text with ⟨name, after, ends, inside⟩ | inside
        · exact hnone _ _ (.closed inside ends)
        · exact hnone _ _ (.unclosed inside)
      rw [template.eq_4 rest hbracket, template.eq_10 'g' rest] <;> simp
    · cases rest with
      | nil => rw [template.eq_9 d hg hn ht hb, if_neg hdigit]
      | cons e rest => rw [template.eq_8 d e rest (fun h _ => hg h) hg hn ht hb, if_neg hdigit]

/-- A character other than a backslash is read back as itself. -/
theorem parts_template_char (hc : c ≠ '\\') (rest : List Char) :
    parts (template (c :: rest)) = .char c :: parts (template rest) := by
  by_cases hdollar : c = '$'
  · subst hdollar
    rw [template, parts]
  · rw [template.eq_10 c rest hdollar, parts_char hdollar] <;> intros <;> contradiction

/-- What is written for a substitution is read back as its pieces. -/
theorem parts_template (h : Reads text pieces) (hnames : Braceless pieces) :
    parts (template text) = pieces.map Piece.part := by
  induction h with
  | done => rw [template, parts, List.map_nil]
  | @escape _ rest piece pieces hescape next ih =>
    have hfirst : ∀ name, piece = .name name → '\x7d' ∉ name :=
      fun name heq => hnames name (heq ▸ List.mem_cons_self ..)
    have hrest : Braceless pieces := fun name hmem => hnames name (List.mem_cons_of_mem _ hmem)
    rw [parts_escape hescape hfirst, ih hrest, List.map_cons]
  | @lone rest pieces hnone next ih =>
    have hrest : Braceless pieces := fun name hmem => hnames name (List.mem_cons_of_mem _ hmem)
    rw [template_lone hnone, parts_char (by decide), ih hrest, List.map_cons, Piece.part]
  | @char c rest pieces hc next ih =>
    have hrest : Braceless pieces := fun name hmem => hnames name (List.mem_cons_of_mem _ hmem)
    rw [parts_template_char hc, ih hrest, List.map_cons, Piece.part]

end Templates

end Substitution

/-! ## What a match is replaced by -/

namespace Pattern

/-- The text of a group in a match, none if there is no such group or it took no part. -/
def groupText (p : Pattern) (text : Array Char) (m : Match) (ref : GroupRef) : List Char :=
  match p.group? m ref with
  | some (first, last) => (text.extract first last).toList
  | none => []

end Pattern

namespace Substitution

/-- What a piece stands for in a match. -/
def Piece.text (p : Pattern) (text : Array Char) (m : Pattern.Match) : Piece → List Char
  | .char c => [c]
  | .number value => p.groupText text m (.index value)
  | .name value => p.groupText text m (.ofName value)

section Matches

variable (p : Pattern) (text : Array Char) (m : Pattern.Match)

theorem foldl_push (chars : List Char) (written : String) :
    chars.foldl String.push written = written ++ .ofList chars := by
  induction chars generalizing written with
  | nil => simp
  | cons c rest ih =>
    rw [List.foldl_cons, ih, ← String.toList_inj]
    simp

/-- A piece is written behind what has been written. -/
theorem writePart_part (written : String) (piece : Piece) :
    p.writePart text m written piece.part = written ++ .ofList (piece.text p text m) := by
  have hgroup : ∀ ref, p.writePart text m written (.group ref) =
      written ++ .ofList (p.groupText text m ref) := by
    intro ref
    unfold Pattern.writePart Pattern.groupText
    rcases hgroup : p.group? m ref with _ | ⟨first, last⟩
    · simp only [hgroup, String.ofList_nil, String.append_empty]
    · simp only [hgroup]
      rw [Array.foldl_eq_foldl_extract, ← Array.foldl_toList]
      exact foldl_push _ written
  cases piece with
  | char c =>
    rw [← String.toList_inj]
    simp [Piece.part, Piece.text, Pattern.writePart]
  | number value => exact hgroup (.index value)
  | name value => exact hgroup (.ofName value)

/-- So are pieces, one after the other. -/
theorem foldl_writePart (written : String) (pieces : List Piece) :
    (pieces.map Piece.part).foldl (p.writePart text m) written =
      written ++ .ofList (pieces.flatMap (Piece.text p text m)) := by
  induction pieces generalizing written with
  | nil => simp
  | cons piece rest ih =>
    rw [List.map_cons, List.foldl_cons, writePart_part, ih, List.flatMap_cons, String.ofList_append,
      String.append_assoc]

end Matches

/-- A substitution can be read from left to right, and in one way only, as the pieces that it stands
for. If no name of a group has a closing brace in it, then the template that it is turned into
replaces every match by these pieces: characters as they are, and groups by their text. -/
theorem template_reading (substitution : List Char) :
    ∃ pieces, Reads substitution pieces ∧ (∀ other, Reads substitution other → other = pieces) ∧
      (Braceless pieces → ∀ (p : Pattern) (text : Array Char) (m : Pattern.Match)
        (written : String),
        (Pattern.parts (template substitution)).foldl (p.writePart text m) written =
          written ++ .ofList (pieces.flatMap (Piece.text p text m))) := by
  obtain ⟨pieces, hreads⟩ := exists_reads substitution
  refine ⟨pieces, hreads, fun other hother => hother.unique hreads, ?_⟩
  intro hnames p text m written
  rw [parts_template hreads hnames, foldl_writePart]

/-- A dollar sign in front of a group, two digits, a group in front of another one, and a digit
behind a group do not run into each other. -/
theorem template_reading_adjacent :
    Reads ['$', '\\', '1', '0', '\\', 'g', '<', 'a', '>', '2']
      [.char '$', .number 10, .name ['a'], .char '2'] ∧
    Braceless [.char '$', .number 10, .name ['a'], .char '2'] ∧
    ∀ (p : Pattern) (text : Array Char) (m : Pattern.Match) (written : String),
      (Pattern.parts (template ['$', '\\', '1', '0', '\\', 'g', '<', 'a', '>', '2'])).foldl
        (p.writePart text m) written =
          written ++ .ofList ('$' :: (p.groupText text m (.index 10) ++
            (p.groupText text m (.name "a") ++ ['2']))) := by
  have hreads : Reads ['$', '\\', '1', '0', '\\', 'g', '<', 'a', '>', '2']
      [.char '$', .number 10, .name ['a'], .char '2'] :=
    .char (by decide) (.escape (.twoDigits (by decide) (by decide) _)
      (.escape (.closed (by decide) rfl) (.char (by decide) .done)))
  have hnames : Braceless [.char '$', .number 10, .name ['a'], .char '2'] := by
    intro name hmem
    obtain rfl : name = ['a'] := by simpa using hmem
    decide
  refine ⟨hreads, hnames, fun p text m written => ?_⟩
  obtain ⟨pieces, -, hunique, hwritten⟩ :=
    template_reading ['$', '\\', '1', '0', '\\', 'g', '<', 'a', '>', '2']
  obtain rfl := hunique _ hreads
  rw [hwritten hnames p text m written]
  rfl

end Substitution

end AsmHarness
