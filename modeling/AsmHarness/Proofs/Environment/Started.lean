import AsmHarness.Execution
import AsmHarness.Proofs.Descriptor.Prepare

/-!
# The environment an assembler is started with

What the entries of a record ask for goes through three stages: a sorted list in which later entries
replace earlier ones, the change that makes the output reproducible, which stands before them, and
the changes made in turn to what is inherited. In the end each variable is as the last entry that
names it says; only without such an entry it is reproducible or inherited.
-/

namespace AsmHarness

/-! ## Changes in turn -/

namespace Environment

section Changes

variable (environment : Environment) (entries : List (String × String)) (changes : List Change)
  (change : Change) (key name value : String)

theorem get?_erase : (environment.erase key).get? name =
    if key = name then none else environment.get? name := by
  change (environment.entries.filter (·.1 ≠ key)).lookup name = if key = name then none else
    environment.entries.lookup name
  induction environment.entries with
  | nil => simp
  | cons entry rest ih =>
    obtain ⟨other, value⟩ := entry
    by_cases hother : other = key
    · rw [List.filter_cons_of_neg (by simp [hother]), ih, List.lookup_cons, hother]
      split_ifs with hkey
      · rfl
      · rw [beq_false_of_ne (Ne.symm hkey)]
    · rw [List.filter_cons_of_pos (by simp [hother]), List.lookup_cons, List.lookup_cons, ih]
      split_ifs with hkey
      · rw [beq_false_of_ne (hkey ▸ Ne.symm hother)]
      · rfl

theorem get?_set : (environment.set key value).get? name =
    if key = name then some value else environment.get? name := by
  have happend : (environment.set key value).get? name =
      ((environment.erase key).get? name).or ([(key, value)].lookup name) := List.lookup_append ..
  rw [happend, get?_erase, List.lookup_cons, List.lookup_nil]
  split_ifs with hkey
  · rw [hkey, beq_self_eq_true]
    rfl
  · rw [beq_false_of_ne (Ne.symm hkey)]
    exact Option.or_none ..

/-- A change decides about its variable, and leaves other variables alone. -/
theorem get?_change : (environment.change change).get? name =
    if change.1 = name then change.2 else environment.get? name := by
  obtain ⟨key, value⟩ := change
  cases value with
  | none => exact get?_erase ..
  | some value => exact get?_set ..

/-- Of several changes to one variable the last one counts. -/
theorem get?_apply : (environment.apply changes).get? name =
    match (changes.filter (·.1 = name)).getLast? with
    | some change => change.2
    | none => environment.get? name := by
  induction changes using List.reverseRecOn with
  | nil => rfl
  | append_singleton changes change ih =>
    have happly : environment.apply (changes ++ [change]) =
        (environment.apply changes).change change := List.foldl_append ..
    rw [happly, get?_change, List.filter_append]
    by_cases hname : change.1 = name
    · simp [hname]
    · simp [hname, ih]

/-- A variable that is there twice is collected with its last value. -/
theorem get?_ofEntries : (ofEntries entries).get? name =
    (entries.filter (·.1 = name)).getLast?.map (·.2) := by
  have hfilter : (entries.map fun entry => ((entry.1, some entry.2) : Change)).filter (·.1 = name) =
      (entries.filter (·.1 = name)).map fun entry => (entry.1, some entry.2) := by
    rw [List.filter_map]
    rfl
  rw [ofEntries, get?_apply, hfilter, List.getLast?_map]
  cases (entries.filter (·.1 = name)).getLast? <;> rfl

end Changes

end Environment

/-! ## Entries -/

namespace Change

/-- An entry names a variable. -/
def Names (entry name : String) : Prop := ∃ value, Says entry (name, value)

/-- Two lists of entries have the same entries for each variable, in the same order; entries for
different variables may have changed places. -/
def Reordered (entries others : List String) : Prop :=
  ∀ name, entries.filter (fun entry => (ofEntry entry).1 = name) =
    others.filter (fun entry => (ofEntry entry).1 = name)

section Entries

variable {entries others : List String} {changes : List Change} {change : Change} {name : String}

theorem names_iff {entry : String} : Names entry name ↔ (ofEntry entry).1 = name := by
  unfold Names
  simp only [says_iff]
  constructor
  · rintro ⟨value, heq⟩
    rw [heq]
  · rintro rfl
    exact ⟨(ofEntry entry).2, rfl⟩

/-- There is one change to a variable at most if they are sorted. -/
theorem Sorted.filter_eq (h : Sorted changes) (hmem : change ∈ changes) :
    changes.filter (·.1 = change.1) = [change] := by
  induction changes with
  | nil => cases hmem
  | cons first rest ih =>
    obtain ⟨hfirst, hrest⟩ := List.pairwise_cons.1 h
    rcases List.mem_cons.1 hmem with rfl | hmem
    · have hnone : rest.filter (·.1 = change.1) = [] := by
        rw [List.filter_eq_nil_iff]
        intro later hlater
        simpa using (ne_of_lt (hfirst later hlater)).symm
      simp [hnone]
    · have hne : first.1 ≠ change.1 := ne_of_lt (hfirst change hmem)
      simp [hne, ih hrest hmem]

/-- The last entry to name a variable is the last of those that name it. -/
theorem lastSaid_iff : LastSaid entries change ↔
    ((entries.filter (fun entry => (ofEntry entry).1 = change.1)).map ofEntry).getLast? =
      some change := by
  have hmap : (entries.filter (fun entry => (ofEntry entry).1 = change.1)).map ofEntry =
      (entries.map ofEntry).filter (·.1 = change.1) := by
    rw [List.filter_map]
    rfl
  rw [← mem_byName_ofEntry, mem_byName_iff, hmap, List.getLast?_eq_some_iff]
  constructor
  · rintro ⟨before, after, hsplit, hafter⟩
    refine ⟨before.filter (·.1 = change.1), ?_⟩
    have hnone : after.filter (·.1 = change.1) = [] := by
      rw [List.filter_eq_nil_iff]
      intro later hlater
      simpa using hafter later hlater
    rw [hsplit, List.filter_append, List.filter_cons_of_pos (by simp), hnone]
  · rintro ⟨front, hfront⟩
    obtain ⟨before, rest, hsplit, -, hrest⟩ := List.filter_eq_append_iff.1 hfront
    obtain ⟨between, after, rfl, -, -, hafter⟩ := List.filter_eq_cons_iff.1 hrest
    refine ⟨before ++ between, after, by rw [hsplit, List.append_assoc], fun later hlater => ?_⟩
    simpa using List.filter_eq_nil_iff.1 hafter later hlater

/-- A variable is named by an entry, the last one of which counts, or by none. -/
theorem lastSaid_or (entries : List String) (name : String) :
    (∃ value, LastSaid entries (name, value)) ∨ ∀ entry ∈ entries, ¬ Names entry name := by
  cases hlast : (entries.filter (fun entry => (ofEntry entry).1 = name)).getLast? with
  | none =>
    rw [List.getLast?_eq_none_iff, List.filter_eq_nil_iff] at hlast
    exact .inr fun entry hentry hnames => hlast entry hentry (by simpa using names_iff.1 hnames)
  | some entry =>
    have hname : (ofEntry entry).1 = name := by
      simpa using (List.mem_filter.1 (List.mem_of_getLast? hlast)).2
    refine .inl ⟨(ofEntry entry).2, lastSaid_iff.2 ?_⟩
    rw [List.getLast?_map, hlast, Option.map_some, ← hname]

/-- Entries for different variables can change places. -/
theorem Reordered.swap {first second : String} (h : (ofEntry first).1 ≠ (ofEntry second).1)
    (before after : List String) :
    Reordered (before ++ first :: second :: after) (before ++ second :: first :: after) := by
  intro name
  rw [List.filter_append, List.filter_append]
  by_cases hfirst : (ofEntry first).1 = name
  · have hsecond : (ofEntry second).1 ≠ name := fun heq => h (hfirst.trans heq.symm)
    simp [hfirst, hsecond]
  · simp [hfirst, List.filter_cons]

theorem Reordered.lastSaid_iff (h : Reordered entries others) :
    LastSaid entries change ↔ LastSaid others change := by
  rw [Change.lastSaid_iff, Change.lastSaid_iff, h change.1]

end Entries

end Change

/-! ## Starting the assembler -/

open Change (LastSaid Names Reordered)

/-- What the value of a variable is in the environment of an assembler, if it has one, given the
entries of a record and what is inherited. -/
inductive Environment.Gives (entries : List String) (inherited : List (String × String))
    (name : String) : Option String → Prop where
  /-- The last entry to name the variable gives it a value. -/
  | set {value : String} (said : LastSaid entries (name, some value)) :
      Gives entries inherited name (some value)
  /-- The last entry to name the variable removes it. -/
  | removed (said : LastSaid entries (name, none)) : Gives entries inherited name none
  /-- The assembler is asked for reproducible output, unless an entry names the variable. -/
  | reproducible (asks : name = "NASMENV") (unnamed : ∀ entry ∈ entries, ¬ Names entry name) :
      Gives entries inherited name (some "--reproducible")
  /-- Another variable is inherited with the value it has, the last one if there are several. -/
  | inherited (other : name ≠ "NASMENV") (unnamed : ∀ entry ∈ entries, ¬ Names entry name) :
      Gives entries inherited name ((inherited.filter (·.1 = name)).getLast?.map (·.2))

section Started

variable {r : Record} {d : Descriptor} {baseDir : Path} {fileName : String} {seq : Option Nat}

theorem environment_launch (d : Descriptor) (assembler : Path)
    (inherited : List (String × String)) :
    ((d.invocation assembler).launch inherited).environment =
      (Environment.ofEntries inherited).apply (Descriptor.reproducible :: d.environ) := rfl

/-- What is made of a variable that an entry names: its entry is the last one that is applied. -/
theorem get?_of_lastSaid (h : r.Describes baseDir fileName seq d) (environment : Environment)
    {name : String} {value : Option String} (hsaid : LastSaid r.environ (name, value)) :
    (environment.apply (Descriptor.reproducible :: d.environ)).get? name = value := by
  have honly : d.environ.filter (·.1 = name) = [(name, value)] :=
    h.sorted.filter_eq ((h.environ _).2 hsaid)
  rw [Environment.get?_apply, List.filter_cons, honly]
  split_ifs <;> rfl

/-- What is made of a variable that no entry names. -/
theorem get?_of_unnamed (h : r.Describes baseDir fileName seq d) (environment : Environment)
    {name : String} (hunnamed : ∀ entry ∈ r.environ, ¬ Names entry name) :
    (environment.apply (Descriptor.reproducible :: d.environ)).get? name =
      if name = "NASMENV" then some "--reproducible" else environment.get? name := by
  have hnone : d.environ.filter (·.1 = name) = [] := by
    rw [List.filter_eq_nil_iff]
    intro change hchange
    obtain ⟨before, entry, after, hsplit, hsays, -⟩ := (h.environ change).1 hchange
    have hentry : entry ∈ r.environ := by simp [hsplit]
    intro hname
    obtain rfl : change.1 = name := by simpa using hname
    exact hunnamed entry hentry ⟨change.2, hsays⟩
  rw [Environment.get?_apply, List.filter_cons, hnone]
  by_cases hname : name = "NASMENV"
  · simp [Descriptor.reproducible, hname]
  · simp [Descriptor.reproducible, hname, Ne.symm hname]

/-- The changes of a test do not depend on the order of entries for different variables. -/
theorem environ_eq_of_reordered {other : Record} {d' : Descriptor} {baseDir' : Path}
    {fileName' : String} {seq' : Option Nat} (h : r.Describes baseDir fileName seq d)
    (hother : other.Describes baseDir' fileName' seq' d')
    (hreordered : Reordered r.environ other.environ) : d.environ = d'.environ :=
  h.sorted.ext hother.sorted fun change =>
    (h.environ change).trans (hreordered.lastSaid_iff.trans (hother.environ change).symm)

theorem describes_of_prepare {value : Json} (hwritten : r.WrittenAs value)
    (h : (Descriptor.prepare value baseDir fileName seq).run.value = .ok d) :
    r.Describes baseDir fileName seq d := by
  cases Descriptor.prepared_of_value h with
  | @test other _ hother hdescribes =>
    have hsame := (Record.ofJson?_eq_some_iff value r).2 hwritten
    rw [(Record.ofJson?_eq_some_iff value other).2 hother] at hsame
    exact Option.some_inj.1 hsame ▸ hdescribes

end Started

/-- In the environment of an assembler every variable is as the last entry of the record to name it
says. The variable that asks for reproducible output is set if no entry names it, and all others are
inherited as they are, a variable that is inherited twice with its last value. The order of entries for different variables does not matter, nor does
anything else in the record. -/
theorem environment_started (r : Record) (value : Json) (baseDir : Path) (fileName : String)
    (seq : Option Nat) (d : Descriptor) (hwritten : r.WrittenAs value)
    (hprepared : (Descriptor.prepare value baseDir fileName seq).run.value = .ok d)
    (assembler : Path) (inherited : List (String × String)) :
    (∀ name, Environment.Gives r.environ inherited name
      (((d.invocation assembler).launch inherited).environment.get? name)) ∧
    ∀ (other : Record) (value' : Json) (baseDir' : Path) (fileName' : String) (seq' : Option Nat)
      (d' : Descriptor) (assembler' : Path), other.WrittenAs value' →
      (Descriptor.prepare value' baseDir' fileName' seq').run.value = .ok d' →
      Reordered r.environ other.environ →
      ((d'.invocation assembler').launch inherited).environment =
        ((d.invocation assembler).launch inherited).environment := by
  have hdescribes := describes_of_prepare hwritten hprepared
  refine ⟨fun name => ?_, ?_⟩
  · rw [environment_launch]
    rcases Change.lastSaid_or r.environ name with ⟨value, hsaid⟩ | hunnamed
    · rw [get?_of_lastSaid hdescribes _ hsaid]
      cases value with
      | none => exact .removed hsaid
      | some value => exact .set hsaid
    · rw [get?_of_unnamed hdescribes _ hunnamed]
      split_ifs with hname
      · exact .reproducible hname hunnamed
      · rw [Environment.get?_ofEntries]
        exact .inherited hname hunnamed
  · intro other value' baseDir' fileName' seq' d' assembler' hwritten' hprepared' hreordered
    have hsame := environ_eq_of_reordered hdescribes
      (describes_of_prepare hwritten' hprepared') hreordered
    rw [environment_launch, environment_launch, hsame]

namespace Sample

/-- A record that asks for some changes. -/
def changing (entries : List String) : Json :=
  .object [("description", .string "changes"), ("environ", .array (entries.map .string))]

/-- The same record when it has been read. -/
def changingRecord (entries : List String) : Record :=
  ⟨some "changes", none, none, none, none, none, false, entries, none⟩

/-- The test that it describes. -/
def changingTest (entries : List String) : Descriptor :=
  Descriptor.ofRecord (changingRecord entries) "t" "c.json" none "changes" []

theorem written_changing (entries : List String) :
    (changingRecord entries).WrittenAs (changing entries) := by
  have hentries : List.Forall₂ Record.IsText (entries.map .string) entries := by
    rw [List.forall₂_map_left_iff]
    exact List.forall₂_same.2 fun entry _ => rfl
  refine ⟨_, .object _, .present (by simp) rfl, .missing, .missing, .missing, .missing, .missing,
    ?_, ?_, ⟨_, rfl, hentries⟩, .missing⟩
  · intro value hvalue
    cases hvalue
  · simp [changingRecord, Json.Fields.get?]

theorem prepare_changing (entries : List String) :
    (Descriptor.prepare (changing entries) "t" "c.json" none).run.value =
      .ok (changingTest entries) :=
  (Descriptor.Prepared.test (written_changing entries)
    (Descriptor.describes_ofRecord rfl (by decide) .nil)).value_eq

/-- Entries that name one variable several times and remove what was set before, with equals signs
in a value, with nothing before one, and with another value for the reproducible output. -/
def entries : List String := ["A=1", "B=x", "NASMENV=-O=2", "A", "B", "B=y=z", "="]

/-- The same entries with the first two in the other order. -/
def entriesSwapped : List String := ["B=x", "A=1", "NASMENV=-O=2", "A", "B", "B=y=z", "="]

/-- What is inherited, one variable twice. -/
def inherited : List (String × String) := [("A", "0"), ("C", "1"), ("NASMENV", ""), ("C", "0")]

theorem reordered_entries : Change.Reordered entries entriesSwapped :=
  .swap (by decide) [] ["NASMENV=-O=2", "A", "B", "B=y=z", "="]

/-- What an assembler is given then. -/
def given : Environment := ⟨[("C", "0"), ("", ""), ("B", "y=z"), ("NASMENV", "-O=2")], by decide⟩

theorem environment_changing :
    (((changingTest entries).invocation "nasm").launch inherited).environment = given := by
  decide +kernel

end Sample

/-- The variable `A` is removed in the end, and of the values for `B` the last one counts. -/
theorem environment_started_changing :
    (Sample.changingRecord Sample.entries).WrittenAs (Sample.changing Sample.entries) ∧
      (Descriptor.prepare (Sample.changing Sample.entries) "t" "c.json" none).run.value =
        .ok (Sample.changingTest Sample.entries) ∧
      Change.Reordered Sample.entries Sample.entriesSwapped ∧
      Environment.Gives Sample.entries Sample.inherited "A" none ∧
      Environment.Gives Sample.entries Sample.inherited "B" (some "y=z") ∧
      Environment.Gives Sample.entries Sample.inherited "C" (some "0") ∧
      (((Sample.changingTest Sample.entriesSwapped).invocation "nasm").launch
          Sample.inherited).environment = Sample.given := by
  have hwritten := Sample.written_changing Sample.entries
  have hprepared := Sample.prepare_changing Sample.entries
  obtain ⟨hgives, hsame⟩ := environment_started _ _ _ _ _ _ hwritten hprepared "nasm"
    Sample.inherited
  rw [Sample.environment_changing] at hgives hsame
  exact ⟨hwritten, hprepared, Sample.reordered_entries, hgives "A", hgives "B", hgives "C",
    hsame _ _ _ _ _ _ _ (Sample.written_changing _) (Sample.prepare_changing _)
      Sample.reordered_entries⟩

end AsmHarness
