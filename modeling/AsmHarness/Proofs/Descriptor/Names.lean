import AsmHarness.Proofs.Descriptor.Discovery
import AsmHarness.Proofs.Json.Parser
import Mathlib.Data.Fintype.Card

/-!
# Which descriptors share a name

The name of a descriptor is the path of its file without the extension, and the position of the
record if the file holds a list. It can be taken apart again up to one case: the end of the name of
a file may look like a position.
-/

namespace AsmHarness.Descriptor

/-! ## Positions at the end of a name -/

/-- What stands for a position at the end of a name. -/
def mark (seq : Option Nat) : String := seq.elim "" fun n => "." ++ toString n

/-- There is one way to cut a text at its last dot. -/
theorem append_dot_inj {a b c d : List Char} (hc : '.' ∉ c) (hd : '.' ∉ d)
    (h : a ++ '.' :: c = b ++ '.' :: d) : a = b ∧ c = d := by
  have hcut : ∀ {a b c d : List Char}, '.' ∉ c → (∃ e, b = a ++ e ∧ '.' :: c = e ++ '.' :: d) →
      a = b ∧ c = d := by
    rintro a b c d hc ⟨e, rfl, he⟩
    cases e with
    | nil => simpa using he
    | cons first rest =>
      rw [List.cons_append, List.cons.injEq] at he
      exact absurd (he.2 ▸ List.mem_append_right _ (List.mem_cons_self ..)) hc
  rcases List.append_eq_append_iff.1 h with ⟨e, he⟩ | ⟨e, he⟩
  · exact hcut hc ⟨e, he⟩
  · exact (hcut hd ⟨e, he⟩).imp Eq.symm Eq.symm

theorem isDigit_of_mem_toString {n : Nat} {c : Char} (h : c ∈ (toString n).toList) :
    c.isDigit = true := by
  rw [Nat.toString_eq_repr, Nat.toList_repr] at h
  exact Nat.isDigit_of_mem_toDigits (by decide) (by decide) h

theorem toString_inj {m n : Nat} (h : (toString m).toList = (toString n).toList) : m = n := by
  rw [Nat.toString_eq_repr, Nat.toString_eq_repr, Nat.toList_repr, Nat.toList_repr] at h
  rw [← Nat.ofDigitChars_ten_toDigits (n := m), h, Nat.ofDigitChars_ten_toDigits]

/-- Two texts with positions at their ends are the same if the texts and the positions are, or if
one of the texts ends in what is the position of the other. -/
theorem append_mark_cases {a b : String} {p q : Option Nat} (h : a ++ mark p = b ++ mark q) :
    (a = b ∧ p = q) ∨ (∃ n, p = none ∧ q = some n ∧ a = b ++ "." ++ toString n) ∨
      ∃ n, q = none ∧ p = some n ∧ b = a ++ "." ++ toString n := by
  cases p with
  | none =>
    cases q with
    | none => exact .inl ⟨by simpa [mark] using h, rfl⟩
    | some n =>
      exact .inr (.inl ⟨n, rfl, rfl, by simpa [mark, String.append_assoc] using h⟩)
  | some m =>
    cases q with
    | none => exact .inr (.inr ⟨m, rfl, rfl, by simpa [mark, String.append_assoc] using h.symm⟩)
    | some n =>
      have hdot : ∀ n : Nat, '.' ∉ (toString n).toList := fun n hmem =>
        absurd (isDigit_of_mem_toString hmem) (by decide)
      have hlist : a.toList ++ '.' :: (toString m).toList =
          b.toList ++ '.' :: (toString n).toList := by
        simpa [mark] using congrArg String.toList h
      obtain ⟨hab, hmn⟩ := append_dot_inj (hdot m) (hdot n) hlist
      exact .inl ⟨String.toList_inj.1 hab, congrArg some (toString_inj hmn)⟩

/-! ## The name of a descriptor -/

/-- The name of a descriptor file that is called by a text. -/
def fileNameOf (front : String) : String := front ++ "." ++ descriptorExtension

theorem toList_fileNameOf (front : String) :
    (fileNameOf front).toList = front.toList ++ ['.', 'j', 's', 'o', 'n'] := by
  simp [fileNameOf, descriptorExtension]

theorem stem_fileNameOf (front : String) : stem (fileNameOf front) = front := by
  unfold stem
  rw [toList_fileNameOf]
  simp

theorem nameOf_fileNameOf {front : String} (hne : front ≠ "") (baseDir : Path)
    (seq : Option Nat) :
    nameOf baseDir (fileNameOf front) seq = baseDir.join (front ++ mark seq) := by
  rw [nameOf, stem_fileNameOf, Path.join_append hne]
  rfl

/-- Descriptors of one file differ in name if they differ in position. -/
theorem nameOf_inj {baseDir : Path} {fileName : String} {p q : Option Nat}
    (h : nameOf baseDir fileName p = nameOf baseDir fileName q) : p = q := by
  have hlonger : ∀ (a : String) (n : Nat), a ≠ a ++ "." ++ toString n := by
    intro a n ha
    simpa using congrArg (·.toList.length) ha
  rcases append_mark_cases h with ⟨-, hseq⟩ | ⟨n, -, -, hlong⟩ | ⟨n, -, -, hlong⟩
  · exact hseq
  · exact absurd hlong (hlonger _ n)
  · exact absurd hlong (hlonger _ n)

section Files

variable {files : FileTree} {directory : Path} {a b d : Descriptor} {p q : Option Nat}

/-- A descriptor file lies in a folder, under a name with the extension of descriptor files. -/
theorem IsDescriptorFile.exists_front {location : Location} (h : files.Proper)
    (hfile : IsDescriptorFile files directory location) :
    ∃ folder front, location = folder ++ [fileNameOf front] ∧ front ≠ "" ∧
      ∀ name ∈ location, Path.IsName name := by
  obtain ⟨entries, readable, hnode, hlisted, hextension⟩ := hfile
  have hnames := hlisted.isName (h.of_node hnode)
  rcases List.eq_nil_or_concat' location with rfl | ⟨folder, name, rfl⟩
  · cases hlisted
  · have hname : Path.IsName name := hnames name (by simp)
    rw [Path.along_concat] at hextension
    obtain ⟨front, hfront, rfl⟩ :=
      Path.exists_of_extension? (Path.fileName?_join hname.isPart _) hextension
    exact ⟨folder, front, rfl, hfront, hnames⟩

/-- The parts of a name are those of the folder, and the name of the file with the position of the
record in place of the extension. -/
theorem ReadFrom.parts_name {folder : Location} {front : String}
    (hread : ReadFrom files (directory.along (folder ++ [fileNameOf front])) p d)
    (hfront : front ≠ "") (hname : Path.IsName (fileNameOf front)) :
    Path.parts d.name = (directory.along folder).trimmed.parts ++ [front ++ mark p] := by
  have hslash : '/' ∉ (front ++ mark p).toList := by
    rw [String.toList_append, List.mem_append]
    rintro (hmem | hmem)
    · exact hname.no_slash (by simp [toList_fileNameOf, hmem])
    · cases p with
      | none => simp [mark] at hmem
      | some n =>
        have hdigit : '/' ∈ (toString n).toList := by simpa [mark] using hmem
        exact absurd (isDigit_of_mem_toString hdigit) (by decide)
  rw [hread.origin.1, Path.along_concat, Path.parent?_join hname.isPart,
    Path.fileName?_join hname.isPart, Option.getD_some, Option.getD_some,
    nameOf_fileNameOf hfront, Path.parts_join ?_ hslash]
  intro hempty
  exact hfront (by simpa using (String.append_eq_empty_iff.1 hempty).1)

/-- Two descriptors share a name, although their records are in two files of one folder: the one is
the record of a file `stem.n.json`, the other is record `n` of the list in `stem.json`. -/
def Clash (files : FileTree) (directory : Path) (single member : Descriptor) : Prop :=
  ∃ (folder : Location) (stem : String) (n : Nat), 0 < n ∧
    IsDescriptorFile files directory (folder ++ [fileNameOf (stem ++ "." ++ toString n)]) ∧
    ReadFrom files (directory.along (folder ++ [fileNameOf (stem ++ "." ++ toString n)])) none
      single ∧
    IsDescriptorFile files directory (folder ++ [fileNameOf stem]) ∧
    ReadFrom files (directory.along (folder ++ [fileNameOf stem])) (some n) member

/-- Only what is read from one record of one file, or such as clash, share a name. -/
theorem clash_of_name_eq {location other : Location} (h : files.Proper)
    (hfile : IsDescriptorFile files directory location)
    (hother : IsDescriptorFile files directory other)
    (ha : ReadFrom files (directory.along location) p a)
    (hb : ReadFrom files (directory.along other) q b) (hname : a.name = b.name) :
    (location = other ∧ p = q) ∨ Clash files directory a b ∨ Clash files directory b a := by
  obtain ⟨folder, front, rfl, hfront, hnames⟩ := hfile.exists_front h
  obtain ⟨folder', front', rfl, hfront', hnames'⟩ := hother.exists_front h
  rw [List.forall_mem_append, List.forall_mem_singleton] at hnames hnames'
  -- the folders are told by all parts but the last, the files and positions by the last
  have hparts := (ha.parts_name hfront hnames.2).symm.trans
    ((congrArg Path.parts hname).trans (hb.parts_name hfront' hnames'.2))
  obtain ⟨hfolder, hlast⟩ := List.append_inj' hparts rfl
  obtain rfl := Path.eq_of_trimmed_along hnames.1 hnames'.1 hfolder
  rcases append_mark_cases (List.singleton_inj.1 hlast) with ⟨rfl, rfl⟩ | ⟨n, rfl, rfl, rfl⟩ |
    ⟨n, rfl, rfl, rfl⟩
  · exact .inl ⟨rfl, rfl⟩
  · exact .inr (.inl ⟨folder, front', n, hb.pos, hfile, ha, hother, hb⟩)
  · exact .inr (.inr ⟨folder, front, n, ha.pos, hother, hb, hfile, ha⟩)

/-! ## All names -/

/-- Whether a descriptor is named like the only record of its file. -/
def namedAlone (d : Descriptor) : Bool := d.name = nameOf d.baseDir d.fileName none

theorem ReadFrom.namedAlone {path : Path} (h : ReadFrom files path p d) :
    namedAlone d = p.isNone := by
  obtain ⟨hname, hbaseDir, hfileName⟩ := h.origin
  rw [Descriptor.namedAlone, hname, hbaseDir, hfileName, Bool.eq_iff_iff, decide_eq_true_eq,
    Option.isNone_iff_eq_none]
  exact ⟨nameOf_inj, fun hp => by rw [hp]⟩

theorem Clash.namedAlone_ne (h : Clash files directory a b) : namedAlone a ≠ namedAlone b := by
  obtain ⟨folder, stem, n, -, -, ha, -, hb⟩ := h
  rw [ha.namedAlone, hb.namedAlone]
  simp

/-- Descriptors that clash are both come across. -/
theorem Clash.mem (hclash : Clash files directory a b) (h : files.Proper) :
    a ∈ (loadDirectory files directory).value ∧ b ∈ (loadDirectory files directory).value := by
  obtain ⟨folder, stem, n, -, hfile, ha, hother, hb⟩ := hclash
  exact ⟨(mem_loadDirectory_iff h).2 ⟨_, _, hfile, ha⟩,
    (mem_loadDirectory_iff h).2 ⟨_, _, hother, hb⟩⟩

/-- The descriptors of one file have different names. -/
theorem pairwise_name_ne (files : FileTree) (path : Path) :
    (readUsable files path).value.Pairwise fun a b => a.name ≠ b.name := by
  refine (pairwise_readUsable files path).imp ?_
  rintro a b ⟨m, n, hlt, ha, hb⟩ hname
  rw [ha.origin.1, hb.origin.1] at hname
  exact absurd (Option.some_inj.1 (nameOf_inj hname)) hlt.ne

/-- Descriptors that are come across below a folder share a name only if they clash. -/
theorem pairwise_clash (h : files.Proper) (directory : Path) :
    (loadDirectory files directory).value.Pairwise fun a b =>
      a.name = b.name → Clash files directory a b ∨ Clash files directory b a := by
  obtain ⟨locations, hwalk, hloaded⟩ := exists_loaded h directory
  rw [value_loadDirectory, (sortByName_sorted _).perm.pairwise_iff fun hab hname =>
    (hab hname.symm).symm, hloaded, List.pairwise_flatMap]
  constructor
  · exact fun location _ => (pairwise_name_ne files _).imp fun hne hname => absurd hname hne
  · refine hwalk.ordered.imp_of_mem fun {location other} hmem hmem' hlt a ha b hb hname => ?_
    have hfile := (hwalk.mem_iff location).1 hmem
    have hother := (hwalk.mem_iff other).1 hmem'
    rw [loadFile, hfile.filePath_along] at ha
    rw [loadFile, hother.filePath_along] at hb
    obtain ⟨p, ha⟩ := mem_readUsable_iff.1 ha
    obtain ⟨q, hb⟩ := mem_readUsable_iff.1 hb
    rcases clash_of_name_eq h hfile hother ha hb hname with ⟨heq, -⟩ | hclash
    · exact absurd heq hlt.ne
    · exact hclash

/-- No name is shared by three if those that share it are of two kinds. -/
theorem countP_name_le_two {descriptors : List Descriptor}
    (h : descriptors.Pairwise fun a b => a.name = b.name → namedAlone a ≠ namedAlone b)
    (name : String) : descriptors.countP (·.name = name) ≤ 2 := by
  -- among descriptors of one name, each of the two values is taken once at most
  have hkinds : ((descriptors.filter (·.name = name)).map namedAlone).Nodup := by
    rw [List.nodup_iff_pairwise_ne, List.pairwise_map]
    refine (h.filter _).imp_of_mem fun {a b} ha hb hab => hab ?_
    rw [List.mem_filter, decide_eq_true_eq] at ha hb
    exact ha.2.trans hb.2.symm
  have hlength := List.Nodup.length_le_card hkinds
  rwa [List.length_map, ← List.countP_eq_length_filter, Fintype.card_bool] at hlength

/-- Two descriptors below a folder share a name only if their files lie in one folder, one of them
is the record of a file `stem.n.json`, and the other is record `n` of the list in `stem.json`. So no
name is shared by three, and the descriptors of one file have different names. -/
theorem loadDirectory_names (files : FileTree) (h : files.Proper) (directory : Path) :
    ((loadDirectory files directory).value.Pairwise fun a b =>
      a.name = b.name → Clash files directory a b ∨ Clash files directory b a) ∧
    (∀ name, (loadDirectory files directory).value.countP (·.name = name) ≤ 2) ∧
    ∀ path, (loadFile files path).value.Pairwise fun a b => a.name ≠ b.name := by
  have hpairwise := pairwise_clash h directory
  refine ⟨hpairwise, countP_name_le_two (hpairwise.imp fun hab hname => ?_),
    fun path => pairwise_name_ne files _⟩
  rcases hab hname with hclash | hclash
  · exact hclash.namedAlone_ne
  · exact hclash.namedAlone_ne.symm

end Files

/-! ## An example -/

theorem parse?_sampleList : Json.parse? (Utf8.decode sampleList) =
    some (.array [.object [("description", .string "x")]]) := by
  have hchars : ("[\x7b\"description\":\"x\"\x7d]" : String).toList = ['[', '\x7b', '"', 'd', 'e',
      's', 'c', 'r', 'i', 'p', 't', 'i', 'o', 'n', '"', ':', '"', 'x', '"', '\x7d', ']'] := by
    decide
  rw [sampleList, Utf8.decode_toUTF8, Json.parse?, hchars]
  rw [Json.run_token (by decide) (by cbv) rfl, Json.run_token (by decide) (by cbv) rfl,
    Json.run_token (by decide) (by cbv) rfl, Json.run_token (by decide) (by cbv) rfl,
    Json.run_token (by decide) (by cbv) rfl, Json.run_token (by decide) (by cbv) rfl,
    Json.run_token (by decide) (by cbv) rfl, Json.run]
  rfl

theorem parse?_sampleRecord : Json.parse? (Utf8.decode sampleRecord) =
    some (.object [("description", .string "y")]) := by
  have hchars : ("\x7b\"description\":\"y\"\x7d" : String).toList = ['\x7b', '"', 'd', 'e', 's',
      'c', 'r', 'i', 'p', 't', 'i', 'o', 'n', '"', ':', '"', 'y', '"', '\x7d'] := by
    decide
  rw [sampleRecord, Utf8.decode_toUTF8, Json.parse?, hchars]
  rw [Json.run_token (by decide) (by cbv) rfl, Json.run_token (by decide) (by cbv) rfl,
    Json.run_token (by decide) (by cbv) rfl, Json.run_token (by decide) (by cbv) rfl,
    Json.run_token (by decide) (by cbv) rfl, Json.run]
  rfl

/-- The record of the list and the record in the file that is called like it clash. -/
theorem exists_clash_sample : ∃ single member, Clash sample "t" single member ∧
    single.name = "t/a.1" ∧ member.name = "t/a.1" := by
  obtain ⟨single, hsingle⟩ : ∃ d, (prepareNoted "t/a.1.json"
      (.object [("description", .string "y")]) none).value = some d :=
    Option.isSome_iff_exists.1 (by cbv)
  obtain ⟨member, hmember⟩ : ∃ d, (prepareNoted "t/a.json"
      (.object [("description", .string "x")]) (some 1)).value = some d :=
    Option.isSome_iff_exists.1 (by cbv)
  have hfile : fileNameOf ("a" ++ "." ++ toString 1) = "a.1.json" := by decide
  have hlist : fileNameOf "a" = "a.json" := by decide
  have hrecord : sample.read (Path.along "t" ["a.1.json"]) = .ok sampleRecord :=
    read_sample (by simp) rfl
  have hreadFile : ReadFrom sample (Path.along "t" ["a.1.json"]) none single :=
    .single ⟨sampleRecord, hrecord, parse?_sampleRecord⟩ hsingle
  have hitems : sample.read (Path.along "t" ["a.json"]) = .ok sampleList :=
    read_sample (by simp) rfl
  have hreadList : ReadFrom sample (Path.along "t" ["a.json"]) (some 1) member :=
    .member ⟨sampleList, hitems, parse?_sampleList⟩ rfl hmember
  refine ⟨single, member, ⟨[], "a", 1, Nat.one_pos, ?_⟩, ?_, ?_⟩
  · rw [hfile, hlist]
    exact ⟨isDescriptorFile_sample_iff.2 (.inr (.inl rfl)), hreadFile,
      isDescriptorFile_sample_iff.2 (.inl rfl), hreadList⟩
  · rw [hreadFile.origin.1]
    decide
  · rw [hreadList.origin.1]
    decide

/-- A name can be that of two descriptors. -/
theorem loadDirectory_names_sample :
    sample.Proper ∧
      ((loadDirectory sample "t").value.Pairwise fun a b =>
        a.name = b.name → Clash sample "t" a b ∨ Clash sample "t" b a) ∧
      (loadDirectory sample "t").value.countP (·.name = "t/a.1") = 2 := by
  obtain ⟨hpairwise, hcount, -⟩ := loadDirectory_names sample sample_proper "t"
  refine ⟨sample_proper, hpairwise, le_antisymm (hcount _) ?_⟩
  obtain ⟨single, member, hclash, hsingle, hmember⟩ := exists_clash_sample
  obtain ⟨hmem, hmem'⟩ := hclash.mem sample_proper
  have hne : single ≠ member := fun heq => hclash.namedAlone_ne (by rw [heq])
  have htwo : [single, member].Subperm
      ((loadDirectory sample "t").value.filter (·.name = "t/a.1")) := by
    refine List.subperm_of_subset (by simpa using hne) ?_
    simp [hmem, hmem', hsingle, hmember]
  rw [List.countP_eq_length_filter]
  exact htwo.length_le

end AsmHarness.Descriptor
