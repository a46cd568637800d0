import Mathlib
import StructuralLint.Proofs.History.Listing

/-!
# Names of files in listings

The name of a file is a sequence of bytes. Version control writes a name of printable ASCII as it
is, and puts every other name in quotes, with escapes for the bytes that are not printable, for
quotes and for backslashes (`FileName.written`). Every name fits into a line this way, so no change
is lost when a listing is read; but quotes and escapes stay in the paths that are read. Such a path
is not the name of the file (`FileName.path_eq_iff`), and no path in quotes names a source
(`FileName.namesSource_path`).
-/

namespace StructuralLint

/-- The name of a file below the top of a working tree, in bytes. -/
structure FileName where
  bytes : List UInt8
  inhabited : bytes ≠ []
deriving DecidableEq

namespace FileName

/-- A byte is plain if it is written as the character that it encodes: a printable one of ASCII, but
neither a quote nor a backslash. -/
def isPlainByte (byte : UInt8) : Bool :=
  decide (0x20 ≤ byte.toNat) && decide (byte.toNat < 0x7F) && byte ≠ 0x22 && byte ≠ 0x5C

/-- The bytes that are written with a letter after a backslash, and their letters. -/
def escapeLetters : List (UInt8 × Char) :=
  [(0x07, 'a'), (0x08, 'b'), (0x09, 't'), (0x0A, 'n'), (0x0B, 'v'), (0x0C, 'f'), (0x0D, 'r'),
    (0x22, '"'), (0x5C, '\\')]

/-- The three octal digits of a byte. -/
def octal (byte : UInt8) : List Char :=
  [byte.toNat / 64, byte.toNat / 8 % 8, byte.toNat % 8].map Nat.digitChar

/-- What is written for a byte in quotes. -/
def escape (byte : UInt8) : List Char :=
  if isPlainByte byte then [byte.toChar]
  else
    match escapeLetters.lookup byte with
    | some letter => ['\\', letter]
    | none => '\\' :: octal byte

variable (name : FileName)

/-- Whether the name is written as it is. -/
def isPlain : Bool := name.bytes.all isPlainByte

/-- How the name is written in a listing. -/
def written : List Char :=
  if name.isPlain then name.bytes.map UInt8.toChar
  else '"' :: (name.bytes.flatMap escape ++ ['"'])

/-- Whether the name is that of a source file. -/
def isSource : Bool := Change.sourceEnding.toUTF8.data.toList.isSuffixOf name.bytes

/-- The path that is read from a listing for the name. -/
def path : String := String.ofList name.written

/-! ### Written names -/

/-- A character of ASCII that is printable. -/
def IsPrintable (c : Char) : Prop := 0x20 ≤ c.toNat ∧ c.toNat < 0x7F

instance : DecidablePred IsPrintable := fun _ => inferInstanceAs (Decidable (_ ∧ _))

theorem toNat_toChar (byte : UInt8) : byte.toChar.toNat = byte.toNat := UInt8.toNat_toUInt32 byte

theorem isPrintable_of_isPlainByte {byte : UInt8} (plain : isPlainByte byte = true) :
    IsPrintable byte.toChar := by
  unfold isPlainByte at plain
  simp only [Bool.and_eq_true, decide_eq_true_eq] at plain
  unfold IsPrintable
  rw [toNat_toChar]
  exact plain.1.1

theorem isPrintable_escape {byte : UInt8} : ∀ c ∈ escape byte, IsPrintable c := by
  have digit : ∀ n < 8, IsPrintable (Nat.digitChar n) := by decide
  have letter : ∀ entry ∈ escapeLetters, IsPrintable entry.2 := by decide
  have small := byte.toNat_lt
  intro c member
  unfold escape at member
  by_cases plain : isPlainByte byte = true
  · rw [if_pos plain, List.mem_singleton] at member
    exact member ▸ isPrintable_of_isPlainByte plain
  · rw [if_neg plain] at member
    cases named : escapeLetters.lookup byte with
    | some other =>
        rw [named] at member
        obtain ⟨before, after, split, -⟩ := List.lookup_eq_some_iff.mp named
        have listed : (byte, other) ∈ escapeLetters := by simp [split]
        rcases List.mem_cons.mp member with rfl | member
        · decide
        · exact List.mem_singleton.mp member ▸ letter _ listed
    | none =>
        rw [named] at member
        rcases List.mem_cons.mp member with rfl | member
        · decide
        · obtain ⟨n, among, rfl⟩ := List.mem_map.mp member
          apply digit
          simp only [List.mem_cons, List.not_mem_nil, or_false] at among
          omega

theorem isPrintable_written : ∀ c ∈ name.written, IsPrintable c := by
  intro c member
  unfold written at member
  by_cases plain : name.isPlain = true
  · rw [if_pos plain] at member
    obtain ⟨byte, among, rfl⟩ := List.mem_map.mp member
    exact isPrintable_of_isPlainByte (List.all_eq_true.mp plain byte among)
  · rw [if_neg plain, List.mem_cons, List.mem_append, List.mem_flatMap, List.mem_singleton]
      at member
    rcases member with rfl | ⟨byte, -, escaped⟩ | rfl
    · decide
    · exact isPrintable_escape c escaped
    · decide

/-- Every name fits into a line. -/
theorem fits_written : Fits name.written where
  inhabited := by
    unfold written
    split
    · simpa using name.inhabited
    · exact List.cons_ne_nil _ _
  untabbed member := absurd (name.isPrintable_written _ member) (by decide)
  oneLine c member :=
    have printable := name.isPrintable_written c member
    Text.isLineBoundary_of_printable printable.1 printable.2

/-! ### Paths that are read -/

/-- The bytes of a printable text are the codes of its characters. -/
theorem bytes_ofList {text : List Char} (printable : ∀ c ∈ text, IsPrintable c) :
    (String.ofList text).toUTF8.data.toList = text.map (·.val.toUInt8) := by
  have each : ∀ c ∈ text, String.utf8EncodeChar c = [c.val.toUInt8] := by
    intro c member
    apply String.utf8EncodeChar_eq_singleton
    rw [Char.utf8Size_eq_one_iff, UInt32.le_iff_toNat_le]
    exact Nat.le_of_lt (printable c member).2
  rw [String.toUTF8, String.toByteArray_ofList, List.utf8Encode, List.data_toByteArray,
    List.flatMap_congr each, List.map_eq_flatMap]

theorem toUInt8_toChar (byte : UInt8) : byte.toChar.val.toUInt8 = byte := by
  have code : byte.toChar.val.toNat = byte.toNat := toNat_toChar byte
  rw [← UInt8.toNat_inj, UInt32.toNat_toUInt8, code, Nat.mod_eq_of_lt byte.toNat_lt]

theorem toChar_injective : Function.Injective UInt8.toChar := by
  intro byte other same
  rw [← toUInt8_toChar byte, same, toUInt8_toChar]

theorem one_le_length_escape (byte : UInt8) : 1 ≤ (escape byte).length := by
  unfold escape
  by_cases plain : isPlainByte byte = true
  · rw [if_pos plain, List.length_singleton]
  · rw [if_neg plain]
    cases escapeLetters.lookup byte <;> simp

/-- **Which names are read back.** The path that is read for a name is the name itself if the name
is plain, and otherwise it is not. -/
theorem path_eq_iff : name.path.toUTF8.data.toList = name.bytes ↔ name.isPlain = true := by
  unfold path
  rw [bytes_ofList name.isPrintable_written]
  unfold written
  by_cases plain : name.isPlain = true
  · rw [if_pos plain, List.map_map]
    exact iff_of_true (List.map_id'' toUInt8_toChar _) plain
  · rw [if_neg plain]
    refine iff_of_false ?_ plain
    -- with the quotes there are more characters than bytes
    intro same
    have length := congrArg List.length same
    have escaped := List.length_le_sum_of_one_le (name.bytes.map fun byte => (escape byte).length)
      fun n member => by
        obtain ⟨byte, -, rfl⟩ := List.mem_map.mp member
        exact one_le_length_escape byte
    rw [List.length_map] at escaped
    simp only [List.length_map, List.length_cons, List.length_append, List.length_nil,
      List.length_flatMap] at length
    omega

/-- The path that is read for a name is that of a source if the name is that of a source and
plain: a path in quotes ends with a quote. -/
theorem namesSource_path : Change.namesSource name.path = (name.isPlain && name.isSource) := by
  have ending : Change.sourceEnding.toList =
      Change.sourceEnding.toUTF8.data.toList.map UInt8.toChar := by
    decide
  unfold Change.namesSource path
  rw [String.toList_ofList, Bool.eq_iff_iff, Bool.and_eq_true, List.isSuffixOf_iff_suffix]
  unfold written isSource
  by_cases plain : name.isPlain = true
  · rw [if_pos plain, List.isSuffixOf_iff_suffix, ending, List.suffix_map_iff]
    constructor
    · rintro ⟨bytes, ends, same⟩
      rw [List.map_injective_iff.mpr toChar_injective same]
      exact ⟨plain, ends⟩
    · intro ⟨_, ends⟩
      exact ⟨_, ends, rfl⟩
  · rw [if_neg plain]
    refine iff_of_false (fun ends => ?_) fun both => plain both.1
    have last := ends.getLast (by decide)
    rw [List.getLast_cons (by simp), List.getLast_append_singleton] at last
    revert last
    decide

end FileName

/-- **What is read of changed files with any names.** If version control tells a listing of files
with any names, all files that are still there are read, with their letters and in their order, and
nothing else. What is read as the path of a file is its name if the name is plain, and only then;
and the changed sources are the files with a plain name of a source. -/
theorem Repository.changesSince_of_tells {history : History} {repository : Repository}
    {revision : String} {listing : Listing FileName}
    (tells : history.Tells repository.topLevel revision FileName.written listing) :
    (∀ before, (repository.changesSince history revision).run.run before =
      (.ok (listing.items.map fun item => ⟨item.path.path, String.ofList [item.letter]⟩),
        before ++ [⟨repository.topLevel, .changedSince revision⟩,
          ⟨repository.topLevel, .notTracked⟩])) ∧
      (∀ name : FileName, name.path.toUTF8.data.toList = name.bytes ↔ name.isPlain = true) ∧
        ∀ tree here place before between,
          (around history tree here place).run.run before = (.ok repository, between) →
            (changedSources history tree here place revision).run.run before =
              (.ok ((listing.items.filter fun item => item.path.isPlain && item.path.isSource).map
                  fun item => repository.topLevel.join item.path.path),
                between ++ [⟨repository.topLevel, .changedSince revision⟩,
                  ⟨repository.topLevel, .notTracked⟩]) := by
  refine ⟨fun before => run_changesSince FileName.fits_written tells before,
    FileName.path_eq_iff, ?_⟩
  intro tree here place before between found
  rw [run_changedSources FileName.fits_written found tells, sourcePaths, List.filter_map,
    List.map_map]
  have sources : (fun change => change.isSource) ∘ Item.change FileName.written =
      fun item => item.path.isPlain && item.path.isSource := by
    funext item
    exact item.path.namesSource_path
  rw [sources]
  rfl

/-- A renamed file, a file that is gone, a modified file with a letter that is not of ASCII in its
name, and a file that is not tracked. -/
def accentedListing : Listing FileName where
  records :=
    [⟨'R', ['0', '9', '7'], some ⟨"old.py".toUTF8.data.toList, by decide⟩,
        ⟨"new.py".toUTF8.data.toList, by decide⟩, rfl, by simp, by decide⟩,
      .gone ⟨"gone.py".toUTF8.data.toList, by decide⟩,
      .modified ⟨"\u00E9.py".toUTF8.data.toList, by decide⟩]
  notTracked := [⟨"b.py".toUTF8.data.toList, by decide⟩]

/-- Version control with that listing. -/
def accentedHistory : History := fun asked =>
  match asked.question with
  | .topLevel => ⟨0, "/w\n".toList, ""⟩
  | .changedSince _ =>
    ⟨0, "R097\told.py\tnew.py\nD\tgone.py\nM\t\"\\303\\251.py\"\n".toList, ""⟩
  | .notTracked => ⟨0, "b.py\n".toList, ""⟩

/-- The modified file, whose name is in quotes, is not among the changed sources. -/
theorem Repository.changesSince_of_tells_accented :
    accentedHistory.Tells ⟨["w"]⟩ "HEAD" FileName.written accentedListing ∧
      ((⟨⟨["w"]⟩⟩ : Repository).changesSince accentedHistory "HEAD").run.run [] =
        (.ok [⟨"new.py", "R"⟩, ⟨"\"\\303\\251.py\"", "M"⟩, ⟨"b.py", "?"⟩],
          [⟨⟨["w"]⟩, .changedSince "HEAD"⟩, ⟨⟨["w"]⟩, .notTracked⟩]) ∧
      ((changedSources accentedHistory .empty .root "/w" "HEAD").run.run []).1 =
        .ok [⟨["w", "new.py"]⟩, ⟨["w", "b.py"]⟩] := by
  have tells : accentedHistory.Tells ⟨["w"]⟩ "HEAD" FileName.written accentedListing := by
    refine ⟨?_, by decide +kernel, by decide +kernel⟩
    rintro question (rfl | rfl) <;> rfl
  obtain ⟨changes, -, sources⟩ := changesSince_of_tells tells
  have found : (around accentedHistory .empty .root "/w").run.run [] =
      (.ok ⟨⟨["w"]⟩⟩, [⟨⟨["w"]⟩, .topLevel⟩]) := by
    cbv
  refine ⟨tells, (changes []).trans ?_, (congrArg Prod.fst (sources _ _ _ _ _ found)).trans ?_⟩
  · exact congrArg (Except.ok ·, _) (by decide +kernel)
  · exact congrArg Except.ok (by decide +kernel)

end StructuralLint
