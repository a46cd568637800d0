import Mathlib
import StructuralLint.History.Repository
import StructuralLint.Proofs.Steps
import StructuralLint.Proofs.Text.Splitting

/-!
# Listings of changes

Version control tells what changed in two listings: one line for each record of a changed file, and
one line for each file that is not tracked (`Listing`). How a path is written in a line is left
open. If every written path fits into a line, the changes that are read back are the records of the
files that are still there, with their paths as they are written, and then the files that are not
tracked (`Listing.present_eq`).
-/

namespace StructuralLint

/-- What is told of a changed file: a letter for what happened to it, with a score if there is one,
and its path. A file that was renamed or copied has a former path, too. -/
structure Record (Name : Type) where
  letter : Char
  score : List Char
  former : Option Name
  path : Name
  isLetter : letter.isAlpha = true
  isScore : ∀ c ∈ score, c.isDigit = true
  isMove : former.isSome = true ↔ letter = 'R' ∨ letter = 'C'

/-- What version control tells: records of files that changed, and files that are not tracked. -/
structure Listing (Name : Type) where
  records : List (Record Name)
  notTracked : List Name

/-- The written form of a path fits into a line. -/
structure Fits (written : List Char) : Prop where
  inhabited : written ≠ []
  untabbed : '\t' ∉ written
  oneLine : ∀ c ∈ written, Text.isLineBoundary c = false

variable {Name : Type}

/-- The line of a record, with tabs between its parts. -/
def Record.line (write : Name → List Char) (record : Record Name) : List Char :=
  ['\t'].intercalate
    ((record.letter :: record.score) :: (record.former.toList ++ [record.path]).map write)

/-- The record of a file that was modified. -/
def Record.modified (path : Name) : Record Name := ⟨'M', [], none, path, rfl, nofun, by simp⟩

/-- The record of a file that is gone. -/
def Record.gone (path : Name) : Record Name := ⟨'D', [], none, path, rfl, nofun, by simp⟩

/-- A file that is still there, with the letter of its record. -/
structure Item (Name : Type) where
  letter : Char
  path : Name
deriving DecidableEq

/-- The change that is read from the listing of a file. -/
def Item.change (write : Name → List Char) (item : Item Name) : Change :=
  ⟨String.ofList (write item.path), String.ofList [item.letter]⟩

namespace Listing

variable (write : Name → List Char) (listing : Listing Name)

/-- The listing of the changed files as it is written. -/
def changed : List Char := (listing.records.map (·.line write)).flatMap (· ++ ['\n'])

/-- The listing of the files that are not tracked as it is written. -/
def unknown : List Char := (listing.notTracked.map write).flatMap (· ++ ['\n'])

/-- The files that are still there. -/
def items : List (Item Name) :=
  (listing.records.filter (·.letter ≠ 'D')).map (fun record => ⟨record.letter, record.path⟩) ++
    listing.notTracked.map fun path => ⟨'?', path⟩

end Listing

/-! ### Reading a listing -/

theorem Text.isLineBoundary_of_isAlphanum {c : Char} (alphanum : c.isAlphanum = true) :
    Text.isLineBoundary c = false := by
  simp only [Char.isAlphanum, Char.isAlpha, Char.isUpper, Char.isLower, Char.isDigit,
    Bool.or_eq_true, Bool.and_eq_true, decide_eq_true_eq, UInt32.le_iff_toNat_le, ge_iff_le]
    at alphanum
  change (((65 ≤ c.toNat ∧ c.toNat ≤ 90) ∨ (97 ≤ c.toNat ∧ c.toNat ≤ 122)) ∨
    (48 ≤ c.toNat ∧ c.toNat ≤ 57)) at alphanum
  apply Text.isLineBoundary_of_printable <;> omega

variable {write : Name → List Char} (fits : ∀ name, Fits (write name))

namespace Record

variable {record : Record Name}

theorem untabbed_letter : '\t' ∉ record.letter :: record.score := by
  intro member
  rcases List.mem_cons.mp member with same | score
  · have letter := record.isLetter
    rw [← same] at letter
    cases letter
  · cases record.isScore _ score

include fits

theorem oneLine (record : Record Name) :
    ∀ c ∈ record.line write, Text.isLineBoundary c = false := by
  unfold line
  apply @Text.forall_mem_intercalate '\t' (Text.isLineBoundary · = false) rfl
  intro part member
  rcases List.mem_cons.mp member with rfl | member
  · intro c among
    apply Text.isLineBoundary_of_isAlphanum
    rw [Char.isAlphanum, Bool.or_eq_true]
    rcases List.mem_cons.mp among with rfl | score
    · exact .inl record.isLetter
    · exact .inr (record.isScore c score)
  · obtain ⟨name, -, rfl⟩ := List.mem_map.mp member
    exact (fits name).oneLine

/-- The change that a line tells has the first letter and the last path. -/
theorem ofLine?_line (record : Record Name) :
    Change.ofLine? (record.line write) = some (Item.change write ⟨record.letter, record.path⟩) := by
  have parts : Text.fields (· = '\t') (record.line write) =
      (record.letter :: record.score) :: (record.former.toList ++ [record.path]).map write := by
    apply Text.fields_intercalate _ (List.cons_ne_nil _ _)
    intro part member
    rcases List.mem_cons.mp member with rfl | member
    · exact untabbed_letter
    · obtain ⟨name, -, rfl⟩ := List.mem_map.mp member
      exact (fits name).untabbed
  unfold Change.ofLine?
  rw [parts]
  cases record.former <;> rfl

end Record

theorem Item.isDeleted_change (item : Item Name) :
    (item.change write).isDeleted = decide (item.letter = 'D') := by
  unfold Change.isDeleted Item.change
  rw [show "D" = String.ofList ['D'] from rfl]
  simp only [String.ofList_inj, List.cons.injEq, and_true]

include fits in
/-- **What is read from a listing.** The changes are those of the files that are still there, with
their paths as they are written. -/
theorem Listing.present_eq (listing : Listing Name) :
    Change.present (listing.changed write) (listing.unknown write) =
      listing.items.map (Item.change write) := by
  have known : Change.listed (listing.changed write) (listing.unknown write) =
      (listing.records.map fun record => ⟨record.letter, record.path⟩).map (Item.change write) ++
        (listing.notTracked.map fun path => ⟨'?', path⟩).map (Item.change write) := by
    have lines : Text.splitLines (listing.changed write) =
        listing.records.map (·.line write) :=
      Text.splitLines_flatMap fun line member => by
        obtain ⟨record, -, rfl⟩ := List.mem_map.mp member
        exact record.oneLine fits
    have others : Text.splitLines (listing.unknown write) = listing.notTracked.map write :=
      Text.splitLines_flatMap fun line member => by
        obtain ⟨name, -, rfl⟩ := List.mem_map.mp member
        exact (fits name).oneLine
    have inhabited : ∀ line ∈ listing.notTracked.map write, decide (line ≠ []) = true := by
      intro line member
      obtain ⟨name, -, rfl⟩ := List.mem_map.mp member
      exact decide_eq_true (fits name).inhabited
    unfold Change.listed
    rw [lines, others, List.filter_eq_self.mpr inhabited, List.filterMap_map, List.map_map,
      List.map_map, List.map_map]
    congr 1
    rw [← List.filterMap_eq_map]
    exact List.filterMap_congr fun record _ => record.ofLine?_line fits
  have still : (fun change => !change.isDeleted) ∘ Item.change write =
      fun item => decide (item.letter ≠ 'D') := by
    funext item
    rw [Function.comp_apply, Item.isDeleted_change, decide_not]
  have others : ∀ item ∈ listing.notTracked.map fun path => (⟨'?', path⟩ : Item Name),
      decide (item.letter ≠ 'D') = true := by
    intro item member
    obtain ⟨path, -, rfl⟩ := List.mem_map.mp member
    rfl
  unfold Change.present items
  rw [known, ← List.map_append, List.filter_map]
  congr 1
  rw [still, List.filter_append, List.filter_eq_self.mpr others, List.filter_map]
  rfl

/-! ### Asking for a listing -/

/-- Asked at the top of a working tree what changed since a revision, version control tells a
listing. -/
structure History.Tells (history : History) (top : Path) (revision : String)
    (write : Name → List Char) (listing : Listing Name) : Prop where
  accepts : ∀ question, question = .changedSince revision ∨ question = .notTracked →
    (history ⟨top, question⟩).code = 0
  changed : (history ⟨top, .changedSince revision⟩).output = listing.changed write
  unknown : (history ⟨top, .notTracked⟩).output = listing.unknown write

namespace Repository

variable {history : History} {repository : Repository} {revision : String}
  {listing : Listing Name}

/-- A question that is not refused is answered, and is kept among what was asked. -/
theorem run_ask {asked : Asked} (accepts : (history asked).code = 0)
    (refusal : Answer → HistoryError) (before : List Asked) :
    (ask history asked refusal).run.run before =
      (.ok (history asked).output, before ++ [asked]) := by
  have noted : (modify (· ++ [asked]) : Inquiry Unit).run.run before =
      (.ok (), before ++ [asked]) := rfl
  unfold ask
  rw [Steps.run_bind_of_ok noted]
  dsimp only
  rw [if_pos accepts]
  rfl

include fits

theorem run_changesSince (tells : history.Tells repository.topLevel revision write listing)
    (before : List Asked) :
    (repository.changesSince history revision).run.run before =
      (.ok (listing.items.map (Item.change write)),
        before ++ [⟨repository.topLevel, .changedSince revision⟩,
          ⟨repository.topLevel, .notTracked⟩]) := by
  unfold changesSince
  rw [Steps.run_bind_of_ok (run_ask (tells.accepts _ (.inl rfl)) _ _),
    Steps.run_bind_of_ok (run_ask (tells.accepts _ (.inr rfl)) _ _), tells.changed, tells.unknown,
    listing.present_eq fits, List.append_assoc]
  rfl

/-- The changed sources of a working tree are those that a listing tells at its top. -/
theorem run_changedSources {tree : FileTree} {here : Path} {place : String}
    {before between : List Asked}
    (found : (around history tree here place).run.run before = (.ok repository, between))
    (tells : history.Tells repository.topLevel revision write listing) :
    (changedSources history tree here place revision).run.run before =
      (.ok (repository.sourcePaths (listing.items.map (Item.change write))),
        between ++ [⟨repository.topLevel, .changedSince revision⟩,
          ⟨repository.topLevel, .notTracked⟩]) := by
  unfold changedSources
  rw [Steps.run_bind_of_ok found]
  exact Steps.run_bind_of_ok (run_changesSince fits tells between)

end Repository

end StructuralLint
