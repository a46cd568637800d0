import Mathlib.Data.Bool.Basic
import Mathlib.Data.List.Basic
import StructuralLint.Text.Blank
import StructuralLint.Text.Fields
import StructuralLint.Text.Line

/-!
# Pieces and lines that are put together

A text that is put together from pieces without separators falls apart into these pieces
(`Text.fields_intercalate`), and lines that hold no boundary are the lines of the text that has a
line feed after each of them (`Text.splitLines_flatMap`). A single line is also read back by
trimming if it has no blanks at its ends (`Text.trim_append_singleton`).
-/

namespace StructuralLint.Text

/-! ### Pieces -/

theorem fields_eq_splitOnP (separates : Char → Bool) (text : List Char) :
    fields separates text = text.splitOnP separates := by
  induction text with
  | nil => rfl
  | cons c rest ih =>
      rw [List.splitOnP_cons_eq_if_modifyHead, ← ih]
      by_cases separator : separates c = true
      · rw [if_pos separator, fields_cons_of_separates _ separator]
      · obtain ⟨piece, later, pieces⟩ := List.exists_cons_of_ne_nil (fields_ne_nil separates rest)
        rw [if_neg separator, pieces]
        unfold fields at pieces ⊢
        rw [List.foldr_cons, if_neg separator, pieces]
        rfl

/-- Pieces are read back from the text that has separators between them. -/
theorem fields_intercalate {separator : Char} {pieces : List (List Char)}
    (whole : ∀ piece ∈ pieces, separator ∉ piece) (some : pieces ≠ []) :
    fields (· = separator) ([separator].intercalate pieces) = pieces := by
  rw [fields_eq_splitOnP]
  exact List.splitOn_intercalate separator whole some

theorem forall_mem_intercalate {separator : Char} {holds : Char → Prop} (own : holds separator)
    {pieces : List (List Char)} (each : ∀ piece ∈ pieces, ∀ c ∈ piece, holds c) :
    ∀ c ∈ [separator].intercalate pieces, holds c := by
  induction pieces with
  | nil => simp
  | cons piece rest ih =>
      have first := each piece List.mem_cons_self
      have later := ih fun other member => each other (List.mem_cons_of_mem _ member)
      cases rest with
      | nil => simpa using first
      | cons next rest =>
          intro c member
          rw [List.intercalate_cons_cons, List.mem_append, List.mem_append,
            List.mem_singleton] at member
          rcases member with (inFirst | rfl) | inRest
          · exact first c inFirst
          · exact own
          · exact later c inRest

theorem fields_cons_of_not_separates {separates : Char → Bool} {c : Char}
    (inner : separates c = false) (text : List Char) :
    fields separates (c :: text) = (fields separates text).modifyHead (c :: ·) := by
  rw [fields_eq_splitOnP, List.splitOnP_cons_eq_if_modifyHead,
    if_neg (by rw [inner]; exact Bool.false_ne_true), ← fields_eq_splitOnP]

/-- An ending without separators belongs to the last piece. -/
theorem fields_append {separates : Char → Bool} {ending : List Char}
    (whole : ∀ c ∈ ending, separates c = false) (text : List Char) :
    ∃ before last, fields separates (text ++ ending) = before ++ [last ++ ending] := by
  induction text with
  | nil =>
      refine ⟨[], [], ?_⟩
      rw [fields_eq_splitOnP]
      exact List.splitOnP_eq_singleton fun c member => by simp [whole c member]
  | cons c rest ih =>
      obtain ⟨before, last, pieces⟩ := ih
      rw [List.cons_append]
      by_cases separator : separates c = true
      · refine ⟨[] :: before, last, ?_⟩
        rw [fields_cons_of_separates _ separator, pieces]
        rfl
      · rw [fields_cons_of_not_separates (Bool.eq_false_of_not_eq_true separator), pieces]
        cases before with
        | nil => exact ⟨[], c :: last, rfl⟩
        | cons piece before => exact ⟨(c :: piece) :: before, last, rfl⟩

/-! ### Blanks -/

theorem dropWhile_eq_self {drops : Char → Bool} {text : List Char}
    (first : ∀ c ∈ text.head?, drops c = false) : text.dropWhile drops = text := by
  cases text with
  | nil => rfl
  | cons c rest => exact List.dropWhile_cons_of_neg (by simp [first c rfl])

/-- A blank after a text without blanks at its ends is taken away. -/
theorem trim_append_singleton {text : List Char} {blank : Char}
    (isBlank : Text.isBlank blank = true) (inhabited : text ≠ [])
    (first : ∀ c ∈ text.head?, Text.isBlank c = false)
    (last : ∀ c ∈ text.getLast?, Text.isBlank c = false) : trim (text ++ [blank]) = text := by
  have front : (text ++ [blank]).dropWhile Text.isBlank = text ++ [blank] :=
    dropWhile_eq_self (by rwa [List.head?_append_of_ne_nil _ inhabited])
  have back : text.reverse.dropWhile Text.isBlank = text.reverse :=
    dropWhile_eq_self (by rwa [List.head?_reverse])
  unfold trim trimBy
  rw [front, List.reverse_append, List.reverse_singleton, List.singleton_append,
    List.dropWhile_cons_of_pos isBlank, back, List.reverse_reverse]

/-! ### Lines -/

/-- No printable character of ASCII ends a line. -/
theorem isLineBoundary_of_printable {c : Char} (low : 0x20 ≤ c.toNat) (high : c.toNat < 0x7F) :
    isLineBoundary c = false := by
  unfold isLineBoundary
  simp only [Bool.or_eq_false_iff, Bool.and_eq_false_iff, decide_eq_false_iff_not,
    beq_eq_false_iff_ne]
  omega

theorem splitLines_go_append {line : List Char} (whole : ∀ c ∈ line, isLineBoundary c = false)
    (read rest : List Char) :
    splitLines.go read (line ++ '\n' :: rest) = (read.reverse ++ line) :: splitLines rest := by
  induction line generalizing read with
  | nil =>
      rw [List.nil_append, List.append_nil, splitLines.go, if_pos (by rfl)]
      · rfl
      · intro later wrong
        cases wrong
  | cons c line ih =>
      have inner := whole c List.mem_cons_self
      have next := ih (fun other member => whole other (List.mem_cons_of_mem _ member)) (c :: read)
      rw [List.cons_append, splitLines.go, if_neg (by rw [inner]; exact Bool.false_ne_true), next]
      · simp
      · rintro later wrong
        cases wrong
        cases inner

/-- Lines are read back from the text that ends each of them with a line feed. -/
theorem splitLines_flatMap {lines : List (List Char)}
    (whole : ∀ line ∈ lines, ∀ c ∈ line, isLineBoundary c = false) :
    splitLines (lines.flatMap (· ++ ['\n'])) = lines := by
  induction lines with
  | nil => rfl
  | cons line rest ih =>
      have later := ih fun other member => whole other (List.mem_cons_of_mem _ member)
      rw [List.flatMap_cons, List.append_assoc, List.singleton_append, splitLines,
        splitLines_go_append (whole line List.mem_cons_self), later]
      rfl

end StructuralLint.Text
