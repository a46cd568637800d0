import StructuralLint.Text.CharSet
import StructuralLint.Text.NormalForm.Table

/-!
# Compatibility normal form

Two spellings of one identifier are the same name when their compatibility normal forms (NFKC)
agree. The form is reached in three steps: decompose every character fully, bring combining marks
into canonical order, then compose what composes. A text of ASCII characters is its own form.
-/

namespace StructuralLint.Text.NormalForm

/-- A run of characters and the image of its first one; a run of several has single characters as
images, which run along. -/
structure Decomposition where
  range : CharRange
  image : List Nat

/-- The entry written `A:B+C` or `A-B:C`. -/
def Decomposition.ofWord (word : List Char) : Decomposition :=
  match fields (· = ':') word with
  | [range, image] => ⟨CharRange.ofWord range, (fields (· = '+') image).map hexNumber⟩
  | _ => ⟨⟨1, 0⟩, []⟩

/-- The decompositions of the standard. -/
def decompositions : List Decomposition := (tableWords decompositionText).map Decomposition.ofWord

/-- A run of characters of one canonical combining class. -/
structure CombiningRun where
  range : CharRange
  combiningClass : Nat

/-- The decimal number written by ASCII digits. -/
def decimalNumber (digits : List Char) : Nat :=
  digits.foldl (fun value c => 10 * value + hexDigit c) 0

/-- The entry written `A-B:230`. -/
def CombiningRun.ofWord (word : List Char) : CombiningRun :=
  match fields (· = ':') word with
  | [range, combiningClass] => ⟨CharRange.ofWord range, decimalNumber combiningClass⟩
  | _ => ⟨⟨1, 0⟩, 0⟩

/-- The combining classes of the standard. -/
def combiningRuns : List CombiningRun := (tableWords combiningClassText).map CombiningRun.ofWord

/-- The entry written `A+B:C`. -/
def pairOfWord (word : List Char) : Nat × Nat × Nat :=
  match fields (fun c => c = '+' || c = ':') word with
  | [left, right, composed] => (hexNumber left, hexNumber right, hexNumber composed)
  | _ => (0, 0, 0)

/-- The compositions of the standard. -/
def compositions : List (Nat × Nat × Nat) := (tableWords compositionText).map pairOfWord

/-- The canonical combining class; zero for a starter. -/
def combiningClass (c : Char) : Nat :=
  if isAscii c then 0
  else match combiningRuns.find? (·.range.contains c) with
    | some run => run.combiningClass
    | none => 0

/-- A Hangul syllable taken apart into two or three letters. -/
def decomposeHangul (syllable : Nat) : List Char :=
  let index := syllable - 0xAC00
  let leading := Char.ofNat (0x1100 + index / 588)
  let vowel := Char.ofNat (0x1161 + index % 588 / 28)
  if index % 28 = 0 then [leading, vowel]
  else [leading, vowel, Char.ofNat (0x11A7 + index % 28)]

/-- The full compatibility decomposition of one character. -/
def decompose (c : Char) : List Char :=
  if isAscii c then [c]
  else if 0xAC00 ≤ c.toNat ∧ c.toNat < 0xD7A4 then decomposeHangul c.toNat
  else match decompositions.find? (·.range.contains c) with
    | none => [c]
    | some ⟨range, [image]⟩ => [Char.ofNat (image + (c.toNat - range.first))]
    | some ⟨_, image⟩ => image.map Char.ofNat

/-- Puts a character before the first one that it must not follow: a mark moves left over marks of
a higher class, and nothing moves over a starter. -/
def insertMark (c : Char) : List Char → List Char
  | [] => [c]
  | d :: rest =>
    if combiningClass d ≠ 0 ∧ combiningClass d < combiningClass c then d :: insertMark c rest
    else c :: d :: rest

/-- Canonical order: within a run of marks, ascending classes, equal classes as they stand. -/
def order (text : List Char) : List Char := text.foldr insertMark []

/-- The character that a pair composes to. -/
def composePair (left right : Char) : Option Char :=
  let l := left.toNat
  let r := right.toNat
  if 0x1100 ≤ l ∧ l < 0x1113 ∧ 0x1161 ≤ r ∧ r < 0x1176 then
    some (Char.ofNat (0xAC00 + ((l - 0x1100) * 21 + (r - 0x1161)) * 28))
  else if 0xAC00 ≤ l ∧ l < 0xD7A4 ∧ (l - 0xAC00) % 28 = 0 ∧ 0x11A8 ≤ r ∧ r < 0x11C3 then
    some (Char.ofNat (l + (r - 0x11A7)))
  else (compositions.find? fun (a, b, _) => a = l && b = r).map fun (_, _, c) => Char.ofNat c

/-- Composition after a starter. `marks` holds, last first, the marks after the starter that did
not compose with it; a mark of a class at least as high blocks the next character. -/
def composeAfter (starter : Char) (marks : List Char) : List Char → List Char
  | [] => starter :: marks.reverse
  | c :: rest =>
    let blocked := match marks with
      | [] => false
      | mark :: _ => combiningClass c ≤ combiningClass mark
    match if blocked then none else composePair starter c with
    | some composed => composeAfter composed marks rest
    | none =>
      if combiningClass c = 0 then starter :: marks.reverse ++ composeAfter c [] rest
      else composeAfter starter (c :: marks) rest

/-- Canonical composition of a text in canonical order. -/
def compose : List Char → List Char
  | [] => []
  | c :: rest => if combiningClass c = 0 then composeAfter c [] rest else c :: compose rest

end NormalForm

/-- The compatibility normal form of a text. -/
def normalForm (text : List Char) : List Char :=
  if text.all isAscii then text
  else NormalForm.compose (NormalForm.order (text.flatMap NormalForm.decompose))

end StructuralLint.Text
