import StructuralLint.Text.Fields

/-!
# Sets of characters

A character set is a list of ranges of code points. The tables of this folder are written as text,
numbers in hexadecimal and ranges as `41-5A`, because the Unicode data they come from is written
so; `CharSet.ofText` reads that form.
-/

namespace StructuralLint.Text

/-- One of the 128 characters of ASCII. -/
def isAscii (c : Char) : Bool := c.toNat < 0x80

/-- The value of a hexadecimal digit, zero for anything else. -/
def hexDigit (c : Char) : Nat :=
  if c.isDigit then c.toNat - 0x30
  else if 'A' ≤ c ∧ c ≤ 'F' then c.toNat - 0x37
  else if 'a' ≤ c ∧ c ≤ 'f' then c.toNat - 0x57
  else 0

/-- The number written by hexadecimal digits. -/
def hexNumber (digits : List Char) : Nat :=
  digits.foldl (fun value c => 16 * value + hexDigit c) 0

/-- The words of a table: what stands between blanks and line breaks. -/
def tableWords (text : String) : List (List Char) :=
  (fields (fun c => c = ' ' || c = '\n') text.toList).filter (!·.isEmpty)

/-- The numbers of a table that holds nothing else. -/
def readHexNumbers (text : String) : List Nat :=
  (tableWords text).map hexNumber

/-- The code points from `first` to `last`, both included. -/
structure CharRange where
  first : Nat
  last : Nat

/-- A code point of the range. -/
def CharRange.contains (range : CharRange) (c : Char) : Bool :=
  range.first ≤ c.toNat && c.toNat ≤ range.last

/-- The range written `41-5A`, or `5F` for a single code point. -/
def CharRange.ofWord (word : List Char) : CharRange :=
  match fields (· = '-') word with
  | [first, last] => ⟨hexNumber first, hexNumber last⟩
  | _ => ⟨hexNumber word, hexNumber word⟩

/-- A set of characters, as ranges of code points. -/
abbrev CharSet := List CharRange

/-- The set that a table writes. -/
def CharSet.ofText (text : String) : CharSet := (tableWords text).map CharRange.ofWord

/-- Membership in the set. -/
def CharSet.contains (set : CharSet) (c : Char) : Bool := set.any (·.contains c)

end StructuralLint.Text
