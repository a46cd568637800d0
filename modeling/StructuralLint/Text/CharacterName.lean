import StructuralLint.Text.CharSet
import StructuralLint.Text.CharacterName.Further
import StructuralLint.Text.CharacterName.Table
import StructuralLint.Text.CharacterName.Words

/-!
# Characters by name

Every character of Unicode has a name. Most names stand in a table; those of ideographs end in the
code point, and those of Hangul syllables spell the letters of the syllable. Selectors have short
names with a number. Upper and lower case are alike in names from the table.
-/

namespace StructuralLint.Text.CharacterName

/-! ### Names in the table -/

/-- What has been read of the table: the entry that is being read, the code of a number in it, and
where the name that is looked for has been met. -/
structure Reading where
  /-- The code point of the entry, counted from one. -/
  codePoint : Nat
  /-- The words of the name, as numbers. -/
  name : List Nat
  /-- The value of the leading signs of the number that is being read. -/
  lead : Nat
  /-- The number that is being read tells how many code points are left out. -/
  skips : Bool
  /-- The code point with the name that is looked for, counted from one. -/
  found : Option Nat

/-- Nothing has been read. -/
def Reading.initial : Reading := ⟨0, [], 0, false, none⟩

/-- The reading with the entry that has been read compared with the name that is looked for. -/
def Reading.compare (wanted : List Nat) (reading : Reading) : Reading :=
  if reading.name = wanted then { reading with found := some reading.codePoint } else reading

/-- Reads one sign of the table. -/
def Reading.step (wanted : List Nat) (reading : Reading) (c : Char) : Reading :=
  if c.isDigit then
    let before := reading.compare wanted
    { before with
      codePoint := before.codePoint + 1
      name := before.name.take (c.toNat - 0x30) }
  else if c = '+' then { reading with skips := true }
  else match leadingSigns.idxOf? c, closingSigns.idxOf? c with
    | some place, _ =>
      { reading with lead := reading.lead * leadingSigns.length + place + 1 }
    | none, some place =>
      let number := reading.lead * closingSigns.length + place
      if reading.skips then
        { reading with codePoint := reading.codePoint + number, lead := 0, skips := false }
      else { reading with name := reading.name ++ [number], lead := 0 }
    | none, none => reading

/-- The words that names are made of. -/
def allWords : List (List Char) := tableWords characterWordText

/-- The code point that has this name in the table. -/
def inTable? (name : List Char) : Option Nat := do
  let wanted ← (fields (· = ' ') name).mapM fun word => allWords.idxOf? word
  let reading := characterNameText.foldl (Reading.step wanted) Reading.initial
  return (← (reading.compare wanted).found) - 1

/-- The further names with their code points. -/
def furtherNames : List (Nat × List (List Char)) :=
  (fields (· = ';') (furtherNameText.toList.filter (· ≠ '\n'))).filterMap fun entry =>
    match fields (· = ':') entry with
    | [codePoint, names] =>
      some (hexNumber (codePoint.filter (· ≠ ' ')), fields (· = '/') names)
    | _ => none

/-- The code point with this further name. -/
def further? (name : List Char) : Option Nat :=
  (furtherNames.find? fun (_, names) => names.contains name).map (·.1)

/-! ### Names that can be computed -/

/-- What follows `front` in a text that opens with it. -/
def after? (front : String) (text : List Char) : Option (List Char) :=
  if front.toList.isPrefixOf text then some (text.drop front.length) else none

/-- The unified ideographs. -/
def unifiedIdeographs : CharSet := CharSet.ofText "
  3400-4DBF 4E00-9FFF 20000-2A6DF 2A700-2B738 2B740-2B81D 2B820-2CEA1 2CEB0-2EBE0 30000-3134A"

/-- Characters whose names end in their code points, by what the names open with. -/
def numbered : List (String × CharSet) :=
  [("CJK COMPATIBILITY IDEOGRAPH-", CharSet.ofText "F900-FA6D FA70-FAD9 2F800-2FA1D"),
    ("KHITAN SMALL SCRIPT CHARACTER-", CharSet.ofText "18B00-18CD5"),
    ("NUSHU CHARACTER-", CharSet.ofText "1B170-1B2FB")]

/-- The code point that stands at the end of a name, in four or five digits. -/
def inNumbered? (front : String) (set : CharSet) (name : List Char) : Option Nat := do
  let digits ← after? front name
  let isDigit (c : Char) : Bool := c.isDigit || ('A' ≤ c && c ≤ 'F')
  let codePoint := hexNumber digits
  if (digits.length = 4 ∨ digits.length = 5) ∧ digits.all isDigit
      ∧ set.any fun range => range.first ≤ codePoint && codePoint ≤ range.last then
    return codePoint
  else none

/-- The letters that open a syllable. -/
def leadingLetters : List String :=
  ["G", "GG", "N", "D", "DD", "R", "M", "B", "BB", "S", "SS", "", "J", "JJ", "C", "K", "T", "P",
    "H"]

/-- The vowels of syllables. -/
def vowelLetters : List String :=
  ["A", "AE", "YA", "YAE", "EO", "E", "YEO", "YE", "O", "WA", "WAE", "OE", "YO", "U", "WEO", "WE",
    "WI", "YU", "EU", "YI", "I"]

/-- The letters that close a syllable. -/
def trailingLetters : List String :=
  ["", "G", "GG", "GS", "N", "NJ", "NH", "D", "L", "LG", "LM", "LB", "LS", "LT", "LP", "LH", "M",
    "B", "BS", "S", "SS", "NG", "J", "C", "K", "T", "P", "H"]

/-- The longest of some texts that a text opens with: its place, and what follows it. -/
def longestOf (texts : List String) (text : List Char) : Option (Nat × List Char) :=
  let fits := texts.zipIdx.filter fun (front, _) => front.toList.isPrefixOf text
  let longest := fits.foldl
    (fun best (front, place) =>
      match best with
      | some (length, _) => if length < front.length then some (front.length, place) else best
      | none => some (front.length, place))
    none
  longest.map fun (length, place) => (place, text.drop length)

/-- The syllable that a name spells. -/
def syllable? (name : List Char) : Option Nat := do
  let letters ← after? "HANGUL SYLLABLE " name
  let (leading, letters) ← longestOf leadingLetters letters
  let (vowel, letters) ← longestOf vowelLetters letters
  let (trailing, letters) ← longestOf trailingLetters letters
  if letters.isEmpty then return 0xAC00 + (leading * 21 + vowel) * 28 + trailing else none

/-- The selector that a short name numbers. -/
def selector? (name : List Char) : Option Nat := do
  let digits ← after? "VS" name
  let number := digits.foldl (fun value c => 10 * value + (c.toNat - 0x30)) 0
  if digits.all Char.isDigit ∧ digits.head? ≠ some '0' ∧ 1 ≤ number ∧ number ≤ 256 then
    return if number ≤ 16 then 0xFE00 + (number - 1) else 0xE0100 + (number - 17)
  else none

end CharacterName

open CharacterName in
/-- The character of a name. -/
def characterNamed? (name : List Char) : Option Char :=
  let upper := name.map Char.toUpper
  let codePoint :=
    inNumbered? "CJK UNIFIED IDEOGRAPH-" unifiedIdeographs name
      <|> syllable? name
      <|> numbered.findSome? (fun (front, set) => inNumbered? front set upper)
      <|> selector? upper
      <|> further? upper
      <|> inTable? upper
  codePoint.map Char.ofNat

end StructuralLint.Text
