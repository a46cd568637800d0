import StructuralLint.Text.CharacterName
import StructuralLint.Token.Spelling

/-!
# String literals

What a literal in quotes stands for. A backslash opens an escape unless the letter `r` stands
before the quote; an escape that is none stands for itself. Literals of bytes hold ASCII only.
-/

namespace StructuralLint.Grammar.StringLiteral

/-- The letters before a quote. -/
structure Letters where
  raw : Bool
  bytes : Bool
  interpolated : Bool

/-- Reads the letters, in either case. -/
def Letters.read (letters : List Char) : Letters :=
  let lower := letters.map Char.toLower
  ⟨lower.contains 'r', lower.contains 'b', lower.contains 'f'⟩

/-- The value of exactly `width` hexadecimal digits, and what follows them. -/
def hexEscape (width : Nat) (text : List Char) : Option (Nat × List Char) :=
  let digits := text.take width
  if digits.length = width ∧ digits.all Spelling.isHexDigit then
    some (Text.hexNumber digits, text.drop width)
  else none

/-- A character by its number; a number that no character has stands for the replacement
character. -/
def charOf (n : Nat) : Char := if n.isValidChar then Char.ofNat n else '\uFFFD'

/-- The value of up to three octal digits, and what follows them. -/
def octalEscape (text : List Char) : Nat × List Char :=
  let digits := (text.take 3).takeWhile Spelling.isOctalDigit
  (digits.foldl (fun value c => 8 * value + (c.toNat - 0x30)) 0, text.drop digits.length)

/-- The escapes of one letter. -/
def letterEscape (c : Char) : Option Char :=
  match c with
  | '\\' => some '\\'
  | '\'' => some '\''
  | '"' => some '"'
  | 'a' => some '\x07'
  | 'b' => some '\x08'
  | 'f' => some '\x0c'
  | 'n' => some '\n'
  | 'r' => some '\r'
  | 't' => some '\t'
  | 'v' => some '\x0b'
  | _ => none

/-- What an escape stands for, and what follows it; none if it is malformed. -/
def escape (bytes : Bool) (text : List Char) : Option (List Char × List Char) :=
  match text with
  | [] => some (['\\'], [])
  | c :: rest =>
    if c = '\n' then some ([], rest)
    else match letterEscape c with
    | some value => some ([value], rest)
    | none =>
      if Spelling.isOctalDigit c then
        let (value, after) := octalEscape text
        some ([charOf value], after)
      else if c = 'x' then do
        let (value, after) ← hexEscape 2 rest
        return ([charOf value], after)
      else if bytes then some (['\\', c], rest)
      else if c = 'u' then do
        let (value, after) ← hexEscape 4 rest
        return ([charOf value], after)
      else if c = 'U' then do
        let (value, after) ← hexEscape 8 rest
        if value ≤ 0x10FFFF then return ([charOf value], after) else none
      else if c = 'N' then
        match rest with
        | '\x7b' :: later => do
          let letters := later.takeWhile (· ≠ '\x7d')
          let after := later.drop letters.length
          if after.isEmpty then none
          else return ([← Text.characterNamed? letters], after.tail)
        | _ => none
      else some (['\\', c], rest)

/-- The value of a text with escapes, at most `fuel` characters and escapes of it. -/
def unescapeUpTo (bytes : Bool) : (fuel : Nat) → List Char → Option (List Char)
  | 0, _ => some []
  | _, [] => some []
  | fuel + 1, c :: rest =>
    if c = '\\' then do
      let (value, after) ← escape bytes rest
      return value ++ (← unescapeUpTo bytes fuel after)
    else (unescapeUpTo bytes fuel rest).map (c :: ·)

/-- The value of a text with escapes; none if an escape is malformed. -/
def unescape (bytes : Bool) (text : List Char) : Option (List Char) :=
  unescapeUpTo bytes text.length text

/-- The value of a literal without expressions in it; none if it is malformed. -/
def value (letters : Letters) (body : List Char) : Option (List Char) :=
  if letters.bytes && !body.all Text.isAscii then none
  else if letters.raw then some body
  else unescape letters.bytes body

end StructuralLint.Grammar.StringLiteral
