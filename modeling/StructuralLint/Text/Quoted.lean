import StructuralLint.Text.Printable

/-!
# Quoted text

A text is shown between single quotes, or between double quotes when it holds a single quote and
no double quote. Inside, the backslash and the quote in use are escaped, and every character
without a visible form is written as an escape of the shortest fixed width that holds it.
-/

namespace StructuralLint.Text

/-- A number below sixteen as a hexadecimal digit. -/
def hexDigitChar (n : Nat) : Char :=
  if n < 10 then Char.ofNat (0x30 + n) else Char.ofNat (0x57 + n)

/-- The last `width` hexadecimal digits of a number. -/
def hexText : (width : Nat) → Nat → List Char
  | 0, _ => []
  | width + 1, n => hexText width (n / 16) ++ [hexDigitChar (n % 16)]

/-- One character as it stands between the quotes. -/
def escapeChar (quote c : Char) : List Char :=
  if c = quote || c = '\\' then ['\\', c]
  else if c = '\n' then ['\\', 'n']
  else if c = '\r' then ['\\', 'r']
  else if c = '\t' then ['\\', 't']
  else if isPrintable c then [c]
  else if c.toNat < 0x100 then '\\' :: 'x' :: hexText 2 c.toNat
  else if c.toNat < 0x10000 then '\\' :: 'u' :: hexText 4 c.toNat
  else '\\' :: 'U' :: hexText 8 c.toNat

/-- The quote that a text is shown in. -/
def quoteFor (text : List Char) : Char :=
  if text.contains '\'' && !text.contains '"' then '"' else '\''

/-- The text between quotes. -/
def quotedChars (text : List Char) : List Char :=
  let quote := quoteFor text
  quote :: text.flatMap (escapeChar quote) ++ [quote]

/-- The text between quotes. -/
def quoted (text : String) : String := String.ofList (quotedChars text.toList)

end StructuralLint.Text
