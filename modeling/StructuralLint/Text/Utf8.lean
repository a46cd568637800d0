import StructuralLint.Text.CharSet

/-!
# UTF-8

Source files are UTF-8, decoded strictly; a byte order mark at the front is no part of the text.
Positions in a line come in two measures, bytes and characters; `charColumn` goes from the first
to the second.
-/

namespace StructuralLint.Text

/-- The bytes of the byte order mark. -/
def byteOrderMark : List UInt8 := [0xEF, 0xBB, 0xBF]

/-- A text without the byte order mark at its front. -/
def dropByteOrderMark : List Char → List Char
  | '\uFEFF' :: rest => rest
  | text => text

/-- The characters of a UTF-8 text without the byte order mark, if the bytes are a text. Bytes that
break off inside the byte order mark hold no character. -/
def decodeUtf8? (bytes : ByteArray) : Option (List Char) :=
  if bytes.size < 3 && bytes.toList.isPrefixOf byteOrderMark then some []
  else (String.fromUTF8? bytes).map fun text => dropByteOrderMark text.toList

/-- The number of bytes that encode a text. -/
def byteLength : (text : List Char) → Nat
  | [] => 0
  | c :: rest => c.utf8Size + byteLength rest

/-- The number of characters of a line that lie whole within its first `bytes` bytes. -/
def wholeChars : (line : List Char) → (bytes : Nat) → Nat
  | [], _ => 0
  | c :: rest, bytes =>
    if c.utf8Size ≤ bytes then wholeChars rest (bytes - c.utf8Size) + 1 else 0

/-- The column in characters of a column in bytes. In a line of ASCII the two agree, even past the
end of the line. -/
def charColumn (line : List Char) (bytes : Nat) : Nat :=
  if line.all isAscii then bytes else wholeChars line bytes

end StructuralLint.Text
