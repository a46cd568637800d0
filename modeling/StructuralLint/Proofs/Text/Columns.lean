import Mathlib.Order.Nat
import StructuralLint.Tree.Source

/-!
# Columns in bytes and in characters

A place in a line can be told by the number of bytes before it or by the number of characters. To go
from the first to the second is to decode the bytes before the place and to leave out what is no
whole character (`Text.decodeLeniently`). Only the last character can be cut, and what is left of it
opens no character, so that the whole characters are what is decoded
(`Text.decodeLeniently_take_encode`). Which these are is told by `Text.le_wholeChars_iff`, and all
that `SourceText.position` does follows from it (`SourceText.position_of_bytes`).
-/

namespace StructuralLint

namespace Text

/-- The bytes of a text. -/
def encode (text : List Char) : List UInt8 := text.flatMap String.utf8EncodeChar

/-- The character that the first bytes encode. -/
def frontChar? (bytes : List UInt8) : Option Char := bytes.toByteArray.utf8DecodeChar? 0

/-- The characters of bytes that need not be a text. A byte that opens no character is left out, and
decoding goes on with the next one. -/
def decodeLeniently : List UInt8 → List Char
  | [] => []
  | byte :: rest =>
    match frontChar? (byte :: rest) with
    | some c => c :: decodeLeniently (rest.drop (c.utf8Size - 1))
    | none => decodeLeniently rest
termination_by bytes => bytes.length

variable {c : Char} {line text : List Char} {bytes k : Nat}

/-! ### Bytes -/

@[simp]
theorem encode_nil : encode [] = [] := rfl

@[simp]
theorem encode_cons (c : Char) (text : List Char) :
    encode (c :: text) = String.utf8EncodeChar c ++ encode text := rfl

@[simp]
theorem length_encode (text : List Char) : (encode text).length = byteLength text := by
  induction text with
  | nil => rfl
  | cons c rest ih =>
      rw [encode_cons, List.length_append, ih, String.length_utf8EncodeChar, byteLength]

theorem byteLength_append (left right : List Char) :
    byteLength (left ++ right) = byteLength left + byteLength right := by
  rw [← length_encode, encode, List.flatMap_append, List.length_append, ← encode, ← encode,
    length_encode, length_encode]

theorem byteLength_of_ascii (ascii : text.all isAscii = true) : byteLength text = text.length := by
  induction text with
  | nil => rfl
  | cons c rest ih =>
      rw [List.all_cons, Bool.and_eq_true] at ascii
      obtain ⟨own, others⟩ := ascii
      have small : c.toNat < 0x80 := of_decide_eq_true own
      have size : c.utf8Size = 1 := by
        rw [Char.utf8Size_eq_one_iff, UInt32.le_iff_toNat_le]
        exact Nat.le_of_lt_succ small
      rw [byteLength, List.length_cons, ih others, size, Nat.add_comm]

/-! ### Decoding -/

theorem frontChar?_append (c : Char) (rest : List UInt8) :
    frontChar? (String.utf8EncodeChar c ++ rest) = some c := by
  rw [frontChar?, List.toByteArray_append]
  exact ByteArray.utf8DecodeChar?_utf8EncodeChar_append

/-- A byte from inside a character opens none. -/
theorem frontChar?_of_inner {byte : UInt8} (inner : ¬ byte.IsUTF8FirstByte) (rest : List UInt8) :
    frontChar? (byte :: rest) = none := by
  rw [← Option.not_isSome_iff_eq_none]
  intro found
  have first := ByteArray.isUTF8FirstByte_of_isSome_utf8DecodeChar? found
  rw [List.getElem_toByteArray] at first
  exact inner first

/-- Nor does a character of which only a part is there. -/
theorem frontChar?_of_cut (cut : bytes < c.utf8Size) :
    frontChar? ((String.utf8EncodeChar c).take bytes) = none := by
  cases found : frontChar? ((String.utf8EncodeChar c).take bytes) with
  | none => rfl
  | some other =>
      obtain ⟨later, split⟩ := ByteArray.exists_of_utf8DecodeChar?_eq_some found
      have front : (String.utf8EncodeChar c).take bytes =
          String.utf8EncodeChar other ++ later.data.toList := by
        have lists := congrArg (fun array : ByteArray => array.data.toList) split
        simpa [ByteArray.data_append] using lists
      have whole : String.utf8EncodeChar c = String.utf8EncodeChar other ++
          (later.data.toList ++ (String.utf8EncodeChar c).drop bytes) := by
        rw [← List.append_assoc, ← front, List.take_append_drop]
      have own := frontChar?_append c []
      rw [List.append_nil, whole, frontChar?_append, Option.some.injEq] at own
      have lengths := congrArg List.length front
      rw [List.length_take, List.length_append, own, String.length_utf8EncodeChar] at lengths
      omega

theorem decodeLeniently_append (c : Char) (rest : List UInt8) :
    decodeLeniently (String.utf8EncodeChar c ++ rest) = c :: decodeLeniently rest := by
  have front := frontChar?_append c rest
  have size := String.length_utf8EncodeChar c
  cases own : String.utf8EncodeChar c with
  | nil => exact absurd own String.utf8EncodeChar_ne_nil
  | cons byte more =>
      rw [own, List.length_cons] at size
      rw [own, List.cons_append] at front
      rw [List.cons_append, decodeLeniently, front]
      dsimp only
      rw [← size, Nat.add_sub_cancel, List.drop_left]

theorem decodeLeniently_of_inner {more : List UInt8}
    (inner : ∀ byte ∈ more, ¬ byte.IsUTF8FirstByte) : decodeLeniently more = [] := by
  induction more with
  | nil => rw [decodeLeniently]
  | cons byte rest ih =>
      rw [decodeLeniently, frontChar?_of_inner (inner byte List.mem_cons_self)]
      exact ih fun other member => inner other (List.mem_cons_of_mem _ member)

/-- What is left of a character that is cut off is left out altogether. -/
theorem decodeLeniently_of_cut (cut : bytes < c.utf8Size) :
    decodeLeniently ((String.utf8EncodeChar c).take bytes) = [] := by
  have front := frontChar?_of_cut cut
  cases bytes with
  | zero => rw [List.take_zero, decodeLeniently]
  | succ bytes =>
      cases own : String.utf8EncodeChar c with
      | nil => exact absurd own String.utf8EncodeChar_ne_nil
      | cons byte more =>
          rw [own, List.take_succ_cons] at front
          rw [List.take_succ_cons, decodeLeniently, front]
          apply decodeLeniently_of_inner
          intro other member
          obtain ⟨place, inside, rfl⟩ := List.mem_iff_getElem.mp (List.mem_of_mem_take member)
          have behind : place + 1 < (String.utf8EncodeChar c).length := by
            rw [own, List.length_cons]
            omega
          have same : (String.utf8EncodeChar c)[place + 1] = more[place] := by simp [own]
          rw [← same, UInt8.isUTF8FirstByte_getElem_utf8EncodeChar]
          omega

/-- **The whole characters are what is decoded.** -/
theorem decodeLeniently_take_encode (line : List Char) (bytes : Nat) :
    decodeLeniently ((encode line).take bytes) = line.take (wholeChars line bytes) := by
  induction line generalizing bytes with
  | nil => rw [encode_nil, List.take_nil, List.take_nil, decodeLeniently]
  | cons c rest ih =>
      have size := String.length_utf8EncodeChar c
      rw [encode_cons, wholeChars, List.take_append, size]
      by_cases whole : c.utf8Size ≤ bytes
      · rw [if_pos whole, List.take_of_length_le (by omega), decodeLeniently_append, ih,
          List.take_succ_cons]
      · rw [if_neg whole, Nat.sub_eq_zero_of_le (by omega), List.take_zero, List.take_zero,
          List.append_nil, decodeLeniently_of_cut (by omega)]

/-! ### Columns -/

/-- A character lies whole within the first bytes if all the text up to its end does. -/
theorem le_wholeChars_iff :
    k ≤ wholeChars line bytes ↔ k ≤ line.length ∧ byteLength (line.take k) ≤ bytes := by
  induction line generalizing k bytes with
  | nil => simp [wholeChars, byteLength]
  | cons c rest ih =>
      cases k with
      | zero => simp [byteLength]
      | succ k =>
          rw [wholeChars, List.take_succ_cons, byteLength, List.length_cons, Nat.succ_le_succ_iff]
          by_cases whole : c.utf8Size ≤ bytes
          · rw [if_pos whole, Nat.succ_le_succ_iff, ih]
            omega
          · rw [if_neg whole]
            omega

theorem wholeChars_le_length (line : List Char) (bytes : Nat) :
    wholeChars line bytes ≤ line.length :=
  (le_wholeChars_iff.mp le_rfl).1

theorem wholeChars_mono {left right : Nat} (le : left ≤ right) :
    wholeChars line left ≤ wholeChars line right := by
  obtain ⟨inside, short⟩ := le_wholeChars_iff.mp (le_refl (wholeChars line left))
  exact le_wholeChars_iff.mpr ⟨inside, short.trans le⟩

/-- From the start of a character up to its end it is not yet whole. -/
theorem wholeChars_eq (inside : k < line.length) (reached : byteLength (line.take k) ≤ bytes)
    (cut : bytes < byteLength (line.take (k + 1))) : wholeChars line bytes = k := by
  have least : k ≤ wholeChars line bytes := le_wholeChars_iff.mpr ⟨Nat.le_of_lt inside, reached⟩
  have most : ¬ k + 1 ≤ wholeChars line bytes := by
    intro whole
    have short := (le_wholeChars_iff.mp whole).2
    omega
  omega

/-- The bytes of the first characters hold just these characters. -/
theorem wholeChars_byteLength (inside : k ≤ line.length) :
    wholeChars line (byteLength (line.take k)) = k := by
  by_cases further : k < line.length
  · apply wholeChars_eq further le_rfl
    rw [List.take_succ_eq_append_getElem further, byteLength_append]
    exact Nat.lt_add_of_pos_right (Char.utf8Size_pos _)
  · apply le_antisymm
    · have most := wholeChars_le_length line (byteLength (line.take k))
      omega
    · exact le_wholeChars_iff.mpr ⟨inside, le_rfl⟩

/-- In a line of ASCII every byte is a character. -/
theorem wholeChars_of_ascii (ascii : line.all isAscii = true) (short : bytes ≤ byteLength line) :
    wholeChars line bytes = bytes := by
  rw [byteLength_of_ascii ascii] at short
  have front : (line.take bytes).all isAscii = true :=
    List.all_eq_true.mpr fun c member => List.all_eq_true.mp ascii c (List.mem_of_mem_take member)
  have length : byteLength (line.take bytes) = bytes := by
    rw [byteLength_of_ascii front, List.length_take, Nat.min_eq_left short]
  calc wholeChars line bytes
    _ = wholeChars line (byteLength (line.take bytes)) := by rw [length]
    _ = bytes := wholeChars_byteLength short

/-- Within the line, the short way for ASCII leads to the same column. -/
theorem charColumn_eq (short : bytes ≤ byteLength line) :
    charColumn line bytes = wholeChars line bytes := by
  rw [charColumn]
  by_cases ascii : line.all isAscii = true
  · rw [if_pos ascii, wholeChars_of_ascii ascii short]
  · rw [if_neg ascii]

end Text

open Text

theorem SourceText.position_eq {text : SourceText} {number : Nat} {line : List Char}
    (listed : text.lines[number]? = some line) (bytes : Nat) :
    text.position ⟨number + 1, bytes⟩ = ⟨number + 1, charColumn line bytes⟩ := by
  simp only [position, Nat.zero_lt_succ, if_true, Nat.add_sub_cancel, listed]

/-- **Columns of bytes become columns of characters.** A place after the first characters of a line
is told by the number of their bytes, and from that number their number is found again. Any other
place within the line is inside a character, and the column is that of the character. So the columns
never go back, and they count what can be decoded of the bytes before the place, which in a line of
ASCII is every byte. -/
theorem SourceText.position_of_bytes {text : SourceText} {number : Nat} {line : List Char}
    (listed : text.lines[number]? = some line) :
    (∀ k ≤ line.length,
      text.position ⟨number + 1, (encode (line.take k)).length⟩ = ⟨number + 1, k⟩) ∧
    (∀ bytes ≤ (encode line).length, text.position ⟨number + 1, bytes⟩ =
      ⟨number + 1, (decodeLeniently ((encode line).take bytes)).length⟩) ∧
    (line.all isAscii = true → ∀ bytes ≤ (encode line).length,
      (decodeLeniently ((encode line).take bytes)).length = bytes) ∧
    (∀ left right, left ≤ right → right ≤ (encode line).length →
      (text.position ⟨number + 1, left⟩).column ≤ (text.position ⟨number + 1, right⟩).column) ∧
    ∀ k < line.length, ∀ bytes, (encode (line.take k)).length ≤ bytes →
      bytes < (encode (line.take (k + 1))).length →
        text.position ⟨number + 1, bytes⟩ = ⟨number + 1, k⟩ := by
  have within {k : Nat} : byteLength (line.take k) ≤ byteLength line := by
    have whole := byteLength_append (line.take k) (line.drop k)
    rw [List.take_append_drop] at whole
    omega
  have decoded (bytes : Nat) :
      (decodeLeniently ((encode line).take bytes)).length = wholeChars line bytes := by
    rw [decodeLeniently_take_encode, List.length_take, Nat.min_eq_left (wholeChars_le_length _ _)]
  simp only [length_encode, position_eq listed, decoded, Position.mk.injEq, true_and]
  refine ⟨fun k inside => ?_, fun bytes short => charColumn_eq short,
    fun ascii bytes short => wholeChars_of_ascii ascii short, fun left right le short => ?_,
    fun k inside bytes reached cut => ?_⟩
  · rw [charColumn_eq within, wholeChars_byteLength inside]
  · rw [charColumn_eq (le.trans short), charColumn_eq short]
    exact wholeChars_mono le
  · rw [charColumn_eq ((Nat.le_of_lt cut).trans within)]
    exact wholeChars_eq inside reached cut

/-- A line with characters of one to four bytes. -/
def mixedLine : List Char := "aé€😀b".toList

/-- The line as the second one of a text. -/
theorem SourceText.position_of_bytes_mixedLine :
    let text := SourceText.ofTokens ('x' :: '\n' :: mixedLine) []
    text.lines[1]? = some mixedLine ∧
      text.position ⟨2, 10⟩ = ⟨2, 4⟩ ∧
      text.position ⟨2, 5⟩ = ⟨2, (decodeLeniently [0x61, 0xC3, 0xA9, 0xE2, 0x82]).length⟩ ∧
      (text.position ⟨2, 5⟩).column ≤ (text.position ⟨2, 7⟩).column ∧
      text.position ⟨2, 8⟩ = ⟨2, 3⟩ := by
  intro text
  have listed : text.lines[1]? = some mixedLine := by decide +kernel
  obtain ⟨whole, decoded, -, monotone, inside⟩ := position_of_bytes listed
  exact ⟨listed, whole 4 (by decide), decoded 5 (by decide +kernel),
    monotone 5 7 (by decide) (by decide +kernel),
    inside 3 (by decide) 8 (by decide +kernel) (by decide +kernel)⟩

end StructuralLint
