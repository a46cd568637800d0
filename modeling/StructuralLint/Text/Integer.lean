import StructuralLint.Text.Blank
import StructuralLint.Text.Digit
import StructuralLint.Text.Quoted

/-!
# Reading integers

An integer is written as an optional sign and decimal digits of any script, with single
underscores between digits and blanks around the whole. The information separators of ASCII are
not blanks here. More than `maxDigits` digits are refused before anything after them is looked at.
-/

namespace StructuralLint.Text.Integer

/-- The most digits that an integer may be written with. -/
def maxDigits : Nat := 4300

/-- Why a text is no integer. -/
inductive ReadError where
  /-- The text is not of the form of an integer. -/
  | malformed (text : List Char)
  /-- There are more than `maxDigits` digits. -/
  | tooLong (digits : Nat)
deriving DecidableEq, Repr

/-- The text of the error. A malformed text is shown in quotes, cut after 200 characters. -/
def ReadError.message : ReadError → String
  | .malformed text =>
    "invalid literal for int() with base 10: " ++ String.ofList ((quotedChars text).take 200)
  | .tooLong digits =>
    s!"Exceeds the limit ({maxDigits} digits) for integer string conversion: value has {digits} "
      ++ "digits; use sys.set_int_max_str_digits() to increase the limit"

/-- A blank around an integer. -/
def isPadding (c : Char) : Bool := isBlank c && !(0x1C ≤ c.toNat && c.toNat ≤ 0x1F)

/-- The values of the digits at the front of a text, single underscores between digits skipped,
and what follows; none if an underscore is not between two digits. `joined` says that a digit
stands before the text. -/
def digitRun (joined : Bool) : List Char → Option (List Nat × List Char)
  | [] => some ([], [])
  | '_' :: rest =>
    match joined, rest with
    | true, d :: _ => if (digitValue? d).isSome then digitRun false rest else none
    | _, _ => none
  | c :: rest =>
    match digitValue? c with
    | none => some ([], c :: rest)
    | some value => (digitRun true rest).map fun (values, after) => (value :: values, after)

/-- The sign at the front of a text, and the rest. -/
def splitSign : List Char → Bool × List Char
  | '-' :: rest => (true, rest)
  | '+' :: rest => (false, rest)
  | text => (false, text)

/-- The integer that a text writes. -/
def read (text : List Char) : Except ReadError Int :=
  let (negative, unsigned) := splitSign (text.dropWhile isPadding)
  match digitRun false unsigned with
  | none => .error (.malformed text)
  | some (digits, after) =>
    if maxDigits < digits.length then .error (.tooLong digits.length)
    else if digits.isEmpty || !after.all isPadding then .error (.malformed text)
    else
      let size : Nat := digits.foldl (fun value digit => 10 * value + digit) 0
      .ok (if negative then -Int.ofNat size else Int.ofNat size)

end StructuralLint.Text.Integer
