import StructuralLint.Text.CharSet

/-!
# Spellings

How the tokens of a source text are spelled: numbers, operators, and the prefixes and quotes of
literals. Each function looks at the front of a text and says how many characters belong together.
-/

namespace StructuralLint.Spelling

/-- Digits, each but the first optionally after one underscore, at the front of a text that
follows a digit. -/
def digitTail (isDigit : Char → Bool) : List Char → Nat
  | [] => 0
  | c :: rest =>
    if isDigit c then digitTail isDigit rest + 1
    else match c, rest with
      | '_', d :: later => if isDigit d then digitTail isDigit later + 2 else 0
      | _, _ => 0

/-- Digits with single underscores between them. -/
def digits (isDigit : Char → Bool) : List Char → Nat
  | [] => 0
  | c :: rest => if isDigit c then digitTail isDigit rest + 1 else 0

def isHexDigit (c : Char) : Bool := c.isDigit || ('a' ≤ c && c ≤ 'f') || ('A' ≤ c && c ≤ 'F')

def isOctalDigit (c : Char) : Bool := '0' ≤ c && c ≤ '7'

def isBinaryDigit (c : Char) : Bool := c = '0' || c = '1'

/-- The exponent of a floating point number. -/
def exponent : List Char → Nat
  | e :: sign :: rest =>
    if e ≠ 'e' ∧ e ≠ 'E' then 0
    else if sign = '+' ∨ sign = '-' then
      match digits Char.isDigit rest with
      | 0 => 0
      | n + 1 => n + 3
    else match digits Char.isDigit (sign :: rest) with
      | 0 => 0
      | n + 1 => n + 2
  | _ => 0

/-- A number with a point or an exponent. -/
def float (text : List Char) : Nat :=
  match text with
  | '.' :: rest =>
    match digits Char.isDigit rest with
    | 0 => 0
    | n + 1 => n + 2 + exponent (rest.drop (n + 1))
  | _ =>
    match digits Char.isDigit text with
    | 0 => 0
    | whole + 1 =>
      match text.drop (whole + 1) with
      | '.' :: rest =>
        let fraction := digits Char.isDigit rest
        whole + 2 + fraction + exponent (rest.drop fraction)
      | rest =>
        match exponent rest with
        | 0 => 0
        | n + 1 => whole + 1 + (n + 1)

/-- A whole number. A decimal one that opens with a zero has zeros only. -/
def whole : List Char → Nat
  | '0' :: base :: rest =>
    let based :=
      if base = 'x' ∨ base = 'X' then digitTail isHexDigit rest
      else if base = 'b' ∨ base = 'B' then digitTail isBinaryDigit rest
      else if base = 'o' ∨ base = 'O' then digitTail isOctalDigit rest
      else 0
    if based = 0 then digitTail (· = '0') (base :: rest) + 1 else based + 2
  | text => digits Char.isDigit text

/-- A number of any form, zero if there is none. -/
def number (text : List Char) : Nat :=
  let plain := digits Char.isDigit text
  let pointed := float text
  let marked (n : Nat) : Bool :=
    n ≠ 0 && match text.drop n with
      | j :: _ => j = 'j' || j = 'J'
      | [] => false
  if marked plain then plain + 1
  else if marked pointed then pointed + 1
  else if pointed ≠ 0 then pointed
  else whole text

/-- The operators and delimiters, each before its own beginnings. -/
def operators : List String :=
  ["**=", "//=", ">>=", "<<=", "...",
    "!=", "%=", "&=", "**", "*=", "+=", "-=", "->", "//", "/=", ":=", "<<", "<=", "==", ">=", ">>",
    "@=", "^=", "|=",
    "%", "&", "(", ")", "*", "+", ",", "-", ".", "/", ":", ";", "<", "=", ">", "@", "[", "]", "^",
    "\x7b", "|", "\x7d", "~"]

/-- The longest operator at the front of a text. -/
def operator (text : List Char) : Nat :=
  match operators.find? (·.toList.isPrefixOf text) with
  | some op => op.length
  | none => 0

/-- The quotes that delimit literals. -/
def isQuote (c : Char) : Bool := c = '\'' || c = '"'

/-- The letters that may stand before the quote of a literal, in either case. -/
def isLiteralPrefix (letters : List Char) : Bool :=
  [['b'], ['r'], ['u'], ['f'], ['b', 'r'], ['r', 'b'], ['f', 'r'], ['r', 'f']].contains
    (letters.map Char.toLower)

/-- The prefix, the quote and the rest of a text that opens with a literal. -/
def splitLiteral : List Char → Option (List Char × Char × List Char)
  | a :: rest =>
    if isQuote a then some ([], a, rest)
    else match rest with
      | b :: rest =>
        if isQuote b then if isLiteralPrefix [a] then some ([a], b, rest) else none
        else match rest with
          | c :: rest =>
            if isQuote c && isLiteralPrefix [a, b] then some ([a, b], c, rest) else none
          | [] => none
      | [] => none
  | [] => none

/-- Up to and with the quotes that close a literal. An escaped line feed ends the search. -/
def closing (quotes : List Char) : List Char → Option Nat
  | [] => none
  | c :: rest =>
    if c = '\\' then
      match rest with
      | [] => none
      | d :: later => if d = '\n' then none else (closing quotes later).map (· + 2)
    else if quotes.isPrefixOf (c :: rest) then some quotes.length
    else (closing quotes rest).map (· + 1)

/-- How a literal in single quotes ends in the line that it opens in. -/
inductive LiteralEnd where
  | closed
  /-- By a backslash before the end of the line. -/
  | continued
deriving DecidableEq, Repr

/-- Up to and with the closing quote, or up to the end of a line whose end is escaped. -/
def closingInLine (quote : Char) : List Char → Option (Nat × LiteralEnd)
  | [] => none
  | c :: rest =>
    if c = '\\' then
      match rest with
      | [] => none
      | '\n' :: _ => some (2, .continued)
      | '\r' :: '\n' :: _ => some (3, .continued)
      | _ :: later => (closingInLine quote later).map fun (n, ending) => (n + 2, ending)
    else if c = '\n' then none
    else if c = quote then some (1, .closed)
    else (closingInLine quote rest).map fun (n, ending) => (n + 1, ending)

end StructuralLint.Spelling
