import StructuralLint.Position
import StructuralLint.Text.Identifier
import StructuralLint.Text.Line
import StructuralLint.Token.Spelling

/-!
# Lexemes

The strict reading of a source text, which the grammar is read from. Unlike the tolerant scan it
refuses every text that no program can have: unbalanced brackets, numbers run together with words,
characters that open nothing, indentation that depends on the width of a tab. Carriage returns
count as line ends, and columns count bytes.
-/

namespace StructuralLint.Program

/-- What a lexeme is. -/
inductive LexemeForm where
  /-- A name or a keyword, as it is spelled. -/
  | word (text : List Char)
  | number (text : List Char)
  /-- A literal in quotes: the letters before the quote and what stands between the quotes. -/
  | literal (letters body : List Char)
  | op (text : String)
  | newline
  | indent
  | dedent
  | endMarker
deriving DecidableEq, Repr

/-- A piece of source text with its place. -/
structure Lexeme where
  form : LexemeForm
  span : Span
deriving Repr

namespace Lexeme

/-- The place after a character. -/
def advance (place : Position) (c : Char) : Position :=
  if c = '\n' then ⟨place.line + 1, 0⟩ else ⟨place.line, place.column + c.utf8Size⟩

/-- A character that an identifier may hold, as far as its first byte tells. -/
def isWordLike (c : Char) : Bool := c.isAlphanum || c = '_' || !Text.isAscii c

/-! ### Numbers -/

/-- Whether a text goes on with a word and nothing that would lengthen the word. -/
def opensWith (word text : List Char) : Bool :=
  word.isPrefixOf text && !((text.drop word.length).head?.any isWordLike)

/-- What may follow a number at once: no letter, but for the keywords that can stand between two
operands. -/
def endsNumber (text : List Char) : Bool :=
  match text with
  | 'i' :: c :: _ => c = 'f' || c = 'n' || c = 's'
  | _ =>
    ["and", "else", "for", "or", "not"].any (fun word => opensWith word.toList text)
      || !(text.head?.any isWordLike)

/-- What follows digits with single underscores between them, in a text that follows a digit. -/
def afterDigits (isDigit : Char → Bool) : List Char → Option (List Char)
  | [] => some []
  | c :: rest =>
    if isDigit c then afterDigits isDigit rest
    else if c = '_' then
      match rest with
      | d :: later => if isDigit d then afterDigits isDigit later else none
      | [] => none
    else some (c :: rest)

/-- What follows the digits after a letter that names their base. -/
def afterBased (isDigit : Char → Bool) (text : List Char) : Option (List Char) :=
  let text := if text.head? = some '_' then text.tail else text
  match text with
  | d :: rest => if isDigit d then afterDigits isDigit rest else none
  | [] => none

/-- What follows the mark of an imaginary number, if one stands here, or else this text. -/
def afterMark (text : List Char) : List Char :=
  match text with
  | 'j' :: rest | 'J' :: rest => rest
  | _ => text

/-- What follows a number whose whole and fractional digits have been read. -/
def afterMantissa (text : List Char) : Option (List Char) :=
  match text with
  | e :: rest =>
    if e = 'e' ∨ e = 'E' then
      match rest with
      | sign :: d :: later =>
        if sign = '+' ∨ sign = '-' then
          if d.isDigit then (afterDigits Char.isDigit later).map afterMark else none
        else if sign.isDigit then (afterDigits Char.isDigit (d :: later)).map afterMark
        else some text
      | [d] =>
        if d.isDigit then some [] else if d = '+' ∨ d = '-' then none else some text
      | [] => some text
    else some (afterMark text)
  | [] => some []

/-- What follows the point of a number. -/
def afterPoint (text : List Char) : Option (List Char) :=
  match text with
  | d :: rest =>
    if d.isDigit then (afterDigits Char.isDigit rest).bind afterMantissa else afterMantissa text
  | [] => some []

/-- What follows the digits at the front of a decimal number. -/
def afterWhole (text : List Char) : Option (List Char) :=
  match text with
  | '.' :: rest => afterPoint rest
  | _ => afterMantissa text

/-- What follows zeros with single underscores between them. -/
def afterZeros : List Char → Option (List Char)
  | [] => some []
  | c :: rest =>
    if c = '0' then afterZeros rest
    else if c = '_' then
      match rest with
      | d :: later =>
        if d = '0' then afterZeros later else if d.isDigit then some rest else none
      | [] => none
    else some (c :: rest)

/-- What follows a number that opens with a zero. A whole number with more digits is refused. -/
def afterZero (text : List Char) : Option (List Char) :=
  match text with
  | 'x' :: rest | 'X' :: rest => afterBased Spelling.isHexDigit rest
  | 'o' :: rest | 'O' :: rest => afterBased Spelling.isOctalDigit rest
  | 'b' :: rest | 'B' :: rest => afterBased Spelling.isBinaryDigit rest
  | _ => do
    let rest ← afterZeros text
    if rest.head?.any Char.isDigit then
      let rest ← afterDigits Char.isDigit rest
      let pointed := match rest with
        | c :: _ => c = '.' || c = 'e' || c = 'E' || c = 'j' || c = 'J'
        | [] => false
      if pointed then afterWhole rest else none
    else afterWhole rest

/-- What follows the number that opens a text, if it is well formed. -/
def afterNumber (text : List Char) : Option (List Char) := do
  let rest ← match text with
    | '0' :: rest => afterZero rest
    | '.' :: rest => afterPoint rest
    | _ :: rest => (afterDigits Char.isDigit rest).bind afterWhole
    | [] => none
  if endsNumber rest then some rest else none

/-! ### Literals -/

/-- What stands before the closing quotes, and what follows them. A backslash escapes whatever
follows it, and a literal in single quotes does not go over a line end. -/
def splitClosing (quotes : List Char) : List Char → Option (List Char × List Char)
  | [] => none
  | c :: rest =>
    if c = '\\' then
      match rest with
      | [] => none
      | d :: later => (splitClosing quotes later).map fun (body, after) => (c :: d :: body, after)
    else if quotes.isPrefixOf (c :: rest) then some ([], (c :: rest).drop quotes.length)
    else if c = '\n' ∧ quotes.length = 1 then none
    else (splitClosing quotes rest).map fun (body, after) => (c :: body, after)

/-- What a literal holds after its opening quote, and what follows the literal. -/
def splitLiteralBody (quote : Char) (text : List Char) : Option (List Char × List Char) :=
  match text with
  | b :: c :: rest =>
    if b = quote ∧ c = quote then splitClosing [quote, quote, quote] rest
    else splitClosing [quote] text
  | _ => splitClosing [quote] text

/-! ### Layout -/

/-- What the reading carries from lexeme to lexeme. -/
structure State where
  /-- The brackets that are open, innermost first. -/
  brackets : List Char
  /-- The indentations of the enclosing blocks, innermost first, each measured twice: with tabs to
  the next multiple of eight and with tabs of one column. -/
  indents : List (Nat × Nat)
  /-- A line is about to be read. -/
  fresh : Bool

/-- The reading before the first line. -/
def State.initial : State := ⟨[], [], true⟩

/-- The blocks that may be nested. -/
def maxIndents : Nat := 99

/-- The brackets that may be nested. -/
def maxBrackets : Nat := 200

/-- The width of the blanks before a line. `joinWidth` is the width before the first backslash
that joins blank lines to this one, which is what counts then. -/
structure Margin where
  width : Nat
  tabWidth : Nat
  joinWidth : Nat

/-- Reads the blanks before a line. -/
def readMargin : Margin → Position → List Char → Option (Margin × Position × List Char)
  | margin, place, [] => some (margin, place, [])
  | margin, place, c :: rest =>
    if c = ' ' then
      readMargin { margin with width := margin.width + 1, tabWidth := margin.tabWidth + 1 }
        (advance place c) rest
    else if c = '\t' then
      readMargin
        { margin with width := (margin.width / 8 + 1) * 8, tabWidth := margin.tabWidth + 1 }
        (advance place c) rest
    else if c = '\x0c' then
      readMargin { margin with width := 0, tabWidth := 0 } (advance place c) rest
    else if c = '\\' then
      match rest with
      | '\n' :: d :: later =>
        let joinWidth := if margin.joinWidth = 0 then margin.width else margin.joinWidth
        readMargin { margin with joinWidth } ⟨place.line + 1, 0⟩ (d :: later)
      | _ => none
    else some (margin, place, c :: rest)

/-- The indentation of a line in both measures. -/
def Margin.indent (margin : Margin) : Nat × Nat :=
  if margin.joinWidth = 0 then (margin.width, margin.tabWidth)
  else (margin.joinWidth, margin.joinWidth)

/-- The changes of indentation before a line, and the blocks after them. Both measures must agree
on which way a line is moved. -/
def changeIndent (place : Position) (indent : Nat × Nat) (indents : List (Nat × Nat)) :
    Option (List Lexeme × List (Nat × Nat)) :=
  let current := indents.headD (0, 0)
  if indent.1 = current.1 then if indent.2 = current.2 then some ([], indents) else none
  else if current.1 < indent.1 then
    if indent.2 ≤ current.2 ∨ maxIndents ≤ indents.length then none
    else some ([⟨.indent, ⟨place, place⟩⟩], indent :: indents)
  else
    let outer := indents.dropWhile fun block => indent.1 < block.1
    if outer.headD (0, 0) = indent then
      some (List.replicate (indents.length - outer.length) ⟨.dedent, ⟨place, place⟩⟩, outer)
    else none

/-! ### The reading -/

/-- The bracket that closes an opening one. -/
def closer (c : Char) : Char :=
  if c = '(' then ')' else if c = '[' then ']' else if c = '\x7b' then '\x7d' else c

/-- The brackets that are open after an operator. -/
def changeBrackets (op : String) (brackets : List Char) : Option (List Char) :=
  match op.toList with
  | [c] =>
    if c = '(' ∨ c = '[' ∨ c = '\x7b' then
      if maxBrackets ≤ brackets.length then none else some (c :: brackets)
    else if c = ')' ∨ c = ']' ∨ c = '\x7d' then
      match brackets with
      | open_ :: outer => if closer open_ = c then some outer else none
      | [] => none
    else some brackets
  | _ => some brackets

/-- The lexeme that opens a text: its form and what follows. The text is neither empty nor blank
at its front, and it opens with neither a comment nor a line end. -/
def readOne (text : List Char) : Option (LexemeForm × List Char) :=
  match Spelling.splitLiteral text with
  | some (letters, quote, rest) => do
    let (body, after) ← splitLiteralBody quote rest
    return (.literal letters body, after)
  | none =>
    match text with
    | [] => none
    | c :: rest =>
      if isWordLike c && !c.isDigit then
        let word := text.takeWhile isWordLike
        if word.all Text.isAscii || Text.isIdentifier word then
          some (.word word, text.dropWhile isWordLike)
        else none
      else if c.isDigit || (c = '.' && rest.head?.any Char.isDigit) then do
        let after ← afterNumber text
        return (.number (text.take (text.length - after.length)), after)
      else do
        let op ← Spelling.operators.find? (·.toList.isPrefixOf text)
        return (.op op, text.drop op.length)

/-- The lexemes of a text from `place` on. -/
def readFrom : (fuel : Nat) → State → Position → List Char → Option (List Lexeme)
  | 0, _, _, _ => none
  | fuel + 1, state, place, text =>
    if state.fresh then do
      let (margin, place, text) ← readMargin ⟨0, 0, 0⟩ place text
      let state := { state with fresh := false }
      if state.brackets ≠ [] then readFrom fuel state place text
      else if text.head? = some '#' ∨ text.head? = some '\n' then
        let comment := text.takeWhile (· ≠ '\n')
        match text.drop comment.length with
        | '\n' :: rest =>
          readFrom fuel { state with fresh := true } ⟨place.line + 1, 0⟩ rest
        | rest => readFrom fuel state (comment.foldl advance place) rest
      else
        let (changes, indents) ← changeIndent place margin.indent state.indents
        let lexemes ← readFrom fuel { state with indents } place text
        return changes ++ lexemes
    else
      match text with
      | [] => if state.brackets = [] then some [⟨.endMarker, ⟨place, place⟩⟩] else none
      | c :: rest =>
        if c = ' ' ∨ c = '\t' ∨ c = '\x0c' then readFrom fuel state (advance place c) rest
        else if c = '#' then
          let comment := text.takeWhile (· ≠ '\n')
          readFrom fuel state (comment.foldl advance place) (text.drop comment.length)
        else if c = '\n' then do
          let lexemes ← readFrom fuel { state with fresh := true } ⟨place.line + 1, 0⟩ rest
          if state.brackets = [] then return ⟨.newline, ⟨place, place⟩⟩ :: lexemes
          else return lexemes
        else if c = '\\' then
          match rest with
          | '\n' :: d :: later => readFrom fuel state ⟨place.line + 1, 0⟩ (d :: later)
          | _ => none
        else do
          let (form, after) ← readOne text
          let brackets ← match form with
            | .op op => changeBrackets op state.brackets
            | _ => some state.brackets
          let stop := (text.take (text.length - after.length)).foldl advance place
          let lexemes ← readFrom fuel { state with brackets } stop after
          return ⟨form, ⟨place, stop⟩⟩ :: lexemes

/-- A text as the reading takes it: line ends unified, and one more at the end unless the text
ends in a line feed or a carriage return of its own. After both together there is one more too. -/
def prepare (source : List Char) : List Char :=
  let text := Text.unifyLineBreaks source
  match source.reverse with
  | '\n' :: '\r' :: _ => text ++ ['\n']
  | '\n' :: _ | '\r' :: _ => text
  | _ => text ++ ['\n']

end Lexeme

/-- The lexemes of a source text, if it has some. -/
def lexemes? (source : List Char) : Option (List Lexeme) :=
  let text := Lexeme.prepare source
  Lexeme.readFrom (2 * text.length + 2) .initial ⟨1, 0⟩ text

end StructuralLint.Program
