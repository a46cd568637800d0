import StructuralLint.Position
import StructuralLint.Text.Blank
import StructuralLint.Text.Identifier
import StructuralLint.Text.Line
import StructuralLint.Text.Word
import StructuralLint.Token.Spelling

/-!
# The tolerant scan

The scan cuts any source text into raw tokens and refuses only what it cannot bring to an end: an
open literal, an open bracket or a joined line at the end of the text, and a line whose indentation
matches no enclosing block. Lines end at line feeds alone. Characters that open no token come out
as stray tokens.
-/

namespace StructuralLint

/-- What a raw token is. -/
inductive RawType where
  | name
  | number
  | string
  | op
  | newline
  | indent
  | dedent
  | endMarker
  | comment
  /-- A line end that ends no statement. -/
  | lineBreak
  /-- The mark of the encoding at the front of a byte stream. -/
  | encoding
  /-- What belongs to no other type. -/
  | stray
deriving DecidableEq, Repr

/-- A piece of source text as the scan cuts it. -/
structure RawToken where
  type : RawType
  text : List Char
  start : Position
  stop : Position
deriving DecidableEq, Repr

/-- Why a text has no token stream. -/
inductive ScanError where
  /-- The text ends inside a literal that opened at `start`. -/
  | unfinishedString (start : Position)
  /-- The text ends inside brackets or after a joined line. -/
  | unfinishedStatement (stop : Position)
  /-- A line is indented less than the block before and not as any enclosing block. -/
  | unmatchedIndent (line : Nat)
deriving DecidableEq, Repr

/-- The text of the error. -/
def ScanError.message : ScanError → String
  | unfinishedString _ => "EOF in multi-line string"
  | unfinishedStatement _ => "EOF in multi-line statement"
  | unmatchedIndent _ => "unindent does not match any outer indentation level"

namespace Scan

/-- A literal that goes on in the next line. -/
structure OpenLiteral where
  start : Position
  text : List Char
  quotes : List Char

/-- What the scan carries from line to line. -/
structure State where
  /-- Opening brackets less closing brackets. -/
  depth : Int
  /-- The line before ended in a backslash. -/
  joined : Bool
  literal : Option OpenLiteral
  /-- An open literal must be continued by a backslash in every line. -/
  needsJoin : Bool
  /-- The indentations of the enclosing blocks, innermost first. -/
  indents : List Nat

/-- The scan before the first line. -/
def State.initial : State := ⟨0, false, none, false, []⟩

/-- The indentation of the current block. -/
def State.indent (state : State) : Nat := state.indents.headD 0

/-- What was found at a place of a line. -/
inductive Found where
  | token (type : RawType) (length : Nat)
  /-- A backslash and the line end after it. -/
  | join
  /-- The beginning of a literal that takes the rest of the line. -/
  | opening (quotes : List Char) (needsJoin : Bool)

/-- A backslash before the end of the line. -/
def opensJoin : List Char → Bool
  | '\\' :: '\n' :: _ => true
  | '\\' :: '\r' :: '\n' :: _ => true
  | _ => false

/-- The literal that opens a text, if one does. -/
def findLiteral (text : List Char) : Option Found := do
  let (letters, quote, body) ← Spelling.splitLiteral text
  match body with
  | b :: c :: rest =>
    if b = quote ∧ c = quote then
      match Spelling.closing [quote, quote, quote] rest with
      | some n => return .token .string (letters.length + 3 + n)
      | none => return .opening [quote, quote, quote] false
  | _ => pure ()
  match ← Spelling.closingInLine quote body with
  | (n, .closed) => return .token .string (letters.length + 1 + n)
  | (_, .continued) => return .opening [quote] true

/-- The end of a line at the front of a text. -/
def lineEnd : List Char → Nat
  | '\n' :: _ => 1
  | '\r' :: '\n' :: _ => 2
  | _ => 0

/-- What opens a text that is neither empty nor blank at its front. -/
def find (depth : Int) (text : List Char) : Found :=
  if opensJoin text then .join
  else if text.head? = some '#' then
    .token .comment (text.takeWhile fun c => c ≠ '\r' && c ≠ '\n').length
  else match findLiteral text with
    | some found => found
    | none =>
      let number := Spelling.number text
      let ending := lineEnd text
      let op := Spelling.operator text
      let word := (text.takeWhile Text.isWordChar).length
      if number ≠ 0 then .token .number number
      else if ending ≠ 0 then .token (if 0 < depth then .lineBreak else .newline) ending
      else if op ≠ 0 then .token .op op
      else if word ≠ 0 then
        .token (if text.head?.any Text.isIdentifierStart then .name else .op) word
      else .token .stray 1

/-- The change of bracket depth by a token. -/
def depthChange : List Char → Int
  | ['('] | ['['] | ['\x7b'] => 1
  | [')'] | [']'] | ['\x7d'] => -1
  | _ => 0

/-- A blank inside a line. -/
def isInlineBlank (c : Char) : Bool := c = ' ' || c = '\t' || c = '\x0c'

/-- The tokens of the rest of a line from `column`, and the state after it. -/
def scanRest (line : Nat) : (fuel column : Nat) → List Char → State → List RawToken × State
  | 0, _, _, state => ([], state)
  | fuel + 1, column, text, state =>
    let column := column + (text.takeWhile isInlineBlank).length
    let text := text.dropWhile isInlineBlank
    if text.isEmpty then ([], state)
    else match find state.depth text with
      | .join => ([], { state with joined := true })
      | .opening quotes needsJoin =>
        ([], { state with
          literal := some ⟨⟨line, column⟩, text, quotes⟩
          needsJoin := needsJoin || state.needsJoin })
      | .token type length =>
        let token : RawToken :=
          ⟨type, text.take length, ⟨line, column⟩, ⟨line, column + length⟩⟩
        let state :=
          if type = .op then { state with depth := state.depth + depthChange token.text }
          else state
        let (tokens, state) :=
          scanRest line fuel (column + length) (text.drop length) state
        (token :: tokens, state)

/-- The indentation that blanks make: a tab goes to the next multiple of eight and a form feed
back to the margin. -/
def indentation (blanks : List Char) : Nat :=
  blanks.foldl
    (fun column c =>
      if c = ' ' then column + 1 else if c = '\t' then (column / 8 + 1) * 8 else 0)
    0

/-- Closes the blocks that are indented more than `column`, or fails if none is indented alike. -/
def closeBlocks (line column width : Nat) :
    List Nat → Except ScanError (List RawToken × List Nat)
  | [] => if column = 0 then .ok ([], []) else .error (.unmatchedIndent line)
  | indent :: outer =>
    if column < indent then do
      let (tokens, indents) ← closeBlocks line column width outer
      return (⟨.dedent, [], ⟨line, width⟩, ⟨line, width⟩⟩ :: tokens, indents)
    else if column = indent then .ok ([], indent :: outer)
    else .error (.unmatchedIndent line)

/-- A line that starts a statement, after `blanks`: the changes of indentation before it. -/
def openStatement (line : Nat) (blanks : List Char) (state : State) :
    Except ScanError (List RawToken × State) :=
  let column := indentation blanks
  let width := blanks.length
  if state.indent < column then
    .ok ([⟨.indent, blanks, ⟨line, 0⟩, ⟨line, width⟩⟩],
      { state with indents := column :: state.indents })
  else do
    let (tokens, indents) ← closeBlocks line column width state.indents
    return (tokens, { state with indents })

/-- A line without a statement: a comment, if there is one, and the line end. -/
def idleLine (line column : Nat) (rest : List Char) : List RawToken :=
  let comment :=
    if rest.head? = some '#' then
      (rest.reverse.dropWhile fun c => c = '\r' || c = '\n').reverse
    else []
  let middle := column + comment.length
  let ending : RawToken :=
    ⟨.lineBreak, rest.drop comment.length, ⟨line, middle⟩, ⟨line, column + rest.length⟩⟩
  if comment.isEmpty then [ending]
  else [⟨.comment, comment, ⟨line, column⟩, ⟨line, middle⟩⟩, ending]

/-- The tokens at the end of the text. A last line without a line end gets an empty one, unless it
holds a comment only. -/
def finish (line : Nat) (lastLine : List Char) (state : State) : List RawToken :=
  let ends := match lastLine.getLast? with
    | none => true
    | some c => c = '\r' || c = '\n'
  let newline : List RawToken :=
    if ends || (Text.trim lastLine).head? = some '#' then []
    else [⟨.newline, [], ⟨line - 1, lastLine.length⟩, ⟨line - 1, lastLine.length + 1⟩⟩]
  newline ++ state.indents.map (fun _ => ⟨.dedent, [], ⟨line, 0⟩, ⟨line, 0⟩⟩)
    ++ [⟨.endMarker, [], ⟨line, 0⟩, ⟨line, 0⟩⟩]

/-- A line that ends in a backslash before the line end. -/
def endsInJoin (line : List Char) : Bool :=
  match line.reverse with
  | '\n' :: '\\' :: _ => true
  | '\n' :: '\r' :: '\\' :: _ => true
  | _ => false

/-- The tokens of the lines from number `line` on; `lastLine` is the line before. -/
def scanLines : (line : Nat) → (lastLine : List Char) → State → List (List Char) →
    Except ScanError (List RawToken)
  | line, lastLine, state, [] =>
    match state.literal with
    | some literal => .error (.unfinishedString literal.start)
    | none =>
      if state.depth = 0 ∧ ¬state.joined then .ok (finish line lastLine state)
      else .error (.unfinishedStatement ⟨line, 0⟩)
  | line, lastLine, state, text :: later =>
    match state.literal with
    | some literal =>
      match Spelling.closing literal.quotes text with
      | some n => do
        let token : RawToken :=
          ⟨.string, literal.text ++ text.take n, literal.start, ⟨line, n⟩⟩
        let (tokens, state) := scanRest line text.length n (text.drop n)
          { state with literal := none, needsJoin := false }
        return token :: tokens ++ (← scanLines (line + 1) text state later)
      | none =>
        if state.needsJoin ∧ ¬endsInJoin text then do
          let token : RawToken :=
            ⟨.stray, literal.text ++ text, literal.start, ⟨line, text.length⟩⟩
          return token :: (← scanLines (line + 1) text { state with literal := none } later)
        else
          scanLines (line + 1) text
            { state with literal := some { literal with text := literal.text ++ text } } later
    | none =>
      if state.depth = 0 ∧ ¬state.joined then
        let blanks := text.takeWhile isInlineBlank
        let rest := text.drop blanks.length
        match rest.head? with
        | none => .ok (finish line lastLine state)
        | some c =>
          if c = '#' ∨ c = '\r' ∨ c = '\n' then do
            return idleLine line blanks.length rest ++ (← scanLines (line + 1) text state later)
          else do
            let (changes, state) ← openStatement line blanks state
            let (tokens, state) := scanRest line text.length blanks.length rest state
            return changes ++ tokens ++ (← scanLines (line + 1) text state later)
      else do
        let (tokens, state) := scanRest line text.length 0 text { state with joined := false }
        return tokens ++ (← scanLines (line + 1) text state later)

end Scan

/-- The raw tokens of a source text. -/
def scan (source : List Char) : Except ScanError (List RawToken) :=
  Scan.scanLines 1 [] .initial (Text.lines source)

end StructuralLint
