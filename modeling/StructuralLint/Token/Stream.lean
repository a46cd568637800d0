import StructuralLint.Token
import StructuralLint.Token.Scan

/-!
# Token streams

The token stream of a file keeps every raw token but comments, line ends inside statements,
encoding marks and stray blanks. A comment is not lost: it becomes trivia of the first token kept
after it.
-/

namespace StructuralLint

/-- A raw token that has no place in a token stream. -/
def RawToken.isDropped (raw : RawToken) : Bool :=
  match raw.type with
  | .lineBreak | .encoding => true
  | .stray => !raw.text.isEmpty && raw.text.all Text.isBlank
  | _ => false

/-- The type of a token in the stream. Reserved words are told from names here. -/
def RawToken.tokenType (raw : RawToken) : TokenType :=
  match raw.type with
  | .name => if keywords.contains (String.ofList raw.text) then .keyword else .name
  | .number => .number
  | .string => .string
  | .op => .op
  | .newline => .newline
  | .indent => .indent
  | .dedent => .dedent
  | .endMarker => .endMarker
  | _ => .other

namespace Token

/-- The stream from token number `index` on; `trivia` are the comments since the token before. -/
def streamFrom : (index : Nat) → (trivia : List String) → List RawToken → List Token
  | _, _, [] => []
  | index, trivia, raw :: later =>
    if raw.type = .comment then streamFrom index (trivia ++ [String.ofList raw.text]) later
    else if raw.isDropped then streamFrom index trivia later
    else
      ⟨raw.tokenType, String.ofList raw.text, raw.start, raw.stop, index, trivia⟩ ::
        streamFrom (index + 1) [] later

/-- The token stream of a sequence of raw tokens. -/
def stream (raws : List RawToken) : List Token := streamFrom 0 [] raws

end Token

/-- The token stream of a source text. -/
def lex (source : List Char) : Except ScanError (List Token) := (scan source).map Token.stream

end StructuralLint
