import StructuralLint.Text.Line
import StructuralLint.Text.Utf8
import StructuralLint.Token

/-!
# Places in a source text

Expressions and statements say where they stand in columns of bytes, tokens in columns of
characters, and the two count lines by different conventions. `SourceText.position` goes from the
first to the second; the look-ups find the tokens that a node is made from.
-/

namespace StructuralLint

/-- A source text with its tokens. -/
structure SourceText where
  lines : Array (List Char)
  tokens : List Token

namespace SourceText

/-- A source text whose tokens are known. -/
def ofTokens (source : List Char) (tokens : List Token) : SourceText :=
  ⟨(Text.lines source).toArray, tokens⟩

variable (text : SourceText)

/-- A position by characters from one by bytes. A line that the text does not have is left as it
is. -/
def position (place : Position) : Position :=
  if 0 < place.line then
    match text.lines[place.line - 1]? with
    | some line => ⟨place.line, Text.charColumn line place.column⟩
    | none => place
  else place

/-- A span by characters from one by bytes. -/
def span (span : Span) : Span := ⟨text.position span.start, text.position span.stop⟩

/-- The tokens that do not start before a position. -/
def tokensFrom (place : Position) : List Token :=
  text.tokens.dropWhile (·.start.before place)

/-- The tokens that start in a span. -/
def tokensIn (span : Span) : List Token :=
  (text.tokensFrom span.start).takeWhile (·.start.before span.stop)

/-- The token with text that starts at a position. -/
def tokenAt (place : Position) : Option Token :=
  ((text.tokensFrom place).takeWhile (·.start = place)).find? (!·.isEmpty)

/-- The first token of a type and a text that does not start before a position. -/
def tokenAfter (type : TokenType) (place : Position) (value : String) : Option Token :=
  (text.tokensFrom place).find? fun token => token.type = type && token.value = value

/-- The first keyword of a text that starts in a span. -/
def keywordIn (span : Span) (value : String) : Option Token :=
  (text.tokensIn span).find? fun token => token.type = .keyword && token.value = value

/-- The last token that starts before a position. -/
def tokenBefore (place : Position) : Option Token :=
  (text.tokens.takeWhile (·.start.before place)).getLast?

/-- The token before another one in the stream. -/
def previous (token : Token) : Option Token :=
  if token.index = 0 then none else text.tokens[token.index - 1]?

end SourceText

end StructuralLint
