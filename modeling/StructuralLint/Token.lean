import StructuralLint.Position

/-!
# Tokens

A token is a piece of source text with its place, its number in the token stream of its file and
the comments that stand between it and the token before.
-/

namespace StructuralLint

/-- What a token is. -/
inductive TokenType where
  | name
  | keyword
  | number
  | string
  | op
  | newline
  | indent
  | dedent
  | endMarker
  /-- A character or a broken literal that belongs to no other type. -/
  | other
deriving DecidableEq, Repr, Inhabited

/-- The name of a token type in reports. -/
def TokenType.label : TokenType → String
  | name => "name"
  | keyword => "keyword"
  | number => "number"
  | string => "string"
  | op => "op"
  | newline => "newline"
  | indent => "indent"
  | dedent => "dedent"
  | endMarker => "endmarker"
  | other => "other"

/-- Line ends and changes of indentation carry layout only. -/
def TokenType.isLayout : TokenType → Bool
  | newline | indent | dedent => true
  | _ => false

/-- A piece of source text. -/
@[ext]
structure Token where
  type : TokenType
  value : String
  start : Position
  stop : Position
  /-- The number of the token in its stream. -/
  index : Nat
  /-- The comments before the token, each with its sign. -/
  trivia : List String
deriving Repr, Inhabited

instance : DecidableEq Token := fun left right =>
  decidable_of_iff (left.type = right.type ∧ left.value = right.value ∧ left.start = right.start ∧
    left.stop = right.stop ∧ left.index = right.index ∧ left.trivia = right.trivia)
    Token.ext_iff.symm

/-- A token that covers no character. -/
def Token.isEmpty (token : Token) : Bool := token.start == token.stop

/-- The words that are reserved and can name nothing. -/
def keywords : List String :=
  ["False", "None", "True", "and", "as", "assert", "async", "await", "break", "class", "continue",
    "def", "del", "elif", "else", "except", "finally", "for", "from", "global", "if", "import",
    "in", "is", "lambda", "nonlocal", "not", "or", "pass", "raise", "return", "try", "while",
    "with", "yield"]

end StructuralLint
