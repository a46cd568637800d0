import StructuralLint.Grammar.StringLiteral

/-!
# Strings with expressions in them

In a literal with the letter `f`, braces enclose an expression, optionally followed by an equals
sign, a conversion and a format, which may hold braces once more. Doubled braces stand for one.
Only whether such a literal is well formed matters here: the expressions are not looked into any
further.
-/

namespace StructuralLint.Grammar.Interpolation

/-- The text before the next expression, before the end, or up to a doubled brace. -/
structure Stretch where
  literal : List Char
  rest : List Char
  /-- The text goes on: a doubled brace has been passed. -/
  goesOn : Bool

/-- A stretch that is longer at its front. -/
def Stretch.prepend (text : List Char) (stretch : Stretch) : Stretch :=
  { stretch with literal := text ++ stretch.literal }

/-- Splits off the text before the next expression. At the top level, outside of formats, doubled
braces stand for one and a closing brace alone is refused. A character named in braces after `\N`
opens no expression. -/
def splitStretch (raw top : Bool) : (fuel : Nat) → List Char → Option Stretch
  | 0, text => some ⟨[], text, false⟩
  | _, [] => some ⟨[], [], false⟩
  | fuel + 1, c :: rest =>
    if c = '\\' ∧ ¬raw then
      match rest with
      | [] => some ⟨['\\'], [], false⟩
      | d :: later =>
        if d = 'N' then
          match later with
          | '\x7b' :: named =>
            let letters := named.takeWhile (· ≠ '\x7d')
            let after := named.drop letters.length
            (splitStretch raw top fuel after.tail).map
              (·.prepend ('\\' :: 'N' :: '\x7b' :: letters ++ after.take 1))
          | e :: after => (splitStretch raw top fuel after).map (·.prepend ['\\', 'N', e])
          | [] => some ⟨['\\', 'N'], [], false⟩
        else if d = '\x7b' ∨ d = '\x7d' then
          (splitStretch raw top fuel rest).map (·.prepend ['\\'])
        else (splitStretch raw top fuel later).map (·.prepend ['\\', d])
    else if c = '\x7b' ∨ c = '\x7d' then
      if top then
        if rest.head? = some c then some ⟨[c], rest.tail, true⟩
        else if c = '\x7d' then none
        else some ⟨[], c :: rest, false⟩
      else some ⟨[], c :: rest, false⟩
    else (splitStretch raw top fuel rest).map (·.prepend [c])

/-- A string inside an expression: its quote, and whether it opened with three of them. -/
structure Inside where
  quote : Char
  triple : Bool

/-- The brackets that an expression may nest. -/
def maxBrackets : Nat := 200

/-- Whether a bracket closes another one. -/
def closes (opening closing : Char) : Bool :=
  (opening = '(' && closing = ')') || (opening = '[' && closing = ']')
    || (opening = '\x7b' && closing = '\x7d')

/-- The text of an expression, and what follows it from the character that ends it: an exclamation
mark, a colon, an equals sign or a closing brace outside of all brackets, not part of a comparison.
Backslashes and comment signs are refused. -/
def splitExpr : (fuel : Nat) → Option Inside → (brackets : List Char) → List Char →
    Option (List Char × List Char)
  | 0, _, _, _ => none
  | _, _, _, [] => none
  | fuel + 1, inside, brackets, c :: rest =>
    let goOn (taken : Nat) (inside : Option Inside) (brackets : List Char) :=
      (splitExpr fuel inside brackets (rest.drop taken)).map fun (text, after) =>
        (c :: rest.take taken ++ text, after)
    let tripled : Bool := rest.take 2 = [c, c]
    if c = '\\' then none
    else match inside with
    | some ⟨quote, triple⟩ =>
      if c ≠ quote then goOn 0 inside brackets
      else if ¬triple then goOn 0 none brackets
      else if tripled then goOn 2 none brackets
      else goOn 0 inside brackets
    | none =>
      if Spelling.isQuote c then
        if tripled then goOn 2 (some ⟨c, true⟩) brackets else goOn 0 (some ⟨c, false⟩) brackets
      else if c = '(' ∨ c = '[' ∨ c = '\x7b' then
        if maxBrackets ≤ brackets.length then none else goOn 0 none (c :: brackets)
      else if c = '#' then none
      else if brackets = [] ∧ (c = '!' ∨ c = '=' ∨ c = '<' ∨ c = '>') ∧ rest.head? = some '=' then
        goOn 1 none brackets
      else if brackets = [] ∧ (c = '!' ∨ c = ':' ∨ c = '=' ∨ c = '\x7d') then some ([], c :: rest)
      else if c = ')' ∨ c = ']' ∨ c = '\x7d' then
        match brackets with
        | [] => none
        | opening :: outer => if closes opening c then goOn 0 none outer else none
      else goOn 0 none brackets

/-- A blank that an expression may consist of no more than. -/
def isExprBlank (c : Char) : Bool := c = ' ' || c = '\t' || c = '\n' || c = '\x0c'

/-- What follows an equals sign after an expression and the blanks after it, if one stands here. -/
def skipEquals (text : List Char) : List Char :=
  match text with
  | '=' :: rest => rest.dropWhile fun c => c = ' ' || ('\t' ≤ c && c ≤ '\r')
  | _ => text

/-- What follows a conversion, if one stands here. A conversion is one of three letters. -/
def skipConversion (text : List Char) : Option (List Char) :=
  match text with
  | '!' :: c :: rest => if c = 's' ∨ c = 'r' ∨ c = 'a' then some rest else none
  | ['!'] => none
  | _ => some text

/-- What follows the text of a literal, or of a format inside it (`level` one or two), which ends
before a closing brace. `isExpr` tells whether a text is an expression. -/
def skipPieces (isExpr : List Char → Bool) (raw : Bool) :
    (fuel level : Nat) → List Char → Option (List Char)
  | 0, _, _ => none
  | fuel + 1, level, text => do
    let stretch ← splitStretch raw (level = 0) text.length text
    unless raw || (StringLiteral.unescape false stretch.literal).isSome do none
    if stretch.goesOn then skipPieces isExpr raw fuel level stretch.rest
    else match stretch.rest with
      | [] => if level = 0 then some [] else none
      | '\x7b' :: opened =>
        if 2 ≤ level then none
        else do
          let (expr, after) ← splitExpr (opened.length + 1) none [] opened
          if expr.all isExprBlank || !isExpr expr then none
          else
            let after ← skipConversion (skipEquals after)
            let after ← match after with
              | ':' :: format => skipPieces isExpr raw fuel (level + 1) format
              | _ => some after
            match after with
            | '\x7d' :: rest => skipPieces isExpr raw fuel level rest
            | _ => none
      | closed => some closed

/-- Whether the text of a literal with expressions is well formed. -/
def isWellFormed (isExpr : List Char → Bool) (raw : Bool) (body : List Char) : Bool :=
  skipPieces isExpr raw (body.length + 1) 0 body = some []

end StructuralLint.Grammar.Interpolation
