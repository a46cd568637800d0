import StructuralLint.Program.Lexeme
import StructuralLint.Program.Stmt
import StructuralLint.Text.NormalForm
import StructuralLint.Token

/-!
# Readers

A reader takes lexemes from the front of a list and fails or gives a result. It also knows where
the last lexeme with text ended, which is where the expressions and statements that it reads end.
The grammar is deterministic: one lexeme, in a few places two, tells what comes next.
-/

namespace StructuralLint.Grammar

open Program

/-- Where a reader stands. -/
structure Cursor where
  rest : List Lexeme
  /-- The end of the last lexeme with text. -/
  last : Position

/-- A reader of lexemes. -/
abbrev Reader := StateT Cursor Option

/-- Lexemes that mark layout carry no text. -/
def carriesText : LexemeForm → Bool
  | .newline | .indent | .dedent | .endMarker => false
  | _ => true

/-- The next lexeme, left in place. -/
def peek : Reader LexemeForm := do
  match (← get).rest with
  | lexeme :: _ => return lexeme.form
  | [] => failure

/-- The lexeme after the next one, left in place. -/
def peekSecond : Reader LexemeForm := do
  match (← get).rest with
  | _ :: lexeme :: _ => return lexeme.form
  | _ => failure

/-- The start of the next lexeme. -/
def here : Reader Position := do
  match (← get).rest with
  | lexeme :: _ => return lexeme.span.start
  | [] => failure

/-- The span from `start` to the end of what was read last. -/
def spanFrom (start : Position) : Reader Span := return ⟨start, (← get).last⟩

/-- Takes the next lexeme. -/
def take : Reader LexemeForm := do
  match (← get).rest with
  | lexeme :: rest =>
    modify fun cursor => ⟨rest, if carriesText lexeme.form then lexeme.span.stop else cursor.last⟩
    return lexeme.form
  | [] => failure

/-- A keyword as a lexeme. -/
def keyword (word : String) : LexemeForm := .word word.toList

/-- Whether the next lexeme is this one. -/
def sees (form : LexemeForm) : Reader Bool := return (← peek) == form

/-- Whether the next lexeme is this operator. -/
def seesOp (op : String) : Reader Bool := sees (.op op)

/-- Whether the next lexeme is this word. -/
def seesWord (word : String) : Reader Bool := sees (keyword word)

/-- Takes the next lexeme if it is this one. -/
def accept (form : LexemeForm) : Reader Bool := do
  if ← sees form then
    let _ ← take
    return true
  else return false

/-- Takes the next lexeme if it is this operator. -/
def acceptOp (op : String) : Reader Bool := accept (.op op)

/-- Takes the next lexeme if it is this word. -/
def acceptWord (word : String) : Reader Bool := accept (keyword word)

/-- Takes the next lexeme, which must be this one. -/
def expect (form : LexemeForm) : Reader Unit := do
  unless ← accept form do failure

/-- Takes the next lexeme, which must be this operator. -/
def expectOp (op : String) : Reader Unit := expect (.op op)

/-- Takes the next lexeme, which must be this word. -/
def expectWord (word : String) : Reader Unit := expect (keyword word)

/-- A word that can name nothing. -/
def isReserved (word : List Char) : Bool := keywords.contains (String.ofList word)

/-- A word that can be a name. -/
def isName : LexemeForm → Bool
  | .word text => !isReserved text
  | _ => false

/-- Takes a name. Names that differ in spelling only have one normal form. -/
def name : Reader String := do
  match ← take with
  | .word text => if isReserved text then failure else return String.ofList (Text.normalForm text)
  | _ => failure

/-- The results of a reader that is run until it gives none, at most `fuel` times. -/
def manyUpTo {α : Type} (item : Reader (Option α)) : (fuel : Nat) → Reader (List α)
  | 0 => return []
  | fuel + 1 => do
    match ← item with
    | none => return []
    | some value => return value :: (← manyUpTo item fuel)

/-- The results of a reader that is run until it gives none. Each result takes a lexeme. -/
def many {α : Type} (item : Reader (Option α)) : Reader (List α) := do
  manyUpTo item (← get).rest.length

/-- Extends a value step by step, at most `fuel` times. -/
def extendUpTo {α : Type} (step : α → Reader (Option α)) : (fuel : Nat) → α → Reader α
  | 0, value => return value
  | fuel + 1, value => do
    match ← step value with
    | none => return value
    | some longer => extendUpTo step fuel longer

/-- Extends a value until the step gives none. Each step takes a lexeme. -/
def extend {α : Type} (value : α) (step : α → Reader (Option α)) : Reader α := do
  extendUpTo step (← get).rest.length value

/-- What follows the first item of a list: further items after commas, and whether the list ends in
a comma. `opens` tells whether the next lexeme can open an item. -/
def commaTailUpTo {α : Type} (opens : Reader Bool) (item : Reader α) :
    (fuel : Nat) → Reader (List α × Bool)
  | 0 => return ([], false)
  | fuel + 1 => do
    if ← acceptOp "," then
      if ← opens then
        let value ← item
        let (values, trailing) ← commaTailUpTo opens item fuel
        return (value :: values, trailing)
      else return ([], true)
    else return ([], false)

/-- What follows the first item of a list. -/
def commaTail {α : Type} (opens : Reader Bool) (item : Reader α) : Reader (List α × Bool) := do
  commaTailUpTo opens item (← get).rest.length

/-- Items between commas, with no comma at the end. -/
def commaList {α : Type} (item : Reader α) : Reader (List α) := do
  let first ← item
  let rest ← many do
    if ← acceptOp "," then return some (← item) else return none
  return first :: rest

/-- Runs a reader, and takes nothing if it fails. -/
def attempt {α : Type} (reader : Reader α) : Reader (Option α) := fun cursor =>
  match reader cursor with
  | some (value, later) => some (some value, later)
  | none => some (none, cursor)

end StructuralLint.Grammar
