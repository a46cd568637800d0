import StructuralLint.Grammar.Expression

/-!
# Reading patterns

The patterns of `match` statements. A name alone captures, the underscore ignores, and a name with
a dot or a parenthesis after it is looked up. `patternOfDepth` bounds how deep patterns nest.
-/

namespace StructuralLint.Grammar

open Program

/-- What may not follow a name that captures. -/
def followsLookup : LexemeForm → Bool
  | .op op => [".", "(", "="].contains op
  | _ => false

/-- Whether a pattern, possibly starred, can open with this lexeme. -/
def opensPattern : LexemeForm → Bool
  | .word text =>
    !isReserved text || ["None", "True", "False"].contains (String.ofList text)
  | .number _ | .literal _ _ => true
  | .op op => ["(", "[", "\x7b", "-", "*"].contains op
  | _ => false

/-- Whether the next lexeme can open a pattern. -/
def seesPattern : Reader Bool := return opensPattern (← peek)

/-- A name that captures. -/
def captured : Reader String := do
  if ← seesWord "_" then failure
  let id ← name
  if followsLookup (← peek) then failure
  return id

/-- A number, and whether it is imaginary. -/
def numberLiteral : Reader (Expr × Bool) := do
  let start ← here
  match ← take with
  | .number text =>
    if isTooLong text then failure
    let imaginary := text.getLast?.any fun c => c = 'j' || c = 'J'
    return (.literal (← spanFrom start), imaginary)
  | _ => failure

/-- A number with a sign, or a real number and an imaginary one. -/
def numericValue : Reader Expr := do
  let start ← here
  let negative ← acceptOp "-"
  let (magnitude, imaginary) ← numberLiteral
  let first ← if negative then compound start .unary [magnitude] else pure magnitude
  if (← seesOp "+") || (← seesOp "-") then
    if imaginary then failure
    let _ ← take
    let (second, imaginary) ← numberLiteral
    if !imaginary then failure
    compound start .binary [first, second]
  else return first

/-- A name with members after it. -/
def lookup : Reader Expr := do
  let start ← here
  let first ← nameExpr .load
  extend first fun object => do
    if ← acceptOp "." then
      let label ← name
      return some (.member (← spanFrom start) object label)
    else return none

/-- A key of a mapping pattern: a literal or a name with members. -/
def mappingKey (inner : Inner) : Reader Expr := do
  let start ← here
  match ← peek with
  | .number _ | .op "-" => numericValue
  | .literal _ _ => strings inner
  | .word text =>
    if ["None", "True", "False"].contains (String.ofList text) then
      let _ ← take
      return .literal (← spanFrom start)
    else
      match ← lookup with
      | .member span object label => return .member span object label
      | _ => failure
  | _ => failure

/-- A pattern of a sequence, which a star may open. -/
def sequenceItem (nested : Reader Pattern) : Reader Pattern := do
  let start ← here
  if ← acceptOp "*" then
    if ← acceptWord "_" then return .star (← spanFrom start) none
    else
      let id ← captured
      return .star (← spanFrom start) (some id)
  else nested

/-- A pattern that only a sequence may hold. -/
def isStarPattern : Pattern → Bool
  | .star _ _ => true
  | _ => false

/-- What stands in parentheses: a pattern that is only grouped, or a sequence. -/
def parenthesizedPattern (nested : Reader Pattern) : Reader Pattern := do
  let start ← here
  expectOp "("
  if ← acceptOp ")" then return .sequence (← spanFrom start) []
  else
    let first ← sequenceItem nested
    if ← seesOp "," then
      let (rest, _) ← commaTail seesPattern (sequenceItem nested)
      expectOp ")"
      return .sequence (← spanFrom start) (first :: rest)
    else
      expectOp ")"
      if isStarPattern first then failure
      return first

/-- A sequence in square brackets. -/
def listPattern (nested : Reader Pattern) : Reader Pattern := do
  let start ← here
  expectOp "["
  if ← acceptOp "]" then return .sequence (← spanFrom start) []
  else
    let first ← sequenceItem nested
    let (rest, _) ← commaTail seesPattern (sequenceItem nested)
    expectOp "]"
    return .sequence (← spanFrom start) (first :: rest)

/-- The entries of a mapping pattern up to the closing brace, and the name of the rest, which comes
last. -/
def mappingEntriesUpTo (inner : Inner) (nested : Reader Pattern) :
    (fuel : Nat) → Reader (List (Expr × Pattern) × Option String)
  | 0 => failure
  | fuel + 1 => do
    if ← acceptOp "\x7d" then return ([], none)
    else if ← acceptOp "**" then
      let id ← captured
      let _ ← acceptOp ","
      expectOp "\x7d"
      return ([], some id)
    else
      let key ← mappingKey inner
      expectOp ":"
      let value ← nested
      if ← acceptOp "," then
        let (entries, rest) ← mappingEntriesUpTo inner nested fuel
        return ((key, value) :: entries, rest)
      else
        expectOp "\x7d"
        return ([(key, value)], none)

/-- A mapping in braces. -/
def mappingPattern (inner : Inner) (nested : Reader Pattern) : Reader Pattern := do
  let start ← here
  expectOp "\x7b"
  let (entries, rest) ← mappingEntriesUpTo inner nested (← get).rest.length
  return .mapping (← spanFrom start) (entries.map (·.1)) (entries.map (·.2)) rest

/-- A pattern for an attribute, or one by position while those may still come. -/
def instanceItem (nested : Reader Pattern) (byPosition : Bool) :
    Reader (Option String × Pattern) := do
  if isName (← peek) && (← peekSecond) == .op "=" then
    let label ← name
    expectOp "="
    return (some label, ← nested)
  else if byPosition then return (none, ← nested)
  else failure

/-- The patterns for an instance up to the closing parenthesis. -/
def instanceItemsUpTo (nested : Reader Pattern) :
    (fuel : Nat) → (byPosition : Bool) → Reader (List (Option String × Pattern))
  | 0, _ => failure
  | fuel + 1, byPosition => do
    if ← acceptOp ")" then return []
    else
      let item ← instanceItem nested byPosition
      if ← acceptOp "," then
        return item :: (← instanceItemsUpTo nested fuel (byPosition && item.1.isNone))
      else
        expectOp ")"
        return [item]

/-- What opens with a name that is looked up: a value or the instances of a class. -/
def lookupPattern (nested : Reader Pattern) : Reader Pattern := do
  let start ← here
  let type ← lookup
  if ← acceptOp "(" then
    let items ← instanceItemsUpTo nested (← get).rest.length true
    let span ← spanFrom start
    return .instances span type ((items.filter (·.1.isNone)).map (·.2))
      (items.filterMap (·.1)) ((items.filter (·.1.isSome)).map (·.2))
  else if followsLookup (← peek) then failure
  else
    match type with
    | .member .. => return .value (← spanFrom start) type
    | _ => failure

/-- A pattern that nothing can split. -/
def closedPattern (inner : Inner) (nested : Reader Pattern) : Reader Pattern := do
  let start ← here
  match ← peek with
  | .number _ | .op "-" =>
    let value ← numericValue
    return .value (← spanFrom start) value
  | .literal _ _ =>
    let value ← strings inner
    return .value (← spanFrom start) value
  | .word text =>
    if ["None", "True", "False"].contains (String.ofList text) then
      let _ ← take
      return .singleton (← spanFrom start)
    else if ← acceptWord "_" then return .capture (← spanFrom start) none
    else if followsLookup (← peekSecond) then lookupPattern nested
    else
      let id ← name
      return .capture (← spanFrom start) (some id)
  | .op "(" => parenthesizedPattern nested
  | .op "[" => listPattern nested
  | .op "\x7b" => mappingPattern inner nested
  | _ => failure

/-- A pattern: alternatives, possibly captured under a name. -/
def pattern (inner : Inner) (nested : Reader Pattern) : Reader Pattern := do
  let start ← here
  let first ← closedPattern inner nested
  let rest ← many do
    if ← acceptOp "|" then return some (← closedPattern inner nested) else return none
  let whole ←
    if rest.isEmpty then pure first
    else pure (.alternatives (← spanFrom start) (first :: rest))
  if ← acceptWord "as" then
    let id ← captured
    return .named (← spanFrom start) whole id
  else return whole

/-- A reader for patterns that nest at most `depth` deep. -/
def patternOfDepth (inner : Inner) : (depth : Nat) → Reader Pattern
  | 0 => failure
  | depth + 1 => pattern inner (patternOfDepth inner depth)

/-- What follows `case`: a pattern, or a sequence without brackets. -/
def casePattern (nested : Reader Pattern) : Reader Pattern := do
  let start ← here
  let first ← sequenceItem nested
  if ← seesOp "," then
    let (rest, _) ← commaTail seesPattern (sequenceItem nested)
    return .sequence (← spanFrom start) (first :: rest)
  else if isStarPattern first then failure
  else return first

end StructuralLint.Grammar
