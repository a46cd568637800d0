import StructuralLint.Report.Issue

/-!
# The gate

What is found becomes what is reported in three steps: of several issues of one rule at one place
the first is kept, the rest is put in order of file, line, column and rule, and the report is cut
off at a cap, if there is one.
-/

namespace StructuralLint.Gate

/-- The rule and the place of an issue. Issues with equal keys are one finding, whatever their
messages say. -/
structure Key where
  ruleKey : String
  filePath : String
  line : Int
  column : Int
deriving DecidableEq, Repr

/-- The key of an issue. -/
def key (issue : Issue) : Key := ⟨issue.ruleKey, issue.filePath, issue.line, issue.column⟩

/-- The issues whose key no issue before them has. `seen` are the keys of those before. -/
def dedupFrom (seen : List Key) : List Issue → List Issue
  | [] => []
  | issue :: rest =>
    if seen.contains (key issue) then dedupFrom seen rest
    else issue :: dedupFrom (key issue :: seen) rest

/-- The first issue of every key. -/
def dedup (issues : List Issue) : List Issue := dedupFrom [] issues

/-- The order of reports: by file, then line, then column, then rule. -/
def precedes (a b : Issue) : Bool :=
  if a.filePath ≠ b.filePath then a.filePath < b.filePath
  else if a.line ≠ b.line then a.line < b.line
  else if a.column ≠ b.column then a.column < b.column
  else !(b.ruleKey < a.ruleKey)

/-- Issues in the order of reports. -/
def rank (issues : List Issue) : List Issue := issues.mergeSort precedes

/-- The issues up to a cap. A negative cap counts from the end. -/
def cap (limit : Option Int) (issues : List Issue) : List Issue :=
  match limit with
  | none => issues
  | some limit =>
    issues.take (if limit < 0 then (issues.length + limit).toNat else limit.toNat)

end Gate

/-- What is reported of what was found. -/
def gate (issues : List Issue) (limit : Option Int) : List Issue :=
  Gate.cap limit (Gate.rank (Gate.dedup issues))

end StructuralLint
