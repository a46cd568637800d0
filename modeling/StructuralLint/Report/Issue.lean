/-!
# Issues

An issue is a finding of one rule at one place. Issues are written one a line: the place, the rule
and the message.
-/

namespace StructuralLint

/-- A finding of a rule. -/
structure Issue where
  ruleKey : String
  filePath : String
  line : Int
  column : Int
  message : String
deriving DecidableEq, Repr

namespace Issue

/-- The place of an issue. -/
def location (issue : Issue) : String := s!"{issue.filePath}:{issue.line}:{issue.column}"

/-- The issue as it is reported. -/
def format (issue : Issue) : String := s!"{issue.location}: [{issue.ruleKey}] {issue.message}"

end Issue

end StructuralLint
