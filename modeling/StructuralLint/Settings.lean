import StructuralLint.Text.Integer

/-!
# Settings

How many issues a run reports can be capped, in the environment or on the command line. A cap is
written as an integer that is not negative.
-/

namespace StructuralLint

/-- Why a text is no count. -/
inductive CountError where
  | unreadable (error : Text.Integer.ReadError)
  | negative (text : List Char)
deriving DecidableEq, Repr

/-- The text of the error. -/
def CountError.message : CountError → String
  | unreadable error => error.message
  | negative text =>
    "expected a non-negative integer, got " ++ String.ofList (Text.quotedChars text)

/-- The count that a text writes. -/
def readCount (text : List Char) : Except CountError Nat :=
  match Text.Integer.read text with
  | .error error => .error (.unreadable error)
  | .ok (.ofNat count) => .ok count
  | .ok (.negSucc _) => .error (.negative text)

/-- The cap in the environment is set, but to no count. -/
structure CapError where
  value : List Char
deriving DecidableEq, Repr

/-- The variable that holds the cap. -/
def capVariable : String := "PSCE_MAX_ISSUES"

/-- The text of the error. It shows the value with its blanks. -/
def CapError.message (error : CapError) : String :=
  capVariable ++ " must be a non-negative integer, got "
    ++ String.ofList (Text.quotedChars error.value)

/-- The cap that the environment sets. A variable that is not set or blank sets none. -/
def environmentCap (setting : Option (List Char)) : Except CapError (Option Nat) :=
  match setting with
  | none => .ok none
  | some value =>
    if (Text.trim value).isEmpty then .ok none
    else match readCount (Text.trim value) with
      | .ok count => .ok (some count)
      | .error _ => .error ⟨value⟩

end StructuralLint
