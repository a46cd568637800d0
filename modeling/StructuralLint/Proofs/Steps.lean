import StructuralLint.Analysis.File

/-!
# Steps that leave something behind

What comes of a sequence of actions that may fail and that leave a state behind, also when they
fail: of a run (`Run`) as well as of a search in version control (`Inquiry`).
-/

namespace StructuralLint.Steps

variable {σ ε α β : Type} {state state' : σ} {action : ExceptT ε (StateM σ) α}
  {next : α → ExceptT ε (StateM σ) β}

theorem run_pure (value : α) :
    (pure value : ExceptT ε (StateM σ) α).run.run state = (.ok value, state) := rfl

theorem run_throw (error : ε) :
    (throw error : ExceptT ε (StateM σ) α).run.run state = (.error error, state) := rfl

theorem run_bind_of_ok {value : α} (first : action.run.run state = (.ok value, state')) :
    (action >>= next).run.run state = (next value).run.run state' := by
  rw [ExceptT.run_bind, StateT.run_bind, first]
  rfl

theorem run_bind_of_error {error : ε} (first : action.run.run state = (.error error, state')) :
    (action >>= next).run.run state = (.error error, state') := by
  rw [ExceptT.run_bind, StateT.run_bind, first]
  rfl

/-- What is made of the value of an action leaves the state alone. -/
theorem run_bind_pure {result : Except ε α} (first : action.run.run state = (result, state'))
    (make : α → β) : (action >>= fun value => pure (make value)).run.run state =
      (result.map make, state') := by
  cases result with
  | ok value => exact run_bind_of_ok first
  | error error => exact run_bind_of_error first

end StructuralLint.Steps
