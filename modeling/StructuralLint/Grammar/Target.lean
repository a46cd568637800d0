import StructuralLint.Program.Expr

/-!
# Targets

What can be assigned to and deleted is read as an expression first and then turned into a target,
or refused. Names, members and subscriptions are targets; so are tuples and lists of targets, where
a starred target may stand if something is assigned.
-/

namespace StructuralLint.Program.Expr

mutual

/-- The expression as a target of an assignment. -/
def stored : Expr → Option Expr
  | .name span id _ => some (.name span id .store)
  | .member span object label => some (.member span object label)
  | .compound span form parts =>
    match form with
    | .subscription => some (.compound span form parts)
    | .tuple | .list | .starred => (storedAll parts).map (.compound span form)
    | _ => none
  | _ => none

/-- All of the expressions as targets of an assignment. -/
def storedAll : List Expr → Option (List Expr)
  | [] => some []
  | expr :: rest =>
    match stored expr, storedAll rest with
    | some target, some targets => some (target :: targets)
    | _, _ => none

end

mutual

/-- The expression as a target of a deletion. -/
def deleted : Expr → Option Expr
  | .name span id _ => some (.name span id .delete)
  | .member span object label => some (.member span object label)
  | .compound span form parts =>
    match form with
    | .subscription => some (.compound span form parts)
    | .tuple | .list => (deletedAll parts).map (.compound span form)
    | _ => none
  | _ => none

/-- All of the expressions as targets of a deletion. -/
def deletedAll : List Expr → Option (List Expr)
  | [] => some []
  | expr :: rest =>
    match deleted expr, deletedAll rest with
    | some target, some targets => some (target :: targets)
    | _, _ => none

end

/-- The expression as the one target of an annotated or compound assignment. -/
def storedAlone : Expr → Option Expr
  | .name span id _ => some (.name span id .store)
  | .member span object label => some (.member span object label)
  | .compound span .subscription parts => some (.compound span .subscription parts)
  | _ => none

/-- An expression with a star before it. -/
def isStarred : Expr → Bool
  | .compound _ .starred _ => true
  | _ => false

end StructuralLint.Program.Expr
