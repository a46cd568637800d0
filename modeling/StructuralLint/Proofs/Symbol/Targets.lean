import StructuralLint.Proofs.Symbol.Exact

/-!
# Where names belong

The ways outwards that an exact table goes by the numbers of scopes lead to the scopes that
`Tree.Target` and `Tree.Says` speak of. Numbers get smaller on the way, which is why the table has
gone far enough when it stops.
-/

namespace StructuralLint

namespace ScopeTable

variable {branch : Branch} {table : ScopeTable} {owners : List NodeId} {place : ScopeId}
  {scope : NodeId} {name : String}

namespace Exact

variable (exact : Exact branch table owners)
include exact

/-! ### Outwards -/

/-- The file stands in no scope. -/
theorem not_belongs_root : ¬branch.toTree.Belongs branch.toTree.root scope := by
  intro belongs
  have top : branch.toTree.parent? branch.toTree.root = none := by
    rw [Branch.root_toTree]
    exact branch.lies_whole.parent?_toTree
  have below {id : NodeId} (member : branch.toTree.root ∈ branch.toTree.children id) : False := by
    rw [Branch.parent?_of_mem_children member] at top
    cases top
  cases belongs with
  | inside member _ => exact below member
  | parameter _ _ names =>
      exact below (Branch.mem_children_of_mem_attributes exact.sound rfl names.2)
  | outside member _ _ _ => exact below member

theorem parent?_file : table.parent? 0 = none := by
  rw [parent?, exact.outermost]
  rfl

/-- The scope around a scope that is not the file. -/
theorem exists_parent (found : owners[place]? = some scope) (inner : 0 < place) :
    ∃ outer around, table.parent? place = some outer ∧ outer < place ∧
      owners[outer]? = some around ∧ branch.toTree.Belongs scope around := by
  obtain ⟨outer, around, isClass, stands, before, found', belongs, -⟩ :=
    exact.scopes place scope inner found
  exact ⟨outer, around, by rw [parent?, stands]; rfl, before, found', belongs⟩

theorem isClass_iff (found : owners[place]? = some scope) :
    table.isClass place = true ↔ branch.toTree.IsClass scope := by
  rcases Nat.eq_zero_or_pos place with rfl | inner
  · have root : scope = branch.toTree.root := Option.some.inj (found.symm.trans exact.file)
    obtain ⟨docstring, file⟩ := exact.isFile
    have form := branch.lies_whole.form?_toTree
    rw [isClass, exact.outermost, root, Tree.IsClass, Branch.root_toTree, form, file]
    simp
  · obtain ⟨outer, around, isClass', stands, -, -, -, same⟩ := exact.scopes place scope inner found
    rw [isClass, stands, ← same]
    rfl

end Exact

/-- The first scope from `current` outwards that satisfies a test, at most `fuel` scopes away. -/
def upward (table : ScopeTable) (test : ScopeId → Bool) (fuel : Nat) (current : Option ScopeId) :
    Option ScopeId :=
  match fuel, current with
  | 0, _ => none
  | _, none => none
  | fuel + 1, some scope =>
    if test scope then some scope else upward table test fuel (table.parent? scope)

/-- The scope that says what a read name is is looked for outwards. -/
theorem declaringTo_eq {from_ : ScopeId} (fuel : Nat) (current : Option ScopeId) :
    table.declaringTo from_ name fuel current =
      table.upward
        (fun scope => (scope = from_ || !table.isClass scope) && table.declares scope name)
        fuel current := by
  induction fuel generalizing current with
  | zero => rfl
  | succ fuel ih =>
      cases current with
      | none => rfl
      | some scope => rw [declaringTo, upward, ih]

theorem upward_none (test : ScopeId → Bool) (fuel : Nat) : table.upward test fuel none = none := by
  cases fuel <;> rfl

namespace Exact

variable (exact : Exact branch table owners)
include exact

/-- The way outwards leads to the nearest wanted scope. -/
theorem upward_eq_some {test : ScopeId → Bool} {wanted : NodeId → Prop}
    (found : owners[place]? = some scope)
    (agree : ∀ place' scope', place' < place → owners[place']? = some scope' →
      (test place' = true ↔ wanted scope')) {fuel : Nat} {reached : ScopeId}
    (result : table.upward test fuel (table.parent? place) = some reached) :
    reached < place ∧ ∃ target, owners[reached]? = some target ∧
      branch.toTree.Nearest wanted scope target := by
  induction fuel generalizing place scope with
  | zero =>
      unfold upward at result
      cases result
  | succ fuel ih =>
      rcases Nat.eq_zero_or_pos place with rfl | inner
      · rw [exact.parent?_file, upward_none] at result
        cases result
      · obtain ⟨outer, around, parent, before, found', belongs⟩ := exact.exists_parent found inner
        rw [parent, upward] at result
        split at result
        · rename_i passes
          cases result
          exact ⟨before, around, found', .here belongs ((agree _ around before found').mp passes)⟩
        · rename_i fails
          obtain ⟨less, target, found'', nearest⟩ := ih found'
            (fun place' scope' less => agree place' scope' (Nat.lt_trans less before)) result
          refine ⟨Nat.lt_trans less before, target, found'', .further belongs ?_ nearest⟩
          exact fun yes => fails ((agree outer around before found').mpr yes)

/-- If the way outwards leads nowhere, there is no wanted scope. -/
theorem upward_eq_none {test : ScopeId → Bool} {wanted : NodeId → Prop}
    (found : owners[place]? = some scope)
    (agree : ∀ place' scope', place' < place → owners[place']? = some scope' →
      (test place' = true ↔ wanted scope')) {fuel : Nat} (enough : place ≤ fuel)
    (result : table.upward test fuel (table.parent? place) = none) (target : NodeId) :
    ¬branch.toTree.Nearest wanted scope target := by
  induction fuel generalizing place scope with
  | zero =>
      have root : place = 0 := Nat.le_zero.mp enough
      subst root
      have same : scope = branch.toTree.root := Option.some.inj (found.symm.trans exact.file)
      rw [same]
      rintro (⟨belongs, -⟩ | ⟨belongs, -, -⟩) <;> exact exact.not_belongs_root belongs
  | succ fuel ih =>
      rcases Nat.eq_zero_or_pos place with rfl | inner
      · have same : scope = branch.toTree.root := Option.some.inj (found.symm.trans exact.file)
        rw [same]
        rintro (⟨belongs, -⟩ | ⟨belongs, -, -⟩) <;> exact exact.not_belongs_root belongs
      · obtain ⟨outer, around, parent, before, found', belongs⟩ := exact.exists_parent found inner
        rw [parent, upward] at result
        split at result
        · cases result
        · rename_i fails
          rintro (⟨belongs', yes⟩ | ⟨belongs', -, later⟩)
          · rw [belongs'.unique exact.sound belongs] at yes
            exact fails ((agree outer around before found').mpr yes)
          · rw [belongs'.unique exact.sound belongs] at later
            refine ih found' (fun place' scope' less => agree place' scope'
              (Nat.lt_trans less before))
              ?_ result later
            exact Nat.le_of_lt_succ (Nat.lt_of_lt_of_le before enough)

/-! ### Targets -/

theorem nearestDeclaring_eq (fuel : Nat) (current : Option ScopeId) :
    table.nearestDeclaring name fuel current =
      table.upward
        (fun scope => scope ≠ fileScope && (!table.isClass scope && table.declares scope name))
        fuel current := by
  induction fuel generalizing current with
  | zero => rfl
  | succ fuel ih =>
      cases current with
      | none => rfl
      | some scope =>
          rw [nearestDeclaring, upward, ih]
          by_cases file : scope = fileScope
          · subst file
            rw [if_pos rfl, fileScope, exact.parent?_file, upward_none]
            rfl
          · simp [file]

theorem informs_iff (found : owners[place]? = some scope) :
    (!table.isClass place && table.declares place name) = true ↔
      branch.toTree.Informs name scope := by
  rw [Tree.Informs, Bool.and_eq_true, Bool.not_eq_true', exact.declares_iff found,
    ← exact.isClass_iff found, Bool.not_eq_true]

/-- The scopes that a nonlocal declaration may refer to, by their numbers. -/
theorem offers_iff (found : owners[place]? = some scope) :
    (place ≠ fileScope && (!table.isClass place && table.declares place name)) = true ↔
      branch.toTree.Offers name scope := by
  have same : place = fileScope ↔ scope = branch.toTree.root := by
    constructor
    · rintro rfl
      exact Option.some.inj (found.symm.trans exact.file)
    · rintro rfl
      exact exact.place_unique found exact.file
  rw [Tree.Offers, Bool.and_eq_true, exact.informs_iff found, decide_eq_true_eq, Ne, Ne, same]

/-- **The table finds the scope that a name belongs to.** The scope that a nonlocal declaration
refers to has a smaller number, so that `depth` suffices. -/
theorem target_of_targetTo {depth : Nat} (enough : place < depth)
    (found : owners[place]? = some scope) :
    ∃ target, owners[table.targetTo name depth place]? = some target ∧
      branch.toTree.Target name scope target := by
  induction depth generalizing place scope with
  | zero => exact absurd enough (Nat.not_lt_zero place)
  | succ depth ih =>
      unfold targetTo
      by_cases isGlobal : table.declaresGlobal place name = true
      · rw [if_pos isGlobal]
        exact ⟨_, exact.file, .file ((exact.declaresGlobal_iff found).mp isGlobal)⟩
      have noGlobal : ¬branch.toTree.DeclaresAs true scope name :=
        fun declared => isGlobal ((exact.declaresGlobal_iff found).mpr declared)
      rw [if_neg isGlobal]
      by_cases isNonlocal : table.declaresNonlocal place name = true
      · rw [if_pos isNonlocal, exact.nearestDeclaring_eq]
        have declared := (exact.declaresNonlocal_iff found).mp isNonlocal
        have agree := fun place' scope' (_ : place' < place)
            (found' : owners[place']? = some scope') =>
          (exact.offers_iff found' : _ ↔ branch.toTree.Offers name scope')
        cases result : table.upward _ place (table.parent? place) with
        | none =>
            exact ⟨scope, found, .nowhere noGlobal declared
              (exact.upward_eq_none found agree (Nat.le_refl _) result)⟩
        | some enclosing =>
            obtain ⟨before, around, found', nearest⟩ := exact.upward_eq_some found agree result
            obtain ⟨target, last, leads⟩ :=
              ih (Nat.lt_of_lt_of_le before (Nat.le_of_lt_succ enough)) found'
            exact ⟨target, last, .around noGlobal declared nearest leads⟩
      · rw [if_neg isNonlocal]
        exact ⟨scope, found, .own noGlobal fun declared =>
          isNonlocal ((exact.declaresNonlocal_iff found).mpr declared)⟩

theorem exists_target (name : String) (found : owners[place]? = some scope) :
    ∃ target, owners[table.target place name]? = some target ∧
      branch.toTree.Target name scope target :=
  exact.target_of_targetTo (Nat.lt_succ_self place) found

/-- The number of a target is the one that the table finds. -/
theorem getElem?_target (found : owners[place]? = some scope) {target : NodeId}
    (leads : branch.toTree.Target name scope target) :
    owners[table.target place name]? = some target := by
  obtain ⟨target', found', leads'⟩ := exact.exists_target name found
  rw [found', leads'.unique exact.sound leads]

/-! ### Reads -/

/-- The scopes around a scope that say what a name read there is, by their numbers. -/
theorem told_iff (name : String) (place' : ScopeId) (scope' : NodeId) (less : place' < place)
    (found : owners[place']? = some scope') :
    ((place' = place || !table.isClass place') && table.declares place' name) = true ↔
      branch.toTree.Informs name scope' := by
  rw [← exact.informs_iff found, decide_eq_false (Nat.ne_of_lt less), Bool.false_or]

/-- The table finds the scope that says what a read name is. -/
theorem says_of_declaring? {saying : ScopeId} (found : owners[place]? = some scope)
    (result : table.declaring? place name = some saying) :
    ∃ target, owners[saying]? = some target ∧ branch.toTree.Says name scope target := by
  rw [declaring?, declaringTo_eq, upward] at result
  simp only [decide_true, Bool.true_or, Bool.true_and] at result
  split at result
  · rename_i declares
    cases result
    exact ⟨scope, found, .inl ⟨(exact.declares_iff found).mp declares, rfl⟩⟩
  · rename_i silent
    obtain ⟨-, target, found', nearest⟩ := exact.upward_eq_some found
      (exact.told_iff name)
      result
    exact ⟨target, found', .inr ⟨fun declares => silent ((exact.declares_iff found).mpr declares),
      nearest⟩⟩

/-- If the table finds no scope, none says what the read name is. -/
theorem not_says_of_declaring? (found : owners[place]? = some scope)
    (result : table.declaring? place name = none) (saying : NodeId) :
    ¬branch.toTree.Says name scope saying := by
  rw [declaring?, declaringTo_eq, upward] at result
  simp only [decide_true, Bool.true_or, Bool.true_and] at result
  split at result
  · cases result
  · rename_i silent
    have nowhere := exact.upward_eq_none found
      (exact.told_iff name)
      (Nat.le_refl _) result
    rintro (⟨declares, -⟩ | ⟨-, nearest⟩)
    · exact silent ((exact.declares_iff found).mpr declares)
    · exact nowhere saying nearest

end Exact

end ScopeTable

end StructuralLint
