import StructuralLint.Proofs.Check.Enclosure

/-!
# Raises on the way down

`BareRaise.foundInAll` goes down through the statements of a program and carries what encloses
them. `BareRaise.imagesInAll` goes through the statements and the branches made from them side by
side and gives the node of every `raise`, in the same order. No `raise` of the tree is missed and
none is met twice (`BareRaise.imagesIn_perm`), and what the descent to a `raise` has collected is
what the nodes above its image say (`BareRaise.described_foundIn`).
-/

namespace StructuralLint

open Program

namespace BareRaise

/-- A `raise` with what a descent knows about it. -/
structure FoundRaise where
  /-- No exception is given. -/
  isBare : Bool
  around : Enclosure
deriving DecidableEq, Repr

/-- Whether the descent reports the `raise`. -/
def FoundRaise.reports (raise : FoundRaise) : Bool := raise.isBare && raise.around.reports

/-! ### The descent -/

mutual

/-- The raises of a statement, in the order of the program. -/
def foundIn (around : Enclosure) : Stmt → List FoundRaise
  | .simple .. | .imports .. | .scopeDeclaration .. => []
  | .raise _ exception _ => [⟨exception.isNone, around⟩]
  | .conditional _ _ body orelse | .whileLoop _ _ body orelse | .forLoop _ _ _ _ body orelse =>
    foundInAll around body ++ foundInAll around orelse
  | .tryBlock _ _ body handlers orelse final =>
    foundInAll around body ++ foundInHandlers around handlers ++ foundInAll around orelse
      ++ foundInAll around.enterFinally final
  | .withBlock _ _ body => foundInAll around body
  | .matchBlock _ _ cases => foundInCases around cases
  | .function _ _ name _ _ _ body => foundInAll (around.enterFunction name) body
  | .classDef _ _ _ _ _ body => foundInAll around.enterClass body

/-- The raises of statements. -/
def foundInAll (around : Enclosure) : List Stmt → List FoundRaise
  | [] => []
  | stmt :: rest => foundIn around stmt ++ foundInAll around rest

/-- The raises of `except` clauses. -/
def foundInHandlers (around : Enclosure) : List Handler → List FoundRaise
  | [] => []
  | .mk _ _ _ body :: rest => foundInAll around.enterHandler body ++ foundInHandlers around rest

/-- The raises of `case` blocks. -/
def foundInCases (around : Enclosure) : List Case → List FoundRaise
  | [] => []
  | .mk _ _ body :: rest => foundInAll around body ++ foundInCases around rest

end

mutual

/-- The nodes of the raises of a statement, in the order of the program, if the statement became
this branch. -/
def imagesIn : Stmt → Placed → List Placed
  | .simple .., _ | .imports .., _ | .scopeDeclaration .., _ => []
  | .raise .., placed => [placed]
  | .conditional _ _ body orelse, placed =>
    imagesInAll body (placed.playing .body) ++
      imagesInAll orelse
        (placed.playing .elifBranch ++ (placed.playing .elseClause).flatMap (·.playing .body))
  | .whileLoop _ _ body orelse, placed | .forLoop _ _ _ _ body orelse, placed =>
    imagesInAll body (placed.playing .body) ++
      imagesInAll orelse ((placed.playing .elseClause).flatMap (·.playing .body))
  | .tryBlock _ _ body handlers orelse final, placed =>
    imagesInAll body (placed.playing .body) ++ imagesInHandlers handlers (placed.playing .handler)
      ++ imagesInAll orelse ((placed.playing .elseClause).flatMap (·.playing .body))
      ++ imagesInAll final ((placed.playing .finallyClause).flatMap (·.playing .body))
  | .withBlock _ items body, placed => imagesInAll body (placed.plain.drop items.length)
  | .matchBlock _ _ cases, placed => imagesInCases cases (placed.plain.drop 1)
  | .function _ _ _ _ _ _ body, placed | .classDef _ _ _ _ _ body, placed =>
    imagesInAll body (placed.playing .body)

/-- The nodes of the raises of statements. -/
def imagesInAll : List Stmt → List Placed → List Placed
  | stmt :: rest, placed :: others => imagesIn stmt placed ++ imagesInAll rest others
  | _, _ => []

/-- The nodes of the raises of `except` clauses. -/
def imagesInHandlers : List Handler → List Placed → List Placed
  | .mk _ _ _ body :: rest, placed :: others =>
    imagesInAll body (placed.playing .body) ++ imagesInHandlers rest others
  | _, _ => []

/-- The nodes of the raises of `case` blocks. The pattern and the guard stand before the
statements. -/
def imagesInCases : List Case → List Placed → List Placed
  | .mk _ guard body :: rest, placed :: others =>
    imagesInAll body (placed.plain.drop (1 + guard.toList.length)) ++ imagesInCases rest others
  | _, _ => []

end

/-! ### Every raise has its image -/

open Draft (ofStmt ofStmts ofHandlers ofCases free_ofStmt)
open Placed (Complete raises)

variable {text : SourceText} {placed : Placed} {branches : List Placed} {around inner : Enclosure}

/-- The raises below a node whose draft is known, by the parts that lead to statements. -/
private theorem raises_perm_of_form {draft : Draft} (form : Form)
    (completes : Branch.Completes draft placed.branch) (shaped : draft.Shaped)
    (own : draft.form = form) :
    ((if form = .raise then [placed] else []) ++
      form.blockRoles.flatMap fun role => (placed.inRole role).flatMap raises).Perm
        placed.raises := by
  rw [← own, ← Placed.form_of_completes completes]
  exact (Placed.raises_perm completes shaped).symm

/-- The raises below the node of a statement. -/
private theorem raises_perm_ofStmt {stmt : Stmt} (form : Form)
    (completes : Branch.Completes (ofStmt text stmt) placed.branch)
    (own : (ofStmt text stmt).form = form) :
    ((if form = .raise then [placed] else []) ++
      form.blockRoles.flatMap fun role => (placed.inRole role).flatMap raises).Perm
        placed.raises :=
  raises_perm_of_form form completes (free_ofStmt text stmt).shaped own

/-- What a clause is that plays a role. -/
def clauseForm? : Role → Option Form
  | .elseClause => some .elseClause
  | .finallyClause => some .finallyClause
  | _ => none

theorem eq_clause_of_admits {whole part clause : Form} {role : Role}
    (own : clauseForm? role = some clause) (fits : whole.admits (some role) part = true) :
    part = clause := by
  cases role <;> cases own <;> cases whole <;> simp_all [Form.admits]

/-- The raises in the clauses of a statement are those of their statements. -/
private theorem raises_clauses {stmt : Stmt} {role : Role} {clause : Form}
    (own : clauseForm? role = some clause)
    (completes : Branch.Completes (ofStmt text stmt) placed.branch) :
    (((placed.playing role).flatMap (·.playing .body)).flatMap raises).Perm
      ((placed.playing role).flatMap raises) := by
  rw [List.flatMap_assoc]
  apply List.Perm.flatMap_left _
  intro branch member
  obtain ⟨part, sound, inner, fits⟩ :=
    Placed.exists_completes_playing completes (free_ofStmt text stmt).shaped member
  have below := raises_perm_of_form clause inner sound (eq_clause_of_admits own fits)
  cases role <;> cases own <;> simpa [Form.blockRoles] using below

/-- Expressions that stand before the statements of a block hold no raises. -/
private theorem flatMap_raises_drop {drafts : List Draft} {count : Nat}
    (calm : ∀ draft ∈ drafts, draft.Calm) (front : Complete drafts (branches.take count)) :
    branches.flatMap raises = (branches.drop count).flatMap raises := by
  have none : (branches.take count).flatMap raises = [] := by
    rw [List.flatMap_eq_nil_iff]
    intro branch member
    obtain ⟨draft, among, completes⟩ := Lists.exists_left front member
    exact Placed.raises_of_isCalm completes (calm draft among).shaped
      (Placed.form_of_completes completes ▸ (calm draft among).isCalm)
  conv_lhs => rw [← List.take_append_drop count branches, List.flatMap_append, none]
  rfl

mutual

theorem imagesIn_perm : ∀ (stmt : Stmt) (placed : Placed),
    Branch.Completes (ofStmt text stmt) placed.branch → (imagesIn stmt placed).Perm placed.raises
  | .simple span form parts, placed, completes => by
    have below := raises_perm_ofStmt (.plain form.kind) completes rfl
    have single : form.kind.isBlock = false := by cases form <;> rfl
    simpa [imagesIn, Form.blockRoles, single] using below
  | .imports span fromModule aliases, placed, completes => by
    have below := raises_perm_ofStmt (.plain (if fromModule then .importFrom else .importName))
      completes rfl
    cases fromModule <;> simpa [imagesIn, Form.blockRoles, Kind.isBlock] using below
  | .scopeDeclaration span isGlobal names, placed, completes => by
    have below := raises_perm_ofStmt (.scopeDeclaration isGlobal) completes rfl
    simpa [imagesIn, Form.blockRoles] using below
  | .raise span exception cause, placed, completes => by
    have below := raises_perm_ofStmt .raise completes rfl
    simpa [imagesIn, Form.blockRoles] using below
  | .conditional span test body orelse, placed, completes => by
    obtain ⟨block, others⟩ := Placed.paired_conditional Placed.passesDown_completes completes
    have below := raises_perm_ofStmt .ifStatement completes rfl
    have clause := raises_clauses (show clauseForm? .elseClause = _ from rfl) completes
    have images := (imagesInAll_perm body _ block).append (imagesInAll_perm orelse _ others)
    rw [List.flatMap_append] at images
    rw [imagesIn]
    apply (images.trans (.append_left _ (.append_left _ clause))).trans
    simpa [Form.blockRoles] using below
  | .whileLoop span test body orelse, placed, completes => by
    obtain ⟨block, others⟩ := Placed.paired_whileLoop Placed.passesDown_completes completes
    have below := raises_perm_ofStmt .whileLoop completes rfl
    have clause := raises_clauses (show clauseForm? .elseClause = _ from rfl) completes
    rw [imagesIn]
    refine ((imagesInAll_perm body _ block).append
      ((imagesInAll_perm orelse _ others).trans clause)).trans ?_
    simpa [Form.blockRoles] using below
  | .forLoop span isAsync target iterable body orelse, placed, completes => by
    obtain ⟨block, others⟩ := Placed.paired_forLoop Placed.passesDown_completes completes
    have below := raises_perm_ofStmt (.forLoop isAsync) completes rfl
    have clause := raises_clauses (show clauseForm? .elseClause = _ from rfl) completes
    rw [imagesIn]
    refine ((imagesInAll_perm body _ block).append
      ((imagesInAll_perm orelse _ others).trans clause)).trans ?_
    simpa [Form.blockRoles] using below
  | .tryBlock span isStar body handlers orelse final, placed, completes => by
    obtain ⟨block, caught, others, last⟩ :=
      Placed.paired_tryBlock Placed.passesDown_completes completes
    have below := raises_perm_ofStmt .tryStatement completes rfl
    have elses := raises_clauses (show clauseForm? .elseClause = _ from rfl) completes
    have finals := raises_clauses (show clauseForm? .finallyClause = _ from rfl) completes
    rw [imagesIn]
    refine ((((imagesInAll_perm body _ block).append
      (imagesInHandlers_perm isStar handlers _ caught)).append
        ((imagesInAll_perm orelse _ others).trans elses)).append
          ((imagesInAll_perm final _ last).trans finals)).trans ?_
    simpa [Form.blockRoles, List.append_assoc] using below
  | .withBlock span items body, placed, completes => by
    obtain ⟨managers, block⟩ := Placed.paired_withBlock Placed.passesDown_completes completes
    have below := raises_perm_ofStmt (.plain .withStatement) completes rfl
    have parts := flatMap_raises_drop (fun draft member => by
      obtain ⟨item, -, rfl⟩ := List.mem_map.mp member
      exact Draft.calm_ofWithItem text item) managers
    rw [imagesIn]
    apply (imagesInAll_perm body _ block).trans
    simpa [Form.blockRoles, Kind.isBlock, parts] using below
  | .matchBlock span subject cases, placed, completes => by
    obtain ⟨scrutinee, blocks⟩ := Placed.paired_matchBlock Placed.passesDown_completes completes
    have below := raises_perm_ofStmt (.plain .matchStatement) completes rfl
    have parts := flatMap_raises_drop (fun draft member => by
      rw [List.mem_singleton.mp member]
      exact Draft.calm_ofExpr text subject) scrutinee
    rw [imagesIn]
    apply (imagesInCases_perm cases _ blocks).trans
    simpa [Form.blockRoles, Kind.isBlock, parts] using below
  | .function span isAsync name parameters returns decorators body, placed, completes => by
    have block := Placed.paired_function Placed.passesDown_completes completes
    have below := raises_perm_ofStmt (.function isAsync) completes rfl
    rw [imagesIn]
    apply (imagesInAll_perm body _ block).trans
    simpa [Form.blockRoles] using below
  | .classDef span name bases keywords decorators body, placed, completes => by
    have block := Placed.paired_classDef Placed.passesDown_completes completes
    have below := raises_perm_ofStmt .classDef completes rfl
    rw [imagesIn]
    apply (imagesInAll_perm body _ block).trans
    simpa [Form.blockRoles] using below

theorem imagesInAll_perm : ∀ (stmts : List Stmt) (branches : List Placed),
    Complete (ofStmts text stmts) branches →
      (imagesInAll stmts branches).Perm (branches.flatMap raises)
  | [], [], _ => by simp [imagesInAll]
  | stmt :: rest, placed :: others, .cons completes complete => by
    rw [imagesInAll, List.flatMap_cons]
    exact (imagesIn_perm stmt placed completes).append (imagesInAll_perm rest others complete)

theorem imagesInHandlers_perm (isStar : Bool) : ∀ (handlers : List Handler)
    (branches : List Placed), Complete (ofHandlers text isStar handlers) branches →
      (imagesInHandlers handlers branches).Perm (branches.flatMap raises)
  | [], [], _ => by simp [imagesInHandlers]
  | .mk span exception name body :: rest, placed :: others, .cons completes complete => by
    have block := Placed.paired_handler Placed.passesDown_completes completes
    have shaped := Draft.shaped_ofHandler text (text.span span) isStar name
      (Draft.calm_ofExpr? text exception) (Draft.free_ofStmts text body)
    have below := raises_perm_of_form (.exceptClause isStar) completes shaped rfl
    rw [imagesInHandlers, List.flatMap_cons]
    refine ((imagesInAll_perm body _ block).trans ?_).append
      (imagesInHandlers_perm isStar rest others complete)
    simpa [Form.blockRoles] using below

theorem imagesInCases_perm : ∀ (cases : List Case) (branches : List Placed),
    Complete (ofCases text cases) branches →
      (imagesInCases cases branches).Perm (branches.flatMap raises)
  | [], [], _ => by simp [imagesInCases]
  | .mk pattern guard body :: rest, placed :: others, .cons completes complete => by
    obtain ⟨front, block⟩ := Placed.paired_case Placed.passesDown_completes completes
    have shaped := (Draft.free_ofCases text [.mk pattern guard body] _
      (List.mem_singleton_self _)).shaped
    have below := raises_perm_of_form (.plain .caseBlock) completes shaped rfl
    have parts := flatMap_raises_drop (fun draft member => by
      rcases List.mem_cons.mp member with rfl | member
      · exact Draft.calm_ofPattern text pattern
      · exact Draft.calm_of_mem_toList (Draft.calm_ofExpr? text guard) draft member) front
    rw [imagesInCases, List.flatMap_cons]
    refine ((imagesInAll_perm body _ block).trans ?_).append
      (imagesInCases_perm rest others complete)
    simpa [Form.blockRoles, Kind.isBlock, parts] using below

end

/-! ### Every image is described -/

/-- Every function from here on down has kept its name. -/
def Named (placed : Placed) : Prop :=
  ∀ below above, Placed.Lies placed below above →
    (∃ isAsync, below.form = .function isAsync) → below.playing .name ≠ []

/-- What a descent to a branch from another one knows about a `raise` is what its node says. -/
structure Described (around : Enclosure) (root : Placed) (raise : FoundRaise) (image : Placed) :
    Prop where
  form : image.form = .raise
  isBare : raise.isBare = (image.playing .expression).isEmpty
  around : ∃ above, Placed.Lies root image above ∧ raise.around = enclosure above around

/-- The same for a branch from one of several. -/
def DescribedBelow (around : Enclosure) (roots : List Placed) (raise : FoundRaise)
    (image : Placed) : Prop :=
  ∃ root ∈ roots, Described around root raise image

theorem Named.below {child : Placed} {slot : Option Slot} (named : Named placed)
    (member : (slot, child) ∈ placed.children) : Named child :=
  fun below above lies => named below (above ++ [placed]) (lies.trans (.child .root member))

theorem Described.lift {child : Placed} {slot : Option Slot} {raise : FoundRaise}
    {image : Placed} (described : Described (enter placed around) child raise image)
    (member : (slot, child) ∈ placed.children) : Described around placed raise image := by
  obtain ⟨above, lies, same⟩ := described.around
  refine ⟨described.form, described.isBare, above ++ [placed],
    lies.trans (.child .root member), ?_⟩
  rw [same, enclosure, enclosure, List.foldr_append]
  rfl

theorem DescribedBelow.mono {roots : List Placed} (among : branches ⊆ roots) {raise : FoundRaise}
    {image : Placed} (described : DescribedBelow around branches raise image) :
    DescribedBelow around roots raise image := by
  obtain ⟨root, member, described⟩ := described
  exact ⟨root, among member, described⟩

/-- Branches that are children of a branch. -/
def Below (placed : Placed) (branches : List Placed) : Prop :=
  ∀ branch ∈ branches, ∃ slot, (slot, branch) ∈ placed.children

theorem below_playing (placed : Placed) (role : Role) : Below placed (placed.playing role) := by
  intro branch member
  obtain ⟨slot, -, among⟩ := Placed.mem_playing_iff.mp member
  exact ⟨slot, among⟩

theorem below_drop_plain (placed : Placed) (count : Nat) :
    Below placed (placed.plain.drop count) := by
  intro branch member
  obtain ⟨slot, -, among⟩ := Placed.mem_plain_iff.mp (List.mem_of_mem_drop member)
  exact ⟨slot, among⟩

theorem Below.named (below : Below placed branches) (named : Named placed) :
    ∀ branch ∈ branches, Named branch := by
  intro branch member
  obtain ⟨slot, among⟩ := below branch member
  exact named.below among

/-- Whether the same is around a node of this form and around its children. -/
def keepsAround : Form → Bool
  | .exceptClause _ | .finallyClause | .function _ | .classDef => false
  | _ => true

theorem enter_of_keepsAround {draft : Draft} (completes : Branch.Completes draft placed.branch)
    (keeps : keepsAround draft.form = true) : enter placed around = around := by
  rw [← Placed.form_of_completes completes] at keeps
  rw [enter]
  split
  case h_5 => rfl
  all_goals
    rename_i form
    rw [form] at keeps
    cases keeps

/-- What is known from the parts of a node is known from the node. -/
theorem Below.described (below : Below placed branches) (entered : enter placed around = inner)
    {raise : FoundRaise} {image : Placed} (described : DescribedBelow inner branches raise image) :
    Described around placed raise image := by
  obtain ⟨root, member, described⟩ := described
  obtain ⟨slot, among⟩ := below root member
  exact (entered ▸ described).lift among

theorem named_clauses (named : Named placed) (role : Role) :
    ∀ branch ∈ (placed.playing role).flatMap (·.playing .body), Named branch := by
  intro branch member
  obtain ⟨clause, among, member⟩ := List.mem_flatMap.mp member
  exact (below_playing clause .body).named ((below_playing placed role).named named clause among)
    branch member

/-- What is known from the statements of the clauses of a statement is known from its node. -/
theorem described_clauses {stmt : Stmt} {role : Role} {clause : Form}
    (own : clauseForm? role = some clause)
    (completes : Branch.Completes (ofStmt text stmt) placed.branch)
    (entered : ∀ branch, branch.form = clause → enter branch (enter placed around) = inner)
    {raise : FoundRaise} {image : Placed}
    (described : DescribedBelow inner ((placed.playing role).flatMap (·.playing .body)) raise
      image) : Described around placed raise image := by
  obtain ⟨root, member, described⟩ := described
  obtain ⟨branch, upper, member⟩ := List.mem_flatMap.mp member
  obtain ⟨part, -, whole, fits⟩ :=
    Placed.exists_completes_playing completes (free_ofStmt text stmt).shaped upper
  have form : branch.form = clause := by
    rw [Placed.form_of_completes whole]
    exact eq_clause_of_admits own fits
  obtain ⟨slot, among⟩ := below_playing placed role branch upper
  obtain ⟨slot', among'⟩ := below_playing branch .body root member
  exact ((entered branch form ▸ described).lift among').lift among

/-- An `else` clause changes nothing. -/
theorem described_elseClause {stmt : Stmt}
    (completes : Branch.Completes (ofStmt text stmt) placed.branch)
    (entered : enter placed around = around) {raise : FoundRaise} {image : Placed}
    (described : DescribedBelow around ((placed.playing .elseClause).flatMap (·.playing .body))
      raise image) : Described around placed raise image :=
  described_clauses (show clauseForm? .elseClause = _ from rfl) completes
    (fun branch form => by rw [enter, form, entered]) described

theorem DescribedBelow.of_append {left right : List Placed} {raise : FoundRaise} {image : Placed}
    (described : DescribedBelow around (left ++ right) raise image) :
    DescribedBelow around left raise image ∨ DescribedBelow around right raise image := by
  obtain ⟨root, member, described⟩ := described
  rcases List.mem_append.mp member with member | member
  · exact .inl ⟨root, member, described⟩
  · exact .inr ⟨root, member, described⟩

mutual

theorem described_foundIn : ∀ (stmt : Stmt) (placed : Placed) (around : Enclosure),
    Branch.Completes (ofStmt text stmt) placed.branch → Named placed →
      List.Forall₂ (Described around placed) (foundIn around stmt) (imagesIn stmt placed)
  | .simple .., _, _, _, _ | .imports .., _, _, _, _ | .scopeDeclaration .., _, _, _, _ => by
    rw [foundIn, imagesIn]
    exact .nil
  | .raise span exception cause, placed, around, completes, named => by
    have bare := Placed.isEmpty_raised completes
    have form : placed.form = .raise := Placed.form_of_completes completes
    rw [foundIn, imagesIn]
    exact .cons ⟨form, bare.symm, [], .root, rfl⟩ .nil
  | .conditional span test body orelse, placed, around, completes, named => by
    obtain ⟨block, others⟩ := Placed.paired_conditional Placed.passesDown_completes completes
    have entered : enter placed around = around := enter_of_keepsAround completes rfl
    have below := below_playing placed .body
    have further := below_playing placed .elifBranch
    have otherwise := described_foundInAll orelse _ around others fun branch member =>
      (List.mem_append.mp member).elim (further.named named branch)
        (named_clauses named .elseClause branch)
    rw [foundIn, imagesIn]
    refine List.rel_append ((described_foundInAll body _ around block (below.named named)).imp
      fun _ _ => below.described entered) (otherwise.imp fun raise image described => ?_)
    rcases described.of_append with described | described
    · exact further.described entered described
    · exact described_elseClause completes entered described
  | .whileLoop span test body orelse, placed, around, completes, named => by
    obtain ⟨block, others⟩ := Placed.paired_whileLoop Placed.passesDown_completes completes
    have entered : enter placed around = around := enter_of_keepsAround completes rfl
    have below := below_playing placed .body
    rw [foundIn, imagesIn]
    exact List.rel_append
      ((described_foundInAll body _ around block (below.named named)).imp
        fun _ _ => below.described entered)
      ((described_foundInAll orelse _ around others (named_clauses named .elseClause)).imp
        fun _ _ => described_elseClause completes entered)
  | .forLoop span isAsync target iterable body orelse, placed, around, completes, named => by
    obtain ⟨block, others⟩ := Placed.paired_forLoop Placed.passesDown_completes completes
    have entered : enter placed around = around := enter_of_keepsAround completes rfl
    have below := below_playing placed .body
    rw [foundIn, imagesIn]
    exact List.rel_append
      ((described_foundInAll body _ around block (below.named named)).imp
        fun _ _ => below.described entered)
      ((described_foundInAll orelse _ around others (named_clauses named .elseClause)).imp
        fun _ _ => described_elseClause completes entered)
  | .tryBlock span isStar body handlers orelse final, placed, around, completes, named => by
    obtain ⟨block, caught, others, last⟩ :=
      Placed.paired_tryBlock Placed.passesDown_completes completes
    have entered : enter placed around = around := enter_of_keepsAround completes rfl
    have below := below_playing placed .body
    have handlersBelow := below_playing placed .handler
    rw [foundIn, imagesIn]
    refine List.rel_append (List.rel_append (List.rel_append
      ((described_foundInAll body _ around block (below.named named)).imp
        fun _ _ => below.described entered)
      ((described_foundInHandlers isStar handlers _ around caught
        (handlersBelow.named named)).imp fun _ _ => handlersBelow.described entered))
      ((described_foundInAll orelse _ around others (named_clauses named .elseClause)).imp
        fun _ _ => described_elseClause completes entered))
      ((described_foundInAll final _ around.enterFinally last
        (named_clauses named .finallyClause)).imp fun _ _ => ?_)
    exact described_clauses (show clauseForm? .finallyClause = _ from rfl) completes
      fun branch form => by rw [enter, form, entered]
  | .withBlock span items body, placed, around, completes, named => by
    obtain ⟨-, block⟩ := Placed.paired_withBlock Placed.passesDown_completes completes
    have entered : enter placed around = around := enter_of_keepsAround completes rfl
    have below := below_drop_plain placed items.length
    rw [foundIn, imagesIn]
    exact (described_foundInAll body _ around block (below.named named)).imp
      fun _ _ => below.described entered
  | .matchBlock span subject cases, placed, around, completes, named => by
    obtain ⟨-, blocks⟩ := Placed.paired_matchBlock Placed.passesDown_completes completes
    have entered : enter placed around = around := enter_of_keepsAround completes rfl
    have below := below_drop_plain placed 1
    rw [foundIn, imagesIn]
    exact (described_foundInCases cases _ around blocks (below.named named)).imp
      fun _ _ => below.described entered
  | .function span isAsync name parameters returns decorators body, placed, around, completes,
      named => by
    have block := Placed.paired_function Placed.passesDown_completes completes
    have form : placed.form = .function isAsync := Placed.form_of_completes completes
    have entered : enter placed around = around.enterFunction name := by
      rw [enter, form, ← Placed.definedName_function completes
        (named placed [] .root ⟨isAsync, form⟩)]
    have below := below_playing placed .body
    rw [foundIn, imagesIn]
    exact (described_foundInAll body _ _ block (below.named named)).imp
      fun _ _ => below.described entered
  | .classDef span name bases keywords decorators body, placed, around, completes, named => by
    have block := Placed.paired_classDef Placed.passesDown_completes completes
    have entered : enter placed around = around.enterClass := by
      rw [enter, Placed.form_of_completes completes]
      rfl
    have below := below_playing placed .body
    rw [foundIn, imagesIn]
    exact (described_foundInAll body _ _ block (below.named named)).imp
      fun _ _ => below.described entered

theorem described_foundInAll : ∀ (stmts : List Stmt) (branches : List Placed)
    (around : Enclosure), Complete (ofStmts text stmts) branches →
      (∀ branch ∈ branches, Named branch) →
      List.Forall₂ (DescribedBelow around branches) (foundInAll around stmts)
        (imagesInAll stmts branches)
  | [], [], _, _, _ => by simp [foundInAll, imagesInAll]
  | stmt :: rest, placed :: others, around, .cons completes complete, named => by
    rw [foundInAll, imagesInAll]
    refine List.rel_append ?_ ?_
    · refine (described_foundIn stmt placed around completes
        (named placed List.mem_cons_self)).imp fun raise image described => ?_
      exact ⟨placed, List.mem_cons_self, described⟩
    · exact (described_foundInAll rest others around complete fun branch member =>
        named branch (List.mem_cons_of_mem _ member)).imp fun _ _ =>
          .mono (List.subset_cons_self _ _)

theorem described_foundInHandlers (isStar : Bool) : ∀ (handlers : List Handler)
    (branches : List Placed) (around : Enclosure),
    Complete (ofHandlers text isStar handlers) branches → (∀ branch ∈ branches, Named branch) →
      List.Forall₂ (DescribedBelow around branches) (foundInHandlers around handlers)
        (imagesInHandlers handlers branches)
  | [], [], _, _, _ => by simp [foundInHandlers, imagesInHandlers]
  | .mk span exception name body :: rest, placed :: others, around, .cons completes complete,
      named => by
    have block := Placed.paired_handler Placed.passesDown_completes completes
    have entered : enter placed around = around.enterHandler := by
      rw [enter, Placed.form_of_completes completes]
      rfl
    have below := below_playing placed .body
    rw [foundInHandlers, imagesInHandlers]
    refine List.rel_append ?_ ?_
    · refine (described_foundInAll body _ _ block
        (below.named (named placed List.mem_cons_self))).imp fun raise image described => ?_
      exact ⟨placed, List.mem_cons_self, below.described entered described⟩
    · exact (described_foundInHandlers isStar rest others around complete fun branch member =>
        named branch (List.mem_cons_of_mem _ member)).imp fun _ _ =>
          .mono (List.subset_cons_self _ _)

theorem described_foundInCases : ∀ (cases : List Case) (branches : List Placed)
    (around : Enclosure), Complete (ofCases text cases) branches →
      (∀ branch ∈ branches, Named branch) →
      List.Forall₂ (DescribedBelow around branches) (foundInCases around cases)
        (imagesInCases cases branches)
  | [], [], _, _, _ => by simp [foundInCases, imagesInCases]
  | .mk pattern guard body :: rest, placed :: others, around, .cons completes complete,
      named => by
    obtain ⟨-, block⟩ := Placed.paired_case Placed.passesDown_completes completes
    have entered : enter placed around = around := enter_of_keepsAround completes rfl
    have below := below_drop_plain placed (1 + guard.toList.length)
    rw [foundInCases, imagesInCases]
    refine List.rel_append ?_ ?_
    · refine (described_foundInAll body _ _ block
        (below.named (named placed List.mem_cons_self))).imp fun raise image described => ?_
      exact ⟨placed, List.mem_cons_self, below.described entered described⟩
    · exact (described_foundInCases rest others around complete fun branch member =>
        named branch (List.mem_cons_of_mem _ member)).imp fun _ _ =>
          .mono (List.subset_cons_self _ _)

end

end BareRaise

end StructuralLint
