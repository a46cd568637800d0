import StructuralLint.Proofs.Symbol.Drawing
import StructuralLint.Proofs.Tree.Roles
import StructuralLint.Proofs.Tree.Statements

/-!
# Every statement has its node

A program contains the statements of its body and what stands in them, at any depth
(`Program.Contains`). What relates the drafts of the outermost statements to their nodes, and passes
from nodes to their parts, relates the draft of every statement of the program to a node of its own
(`Program.Contains.bears`).
-/

namespace StructuralLint

open Program Draft

/-- The statements of a program, at any depth. -/
inductive Program.Contains (program : Program) : Stmt → Prop
  | outermost {stmt : Stmt} : stmt ∈ program.body → Contains program stmt
  | inside {outer stmt : Stmt} :
      Contains program outer → stmt ∈ outer.parts ++ outer.inner → Contains program stmt

namespace Program

/-- Checks the statements of a block and what stands in them, down to a depth. -/
def holdsTo (check : Stmt → Bool) : (depth : Nat) → List Stmt → Bool
  | 0, stmts => stmts.isEmpty
  | depth + 1, stmts =>
    stmts.all fun stmt => check stmt && holdsTo check depth (stmt.parts ++ stmt.inner)

theorem Contains.of_holdsTo {program : Program} {check : Stmt → Bool} {depth : Nat} {stmt : Stmt}
    (passes : holdsTo check depth program.body = true) (contains : program.Contains stmt) :
    check stmt = true := by
  have step {depth : Nat} {stmts : List Stmt} (passes : holdsTo check depth stmts = true)
      {stmt : Stmt} (member : stmt ∈ stmts) :
      check stmt = true ∧ ∃ depth, holdsTo check depth (stmt.parts ++ stmt.inner) = true := by
    cases depth with
    | zero =>
        rw [holdsTo, List.isEmpty_iff] at passes
        rw [passes] at member
        cases member
    | succ depth =>
        rw [holdsTo, List.all_eq_true] at passes
        obtain ⟨own, below⟩ := Bool.and_eq_true_iff.mp (passes stmt member)
        exact ⟨own, depth, below⟩
  suffices both : check stmt = true ∧ ∃ depth, holdsTo check depth (stmt.parts ++ stmt.inner) = true
    from both.1
  induction contains with
  | outermost member => exact step passes member
  | inside _ member ih =>
      obtain ⟨-, depth, below⟩ := ih
      exact step below member

end Program

namespace Placed

variable {R : Draft → Placed → Prop} {text : SourceText} {placed : Placed} {above : List Placed}
  {stmt : Stmt} {stmts : List Stmt} {branches : List Placed}

/-- Somewhere from a node on down stands a node of the statement. -/
def Bears (R : Draft → Placed → Prop) (text : SourceText) (placed : Placed) (stmt : Stmt) : Prop :=
  ∃ below above, Lies placed below above ∧ R (ofStmt text stmt) below

theorem Bears.lift {root : Placed} (bears : placed.Bears R text stmt)
    (lies : Lies root placed above) : root.Bears R text stmt := by
  obtain ⟨below, between, lower, related⟩ := bears
  exact ⟨below, _, lower.trans lies, related⟩

/-- Branches that stand somewhere from a node on down. -/
def Lying (placed : Placed) (branches : List Placed) : Prop :=
  ∀ branch ∈ branches, ∃ above, Lies placed branch above

theorem lying_playing (placed : Placed) (role : Role) : placed.Lying (placed.playing role) := by
  intro branch member
  obtain ⟨slot, -, among⟩ := mem_playing_iff.mp member
  exact ⟨_, .child .root among⟩

theorem lying_drop_plain (placed : Placed) (count : Nat) :
    placed.Lying (placed.plain.drop count) := by
  intro branch member
  obtain ⟨slot, -, among⟩ := mem_plain_iff.mp (List.mem_of_mem_drop member)
  exact ⟨_, .child .root among⟩

/-- What stands in the clauses of a node. -/
theorem lying_clauses (placed : Placed) (role : Role) :
    placed.Lying ((placed.playing role).flatMap (·.playing .body)) := by
  intro branch member
  obtain ⟨clause, upper, member⟩ := List.mem_flatMap.mp member
  obtain ⟨above, lies⟩ := placed.lying_playing role clause upper
  obtain ⟨between, lower⟩ := clause.lying_playing .body branch member
  exact ⟨_, lower.trans lies⟩

theorem Lying.append {others : List Placed} (first : placed.Lying branches)
    (second : placed.Lying others) : placed.Lying (branches ++ others) :=
  List.forall_mem_append.mpr ⟨first, second⟩

/-- One of the branches is the node of a statement of the block. -/
theorem Lying.bears (lying : placed.Lying branches)
    (paired : List.Forall₂ R (ofStmts text stmts) branches) (member : stmt ∈ stmts) :
    placed.Bears R text stmt := by
  have drafted : ofStmt text stmt ∈ ofStmts text stmts := by
    rw [ofStmts_eq_map]
    exact List.mem_map_of_mem member
  obtain ⟨branch, among, related⟩ := Lists.exists_left paired.flip drafted
  obtain ⟨above, lies⟩ := lying branch among
  exact ⟨branch, above, lies, related⟩

section

variable (passes : PassesDown R)
include passes

theorem exists_bears_handlers {isStar : Bool} {handlers : List Handler}
    (paired : List.Forall₂ R (ofHandlers text isStar handlers) branches)
    (member : stmt ∈ handlers.flatMap Handler.body) :
    ∃ branch ∈ branches, branch.Bears R text stmt := by
  induction handlers generalizing branches with
  | nil => cases member
  | cons handler rest ih =>
      obtain ⟨span, exception, name, body⟩ := handler
      rw [ofHandlers] at paired
      cases paired with
      | cons related others =>
          rcases List.mem_append.mp member with here | later
          · exact ⟨_, List.mem_cons_self,
              (lying_playing _ .body).bears (paired_handler passes related) here⟩
          · obtain ⟨branch, among, bears⟩ := ih others later
            exact ⟨branch, List.mem_cons_of_mem _ among, bears⟩

theorem exists_bears_cases {blocks : List Case}
    (paired : List.Forall₂ R (ofCases text blocks) branches)
    (member : stmt ∈ blocks.flatMap Case.body) :
    ∃ branch ∈ branches, branch.Bears R text stmt := by
  induction blocks generalizing branches with
  | nil => cases member
  | cons block rest ih =>
      obtain ⟨pattern, guard, body⟩ := block
      rw [ofCases] at paired
      cases paired with
      | cons related others =>
          rcases List.mem_append.mp member with here | later
          · exact ⟨_, List.mem_cons_self,
              (lying_drop_plain _ _).bears (paired_case passes related).2 here⟩
          · obtain ⟨branch, among, bears⟩ := ih others later
            exact ⟨branch, List.mem_cons_of_mem _ among, bears⟩

/-- **From a statement to those in it.** -/
theorem bears_of_mem_parts {outer : Stmt} (related : R (ofStmt text outer) placed)
    (member : stmt ∈ outer.parts ++ outer.inner) : placed.Bears R text stmt := by
  cases outer with
  | conditional =>
      obtain ⟨block, others⟩ := paired_conditional passes related
      simp only [Stmt.parts, Stmt.inner, List.append_nil, List.mem_append] at member
      rcases member with member | member
      · exact (lying_playing _ _).bears block member
      · exact ((lying_playing _ _).append (lying_clauses _ _)).bears others member
  | whileLoop =>
      obtain ⟨block, others⟩ := paired_whileLoop passes related
      simp only [Stmt.parts, Stmt.inner, List.append_nil, List.mem_append] at member
      rcases member with member | member
      · exact (lying_playing _ _).bears block member
      · exact (lying_clauses _ _).bears others member
  | forLoop =>
      obtain ⟨block, others⟩ := paired_forLoop passes related
      simp only [Stmt.parts, Stmt.inner, List.append_nil, List.mem_append] at member
      rcases member with member | member
      · exact (lying_playing _ _).bears block member
      · exact (lying_clauses _ _).bears others member
  | tryBlock =>
      obtain ⟨block, caught, others, last⟩ := paired_tryBlock passes related
      simp only [Stmt.parts, Stmt.inner, List.append_nil, List.mem_append] at member
      rcases member with ((member | member) | member) | member
      · exact (lying_playing _ _).bears block member
      · obtain ⟨branch, among, bears⟩ := exists_bears_handlers passes caught member
        obtain ⟨above, lies⟩ := lying_playing _ _ branch among
        exact bears.lift lies
      · exact (lying_clauses _ _).bears others member
      · exact (lying_clauses _ _).bears last member
  | withBlock =>
      simp only [Stmt.parts, Stmt.inner, List.append_nil] at member
      exact (lying_drop_plain _ _).bears (paired_withBlock passes related).2 member
  | matchBlock =>
      simp only [Stmt.parts, Stmt.inner, List.append_nil] at member
      obtain ⟨branch, among, bears⟩ :=
        exists_bears_cases passes (paired_matchBlock passes related).2 member
      obtain ⟨above, lies⟩ := lying_drop_plain _ _ branch among
      exact bears.lift lies
  | function =>
      simp only [Stmt.parts, Stmt.inner, List.nil_append] at member
      exact (lying_playing _ _).bears (paired_function passes related) member
  | classDef =>
      simp only [Stmt.parts, Stmt.inner, List.nil_append] at member
      exact (lying_playing _ _).bears (paired_classDef passes related) member
  | _ => cases member

end

end Placed

/-- **Every statement has its node.** -/
theorem Program.Contains.bears {R : Draft → Placed → Prop} (passes : Placed.PassesDown R)
    {program : Program} {text : SourceText} {root : Placed}
    (outermost : List.Forall₂ R (ofStmts text program.body) (root.playing .statement))
    {stmt : Stmt} (contains : program.Contains stmt) : root.Bears R text stmt := by
  induction contains with
  | outermost member => exact (root.lying_playing .statement).bears outermost member
  | inside _ member ih =>
      obtain ⟨placed, above, lies, related⟩ := ih
      exact (Placed.bears_of_mem_parts passes related member).lift lies

/-! ### From nodes to statements -/

/-- Whether a node of this form is a piece of a statement that has a block, or the file itself. -/
def Form.isPiece : Form → Bool
  | file _ | elseClause | finallyClause | exceptClause _ => true
  | plain kind => kind = .caseBlock
  | _ => false

/-- What holds of the children before a block that plays no part, and of those in it, holds of all
children without a part. -/
theorem Placed.forall_inRole_none {P : Placed → Prop} {placed : Placed} {count : Nat}
    (front : ∀ child ∈ placed.plain.take count, P child)
    (back : ∀ child ∈ placed.plain.drop count, P child) :
    ∀ child ∈ placed.inRole none, P child := by
  rw [inRole_none, ← List.take_append_drop count placed.plain]
  exact List.forall_mem_append.mpr ⟨front, back⟩

namespace Program

variable {R : Draft → Placed → Prop} {program : Program} {text : SourceText}
  {placed child : Placed} {stmts : List Stmt} {branches : List Placed}

/-- A node that no statement stands below, or the node of a statement of the program. -/
def Knows (program : Program) (R : Draft → Placed → Prop) (text : SourceText) (placed : Placed) :
    Prop :=
  placed.form.isCalm = true ∨ ∃ stmt, program.Contains stmt ∧ R (ofStmt text stmt) placed

/-- Such a node, or a piece with such nodes in its block. -/
def Accounts (program : Program) (R : Draft → Placed → Prop) (text : SourceText)
    (placed : Placed) : Prop :=
  program.Knows R text placed ∨ placed.form.isPiece = true ∧
    ∀ role ∈ placed.form.blockRoles, ∀ child ∈ placed.inRole role, program.Knows R text child

theorem knows_of_paired (contains : ∀ stmt ∈ stmts, program.Contains stmt)
    (paired : List.Forall₂ R (ofStmts text stmts) branches) (member : child ∈ branches) :
    program.Knows R text child := by
  rw [ofStmts_eq_map, List.forall₂_map_left_iff] at paired
  obtain ⟨stmt, among, related⟩ := Lists.exists_left paired member
  exact .inr ⟨stmt, contains stmt among, related⟩

/-- A clause accounts for what stands in it. -/
theorem accounts_of_clause {role : Role}
    (known : ∀ inner ∈ (placed.playing role).flatMap (·.playing .body), program.Knows R text inner)
    (form : child.form = .elseClause ∨ child.form = .finallyClause)
    (member : child ∈ placed.playing role) : program.Accounts R text child := by
  have blocks : child.form.isPiece = true ∧ child.form.blockRoles = [some .body] := by
    rcases form with form | form <;> rw [form] <;> exact ⟨rfl, rfl⟩
  refine .inr ⟨blocks.1, fun own block inner plays => ?_⟩
  obtain rfl := List.mem_singleton.mp (blocks.2 ▸ block)
  exact known inner (List.mem_flatMap.mpr ⟨child, member, plays⟩)

/-- The blocks of a loop. -/
theorem accounts_of_loop {body orelse : List Stmt} (inBody : ∀ stmt ∈ body, program.Contains stmt)
    (inElse : ∀ stmt ∈ orelse, program.Contains stmt)
    (block : List.Forall₂ R (ofStmts text body) (placed.playing .body))
    (others : List.Forall₂ R (ofStmts text orelse)
      ((placed.playing .elseClause).flatMap (·.playing .body)))
    (clauses : ∀ child ∈ placed.playing .elseClause, child.form = .elseClause) :
    ∀ role ∈ [some Role.body, some .elseClause], ∀ child ∈ placed.inRole role,
      program.Accounts R text child := by
  refine List.forall_mem_cons.mpr ⟨fun child member => ?_,
    List.forall_mem_singleton.mpr fun child member => ?_⟩
  · exact .inl (knows_of_paired inBody block member)
  · exact accounts_of_clause (fun inner => knows_of_paired inElse others)
      (.inl (clauses child member)) member

section

variable (passes : Placed.PassesDown R)
  (complete : ∀ draft placed, R draft placed → Branch.Completes draft placed.branch)
include complete

theorem knows_of_drafts {drafts : List Draft} (calm : ∀ draft ∈ drafts, draft.Calm)
    (paired : List.Forall₂ R drafts branches) (member : child ∈ branches) :
    program.Knows R text child := by
  obtain ⟨draft, among, related⟩ := Lists.exists_left paired member
  rw [Knows, Placed.form_of_completes (complete _ _ related)]
  exact .inl (calm draft among).isCalm

include passes

theorem accounts_of_handlers {isStar : Bool} {handlers : List Handler}
    (contains : ∀ stmt ∈ handlers.flatMap Handler.body, program.Contains stmt)
    (paired : List.Forall₂ R (ofHandlers text isStar handlers) branches)
    (member : child ∈ branches) : program.Accounts R text child := by
  induction handlers generalizing branches with
  | nil =>
      cases paired
      cases member
  | cons handler rest ih =>
      obtain ⟨span, exception, name, body⟩ := handler
      rw [ofHandlers] at paired
      rw [List.flatMap_cons, List.forall_mem_append] at contains
      cases paired with
      | cons related others =>
          rcases List.mem_cons.mp member with rfl | later
          · have form := Placed.form_of_completes (complete _ _ related)
            refine .inr ⟨by rw [form]; rfl, ?_⟩
            rw [form]
            intro role block child plays
            obtain rfl := List.mem_singleton.mp block
            exact knows_of_paired contains.1 (Placed.paired_handler passes related) plays
          · exact ih contains.2 others later

theorem accounts_of_cases {blocks : List Case}
    (contains : ∀ stmt ∈ blocks.flatMap Case.body, program.Contains stmt)
    (paired : List.Forall₂ R (ofCases text blocks) branches) (member : child ∈ branches) :
    program.Accounts R text child := by
  induction blocks generalizing branches with
  | nil =>
      cases paired
      cases member
  | cons block rest ih =>
      obtain ⟨pattern, guard, body⟩ := block
      rw [ofCases] at paired
      rw [List.flatMap_cons, List.forall_mem_append] at contains
      cases paired with
      | cons related others =>
          rcases List.mem_cons.mp member with rfl | later
          · have form := Placed.form_of_completes (complete _ _ related)
            refine .inr ⟨by rw [form]; rfl, ?_⟩
            rw [form]
            obtain ⟨front, back⟩ := Placed.paired_case passes related
            refine List.forall_mem_singleton.mpr (Placed.forall_inRole_none (fun child plays => ?_)
              fun child plays => knows_of_paired contains.1 back plays)
            refine knows_of_drafts complete (List.forall_mem_cons.mpr
              ⟨calm_ofPattern text pattern, ?_⟩) front plays
            exact calm_of_mem_toList (calm_ofExpr? text guard)
          · exact ih contains.2 others later

/-- **From the node of a statement to its parts.** -/
theorem accounts_of_mem_inRole {stmt : Stmt} (contains : program.Contains stmt)
    (related : R (ofStmt text stmt) placed) :
    ∀ role ∈ placed.form.blockRoles, ∀ child ∈ placed.inRole role,
      program.Accounts R text child := by
  have inside : ∀ inner ∈ stmt.parts ++ stmt.inner, program.Contains inner :=
    fun inner member => .inside contains member
  have completes := complete _ _ related
  have form := Placed.form_of_completes completes
  have fits (role : Role) (child : Placed) (plays : child ∈ placed.playing role) :
      (ofStmt text stmt).form.admits (some role) child.form = true := by
    obtain ⟨part, -, inner, fits⟩ := Placed.exists_completes_playing completes
      (free_ofStmt text stmt).shaped plays
    rwa [Placed.form_of_completes inner]
  cases stmt with
  | conditional =>
      obtain ⟨block, others⟩ := Placed.paired_conditional passes related
      simp only [Stmt.parts, Stmt.inner, List.append_nil, List.forall_mem_append] at inside
      have known := fun child => @knows_of_paired _ _ _ child _ _ inside.2 others
      simp only [ofStmt, ofConditional_eq, form_ofSpan] at form fits
      rw [form]
      refine List.forall_mem_cons.mpr
        ⟨?_, List.forall_mem_cons.mpr ⟨?_, List.forall_mem_singleton.mpr ?_⟩⟩
      · exact fun child member => .inl (knows_of_paired inside.1 block member)
      · exact fun child member => .inl (known child (List.mem_append_left _ member))
      · intro child member
        exact accounts_of_clause (fun inner deep => known inner (List.mem_append_right _ deep))
          (.inl (of_decide_eq_true (fits _ child member))) member
  | whileLoop =>
      obtain ⟨block, others⟩ := Placed.paired_whileLoop passes related
      simp only [Stmt.parts, Stmt.inner, List.append_nil, List.forall_mem_append] at inside
      simp only [ofStmt, form_ofSpan] at form fits
      rw [form]
      exact accounts_of_loop inside.1 inside.2 block others fun child member =>
        of_decide_eq_true (fits _ child member)
  | forLoop =>
      obtain ⟨block, others⟩ := Placed.paired_forLoop passes related
      simp only [Stmt.parts, Stmt.inner, List.append_nil, List.forall_mem_append] at inside
      simp only [ofStmt, form_ofSpan] at form fits
      rw [form]
      exact accounts_of_loop inside.1 inside.2 block others fun child member =>
        of_decide_eq_true (fits _ child member)
  | tryBlock =>
      obtain ⟨block, caught, others, last⟩ := Placed.paired_tryBlock passes related
      simp only [Stmt.parts, Stmt.inner, List.append_nil, List.forall_mem_append] at inside
      obtain ⟨⟨⟨inBody, inHandlers⟩, inElse⟩, inFinal⟩ := inside
      simp only [ofStmt, ofTry, form_ofSpan] at form fits
      rw [form]
      refine List.forall_mem_cons.mpr ⟨?_, List.forall_mem_cons.mpr ⟨?_,
        List.forall_mem_cons.mpr ⟨?_, List.forall_mem_singleton.mpr ?_⟩⟩⟩
      · exact fun child member => .inl (knows_of_paired inBody block member)
      · exact fun child => accounts_of_handlers passes complete inHandlers caught
      · exact fun child member => accounts_of_clause (fun inner => knows_of_paired inElse others)
          (.inl (of_decide_eq_true (fits _ child member))) member
      · exact fun child member => accounts_of_clause (fun inner => knows_of_paired inFinal last)
          (.inr (of_decide_eq_true (fits _ child member))) member
  | withBlock span items body =>
      obtain ⟨front, back⟩ := Placed.paired_withBlock passes related
      simp only [Stmt.parts, Stmt.inner, List.append_nil] at inside
      rw [form, ofStmt]
      refine List.forall_mem_singleton.mpr (Placed.forall_inRole_none (fun child member => ?_)
        fun child member => .inl (knows_of_paired inside back member))
      exact .inl (knows_of_drafts complete
        (List.forall_mem_map.mpr fun item _ => calm_ofWithItem text item) front member)
  | matchBlock span subject blocks =>
      obtain ⟨front, back⟩ := Placed.paired_matchBlock passes related
      simp only [Stmt.parts, Stmt.inner, List.append_nil] at inside
      rw [form, ofStmt]
      refine List.forall_mem_singleton.mpr (Placed.forall_inRole_none (fun child member => ?_)
        fun child => accounts_of_cases passes complete inside back)
      exact .inl (knows_of_drafts complete
        (List.forall_mem_singleton.mpr (calm_ofExpr text subject)) front member)
  | function =>
      have block := Placed.paired_function passes related
      simp only [Stmt.parts, Stmt.inner, List.nil_append] at inside
      rw [form, ofStmt]
      exact List.forall_mem_singleton.mpr fun child member =>
        .inl (knows_of_paired inside block member)
  | classDef =>
      have block := Placed.paired_classDef passes related
      simp only [Stmt.parts, Stmt.inner, List.nil_append] at inside
      rw [form, ofStmt]
      exact List.forall_mem_singleton.mpr fun child member =>
        .inl (knows_of_paired inside block member)
  | simple span own parts =>
      rw [form, ofStmt]
      cases own <;> exact List.forall_mem_nil _
  | imports span fromModule aliases =>
      rw [form, ofStmt]
      cases fromModule <;> exact List.forall_mem_nil _
  | scopeDeclaration | raise =>
      rw [form, ofStmt]
      exact List.forall_mem_nil _

/-- **From nodes to statements.** In a tree whose outermost nodes are those of the statements of a
program, every node is that of a statement, a piece of one, or a node without statements. -/
theorem accounts_of_lies {root : Placed} {above : List Placed} {docstring : Option String}
    (file : root.form = .file docstring)
    (outermost : List.Forall₂ R (ofStmts text program.body) (root.playing .statement))
    (sound : ∀ placed above, Placed.Lies root placed above →
      placed.isLeaf = true ∨ placed.Shaped)
    (lies : Placed.Lies root placed above) : program.Accounts R text placed := by
  induction lies with
  | root =>
      refine .inr ⟨by rw [file]; rfl, ?_⟩
      rw [file]
      exact List.forall_mem_singleton.mpr fun child =>
        knows_of_paired (fun _ => .outermost) outermost
  | @child parent above slot child upper member ih =>
      have shaped := Placed.shaped_of_child (sound parent above upper) member
      cases slot with
      | none =>
          obtain ⟨token, form⟩ := Placed.form_of_isLeaf (shaped.slotless child member)
          exact .inl (.inl (by rw [form]; rfl))
      | some slot =>
          by_cases block : slot.role ∈ parent.form.blockRoles
          · have plays : child ∈ parent.inRole slot.role := by
              cases role : slot.role with
              | none => exact Placed.mem_plain_iff.mpr ⟨slot, role, member⟩
              | some own => exact Placed.mem_playing_iff.mpr ⟨slot, role, member⟩
            rcases ih with (calm | ⟨stmt, contains, related⟩) | ⟨-, known⟩
            · rw [Form.blockRoles_of_isCalm calm] at block
              cases block
            · exact accounts_of_mem_inRole passes complete contains related _ block child plays
            · exact .inl (known _ block child plays)
          · exact .inl (.inl (Form.isCalm_of_admits (shaped.admitted slot child member).2 block))

end

end Program

end StructuralLint
