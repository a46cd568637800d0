import StructuralLint.Program.Stmt
import StructuralLint.Proofs.Lists

/-!
# Regions of a program

What a program binds, said of its syntax alone. The file, every function, class and lambda and every
comprehension is a region with names of its own (`Program.Region`). A region has the constructs
that bind a name in it, the declarations that stand in it and the regions that it opens, each at
any depth but not inside of another region (`Program.Region.Has`).

A comprehension is one region with all its clauses, so a name that is bound inside it is a name of
the comprehension.
-/

namespace StructuralLint.Program

/-- What binds a name. -/
inductive Construct where
  /-- A name that is stored to: by an assignment of any form, a loop or a context manager. -/
  | target (span : Span) (name : String)
  | function (span : Span) (name : String)
  | classDef (span : Span) (name : String)
  | parameter (span : Span) (name : String)
  | imported (imported : Alias)
  /-- The name of a caught exception, after the types that are caught. -/
  | caught (exception : Expr) (name : String)
  /-- A name that a pattern captures: alone, after `as`, as the rest of a sequence or a mapping. -/
  | captured (name : String)

/-- A part of the program with names of its own: the file, a definition or an expression. -/
inductive Region where
  | file (program : Program)
  | stmt (stmt : Stmt)
  | expr (expr : Expr)

/-- What a region has. -/
inductive Item where
  | binds (construct : Construct)
  | declares (span : Span) (isGlobal : Bool) (names : List String)
  | opens (region : Region)

/-! ### Signatures -/

namespace Parameters

variable {ε : Type} (parameters : Parameters ε)

/-- The defaults of the positional parameters, which are those of the last ones. -/
def positionalDefaults : List (Option ε) :=
  List.replicate
      (parameters.positionalOnly.length + parameters.regular.length - parameters.defaults.length)
      none
    ++ parameters.defaults.map some

/-- The parameters with their defaults. -/
def entries : List (Parameter ε × Option ε) :=
  (parameters.positionalOnly ++ parameters.regular).zip parameters.positionalDefaults
    ++ parameters.rest.toList.map (·, none)
    ++ parameters.keywordOnly.zip parameters.keywordDefaults
    ++ parameters.keywordRest.toList.map (·, none)

variable {parameters} in
/-- The parameters with their defaults, group by group. -/
theorem mem_entries {parameter : Parameter ε} {default : Option ε} :
    (parameter, default) ∈ parameters.entries ↔
      (parameter, default) ∈ parameters.positionalOnly.zip
          (parameters.positionalDefaults.take parameters.positionalOnly.length) ∨
        (parameter, default) ∈ parameters.regular.zip
          (parameters.positionalDefaults.drop parameters.positionalOnly.length) ∨
        (parameters.rest = some parameter ∧ none = default) ∨
        (parameter, default) ∈ parameters.keywordOnly.zip parameters.keywordDefaults ∨
        (parameters.keywordRest = some parameter ∧ none = default) := by
  simp only [entries, Lists.append_zip, List.mem_append, List.mem_map, Option.mem_toList,
    Prod.mk.injEq, or_assoc]
  grind

/-- What the parameters say about themselves: their type hints and defaults. -/
def details : List ε :=
  parameters.entries.flatMap fun (parameter, default) => parameter.hint.toList ++ default.toList

/-- The names of the parameters, which are bound where they are parameters of. -/
def items : List Item :=
  parameters.entries.map fun (parameter, _) => .binds (.parameter parameter.span parameter.name)

end Parameters

/-! ### Expressions -/

/-- The expressions of a clause of a comprehension. -/
def Clause.exprs : Clause → List Expr
  | .mk target iterable conditions => target :: iterable :: conditions

namespace Expr

/-- What an expression is by itself for the region that it stands in. -/
def items : Expr → List Item
  | .name span id .store => [.binds (.target span id)]
  | .lambda span parameters body => [.opens (.expr (.lambda span parameters body))]
  | .comprehension span collection elements clauses =>
    [.opens (.expr (.comprehension span collection elements clauses))]
  | _ => []

/-- The parts that stand in the region that the expression stands in. -/
def parts : Expr → List Expr
  | .member _ object _ => [object]
  | .lambda _ parameters _ => parameters.details
  | .compound _ _ parts => parts
  | _ => []

/-- The parts that stand in the region that the expression opens. -/
def inner : Expr → List Expr
  | .lambda _ _ body => [body]
  | .comprehension _ _ elements clauses => elements ++ clauses.flatMap Clause.exprs
  | _ => []

/-- What a region has by an expression in it. -/
inductive Has (item : Item) : Expr → Prop
  | own {expr : Expr} : item ∈ expr.items → Has item expr
  | part {expr part : Expr} : part ∈ expr.parts → Has item part → Has item expr

theorem exists_has_iff {holds : Item → Prop} {expr : Expr} :
    (∃ item, expr.Has item ∧ holds item) ↔ (∃ item ∈ expr.items, holds item) ∨
      ∃ part ∈ expr.parts, ∃ item, part.Has item ∧ holds item := by
  constructor
  · rintro ⟨item, own | ⟨member, has⟩, held⟩
    · exact .inl ⟨item, own, held⟩
    · exact .inr ⟨_, member, item, has, held⟩
  · rintro (⟨item, own, held⟩ | ⟨part, member, item, has, held⟩)
    · exact ⟨item, .own own, held⟩
    · exact ⟨item, .part member has, held⟩

end Expr

/-! ### Induction on the parts of expressions -/

namespace Expr

/-- What passes from the parts of an expression to the expression. -/
def PassesUp (motive : Expr → Prop) : Prop :=
  ∀ expr : Expr, (∀ part ∈ expr.parts, motive part) → motive expr

variable {motive : Expr → Prop}

mutual

/-- What passes from parts to expressions holds of every expression. -/
theorem induction_parts (step : PassesUp motive) : ∀ expr : Expr, motive expr
  | .name .. | .literal _ | .text .. | .interpolated _ | .comprehension .. =>
    step _ (by simp [parts])
  | .member _ object _ => step _ fun part member => by
    rw [List.mem_singleton.mp member]
    exact induction_parts step object
  | .lambda _ parameters _ => step _ (induction_details step parameters)
  | .compound _ _ parts => step _ (induction_list step parts)

theorem induction_list (step : PassesUp motive) : ∀ exprs : List Expr, ∀ expr ∈ exprs, motive expr
  | [] => by simp
  | expr :: rest => by
    intro other member
    rcases List.mem_cons.mp member with same | member
    · exact same ▸ induction_parts step expr
    · exact induction_list step rest other member

theorem induction_option (step : PassesUp motive) : ∀ (expr : Option Expr) (part : Expr),
    expr = some part → motive part
  | none => by simp
  | some expr => by
    intro part same
    rw [← Option.some.inj same]
    exact induction_parts step expr

theorem induction_options (step : PassesUp motive) : ∀ (exprs : List (Option Expr)) (part : Expr),
    some part ∈ exprs → motive part
  | [] => by simp
  | expr :: rest => by
    intro part member
    rcases List.mem_cons.mp member with same | member
    · exact induction_option step expr part same.symm
    · exact induction_options step rest part member

theorem induction_hint (step : PassesUp motive) : ∀ (parameter : Parameter Expr) (hint : Expr),
    parameter.hint = some hint → motive hint
  | ⟨_, _, hint⟩ => induction_option step hint

theorem induction_hints (step : PassesUp motive) : ∀ parameters : List (Parameter Expr),
    ∀ parameter ∈ parameters, ∀ hint, parameter.hint = some hint → motive hint
  | [] => by simp
  | parameter :: rest => by
    intro other member
    rcases List.mem_cons.mp member with same | member
    · exact same ▸ induction_hint step parameter
    · exact induction_hints step rest other member

theorem induction_hint? (step : PassesUp motive) : ∀ (given : Option (Parameter Expr))
    (parameter : Parameter Expr), given = some parameter →
      ∀ hint, parameter.hint = some hint → motive hint
  | none => by simp
  | some parameter => by
    intro other same
    rw [← Option.some.inj same]
    exact induction_hint step parameter

theorem induction_details (step : PassesUp motive) : ∀ parameters : Parameters Expr,
    ∀ detail ∈ parameters.details, motive detail
  | ⟨positionalOnly, regular, defaults, rest, keywordOnly, keywordDefaults, keywordRest⟩ => by
    intro detail member
    obtain ⟨⟨parameter, default⟩, listed, among⟩ := List.mem_flatMap.mp member
    rw [List.mem_append, Option.mem_toList, Option.mem_toList] at among
    rw [Parameters.mem_entries] at listed
    rcases among with hint | given
    · rcases listed with listed | listed | ⟨listed, -⟩ | listed | ⟨listed, -⟩
      · exact induction_hints step positionalOnly parameter (List.of_mem_zip listed).1 detail hint
      · exact induction_hints step regular parameter (List.of_mem_zip listed).1 detail hint
      · exact induction_hint? step rest parameter listed detail hint
      · exact induction_hints step keywordOnly parameter (List.of_mem_zip listed).1 detail hint
      · exact induction_hint? step keywordRest parameter listed detail hint
    · have positional (listed : default ∈ Parameters.positionalDefaults
          ⟨positionalOnly, regular, defaults, rest, keywordOnly, keywordDefaults, keywordRest⟩) :
          motive detail := by
        rw [given, Parameters.positionalDefaults, List.mem_append] at listed
        rcases listed with padding | listed
        · exact absurd (List.eq_of_mem_replicate padding) nofun
        · exact induction_list step defaults detail (by simpa using listed)
      rcases listed with listed | listed | ⟨-, none⟩ | listed | ⟨-, none⟩
      · exact positional (List.mem_of_mem_take (List.of_mem_zip listed).2)
      · exact positional (List.mem_of_mem_drop (List.of_mem_zip listed).2)
      · cases none.trans given
      · exact induction_options step keywordDefaults detail (given ▸ (List.of_mem_zip listed).2)
      · cases none.trans given

end

end Expr

/-! ### Patterns -/

namespace Pattern

/-- The name that a pattern captures by itself. -/
def name? : Pattern → Option String
  | .mapping _ _ _ name | .star _ name | .capture _ name => name
  | .named _ _ name => some name
  | _ => none

/-- The expressions that a pattern compares with. -/
def exprs : Pattern → List Expr
  | .value _ inner => [inner]
  | .mapping _ keys _ _ => keys
  | .instances _ type _ _ _ => [type]
  | _ => []

/-- The patterns that a pattern is made of. -/
def parts : Pattern → List Pattern
  | .sequence _ patterns | .mapping _ _ patterns _ | .alternatives _ patterns => patterns
  | .instances _ _ patterns _ attributePatterns => patterns ++ attributePatterns
  | .named _ pattern _ => [pattern]
  | _ => []

/-- What a region has by a pattern in it. -/
inductive Has (item : Item) : Pattern → Prop
  | own {pattern : Pattern} {name : String} :
      pattern.name? = some name → item = .binds (.captured name) → Has item pattern
  | expr {pattern : Pattern} {expr : Expr} :
      expr ∈ pattern.exprs → expr.Has item → Has item pattern
  | part {pattern part : Pattern} : part ∈ pattern.parts → Has item part → Has item pattern

theorem exists_has_iff {holds : Item → Prop} {pattern : Pattern} :
    (∃ item, pattern.Has item ∧ holds item) ↔
      (∃ name, pattern.name? = some name ∧ holds (.binds (.captured name))) ∨
        (∃ expr ∈ pattern.exprs, ∃ item, expr.Has item ∧ holds item) ∨
          ∃ part ∈ pattern.parts, ∃ item, part.Has item ∧ holds item := by
  constructor
  · rintro ⟨item, ⟨captures, rfl⟩ | ⟨member, has⟩ | ⟨member, has⟩, held⟩
    · exact .inl ⟨_, captures, held⟩
    · exact .inr (.inl ⟨_, member, item, has, held⟩)
    · exact .inr (.inr ⟨_, member, item, has, held⟩)
  · rintro (⟨name, captures, held⟩ | ⟨expr, member, item, has, held⟩ |
      ⟨part, member, item, has, held⟩)
    · exact ⟨_, .own captures rfl, held⟩
    · exact ⟨item, .expr member has, held⟩
    · exact ⟨item, .part member has, held⟩

/-- What passes from the parts of a pattern to the pattern. -/
def PassesUp (motive : Pattern → Prop) : Prop :=
  ∀ pattern : Pattern, (∀ part ∈ pattern.parts, motive part) → motive pattern

variable {motive : Pattern → Prop}

mutual

/-- What passes from parts to patterns holds of every pattern. -/
theorem induction_parts (step : PassesUp motive) : ∀ pattern : Pattern, motive pattern
  | .value .. | .singleton _ | .star .. | .capture .. => step _ (by simp [parts])
  | .sequence _ patterns | .mapping _ _ patterns _ | .alternatives _ patterns =>
    step _ (induction_list step patterns)
  | .instances _ _ patterns _ attributePatterns => step _ fun part member => by
    rcases List.mem_append.mp member with member | member
    · exact induction_list step patterns part member
    · exact induction_list step attributePatterns part member
  | .named _ pattern _ => step _ fun part member => by
    rw [List.mem_singleton.mp member]
    exact induction_parts step pattern

theorem induction_list (step : PassesUp motive) : ∀ patterns : List Pattern,
    ∀ pattern ∈ patterns, motive pattern
  | [] => by simp
  | pattern :: rest => by
    intro other member
    rcases List.mem_cons.mp member with same | member
    · exact same ▸ induction_parts step pattern
    · exact induction_list step rest other member

end

end Pattern

/-! ### Statements -/

/-- What a caught exception is bound to. -/
def Handler.items : Handler → List Item
  | .mk _ (some exception) (some name) _ => [.binds (.caught exception name)]
  | _ => []

/-- What an `except` clause catches. -/
def Handler.exprs : Handler → List Expr
  | .mk _ exception _ _ => exception.toList

/-- The statements of an `except` clause. -/
def Handler.body : Handler → List Stmt
  | .mk _ _ _ body => body

/-- The pattern of a `case` block. -/
def Case.pattern : Case → Pattern
  | .mk pattern _ _ => pattern

/-- The condition of a `case` block. -/
def Case.exprs : Case → List Expr
  | .mk _ guard _ => guard.toList

/-- The statements of a `case` block. -/
def Case.body : Case → List Stmt
  | .mk _ _ body => body

/-- The context that is entered and what it is bound to. -/
def WithItem.exprs (item : WithItem) : List Expr := item.context :: item.target.toList

namespace Stmt

/-- What a statement is by itself for the region that it stands in. The star of an import names
nothing. -/
def items : Stmt → List Item
  | .imports _ _ aliases => (aliases.filter (·.name ≠ "*")).map fun imported =>
    .binds (.imported imported)
  | .scopeDeclaration span isGlobal names => [.declares span isGlobal names]
  | .tryBlock _ _ _ handlers _ _ => handlers.flatMap Handler.items
  | .function span isAsync name parameters returns decorators body =>
    [.binds (.function span name),
      .opens (.stmt (.function span isAsync name parameters returns decorators body))]
  | .classDef span name bases keywords decorators body =>
    [.binds (.classDef span name),
      .opens (.stmt (.classDef span name bases keywords decorators body))]
  | _ => []

/-- The expressions that stand in the region that the statement stands in. -/
def exprs : Stmt → List Expr
  | .simple _ _ parts => parts
  | .raise _ exception cause => exception.toList ++ cause.toList
  | .conditional _ test _ _ | .whileLoop _ test _ _ => [test]
  | .forLoop _ _ target iterable _ _ => [target, iterable]
  | .tryBlock _ _ _ handlers _ _ => handlers.flatMap Handler.exprs
  | .withBlock _ items _ => items.flatMap WithItem.exprs
  | .matchBlock _ subject cases => subject :: cases.flatMap Case.exprs
  | .function _ _ _ parameters returns decorators _ =>
    parameters.details ++ returns.toList ++ decorators
  | .classDef _ _ bases keywords decorators _ => bases ++ keywords ++ decorators
  | .imports _ _ _ | .scopeDeclaration _ _ _ => []

/-- The patterns that stand in the region that the statement stands in. -/
def patterns : Stmt → List Pattern
  | .matchBlock _ _ cases => cases.map Case.pattern
  | _ => []

/-- The statements that stand in the region that the statement stands in. -/
def parts : Stmt → List Stmt
  | .conditional _ _ body orelse | .whileLoop _ _ body orelse
  | .forLoop _ _ _ _ body orelse => body ++ orelse
  | .tryBlock _ _ body handlers orelse final =>
    body ++ handlers.flatMap Handler.body ++ orelse ++ final
  | .withBlock _ _ body => body
  | .matchBlock _ _ cases => cases.flatMap Case.body
  | _ => []

/-- The statements that stand in the region that the statement opens. -/
def inner : Stmt → List Stmt
  | .function _ _ _ _ _ _ body | .classDef _ _ _ _ _ body => body
  | _ => []

/-- What a region has by a statement in it. -/
inductive Has (item : Item) : Stmt → Prop
  | own {stmt : Stmt} : item ∈ stmt.items → Has item stmt
  | expr {stmt : Stmt} {expr : Expr} : expr ∈ stmt.exprs → expr.Has item → Has item stmt
  | pattern {stmt : Stmt} {pattern : Pattern} :
      pattern ∈ stmt.patterns → pattern.Has item → Has item stmt
  | part {stmt part : Stmt} : part ∈ stmt.parts → Has item part → Has item stmt

theorem exists_has_iff {holds : Item → Prop} {stmt : Stmt} :
    (∃ item, stmt.Has item ∧ holds item) ↔ (∃ item ∈ stmt.items, holds item) ∨
      (∃ expr ∈ stmt.exprs, ∃ item, expr.Has item ∧ holds item) ∨
        (∃ pattern ∈ stmt.patterns, ∃ item, pattern.Has item ∧ holds item) ∨
          ∃ part ∈ stmt.parts, ∃ item, part.Has item ∧ holds item := by
  constructor
  · rintro ⟨item, own | ⟨member, has⟩ | ⟨member, has⟩ | ⟨member, has⟩, held⟩
    · exact .inl ⟨item, own, held⟩
    · exact .inr (.inl ⟨_, member, item, has, held⟩)
    · exact .inr (.inr (.inl ⟨_, member, item, has, held⟩))
    · exact .inr (.inr (.inr ⟨_, member, item, has, held⟩))
  · rintro (⟨item, own, held⟩ | ⟨expr, member, item, has, held⟩ |
      ⟨pattern, member, item, has, held⟩ | ⟨part, member, item, has, held⟩)
    · exact ⟨item, .own own, held⟩
    · exact ⟨item, .expr member has, held⟩
    · exact ⟨item, .pattern member has, held⟩
    · exact ⟨item, .part member has, held⟩

/-- What passes from the parts of a statement to the statement. -/
def PassesUp (motive : Stmt → Prop) : Prop :=
  ∀ stmt : Stmt, (∀ part ∈ stmt.parts, motive part) → motive stmt

variable {motive : Stmt → Prop}

mutual

/-- What passes from parts to statements holds of every statement. -/
theorem induction_parts (step : PassesUp motive) : ∀ stmt : Stmt, motive stmt
  | .simple .. | .imports .. | .scopeDeclaration .. | .raise .. | .function .. | .classDef .. =>
    step _ (by simp [parts])
  | .conditional _ _ body orelse | .whileLoop _ _ body orelse | .forLoop _ _ _ _ body orelse =>
    step _ fun part member => by
      rcases List.mem_append.mp member with member | member
      · exact induction_list step body part member
      · exact induction_list step orelse part member
  | .tryBlock _ _ body handlers orelse final => step _ fun part member => by
    simp only [parts, List.mem_append, or_assoc] at member
    rcases member with member | member | member | member
    · exact induction_list step body part member
    · exact induction_handlers step handlers part member
    · exact induction_list step orelse part member
    · exact induction_list step final part member
  | .withBlock _ _ body => step _ (induction_list step body)
  | .matchBlock _ _ cases => step _ (induction_cases step cases)

theorem induction_list (step : PassesUp motive) : ∀ stmts : List Stmt, ∀ stmt ∈ stmts, motive stmt
  | [] => by simp
  | stmt :: rest => by
    intro other member
    rcases List.mem_cons.mp member with same | member
    · exact same ▸ induction_parts step stmt
    · exact induction_list step rest other member

theorem induction_handlers (step : PassesUp motive) : ∀ handlers : List Handler,
    ∀ stmt ∈ handlers.flatMap Handler.body, motive stmt
  | [] => by simp
  | .mk _ _ _ body :: rest => by
    intro stmt member
    rcases List.mem_append.mp member with member | member
    · exact induction_list step body stmt member
    · exact induction_handlers step rest stmt member

theorem induction_cases (step : PassesUp motive) : ∀ cases : List Case,
    ∀ stmt ∈ cases.flatMap Case.body, motive stmt
  | [] => by simp
  | .mk _ _ body :: rest => by
    intro stmt member
    rcases List.mem_append.mp member with member | member
    · exact induction_list step body stmt member
    · exact induction_cases step rest stmt member

end

end Stmt

/-! ### Regions -/

namespace Region

/-- What the signature of the region binds. -/
def items : Region → List Item
  | .stmt (.function _ _ _ parameters _ _ _) => parameters.items
  | .expr (.lambda _ parameters _) => parameters.items
  | _ => []

/-- The expressions that stand in the region of an expression. -/
def exprs : Region → List Expr
  | .expr opening => opening.inner
  | _ => []

/-- The statements of a region. -/
def stmts : Region → List Stmt
  | .file program => program.body
  | .stmt opening => opening.inner
  | .expr _ => []

/-- What stands in a region, but not inside of a region in it. -/
def Has (region : Region) (item : Item) : Prop :=
  item ∈ region.items ∨ (∃ expr ∈ region.exprs, expr.Has item) ∨
    ∃ stmt ∈ region.stmts, stmt.Has item

theorem exists_has_iff {holds : Item → Prop} {region : Region} :
    (∃ item, region.Has item ∧ holds item) ↔ (∃ item ∈ region.items, holds item) ∨
      (∃ expr ∈ region.exprs, ∃ item, expr.Has item ∧ holds item) ∨
        ∃ stmt ∈ region.stmts, ∃ item, stmt.Has item ∧ holds item := by
  constructor
  · rintro ⟨item, own | ⟨expr, member, has⟩ | ⟨stmt, member, has⟩, held⟩
    · exact .inl ⟨item, own, held⟩
    · exact .inr (.inl ⟨expr, member, item, has, held⟩)
    · exact .inr (.inr ⟨stmt, member, item, has, held⟩)
  · rintro (⟨item, own, held⟩ | ⟨expr, member, item, has, held⟩ | ⟨stmt, member, item, has, held⟩)
    · exact ⟨item, .inl own, held⟩
    · exact ⟨item, .inr (.inl ⟨expr, member, has⟩), held⟩
    · exact ⟨item, .inr (.inr ⟨stmt, member, has⟩), held⟩

end Region

/-! ### What is had -/

/-- Whether a region is one that is opened. The file is there from the start. -/
def Region.isOpen : Region → Bool
  | .stmt (.function ..) | .stmt (.classDef ..) => true
  | .expr (.lambda ..) | .expr (.comprehension ..) => true
  | _ => false

/-- The definition that opens a region. -/
def Region.definition? : Region → Option Construct
  | .stmt (.function span _ name ..) => some (.function span name)
  | .stmt (.classDef span name ..) => some (.classDef span name)
  | _ => none

/-- Whether something defines a function or a class. -/
def Construct.isDefinition : Construct → Bool
  | .function _ _ | .classDef _ _ => true
  | _ => false

variable {item : Item} {opened : Region} {construct : Construct}

/-- What an expression is for its region: a target, or what opens a region. -/
theorem Expr.Has.cases {expr : Expr} (has : expr.Has item) :
    (∃ span name, item = .binds (.target span name)) ∨
      ∃ opened : Region, item = .opens opened ∧ opened.isOpen = true := by
  induction has with
  | @own expr member =>
      cases expr with
      | name span name use =>
          cases use with
          | store => exact .inl ⟨span, name, List.mem_singleton.mp member⟩
          | load | delete => cases member
      | lambda | comprehension => exact .inr ⟨_, List.mem_singleton.mp member, rfl⟩
      | _ => cases member
  | part _ _ ih => exact ih

theorem Pattern.Has.cases {pattern : Pattern} (has : pattern.Has item) :
    (∃ name, item = .binds (.captured name)) ∨ ∃ expr : Expr, expr.Has item := by
  induction has with
  | own _ same => exact .inl ⟨_, same⟩
  | expr _ has => exact .inr ⟨_, has⟩
  | part _ _ ih => exact ih

theorem Handler.exists_of_mem_items {handlers : List Handler}
    (member : item ∈ handlers.flatMap Handler.items) :
    ∃ exception name, item = .binds (.caught exception name) := by
  obtain ⟨⟨_, exception, name, _⟩, -, among⟩ := List.mem_flatMap.mp member
  cases exception with
  | none => cases among
  | some exception =>
      cases name with
      | none => cases among
      | some name => exact ⟨exception, name, List.mem_singleton.mp among⟩

namespace Stmt

variable {stmt : Stmt}

theorem isOpen_of_mem_items (member : .opens opened ∈ stmt.items) : opened.isOpen = true := by
  cases stmt with
  | function | classDef =>
      rcases List.mem_cons.mp member with same | member
      · cases same
      · cases List.mem_singleton.mp member
        rfl
  | imports =>
      obtain ⟨imported, -, same⟩ := List.mem_map.mp member
      cases same
  | scopeDeclaration => cases List.mem_singleton.mp member
  | tryBlock =>
      obtain ⟨exception, name, same⟩ := Handler.exists_of_mem_items member
      cases same
  | _ => cases member

theorem name_ne_star_of_mem_items {imported : Alias}
    (member : .binds (.imported imported) ∈ stmt.items) : imported.name ≠ "*" := by
  cases stmt with
  | function | classDef => simp [items] at member
  | imports =>
      obtain ⟨imported, among, same⟩ := List.mem_map.mp member
      cases same
      exact of_decide_eq_true (List.mem_filter.mp among).2
  | scopeDeclaration => cases List.mem_singleton.mp member
  | tryBlock =>
      obtain ⟨exception, name, same⟩ := Handler.exists_of_mem_items member
      cases same
  | _ => cases member

/-- What defines opens a region. -/
theorem exists_opens_of_mem_items (member : .binds construct ∈ stmt.items)
    (defines : construct.isDefinition = true) :
    ∃ opened, .opens opened ∈ stmt.items ∧ opened.definition? = some construct := by
  cases stmt with
  | function | classDef =>
      rcases List.mem_cons.mp member with same | member
      · cases same
        exact ⟨_, List.mem_cons_of_mem _ List.mem_cons_self, rfl⟩
      · cases List.mem_singleton.mp member
  | imports =>
      obtain ⟨imported, -, same⟩ := List.mem_map.mp member
      cases same
      cases defines
  | scopeDeclaration => cases List.mem_singleton.mp member
  | tryBlock =>
      obtain ⟨exception, name, same⟩ := Handler.exists_of_mem_items member
      cases same
      cases defines
  | _ => cases member

end Stmt

/-- What holds of the items of statements, of targets and of what is opened holds of whatever a
statement has. -/
theorem Stmt.Has.of_items {stmt : Stmt} {motive : Item → Prop}
    (targets : ∀ span name, motive (.binds (.target span name)))
    (captures : ∀ name, motive (.binds (.captured name)))
    (opens : ∀ opened : Region, opened.isOpen = true → motive (.opens opened))
    (items : ∀ (stmt : Stmt), ∀ item ∈ stmt.items, motive item) (has : stmt.Has item) :
    motive item := by
  have inExpr {expr : Expr} (has : expr.Has item) : motive item := by
    rcases has.cases with ⟨span, name, rfl⟩ | ⟨opened, rfl, isOpen⟩
    · exact targets span name
    · exact opens opened isOpen
  induction has with
  | own member => exact items _ _ member
  | expr _ has => exact inExpr has
  | pattern _ has =>
      rcases has.cases with ⟨name, rfl⟩ | ⟨expr, has⟩
      · exact captures name
      · exact inExpr has
  | part _ _ ih => exact ih

/-- Expressions define no function and no class. -/
theorem Expr.Has.not_isDefinition {expr : Expr} (has : expr.Has (.binds construct)) :
    construct.isDefinition = false := by
  rcases has.cases with ⟨span, name, same⟩ | ⟨opened, same, -⟩
  · cases same
    rfl
  · cases same

/-- Where a definition is bound, it opens a region. -/
theorem Stmt.Has.exists_opens {stmt : Stmt} (has : stmt.Has (.binds construct))
    (defines : construct.isDefinition = true) :
    ∃ opened, stmt.Has (.opens opened) ∧ opened.definition? = some construct := by
  induction has with
  | own member =>
      obtain ⟨opened, member, same⟩ := exists_opens_of_mem_items member defines
      exact ⟨opened, .own member, same⟩
  | expr _ has =>
      rw [has.not_isDefinition] at defines
      cases defines
  | pattern _ has =>
      rcases has.cases with ⟨name, same⟩ | ⟨expr, has⟩
      · cases same
        cases defines
      · rw [has.not_isDefinition] at defines
        cases defines
  | part member _ ih =>
      obtain ⟨opened, has, same⟩ := ih
      exact ⟨opened, .part member has, same⟩

namespace Region

variable {region : Region}

theorem exists_of_mem_items (member : item ∈ region.items) :
    ∃ span name, item = .binds (.parameter span name) := by
  unfold items at member
  split at member
  · obtain ⟨entry, -, rfl⟩ := List.mem_map.mp member
    exact ⟨_, _, rfl⟩
  · obtain ⟨entry, -, rfl⟩ := List.mem_map.mp member
    exact ⟨_, _, rfl⟩
  · cases member

theorem Has.of_items {motive : Item → Prop}
    (targets : ∀ span name, motive (.binds (.target span name)))
    (captures : ∀ name, motive (.binds (.captured name)))
    (parameters : ∀ span name, motive (.binds (.parameter span name)))
    (opens : ∀ opened : Region, opened.isOpen = true → motive (.opens opened))
    (items : ∀ (stmt : Stmt), ∀ item ∈ stmt.items, motive item) (has : region.Has item) :
    motive item := by
  rcases has with own | ⟨expr, -, has⟩ | ⟨stmt, -, has⟩
  · obtain ⟨span, name, rfl⟩ := exists_of_mem_items own
    exact parameters span name
  · rcases has.cases with ⟨span, name, rfl⟩ | ⟨opened, rfl, isOpen⟩
    · exact targets span name
    · exact opens opened isOpen
  · exact has.of_items targets captures opens items

/-- Only what opens a region is opened. -/
theorem Has.isOpen (has : region.Has (.opens opened)) : opened.isOpen = true :=
  of_items (motive := fun item => ∀ opened, item = .opens opened → opened.isOpen = true)
    nofun nofun nofun
    (fun _ isOpen _ same => by
      cases same
      exact isOpen)
    (fun _ _ member _ same => by
      subst same
      exact Stmt.isOpen_of_mem_items member)
    has opened rfl

/-- A star is no name. -/
theorem Has.name_ne_star {imported : Alias} (has : region.Has (.binds (.imported imported))) :
    imported.name ≠ "*" :=
  of_items (motive := fun item => ∀ imported, item = .binds (.imported imported) →
      imported.name ≠ "*")
    nofun nofun nofun nofun
    (fun _ _ member _ same => by
      subst same
      exact Stmt.name_ne_star_of_mem_items member)
    has imported rfl

theorem Has.exists_opens (has : region.Has (.binds construct))
    (defines : construct.isDefinition = true) :
    ∃ opened, region.Has (.opens opened) ∧ opened.definition? = some construct := by
  rcases has with own | ⟨expr, -, has⟩ | ⟨stmt, member, has⟩
  · obtain ⟨span, name, same⟩ := exists_of_mem_items own
    cases same
    cases defines
  · rw [has.not_isDefinition] at defines
    cases defines
  · obtain ⟨opened, has, same⟩ := has.exists_opens defines
    exact ⟨opened, .inr (.inr ⟨stmt, member, has⟩), same⟩

end Region

/-! ### Names -/

/-- The name that an import binds: the new name, or the first of the names between dots. -/
def Alias.boundName (imported : Alias) : String :=
  imported.asName.getD (String.ofList (imported.name.toList.takeWhile (· ≠ '.')))

namespace Construct

/-- The name that is bound. -/
def name : Construct → String
  | .target _ name | .function _ name | .classDef _ name | .parameter _ name | .caught _ name
  | .captured name => name
  | .imported clause => clause.boundName

end Construct

end StructuralLint.Program
