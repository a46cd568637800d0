import StructuralLint.Proofs.Tree.Parts
import StructuralLint.Tree.Building

/-!
# The shape of the nodes of a program

Each form of node has parts of its own: a function has decorators, a name, a parameter list, a
type hint and a body, a parameter list has entries, and so on. `Form.admits` says which node may
play which role, `Role.isSingle` which roles at most one part plays, and `Fields.Agrees` says that
a node holds by its attributes the parts that it has. Every draft that is made from a program has
this shape all the way down (`Draft.shaped_ofProgram`), and so has every node of a tree that
completes such a draft (`Placed.Lies.shaped`).
-/

namespace StructuralLint

open Program

/-- The kinds of nodes that have a form of their own. -/
def Kind.hasForm : Kind → Bool
  | token | name | fileInput | parameter | tupleParameter | parameterList | function | classDef
  | lambda | raiseStatement | elseClause | finallyClause | exceptClause | tryStatement
  | ifStatement | whileStatement | forStatement | globalStatement | nonlocalStatement => true
  | _ => false

/-- The kinds of nodes without a form of their own that have statements among their parts. -/
def Kind.isBlock : Kind → Bool
  | withStatement | matchStatement | caseBlock => true
  | _ => false

namespace Form

/-- Whether no statement stands below a node of this form. -/
def isCalm : Form → Bool
  | token _ | parameter | parameterList | name _ _ | lambda => true
  | plain kind => !kind.hasForm && !kind.isBlock
  | _ => false

/-- Whether a node of this form is an expression, a statement or another part of a program that
stands by itself, and not a piece of one other form. -/
def isFree : Form → Bool
  | token _ | file _ | parameter | tupleParameter | parameterList | elseClause | finallyClause
  | exceptClause _ => false
  | plain kind => !kind.hasForm
  | _ => true

/-- Whether a node of this form is a name that binds. -/
def isBinding : Form → Bool
  | name _ binds => binds
  | _ => false

/-- Whether a node of this form is a name that binds nothing. -/
def isReading : Form → Bool
  | name _ binds => !binds
  | _ => false

/-- The roles of the parts of a node that statements may stand in. -/
def blockRoles : Form → List (Option Role)
  | file _ => [some .statement]
  | function _ | classDef | elseClause | finallyClause | exceptClause _ => [some .body]
  | tryStatement => [some .body, some .handler, some .elseClause, some .finallyClause]
  | ifStatement => [some .body, some .elifBranch, some .elseClause]
  | whileLoop | forLoop _ => [some .body, some .elseClause]
  | plain kind => if kind.isBlock then [none] else []
  | _ => []

/-- Whether a node of one form may have a node of another form for a part in a role. -/
def admits (form : Form) (role : Option Role) (part : Form) : Bool :=
  match form, role with
  | plain kind, none => part.isFree && (kind.isBlock || part.isCalm)
  | file _, some .statement | function _, some .body | classDef, some .body
  | elseClause, some .body | finallyClause, some .body | exceptClause _, some .body
  | tryStatement, some .body | ifStatement, some .body | whileLoop, some .body
  | forLoop _, some .body => part.isFree
  | parameter, some .hint | parameter, some .defaultValue
  | function _, some .decorator | function _, some .returnHint
  | classDef, some .decorator | classDef, some .argument
  | lambda, some .expression | raise, some .expression | raise, some .cause
  | exceptClause _, some .exception | ifStatement, some .condition | whileLoop, some .condition
  | forLoop _, some .target | forLoop _, some .iterable => part.isFree && part.isCalm
  | parameter, some .name | function _, some .name | classDef, some .name
  | exceptClause _, some .caught => part.isBinding
  | function _, some .parameters | lambda, some .parameters => part = parameterList
  | parameterList, some .entry => part = parameter
  | tryStatement, some .handler => part.kind = .exceptClause
  | tryStatement, some .elseClause | ifStatement, some .elseClause | whileLoop, some .elseClause
  | forLoop _, some .elseClause => part = elseClause
  | tryStatement, some .finallyClause => part = finallyClause
  | ifStatement, some .elifBranch => part = ifStatement
  | scopeDeclaration _, some .declared => part.isReading
  | _, _ => false

theorem isCalm_of_isBinding {form : Form} (binds : form.isBinding = true) :
    form.isCalm = true := by
  cases form <;> simp_all [isBinding, isCalm]

theorem isCalm_of_isReading {form : Form} (reads : form.isReading = true) :
    form.isCalm = true := by
  cases form <;> simp_all [isReading, isCalm]

/-- A part in a role that leads to no statements has none in it. -/
theorem isCalm_of_admits {form part : Form} {role : Option Role}
    (fits : form.admits role part = true) (other : role ∉ form.blockRoles) :
    part.isCalm = true := by
  rw [admits.eq_def] at fits
  split at fits <;> first
    | exact isCalm_of_isBinding fits
    | exact isCalm_of_isReading fits
    | exact of_decide_eq_true fits ▸ rfl
    | simp_all [blockRoles]

/-- No role leads from a calm node to statements. -/
theorem blockRoles_of_isCalm {form : Form} (calm : form.isCalm = true) : form.blockRoles = [] := by
  cases form <;> simp_all [blockRoles, isCalm]

/-- The roles that parts of a node may have. -/
def partRoles : Form → List (Option Role)
  | file _ => [some .statement]
  | parameter => [some .name, some .hint, some .defaultValue]
  | parameterList => [some .entry]
  | function _ =>
    [some .decorator, some .name, some .parameters, some .returnHint, some .body]
  | classDef => [some .decorator, some .name, some .argument, some .body]
  | lambda => [some .parameters, some .expression]
  | raise => [some .expression, some .cause]
  | elseClause | finallyClause => [some .body]
  | exceptClause _ => [some .exception, some .caught, some .body]
  | tryStatement => [some .body, some .handler, some .elseClause, some .finallyClause]
  | ifStatement => [some .condition, some .body, some .elifBranch, some .elseClause]
  | whileLoop => [some .condition, some .body, some .elseClause]
  | forLoop _ => [some .target, some .iterable, some .body, some .elseClause]
  | scopeDeclaration _ => [some .declared]
  | plain _ => [none]
  | _ => []

theorem mem_partRoles {form part : Form} {role : Option Role}
    (fits : form.admits role part = true) : role ∈ form.partRoles := by
  rw [admits.eq_def] at fits
  split at fits <;> first
    | cases fits
    | simp [partRoles]

/-- No token plays a role of a part. -/
theorem admits_token (form : Form) (role : Role) (token : Token) :
    form.admits (some role) (.token token) = false := by
  rw [admits.eq_def]
  split <;> rfl

theorem nodup_partRoles (form : Form) : form.partRoles.Nodup := by
  cases form <;> simp [partRoles]

theorem nodup_blockRoles (form : Form) : form.blockRoles.Nodup := by
  cases form <;> simp [blockRoles]
  split <;> simp

/-- Whether nodes of this form are made from programs. -/
def isProper : Form → Bool
  | token _ | tupleParameter => false
  | plain kind => !kind.hasForm
  | _ => true

theorem kind_eq_raiseStatement {form : Form} (proper : form.isProper = true) :
    form.kind = .raiseStatement ↔ form = .raise := by
  cases form with
  | plain kind => cases kind <;> simp_all [Form.kind, isProper, Kind.hasForm]
  | scopeDeclaration isGlobal => cases isGlobal <;> simp [Form.kind]
  | _ => simp [Form.kind]

end Form

/-- Whether at most one part of a node plays the role. -/
def Role.isSingle : Role → Bool
  | decorator | argument | body | statement | entry | handler | declared => false
  | _ => true

/-- Whether tokens play the role. -/
def Role.isMark : Role → Bool
  | star | keyword => true
  | _ => false

/-- What a node holds by its attributes are its parts in these roles, not more of them than may play
a role, and tokens in the roles that tokens play. -/
structure Fields.Agrees (fields : Fields) (roles : List (Option Role)) : Prop where
  marked : ∀ mark ∈ fields.tokens, mark.1.isMark = true
  held : ∀ role, fields.roles.count role = roles.count (some role)
  single : ∀ role : Role, role.isSingle = true → fields.roles.count role ≤ 1

namespace Fields.Agrees

variable {fields : Fields} {roles roles' : List (Option Role)}

theorem perm (agrees : fields.Agrees roles) (same : roles.Perm roles') : fields.Agrees roles' :=
  ⟨agrees.marked, fun role => (agrees.held role).trans (same.count_eq _), agrees.single⟩

/-- Without attributes, no part plays a role. -/
theorem empty (plain : ∀ role ∈ roles, role = none) : Fields.empty.Agrees roles := by
  refine ⟨fun mark member => absurd member List.not_mem_nil, fun role => ?_, fun role _ => ?_⟩
  · have absent : some role ∉ roles := fun member => nomatch plain _ member
    rw [List.count_eq_zero_of_not_mem absent]
    rfl
  · exact Nat.zero_le 1

variable {α : Type} {tokens : List (Role × Token)} {held : List (Role × List α)}

/-- If every role is given once, with not more nodes than may play it, what only one node may play
is not held twice. -/
theorem count_of_le_one (apart : (held.map (·.1)).Nodup)
    (short : ∀ block ∈ held, block.1.isSingle = true → block.2.length ≤ 1) {role : Role}
    (alone : role.isSingle = true) : (Fields.of tokens held).roles.count role ≤ 1 := by
  unfold Fields.of
  induction held with
  | nil => exact Nat.zero_le 1
  | cons block rest ih =>
      obtain ⟨first, others⟩ := List.nodup_cons.mp apart
      have below := ih others fun block member => short block (List.mem_cons_of_mem _ member)
      rw [List.flatMap_cons, List.count_append, List.count_replicate]
      by_cases same : block.1 = role
      · have absent : role ∉ rest.flatMap fun block =>
            List.replicate block.2.length block.1 := by
          intro member
          obtain ⟨other, among, named⟩ := List.mem_flatMap.mp member
          rw [List.eq_of_mem_replicate named] at same
          exact first (List.mem_map.mpr ⟨other, among, same.symm⟩)
        rw [List.count_eq_zero_of_not_mem absent, if_pos (by simpa using same)]
        exact short block List.mem_cons_self (same ▸ alone)
      · rw [if_neg (by simpa using same), Nat.zero_add]
        exact below

/-- What is held is what is given. -/
theorem of (same : ∀ role, (Fields.of tokens held).roles.count role = roles.count (some role))
    (marked : ∀ mark ∈ tokens, mark.1.isMark = true := by simp)
    (apart : (held.map (·.1)).Nodup := by simp)
    (short : ∀ block ∈ held, block.1.isSingle = true → block.2.length ≤ 1 := by
      simp [Role.isSingle]) : (Fields.of tokens held).Agrees roles :=
  ⟨marked, same, fun _ => count_of_le_one apart short⟩

end Fields.Agrees

namespace Draft

/-- What the node is. -/
def form : Draft → Form
  | leaf token => .token token
  | node form .. => form

/-- The parts of a node are such as its form has, and it holds those that play a role. -/
structure Fitting (form : Form) (fields : Fields) (parts : List (Slot × Draft)) : Prop where
  proper : form.isProper = true
  admitted : ∀ part ∈ parts, part.2.isNode = true ∨ part.1.role.isSome = true →
    form.admits part.1.role part.2.form = true
  single : ∀ role : Role, role.isSingle = true → (parts.map (·.1.role)).count (some role) ≤ 1
  agrees : fields.Agrees (parts.map (·.1.role))
  places : (parts.map (·.1.place)).Nodup

/-- A part in a role is a node. -/
theorem isNode_of_admits {form : Form} {role : Role} {draft : Draft}
    (fits : form.admits (some role) draft.form = true) : draft.isNode = true := by
  cases draft with
  | leaf token => exact absurd fits (by simp [Draft.form, Form.admits_token])
  | node => rfl

/-- The parts of all nodes are such as their forms have. -/
inductive Shaped : Draft → Prop
  | leaf (token : Token) : Shaped (.leaf token)
  | node {form : Form} {span : Span} {fields : Fields} {parts : List (Slot × Draft)} :
      Fitting form fields parts → (∀ part ∈ parts, Shaped part.2) →
        Shaped (.node form span fields parts)

/-- A part that stands by itself and has its shape all the way down. -/
structure Free (draft : Draft) : Prop where
  shaped : draft.Shaped
  isNode : draft.isNode = true
  isFree : draft.form.isFree = true

/-- A part that stands by itself and has no statement in it. -/
structure Calm (draft : Draft) : Prop extends Free draft where
  isCalm : draft.form.isCalm = true

/-- Given parts that a node of a form may have, apart from how many play a role. -/
def Admitted (form : Form) (given : List (Option Role × Draft)) : Prop :=
  ∀ part ∈ given, part.2.Shaped ∧ (part.2.isNode = true ∨ part.1.isSome = true →
    form.admits part.1 part.2.form = true)

/-- The roles of given parts. -/
abbrev roles (given : List (Option Role × Draft)) : List (Option Role) := given.map (·.1)

theorem Shaped.tokensAreLeaves {draft : Draft} (shaped : draft.Shaped) : draft.TokensAreLeaves := by
  induction shaped with
  | leaf token => exact .leaf token
  | @node form _ _ _ fitting _ ih =>
      refine .node ?_ ih
      rintro token rfl
      exact absurd fitting.proper (by simp [Form.isProper])

/-- Given parts make a node of the right shape. -/
theorem Shaped.of_given {form : Form} {span : Span} {fields : Fields}
    {parts : List (Slot × Draft)} {given : List (Option Role × Draft)}
    (arranged : parts.Perm (slots given)) (proper : form.isProper = true)
    (admitted : Admitted form given)
    (agrees : fields.Agrees (roles given)) : (Draft.node form span fields parts).Shaped := by
  have known : ∀ part ∈ parts, (part.1.role, part.2) ∈ given := by
    intro part member
    rw [← map_role_slots given]
    exact List.mem_map_of_mem (arranged.mem_iff.mp member)
  have same : (parts.map (·.1.role)).Perm (roles given) := by
    refine (arranged.map _).trans (List.Perm.of_eq ?_)
    conv_rhs => rw [← map_role_slots given]
    rw [roles, List.map_map]
    rfl
  have fitting : Fitting form fields parts :=
    { proper
      admitted := fun part member => (admitted _ (known part member)).2
      single := fun role alone =>
        ((same.count_eq _).trans (agrees.held role).symm).trans_le (agrees.single role alone)
      agrees := agrees.perm same.symm
      places := places_nodup_of_perm arranged }
  exact .node fitting fun part member => (admitted _ (known part member)).1

/-! ### Blocks of parts -/

theorem Admitted.append {form : Form} {left right : List (Option Role × Draft)}
    (first : Admitted form left) (second : Admitted form right) :
    Admitted form (left ++ right) := by
  intro part member
  rcases List.mem_append.mp member with member | member
  · exact first part member
  · exact second part member

theorem admitted_playing {form : Form} {role : Role} {drafts : List Draft}
    (each : ∀ draft ∈ drafts, draft.Shaped ∧ form.admits (some role) draft.form = true) :
    Admitted form (playing role drafts) := by
  intro part member
  obtain ⟨draft, among, rfl⟩ := List.mem_map.mp member
  exact ⟨(each draft among).1, fun _ => (each draft among).2⟩

/-- Parts that stand by themselves fit where the form asks for no more. -/
theorem admitted_playing_free {form : Form} {role : Role} {drafts : List Draft}
    (free : ∀ draft ∈ drafts, draft.Free)
    (admits : ∀ part : Form, part.isFree = true → form.admits (some role) part = true := by
      intro _ free; exact free) : Admitted form (playing role drafts) :=
  admitted_playing fun draft member =>
    ⟨(free draft member).shaped, admits _ (free draft member).isFree⟩

theorem admitted_playing_calm {form : Form} {role : Role} {drafts : List Draft}
    (calm : ∀ draft ∈ drafts, draft.Calm)
    (admits : ∀ part : Form, (part.isFree && part.isCalm) = true →
      form.admits (some role) part = true := by intro _ calm; exact calm) :
    Admitted form (playing role drafts) :=
  admitted_playing fun draft member =>
    ⟨(calm draft member).shaped,
      admits _ (by simp [(calm draft member).isFree, (calm draft member).isCalm])⟩

theorem admitted_plain_free {kind : Kind} {drafts : List Draft} (block : kind.isBlock = true)
    (free : ∀ draft ∈ drafts, draft.Free) : Admitted (.plain kind) (plain drafts) := by
  intro part member
  obtain ⟨draft, among, rfl⟩ := List.mem_map.mp member
  exact ⟨(free draft among).shaped,
    fun _ => by simp [Form.admits, block, (free draft among).isFree]⟩

theorem admitted_plain_calm {kind : Kind} {drafts : List Draft}
    (calm : ∀ draft ∈ drafts, draft.Calm) : Admitted (.plain kind) (plain drafts) := by
  intro part member
  obtain ⟨draft, among, rfl⟩ := List.mem_map.mp member
  exact ⟨(calm draft among).shaped, fun _ => by
    simp [Form.admits, (calm draft among).isFree, (calm draft among).isCalm]⟩

/-- Tokens that a node claims fit everywhere. -/
theorem admitted_leaves (form : Form) (tokens : List Token) :
    Admitted form (plain (tokens.map leaf)) := by
  intro part member
  obtain ⟨draft, among, rfl⟩ := List.mem_map.mp member
  obtain ⟨token, -, rfl⟩ := List.mem_map.mp among
  exact ⟨.leaf token, fun inner => by simp [isNode] at inner⟩

@[simp]
theorem roles_playing (role : Role) (drafts : List Draft) :
    roles (playing role drafts) = List.replicate drafts.length (some role) := by
  simp [roles, playing, Function.comp_def]

@[simp]
theorem roles_plain (drafts : List Draft) :
    roles (plain drafts) = List.replicate drafts.length none := by
  simp [roles, plain, Function.comp_def]

@[simp]
theorem roles_append (left right : List (Option Role × Draft)) :
    roles (left ++ right) = roles left ++ roles right := List.map_append

end Draft

end StructuralLint
