import StructuralLint.Proofs.Symbol.Shown

/-!
# The regions of a program

A program opens a region for each function, class, lambda and comprehension in it, at any depth
(`Program.Opens`). Every region that is opened has a node in the tree
(`Program.Opens.exists_stands`), and every node of the tree that opens a scope is the node of such a
region (`Program.exists_opens_of_form`). This takes no table of scopes: the tree may have been read
without symbols.
-/

namespace StructuralLint

namespace Program

/-- The file is a region of the program, and so is what a region of the program opens. -/
inductive Opens (program : Program) : Region → Prop
  | file : Opens program (.file program)
  | inner {region inner : Region} :
      Opens program region → region.Has (.opens inner) → Opens program inner

end Program

/-- Only what opens a scope, or a file, has anything inside. -/
theorem Form.opensScope_of_holds {form : Form} {role : Option Role} (holds : form.holds role = true)
    (other : ∀ docstring, form ≠ .file docstring) : form.opensScope = true := by
  cases form with
  | file docstring => exact absurd rfl (other docstring)
  | plain kind => exact holds
  | function | classDef | lambda => rfl
  | _ => cases holds

/-- No file is a child. -/
theorem Placed.Shaped.not_file {parent child : Placed} {slot : Option Slot} (shaped : parent.Shaped)
    (member : (slot, child) ∈ parent.children) (inner : child.isLeaf = false)
    (docstring : Option String) : child.form ≠ .file docstring := by
  intro file
  cases slot with
  | none =>
      rw [shaped.slotless child member] at inner
      cases inner
  | some slot =>
      have fits := (shaped.admitted slot child member).2
      rw [file, Form.admits_file] at fits
      cases fits

namespace Program

variable {program : Program} {text : SourceText} {region : Region}

/-- The file stands at the root of its tree. -/
theorem Region.stands_file (program : Program) (text : SourceText) :
    (Region.file program).Stands text (Branch.ofProgram program text)
      (Branch.ofProgram program text).toTree.root :=
  ⟨.inr ⟨program, rfl⟩, _, _, Branch.lies_whole _, (Branch.root_toTree _).symm,
    Draft.completes_ofProgram program text⟩

/-- A region of the program has its node. -/
theorem Opens.exists_stands (opens : program.Opens region) :
    ∃ scope, region.Stands text (Branch.ofProgram program text) scope := by
  induction opens with
  | file => exact ⟨_, Region.stands_file program text⟩
  | inner _ has ih =>
      obtain ⟨scope, stands⟩ := ih
      obtain ⟨scope', -, stands'⟩ :=
        stands.exists_opened (Branch.sound_ofProgram program text) has
      exact ⟨scope', stands'⟩

/-- A node below the root that is neither a token nor a name belongs to the scope of a region of the
program. -/
theorem exists_belongs {placed : Placed} {above : List Placed}
    (lies : Placed.Lies (Branch.ofProgram program text).whole placed above)
    (inner : placed.isLeaf = false) (unnamed : ∀ name binds, placed.form ≠ .name name binds)
    (below : above ≠ []) :
    ∃ region scope, program.Opens region ∧
      region.Stands text (Branch.ofProgram program text) scope ∧
        (Branch.ofProgram program text).toTree.Belongs placed.id scope := by
  have sound := Branch.sound_ofProgram program text
  induction lies with
  | root => exact absurd rfl below
  | @child parent above slot child upper member ih =>
      have shaped := Placed.shaped_of_child (sound parent above upper) member
      obtain ⟨slot, rfl⟩ : ∃ slot', slot = some slot' := by
        cases slot with
        | none =>
            rw [shaped.slotless child member] at inner
            cases inner
        | some slot => exact ⟨slot, rfl⟩
      have fits := (shaped.admitted slot child member).2
      -- names have no parts, so that the parent is one of the nodes that the induction is about
      have unnamed' : ∀ name binds, parent.form ≠ .name name binds := by
        intro name binds form
        rw [form] at fits
        cases fits
      have other : ¬(parent.form = .parameter ∧ (some slot).bind (·.role) = some .name) := by
        rintro ⟨form, role⟩
        rw [form, show slot.role = some .name from role] at fits
        cases name : child.form with
        | name text binds => exact unnamed text binds name
        | _ =>
            rw [name] at fits
            cases fits
      cases upper with
      | root =>
          exact ⟨_, _, .file, Region.stands_file program text, by
            rw [Branch.root_toTree]
            exact Placed.Lies.root.belongs_inside sound member rfl⟩
      | @child outer around slot' _ upper' member' =>
          have lies := Placed.Lies.child upper' member'
          obtain ⟨region, scope, opens, stands, belongs⟩ :=
            ih shaped.isNode unnamed' (List.cons_ne_nil _ _)
          cases holds : parent.form.holds slot.role with
          | false => exact ⟨region, scope, opens, stands,
              lies.belongs_outside sound member holds other belongs⟩
          | true =>
              have opensScope := Form.opensScope_of_holds holds
                ((Placed.shaped_of_child (sound outer around upper') member').not_file member'
                  shaped.isNode)
              obtain ⟨opened, has, stands'⟩ :=
                stands.exists_opens_of_form sound lies.form?_toTree opensScope belongs
              exact ⟨opened, parent.id, .inner opens has, stands',
                lies.belongs_inside sound member holds⟩

/-- **Scopes are those of regions.** A node that opens a scope is that of a region of the
program. -/
theorem exists_opens_of_form {node : NodeId} {form : Form}
    (found : (Branch.ofProgram program text).toTree.form? node = some form)
    (opens : form.opensScope = true) :
    ∃ region, program.Opens region ∧
      region.Stands text (Branch.ofProgram program text) node := by
  obtain ⟨placed, above, lies, rfl, rfl⟩ := Tree.exists_lies_of_form? found
  have inner : placed.isLeaf = false := Placed.isLeaf_of_form fun token form => by
    rw [form] at opens
    cases opens
  obtain ⟨region, scope, opened, stands, belongs⟩ :=
    exists_belongs lies inner (fun name binds form => by rw [form] at opens; cases opens) (by
      rintro rfl
      cases lies
      cases opens)
  obtain ⟨region', has, stands'⟩ := stands.exists_opens_of_form
    (Branch.sound_ofProgram program text) found opens belongs
  exact ⟨region', .inner opened has, stands'⟩

end Program

end StructuralLint
