import StructuralLint.Proofs.Symbol.Sharing

/-!
# Scopes by the given parts

What shares the scope of a draft, or stands inside of it, in terms of the parts that the draft is
made from. Only names that bind, declarations and whatever opens a scope count
(`Form.counts`), so that a node of another form leads on to its parts and is nothing by itself.
-/

namespace StructuralLint

/-- Whether a node of this form says anything about names: names that bind do, declarations and
whatever opens a scope. -/
def Form.counts : Form → Bool
  | .name _ binds => binds
  | .scopeDeclaration _ => true
  | form => form.opensScope

namespace Draft

variable (kind : UsageKind) (found : Draft)

/-- Something is found below given parts that stand where they should. -/
def Among (stands : Option Role → Bool) (form : Form) (given : List (Option Role × Draft)) : Prop :=
  ∃ role part, (role, part) ∈ given ∧ stands role = true ∧
    Shares kind found (form.introduces role) part

/-- Something is found at the name of a parameter. -/
def NamedBy (parameter : Draft) : Prop :=
  parameter.form = .parameter ∧ ∃ slot name, (slot, name) ∈ parameter.parts ∧
    slot.role = some .name ∧ Shares kind found .parameter name

/-- Something is found at the names of the entries of a list. -/
def NamedIn (list : Draft) : Prop :=
  ∃ slot entry, (slot, entry) ∈ list.parts ∧ slot.role = some .entry ∧ NamedBy kind found entry

variable {kind} {found} {own : UsageKind} {form : Form} {span : Span} {fields : Fields}
  {given left right : List (Option Role × Draft)} {first : Option Role × Draft} {draft : Draft}
  {stands : Option Role → Bool}

section Among

@[simp]
theorem among_append :
    Among kind found stands form (left ++ right) ↔
      Among kind found stands form left ∨ Among kind found stands form right := by
  simp only [Among, List.mem_append, or_and_right, exists_or]

@[simp]
theorem among_playing (role : Role) (drafts : List Draft) :
    Among kind found stands form (playing role drafts) ↔ stands (some role) = true ∧
      ∃ draft ∈ drafts, Shares kind found (form.introduces (some role)) draft := by
  simp only [Among, playing, List.mem_map]
  constructor
  · rintro ⟨_, _, ⟨draft, member, same⟩, stands, shares⟩
    cases same
    exact ⟨stands, _, member, shares⟩
  · rintro ⟨stands, draft, member, shares⟩
    exact ⟨_, _, ⟨draft, member, rfl⟩, stands, shares⟩

@[simp]
theorem among_plain (drafts : List Draft) :
    Among kind found stands form (plain drafts) ↔ stands none = true ∧
      ∃ draft ∈ drafts, Shares kind found (form.introduces none) draft := by
  simp only [Among, plain, List.mem_map]
  constructor
  · rintro ⟨_, _, ⟨draft, member, same⟩, stands, shares⟩
    cases same
    exact ⟨stands, _, member, shares⟩
  · rintro ⟨stands, draft, member, shares⟩
    exact ⟨_, _, ⟨draft, member, rfl⟩, stands, shares⟩

/-- Arranged parts are the given ones in their roles. -/
theorem exists_arranged_iff {items : List (Slot × Draft)} (arranged : items.Perm (slots given))
    (holds : Option Role → Draft → Prop) :
    (∃ slot part, (slot, part) ∈ items ∧ holds slot.role part) ↔
      ∃ role part, (role, part) ∈ given ∧ holds role part := by
  simp only [arranged.mem_iff]
  constructor
  · rintro ⟨slot, part, among, held⟩
    refine ⟨slot.role, part, ?_, held⟩
    rw [← map_role_slots given]
    exact List.mem_map_of_mem among
  · rintro ⟨role, part, member, held⟩
    rw [← map_role_slots given, List.mem_map] at member
    obtain ⟨⟨slot, part⟩, among, same⟩ := member
    cases same
    exact ⟨slot, part, among, held⟩

theorem shares_iff :
    Shares kind found own draft ↔ (found = draft ∧ kind = own) ∨
      ∃ slot part, (slot, part) ∈ draft.parts ∧ draft.form.passes slot.role = true ∧
        Shares kind found (draft.form.introduces slot.role) part := by
  constructor
  · rintro (_ | ⟨member, passes, shares⟩)
    · exact .inl ⟨rfl, rfl⟩
    · exact .inr ⟨_, _, member, passes, shares⟩
  · rintro (⟨rfl, rfl⟩ | ⟨slot, part, member, passes, shares⟩)
    · exact .here
    · exact .part member passes shares

theorem shares_ofSpan :
    Shares kind found own (ofSpan form span fields given) ↔
      (found = ofSpan form span fields given ∧ kind = own) ∨
        Among kind found form.passes form given := by
  rw [shares_iff]
  exact or_congr_right (exists_arranged_iff (arrange_perm _) fun role part =>
    form.passes role = true ∧ Shares kind found (form.introduces role) part)

theorem shares_ofParts :
    Shares kind found own (ofParts form fields first given) ↔
      (found = ofParts form fields first given ∧ kind = own) ∨
        Among kind found form.passes form (first :: given) := by
  rw [shares_iff]
  exact or_congr_right (exists_arranged_iff (arrange_perm _) fun role part =>
    form.passes role = true ∧ Shares kind found (form.introduces role) part)

end Among

/-! ### What counts -/

section Counts

variable (node : found.isNode = true) (counts : found.form.counts = true)
include node

theorem not_shares_leaf (token : Token) : ¬Shares kind found own (leaf token) := by
  intro shares
  have node' := shares.isNode node
  cases node'

@[simp]
theorem exists_shares_leaves (tokens : List Token) :
    ¬∃ draft ∈ tokens.map leaf, Shares kind found own draft := by
  rintro ⟨draft, member, shares⟩
  obtain ⟨token, -, rfl⟩ := List.mem_map.mp member
  exact not_shares_leaf node token shares

theorem shares_ofName {text : String} {binds : Bool} {token : Token} :
    Shares kind found own (ofName text binds token) ↔
      found = ofName text binds token ∧ kind = own := by
  rw [ofName, shares_ofParts, or_iff_left]
  rintro ⟨role, part, member, -, shares⟩
  cases List.mem_singleton.mp member
  exact not_shares_leaf node token shares

omit node
include counts

theorem shares_ofSpan_of_not_counts (other : form.counts = false) :
    Shares kind found own (ofSpan form span fields given) ↔
      Among kind found form.passes form given := by
  rw [shares_ofSpan, or_iff_right]
  rintro ⟨rfl, -⟩
  exact Bool.eq_false_iff.mp other counts

theorem shares_ofParts_of_not_counts (other : form.counts = false) :
    Shares kind found own (ofParts form fields first given) ↔
      Among kind found form.passes form (first :: given) := by
  rw [shares_ofParts, or_iff_right]
  rintro ⟨rfl, -⟩
  exact Bool.eq_false_iff.mp other counts

end Counts

/-! ### Inside of a scope -/

theorem inside_iff :
    Inside kind found draft ↔
      (∃ slot part, (slot, part) ∈ draft.parts ∧ draft.form.holds slot.role = true ∧
        Shares kind found (draft.form.introduces slot.role) part) ∨
      ∃ slot list, (slot, list) ∈ draft.parts ∧ slot.role = some .parameters ∧
        NamedIn kind found list := by
  constructor
  · rintro (⟨member, holds, shares⟩ |
      ⟨member, role, member', role', member'', role'', form, shares⟩)
    · exact .inl ⟨_, _, member, holds, shares⟩
    · exact .inr ⟨_, _, member, role, _, _, member', role', form, _, _, member'', role'', shares⟩
  · rintro (⟨slot, part, member, holds, shares⟩ |
      ⟨slot, list, member, role, _, _, member', role', form, _, _, member'', role'', shares⟩)
    · exact .part member holds shares
    · exact .parameter member role member' role' member'' role'' form shares

theorem inside_node {items : List (Slot × Draft)} (arranged : items.Perm (slots given)) :
    Inside kind found (.node form span fields items) ↔
      Among kind found form.holds form given ∨
        ∃ list, (some .parameters, list) ∈ given ∧ NamedIn kind found list := by
  rw [inside_iff]
  apply or_congr
  · exact exists_arranged_iff arranged fun role part =>
      form.holds role = true ∧ Shares kind found (form.introduces role) part
  · refine (exists_arranged_iff arranged fun role list =>
      role = some .parameters ∧ NamedIn kind found list).trans ?_
    constructor
    · rintro ⟨role, list, member, rfl, named⟩
      exact ⟨list, member, named⟩
    · rintro ⟨list, member, named⟩
      exact ⟨_, list, member, rfl, named⟩

theorem inside_ofSpan :
    Inside kind found (ofSpan form span fields given) ↔
      Among kind found form.holds form given ∨
        ∃ list, (some .parameters, list) ∈ given ∧ NamedIn kind found list :=
  inside_node (arrange_perm given)

end Draft

end StructuralLint
