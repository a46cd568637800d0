import StructuralLint.Proofs.Worktree.FileTree

/-!
# File trees with links

How a way leads over links is told step by step (`FileTree.Leads`); it is what following a path does
(`FileTree.Leads.follow_eq`, `FileTree.leads_of_follow`).

A path is direct if no name of it leads up and no link stands at it or above it. Links lead to
direct paths (`FileTree.Closed.isDirect_of_resolve`), and a direct path leads to itself
(`FileTree.IsDirect.resolve_eq`). If each entry stands in a directory, then an entry is direct or a
link itself (`FileTree.Closed.isDirect_or_isLink`). What is found at the end of a path stands where
the path leads (`FileTree.resolve_of_find`).
-/

namespace StructuralLint.FileTree

/-! ### Ways -/

/-- A way from a directory leads to a place. Depth and active links are those of `follow`. -/
inductive Leads (tree : FileTree) (enter : Path → Except PathError Unit) :
    (depth : Nat) → (active : List Path) → (here : Path) → List String → (place : Path) → Prop
  | stay {depth active here} : Leads tree enter depth active here [] here
  | up {depth active here names place} (entered : enter here = .ok ())
      (rest : Leads tree enter depth active here.parent names place) :
      Leads tree enter depth active here (Path.up :: names) place
  | down {depth active here name names place} (entered : enter here = .ok ())
      (other : name ≠ Path.up)
      (unlinked : ∀ target, tree.entry? (here.child name) ≠ some (.link target))
      (rest : Leads tree enter depth active (here.child name) names place) :
      Leads tree enter depth active here (name :: names) place
  | link {inside active here name names target reached place} (entered : enter here = .ok ())
      (other : name ≠ Path.up) (linked : tree.entry? (here.child name) = some (.link target))
      (fresh : active.contains (here.child name) = false)
      (leads : Leads tree enter inside (here.child name :: active)
        (if Path.isAbsolute target then Path.root else here) (Path.namesIn target) reached)
      (rest : Leads tree enter (inside + 1) active reached names place) :
      Leads tree enter (inside + 1) active here (name :: names) place

variable {tree : FileTree} {path place reached here : Path} {name : String} {names : List String}
  {entry : Entry} {target : String} {enter : Path → Except PathError Unit} {depth inside : Nat}
  {active : List Path}

/-- The next name of a way, where it leads over a link. -/
theorem follow_link (other : name ≠ Path.up)
    (linked : tree.entry? (here.child name) = some (.link target))
    (fresh : active.contains (here.child name) = false)
    (leads : tree.follow enter inside (here.child name :: active)
      (if Path.isAbsolute target then Path.root else here) (Path.namesIn target) = .ok reached) :
    tree.follow enter (inside + 1) active here (name :: names) =
      enter here >>= fun _ => tree.follow enter (inside + 1) active reached names := by
  rw [follow]
  refine congrArg (enter here >>= ·) (funext fun _ => ?_)
  simp only [if_neg other, linked, fresh, Bool.false_eq_true, if_false]
  rw [leads]

theorem Leads.follow_eq (leads : tree.Leads enter depth active here names place) :
    tree.follow enter depth active here names = .ok place := by
  induction leads with
  | stay => rw [follow]
  | up entered rest ih =>
      rw [Plain.follow_up, entered]
      exact ih
  | down entered other unlinked rest ih =>
      rw [follow_down other unlinked, entered]
      exact ih
  | link entered other linked fresh leads rest ihTarget ih =>
      rw [follow_link other linked fresh ihTarget, entered]
      exact ih

/-- The depth bounds what stands in the targets of links, and so the induction is on it first and
then on the names of the way. -/
theorem leads_of_follow (found : tree.follow enter depth active here names = .ok place) :
    tree.Leads enter depth active here names place := by
  induction depth using Nat.strongRecOn generalizing active here names place with
  | _ depth ihDepth =>
  induction names generalizing here with
  | nil =>
      rw [follow] at found
      cases found
      exact .stay
  | cons name rest ih =>
      cases entered : enter here with
      | error error =>
          rw [follow, entered] at found
          cases found
      | ok =>
      by_cases other : name = Path.up
      · subst other
        rw [Plain.follow_up, entered] at found
        exact .up entered (ih found)
      · by_cases linked : ∃ target, tree.entry? (here.child name) = some (.link target)
        · obtain ⟨target, linked⟩ := linked
          rw [follow, entered] at found
          simp only [bind, Except.bind, if_neg other, linked] at found
          cases fresh : active.contains (here.child name) with
          | true =>
              rw [fresh, if_pos rfl] at found
              cases found
          | false =>
              rw [fresh, if_neg Bool.false_ne_true] at found
              cases depth with
              | zero => cases found
              | succ inside =>
                  dsimp only at found
                  split at found
                  · rename_i reached leads
                    exact .link entered other linked fresh
                      (ihDepth inside (Nat.lt_succ_self _) leads) (ih found)
                  · cases found
                  · cases found
        · rw [not_exists] at linked
          rw [follow_down other linked, entered] at found
          exact .down entered other linked (ih found)

/-! ### Direct paths -/

/-- No link stands at the path or above it, and no name leads up. -/
structure IsDirect (tree : FileTree) (path : Path) : Prop where
  downward : Path.up ∉ path.names
  unlinked : ∀ above names, path = above.append names →
    ∀ target, tree.entry? above ≠ some (.link target)

/-- A link stands at the path. -/
def IsLink (tree : FileTree) (path : Path) : Prop :=
  ∃ target, tree.entry? path = some (.link target)

namespace IsDirect

/-- What is above a direct path is direct. -/
theorem of_append (direct : tree.IsDirect (here.append names)) : tree.IsDirect here where
  downward member := direct.downward (List.mem_append_left _ member)
  unlinked above rest same := by
    refine direct.unlinked above (rest ++ names) ?_
    rw [same, Path.append, Path.append, Path.append, List.append_assoc]

theorem parent (direct : tree.IsDirect path) : tree.IsDirect path.parent := by
  obtain ⟨all⟩ := path
  rcases List.eq_nil_or_concat' all with rfl | ⟨init, last, rfl⟩
  · exact direct
  · rw [Path.parent, List.dropLast_concat]
    exact @of_append tree ⟨init⟩ [last] direct

theorem child (direct : tree.IsDirect path) (other : name ≠ Path.up)
    (unlinked : ∀ target, tree.entry? (path.child name) ≠ some (.link target)) :
    tree.IsDirect (path.child name) where
  downward member := by
    rw [Path.child_names, List.mem_append, List.mem_singleton] at member
    exact member.elim direct.downward (Ne.symm other)
  unlinked above names same := by
    rcases List.eq_nil_or_concat' names with rfl | ⟨init, last, rfl⟩
    · rw [Path.append_nil] at same
      exact same ▸ unlinked
    · have parents := congrArg Path.parent same
      rw [Path.parent_child, Path.append, Path.parent, ← List.append_assoc,
        List.dropLast_concat] at parents
      exact direct.unlinked above init parents

/-- A way down a direct path is gone as far as it may be gone. -/
theorem leads (direct : tree.IsDirect (here.append names)) :
    tree.Leads (fun _ => .ok ()) depth active here names (here.append names) := by
  induction names generalizing here with
  | nil =>
      rw [Path.append_nil]
      exact .stay
  | cons name rest ih =>
      rw [Path.append_cons] at direct ⊢
      have next := direct.of_append
      refine .down rfl ?_ (next.unlinked _ [] (Path.append_nil _).symm) (ih direct)
      rintro rfl
      exact next.downward (by simp)

/-- A direct path leads to itself. -/
theorem resolve_eq (direct : tree.IsDirect path) : tree.resolve path = .ok path :=
  direct.leads.follow_eq

end IsDirect

namespace Closed

variable (closed : tree.Closed)
include closed

theorem isDirect_root : tree.IsDirect .root where
  downward := List.not_mem_nil
  unlinked above names same target linked := by
    obtain ⟨above⟩ := above
    obtain ⟨rfl, -⟩ := List.append_eq_nil_iff.mp (congrArg Path.names same).symm
    rw [show tree.entry? ⟨[]⟩ = some .directory from closed.root] at linked
    cases linked

/-- A way from a direct path leads to a direct path. -/
theorem isDirect_of_leads (leads : tree.Leads enter depth active here names place)
    (direct : tree.IsDirect here) : tree.IsDirect place := by
  induction leads with
  | stay => exact direct
  | up entered rest ih => exact ih direct.parent
  | down entered other unlinked rest ih => exact ih (direct.child other unlinked)
  | link entered other linked fresh leads rest ihTarget ih =>
      refine ih (ihTarget ?_)
      split
      · exact closed.isDirect_root
      · exact direct

/-- With all links followed, a path is direct. -/
theorem isDirect_of_resolve (resolved : tree.resolve path = .ok place) : tree.IsDirect place :=
  closed.isDirect_of_leads (leads_of_follow resolved) closed.isDirect_root

/-- An entry that is no link is where its path says. -/
theorem isDirect_or_isLink (found : tree.entry? path = some entry) :
    tree.IsDirect path ∨ tree.IsLink path := by
  by_cases linked : tree.IsLink path
  · exact .inr linked
  · refine .inl ⟨closed.downward _ _ found, fun above names same target stands => ?_⟩
    subst same
    by_cases inner : names = []
    · rw [inner, Path.append_nil] at linked
      exact linked ⟨target, stands⟩
    · rw [closed.entry?_above found inner] at stands
      cases stands

end Closed

/-! ### Finding -/

/-- A way that is kept from nowhere leads where the way leads that is. -/
theorem Leads.unhindered (leads : tree.Leads enter depth active here names place) :
    tree.Leads (fun _ => .ok ()) depth active here names place := by
  induction leads with
  | stay => exact .stay
  | up _ _ ih => exact .up rfl ih
  | down _ other unlinked _ ih => exact .down rfl other unlinked ih
  | link _ other linked fresh _ _ ihTarget ih => exact .link rfl other linked fresh ihTarget ih

/-- What is found stands where the path leads. -/
theorem resolve_of_find (found : tree.find path = .ok (place, entry)) :
    tree.resolve path = .ok place ∧ tree.entry? place = some entry := by
  rw [find] at found
  cases leads : tree.follow tree.enterDirectory tree.entries.length [] .root path.names with
  | error error =>
      rw [leads] at found
      cases found
  | ok reached =>
      rw [leads] at found
      simp only [bind, Except.bind] at found
      split at found
      · rename_i stands
        cases found
        exact ⟨(leads_of_follow leads).unhindered.follow_eq, stands⟩
      · cases found

/-- A path to a file leads to the place of a file. -/
theorem exists_file_of_isFile (isFile : tree.isFile path = true) :
    ∃ place bytes, tree.resolve path = .ok place ∧ tree.entry? place = some (.file bytes) := by
  rw [FileTree.isFile] at isFile
  split at isFile
  · rename_i place bytes found
    exact ⟨place, bytes, resolve_of_find found⟩
  · cases isFile

end StructuralLint.FileTree
