import Mathlib.Data.List.Nodup
import Mathlib.Data.List.Perm.Basic
import StructuralLint.Worktree.FileTree

/-!
# Plain file trees

A tree of files and directories, in which every entry stands in a directory, is `Plain`. There is
nothing to follow in it: a path leads to the entry that stands at it (`FileTree.Plain.find_eq`), and
what is found below a directory are the entries there with the right names, in order.
-/

namespace StructuralLint

namespace Path

/-! ### The order of paths -/

variable {a b c : Path}

theorem precedes_iff : a.precedes b = true ↔ ¬b.names < a.names := by
  rw [precedes, Bool.not_eq_true', decide_eq_false_iff_not]

@[simp]
theorem append_nil (path : Path) : path.append [] = path := by
  simp [append]

theorem append_cons (path : Path) (name : String) (names : List String) :
    path.append (name :: names) = (path.child name).append names := by
  simp [append, child]

theorem relativeTo?_eq_some_iff {path base : Path} {names : List String} :
    path.relativeTo? base = some names ↔ path = base.append names := by
  refine ⟨fun below => (append_of_relativeTo? below).symm, ?_⟩
  rintro rfl
  rw [relativeTo?, append, if_pos (List.isPrefixOf_iff_prefix.mpr (List.prefix_append _ _)),
    List.drop_left]

@[simp]
theorem root_append (names : List String) : root.append names = ⟨names⟩ := rfl

/-! ### Ways up -/

/-- The place that a name leads to where there are no links. -/
def go (here : Path) (name : String) : Path := if name = up then here.parent else here.child name

/-- The place that a path leads to where there are no links. -/
def straight (path : Path) : Path := path.names.foldl go root

theorem up_not_mem_straight (path : Path) : up ∉ path.straight.names := by
  rw [straight]
  suffices down : ∀ here : Path, up ∉ here.names → up ∉ (path.names.foldl go here).names from
    down root List.not_mem_nil
  induction path.names with
  | nil => exact fun _ down => down
  | cons name rest ih =>
      intro here down
      refine ih _ fun member => ?_
      rw [go] at member
      split at member
      · exact down (List.dropLast_subset _ member)
      · rename_i other
        rw [child_names, List.mem_append, List.mem_singleton] at member
        exact member.elim down (Ne.symm other)

end Path

namespace FileTree

variable {tree : FileTree} {path place here : Path} {entry : Entry} {names : List String}
  {enter : Path → Except PathError Unit} {depth : Nat} {active : List Path}

/-- Each entry of the tree stands in a directory; the root directory is one of them. -/
structure Closed (tree : FileTree) : Prop where
  root : tree.entry? .root = some .directory
  inside : ∀ path entry, tree.entry? path = some entry → path ≠ .root →
    tree.entry? path.parent = some .directory
  /-- No name leads up. -/
  downward : ∀ path entry, tree.entry? path = some entry → Path.up ∉ path.names

/-- The tree has files and directories, each in a directory and one at each path. -/
structure Plain (tree : FileTree) : Prop where
  root : tree.entry? .root = some .directory
  closed : ∀ path entry, tree.entry? path = some entry → path ≠ .root →
    tree.entry? path.parent = some .directory
  unlinked : ∀ path target, tree.entry? path ≠ some (.link target)
  /-- No name leads up. -/
  downward : ∀ path entry, tree.entry? path = some entry → Path.up ∉ path.names
  distinct : (tree.entries.map (·.1)).Nodup

/-! ### Entries -/

theorem isSome_entry?_iff : (tree.entry? path).isSome = true ↔ path ∈ tree.entries.map (·.1) := by
  rw [FileTree.entry?, Option.isSome_map, List.find?_isSome, List.mem_map]
  simp only [decide_eq_true_eq]

theorem mem_of_entry? (found : tree.entry? path = some entry) : (path, entry) ∈ tree.entries := by
  obtain ⟨item, listed, rfl⟩ := Option.map_eq_some_iff.mp found
  have passes := List.find?_some listed
  obtain ⟨place, entry⟩ := item
  obtain rfl : place = path := of_decide_eq_true passes
  exact List.mem_of_find?_eq_some listed

theorem entry?_put (other : Path) :
    FileTree.entry? (tree.put path entry) other =
      if other = path then some entry else tree.entry? other := by
  change Option.map _ ((tree.entries.filter (fun item => decide (item.1 ≠ path)) ++
    [(path, entry)]).find? fun item => decide (item.1 = other)) = _
  rw [List.find?_append, List.find?_filter]
  by_cases same : other = path
  · subst same
    have none : tree.entries.find? (fun item =>
        decide (decide (item.1 ≠ other) = true ∧ decide (item.1 = other) = true)) = none := by
      simp
    rw [if_pos rfl, none]
    simp
  · have others : (fun item : Path × Entry =>
        decide (decide (item.1 ≠ path) = true ∧ decide (item.1 = other) = true)) =
        fun item => decide (item.1 = other) := by
      funext item
      by_cases equal : item.1 = other
      · simp [equal, same]
      · simp [equal]
    rw [if_neg same, others, List.find?_cons_of_neg (by simpa using Ne.symm same), entry?]
    simp

/-- A tree is plain if its entries are as they should be. -/
theorem plain_of_forall (root : tree.entry? .root = some .directory)
    (each : ∀ item ∈ tree.entries,
      (item.1 = .root ∨ tree.entry? item.1.parent = some .directory) ∧
        (∀ target, item.2 ≠ .link target) ∧ Path.up ∉ item.1.names)
    (distinct : (tree.entries.map (·.1)).Nodup) : tree.Plain where
  root := root
  closed _ _ found inner := (each _ <| mem_of_entry? found).1.resolve_left inner
  unlinked _ target found := (each _ <| mem_of_entry? found).2.1 target rfl
  downward _ _ found := (each _ <| mem_of_entry? found).2.2
  distinct := distinct

/-- Above an entry there are directories. -/
theorem Closed.entry?_above (closed : tree.Closed)
    (found : tree.entry? (here.append names) = some entry) (inner : names ≠ []) :
    tree.entry? here = some .directory := by
  induction names generalizing here with
  | nil => exact absurd rfl inner
  | cons name rest ih =>
      rw [Path.append_cons] at found
      have below : (here.child name) ≠ .root := fun root => by
        simpa [Path.root] using congrArg Path.names root
      cases rest with
      | nil =>
          rw [Path.append_nil] at found
          simpa using closed.inside _ _ found below
      | cons => simpa using closed.inside _ _ (ih found (List.cons_ne_nil _ _)) below

/-- The tree is closed if its entries are as they should be. -/
theorem closed_of_forall (root : tree.entry? .root = some .directory)
    (each : ∀ item ∈ tree.entries,
      (item.1 = .root ∨ tree.entry? item.1.parent = some .directory) ∧ Path.up ∉ item.1.names) :
    tree.Closed where
  root := root
  inside _ _ found inner := (each _ <| mem_of_entry? found).1.resolve_left inner
  downward _ _ found := (each _ <| mem_of_entry? found).2

/-- The next name of a way, where it leads over no link. -/
theorem follow_down {name : String} (other : name ≠ Path.up)
    (unlinked : ∀ target, tree.entry? (here.child name) ≠ some (.link target)) :
    tree.follow enter depth active here (name :: names) =
      enter here >>= fun _ => tree.follow enter depth active (here.child name) names := by
  rw [follow]
  refine congrArg (enter here >>= ·) (funext fun _ => ?_)
  simp only [if_neg other]

namespace Plain

theorem toClosed (plain : tree.Plain) : tree.Closed :=
  ⟨plain.root, plain.closed, plain.downward⟩

/-- Above an entry there are directories. -/
theorem entry?_above (plain : tree.Plain) {entry : Entry}
    (found : tree.entry? (here.append names) = some entry) (inner : names ≠ []) :
    tree.entry? here = some .directory :=
  plain.toClosed.entry?_above found inner

/-! ### Following paths -/

theorem follow_up :
    tree.follow enter depth active here (Path.up :: names) =
      enter here >>= fun _ => tree.follow enter depth active here.parent names := by
  rw [follow]
  refine congrArg (enter here >>= ·) (funext fun _ => ?_)
  rw [if_pos rfl]

variable (plain : tree.Plain)
include plain

theorem follow_cons {name : String} (other : name ≠ Path.up) :
    tree.follow enter depth active here (name :: names) =
      enter here >>= fun _ => tree.follow enter depth active (here.child name) names :=
  follow_down other (plain.unlinked _)

/-- A way that does not lead up is the way down, as far as it may be gone. -/
theorem eq_of_follow (down : Path.up ∉ names)
    (found : tree.follow enter depth active here names = .ok place) :
    place = here.append names := by
  induction names generalizing here with
  | nil =>
      rw [follow] at found
      cases found
      exact (Path.append_nil _).symm
  | cons name rest ih =>
      rw [List.mem_cons, not_or] at down
      rw [plain.follow_cons (Ne.symm down.1)] at found
      cases entered : enter here with
      | error error =>
          rw [entered] at found
          cases found
      | ok =>
          rw [entered] at found
          rw [Path.append_cons]
          exact ih down.2 found

/-- Nothing keeps a way from going on that passes every place. -/
theorem follow_eq :
    tree.follow (fun _ => .ok ()) depth active here names = .ok (names.foldl Path.go here) := by
  induction names generalizing here with
  | nil => rw [follow, List.foldl_nil]
  | cons name rest ih =>
      rw [List.foldl_cons, Path.go]
      by_cases up : name = Path.up
      · rw [if_pos up, up, follow_up]
        exact ih
      · rw [if_neg up, plain.follow_cons up]
        exact ih

theorem resolve_eq_straight (path : Path) : tree.resolve path = .ok path.straight :=
  plain.follow_eq

theorem resolve_eq (down : Path.up ∉ path.names) : tree.resolve path = .ok path := by
  have leads := plain.eq_of_follow down (plain.resolve_eq_straight path)
  rw [plain.resolve_eq_straight, leads, Path.root_append]

/-- A path to an entry leads there. -/
theorem follow_enterDirectory (down : Path.up ∉ names)
    (found : tree.entry? (here.append names) = some entry) :
    tree.follow tree.enterDirectory depth active here names = .ok (here.append names) := by
  induction names generalizing here with
  | nil => rw [follow, Path.append_nil]
  | cons name rest ih =>
      have stands := plain.entry?_above found (List.cons_ne_nil _ _)
      rw [List.mem_cons, not_or] at down
      rw [Path.append_cons] at found ⊢
      rw [plain.follow_cons (Ne.symm down.1), enterDirectory, stands]
      exact ih down.2 found

theorem find_eq (found : tree.entry? path = some entry) : tree.find path = .ok (path, entry) := by
  have leads : tree.follow tree.enterDirectory tree.entries.length [] .root path.names =
      .ok path := plain.follow_enterDirectory (plain.downward _ _ found) found
  rw [find, leads]
  simp only [bind, Except.bind, found]
  rfl

theorem eq_of_find (down : Path.up ∉ path.names) (found : tree.find path = .ok (place, entry)) :
    place = path ∧ tree.entry? path = some entry := by
  rw [find] at found
  cases leads : tree.follow tree.enterDirectory tree.entries.length [] .root path.names with
  | error error =>
      rw [leads] at found
      cases found
  | ok reached =>
      obtain rfl : reached = path := plain.eq_of_follow down leads
      rw [leads] at found
      simp only [bind, Except.bind] at found
      split at found
      · rename_i stands
        cases found
        exact ⟨rfl, stands⟩
      · cases found

theorem isFile_iff (down : Path.up ∉ path.names) :
    tree.isFile path = true ↔ ∃ bytes, tree.entry? path = some (.file bytes) := by
  rw [isFile]
  constructor
  · intro file
    split at file
    · rename_i bytes found
      exact ⟨bytes, (plain.eq_of_find down found).2⟩
    · cases file
  · rintro ⟨bytes, found⟩
    rw [plain.find_eq found]

/-- What is read is what stands at the path. -/
theorem read_file {bytes : ByteArray} (found : tree.entry? path = some (.file bytes)) :
    tree.read path = .ok bytes := by
  rw [read, plain.find_eq found]
  rfl

theorem read_directory (found : tree.entry? path = some .directory) :
    tree.read path = .error .directory := by
  rw [read, plain.find_eq found]
  rfl

end Plain

/-! ### Searching -/

section

variable {test : String → Bool} {directory : Path}

theorem mem_below_iff :
    path ∈ tree.below directory test ↔ (tree.entry? path).isSome = true ∧
      ∃ names, names ≠ [] ∧ path = directory.append names ∧ names.getLast?.any test = true := by
  rw [below, List.mem_mergeSort, List.mem_filter, isSome_entry?_iff]
  refine and_congr_right fun _ => ?_
  simp only [Bool.and_eq_true, decide_eq_true_eq, Option.isSome_iff_exists,
    Path.relativeTo?_eq_some_iff]
  constructor
  · rintro ⟨⟨other, names, rfl⟩, passes⟩
    have inner : names ≠ [] := by
      rintro rfl
      exact other (Path.append_nil _)
    rw [Path.append, List.getLast?_append_of_ne_nil _ inner] at passes
    exact ⟨names, inner, rfl, passes⟩
  · rintro ⟨names, inner, rfl, passes⟩
    refine ⟨⟨fun same => inner ?_, names, rfl⟩, ?_⟩
    · simpa [Path.append] using congrArg Path.names same
    · rwa [Path.append, List.getLast?_append_of_ne_nil _ inner]

end

/-! ### New entries -/

/-- An entry may be put at a path: nothing is there, and a directory is above. -/
structure Admits (tree : FileTree) (path : Path) : Prop where
  free : tree.entry? path = none
  inside : tree.entry? path.parent = some .directory
  downward : Path.up ∉ path.names

/-- One more file leaves the tree plain. -/
theorem Plain.put (plain : tree.Plain) (admits : tree.Admits path) (bytes : ByteArray) :
    (tree.put path (.file bytes)).Plain := by
  have kept {other : Path} {entry : Entry} (found : tree.entry? other = some entry) :
      FileTree.entry? (tree.put path (.file bytes)) other = some entry := by
    rw [entry?_put, if_neg, found]
    rintro rfl
    rw [admits.free] at found
    cases found
  refine
    { root := kept plain.root
      closed := ?_
      unlinked := ?_
      downward := ?_
      distinct := ?_ }
  · intro other entry found inner
    rw [entry?_put] at found
    split at found
    · rename_i same
      exact same ▸ kept admits.inside
    · exact kept (plain.closed other entry found inner)
  · intro other target found
    rw [entry?_put] at found
    split at found
    · cases found
    · exact plain.unlinked other target found
  · intro other entry found
    rw [entry?_put] at found
    split at found
    · rename_i same
      exact same ▸ admits.downward
    · exact plain.downward other entry found
  · have others : ((tree.entries.filter fun item => decide (item.1 ≠ path)).map (·.1)).Nodup :=
      plain.distinct.sublist (List.filter_sublist.map _)
    change ((tree.entries.filter (fun item => decide (item.1 ≠ path)) ++
      [(path, Entry.file bytes)]).map (·.1)).Nodup
    rw [List.map_append, List.map_singleton, List.nodup_append]
    refine ⟨others, List.nodup_singleton _, ?_⟩
    rintro other member _ listed rfl
    obtain ⟨item, among, rfl⟩ := List.mem_map.mp member
    exact of_decide_eq_true (List.mem_filter.mp among).2 (List.mem_singleton.mp listed)

end FileTree

end StructuralLint
