import StructuralLint.History.Change
import StructuralLint.Proofs.Text.Splitting
import StructuralLint.Proofs.Worktree.FileTree

/-!
# Paths and their texts

Names that can stand in a directory (`Path.IsName`) are read back from the text that has slashes
between them (`Path.namesIn_intercalate`). So a path of such names is known by its text
(`Path.join_text`), and known to someone in a directory above it by how it is shown there
(`Path.join_shownFrom`).
-/

namespace StructuralLint

namespace Path

/-- A name that can stand in a directory. -/
@[mk_iff]
structure IsName (name : String) : Prop where
  inhabited : name ≠ ""
  /-- The name is not that of the directory itself. -/
  other : name ≠ "."
  whole : '/' ∉ name.toList

instance : DecidablePred IsName := fun name => decidable_of_iff _ (isName_iff name).symm

variable {names : List String} {path base here : Path} {text : String}

/-! ### Names in texts -/

theorem toList_intercalate_slash (names : List String) :
    ("/".intercalate names).toList = ['/'].intercalate (names.map String.toList) :=
  String.toList_intercalate

theorem fields_intercalate_slash (proper : ∀ name ∈ names, IsName name) (inner : names ≠ []) :
    Text.fields (· = '/') ("/".intercalate names).toList = names.map String.toList := by
  rw [toList_intercalate_slash]
  apply Text.fields_intercalate
  · intro piece member
    obtain ⟨name, among, rfl⟩ := List.mem_map.mp member
    exact (proper name among).whole
  · exact fun none => inner (List.map_eq_nil_iff.mp none)

/-- Names are read back from the text that has slashes between them. -/
theorem namesIn_intercalate (proper : ∀ name ∈ names, IsName name) :
    namesIn ("/".intercalate names) = names := by
  by_cases none : names = []
  · subst none
    rfl
  · unfold namesIn
    rw [fields_intercalate_slash proper none, List.map_map, List.filter_eq_self.mpr]
    · simp [Function.comp_def]
    · intro name member
      obtain ⟨name, among, rfl⟩ := List.mem_map.mp member
      simp [(proper name among).inhabited, (proper name among).other]

/-- A slash in front adds no name. -/
theorem namesIn_slash (text : String) : namesIn ("/" ++ text) = namesIn text := by
  have slash : ("/" ++ text).toList = '/' :: text.toList := String.toList_append
  unfold namesIn
  rw [slash, Text.fields_cons_of_separates _ (by rfl)]
  rfl

theorem isAbsolute_intercalate (proper : ∀ name ∈ names, IsName name) :
    isAbsolute ("/".intercalate names) = false := by
  unfold isAbsolute
  rw [decide_eq_false_iff_not]
  intro absolute
  by_cases none : names = []
  · subst none
    cases absolute
  · -- the text would have an empty name in front
    obtain ⟨rest, split⟩ := List.head?_eq_some_iff.mp absolute
    have pieces := fields_intercalate_slash proper none
    rw [split, Text.fields_cons_of_separates _ (by rfl)] at pieces
    have listed : [] ∈ names.map String.toList := pieces ▸ List.mem_cons_self
    obtain ⟨name, among, empty⟩ := List.mem_map.mp listed
    exact (proper name among).inhabited (String.toList_eq_nil_iff.mp empty)

/-- The text of a source file ends with the name of a source. -/
theorem getLast?_namesIn (source : Change.namesSource text = true) :
    (namesIn text).getLast?.any Change.namesSource = true := by
  obtain ⟨front, split⟩ := List.isSuffixOf_iff_suffix.mp source
  obtain ⟨before, last, pieces⟩ := @Text.fields_append (· = '/') Change.sourceEnding.toList
    (by simp [Change.sourceEnding]) front
  have ends : Change.namesSource (String.ofList (last ++ Change.sourceEnding.toList)) = true := by
    unfold Change.namesSource
    rw [String.toList_ofList, List.isSuffixOf_iff_suffix]
    exact List.suffix_append _ _
  have kept {name : String} (source : Change.namesSource name = true) :
      [name].filter (fun name => name ≠ "" && name ≠ ".") = [name] := by
    refine List.filter_cons_of_pos ?_
    rw [Bool.and_eq_true, decide_eq_true_eq, decide_eq_true_eq]
    constructor <;> rintro rfl <;> revert source <;> decide
  unfold namesIn
  rw [← split, pieces, List.map_append, List.filter_append, List.map_singleton, kept ends,
    List.getLast?_concat]
  exact ends

/-! ### Paths that are written and read -/

theorem toList_text (path : Path) :
    path.text.toList = '/' :: ("/".intercalate path.names).toList :=
  String.toList_append

/-- A path is read back from its text. -/
theorem join_text (proper : ∀ name ∈ path.names, IsName name) (here : Path) :
    here.join path.text = path := by
  have absolute : isAbsolute path.text = true := by
    unfold isAbsolute
    rw [toList_text]
    rfl
  unfold join
  rw [if_pos absolute]
  unfold text
  rw [namesIn_slash, namesIn_intercalate proper]

/-- A path is read back from how it is shown to someone above it. -/
theorem join_shownFrom (proper : ∀ name ∈ names, IsName name) :
    base.join ((base.append names).shownFrom base) = base.append names := by
  have below : (base.append names).relativeTo? base = some names := relativeTo?_eq_some_iff.mpr rfl
  unfold shownFrom
  rw [below]
  cases names with
  | nil =>
      have own : namesIn "." = [] := by decide +kernel
      dsimp only
      unfold join
      rw [own, if_neg (by decide)]
  | cons name rest =>
      dsimp only
      unfold join
      rw [isAbsolute_intercalate proper, if_neg Bool.false_ne_true, namesIn_intercalate proper]

end Path

/-- All names in the tree are names that can stand in a directory. -/
def FileTree.Named (tree : FileTree) : Prop :=
  ∀ path entry, tree.entry? path = some entry → ∀ name ∈ path.names, Path.IsName name

end StructuralLint
