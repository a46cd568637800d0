import StructuralLint.Proofs.Analysis.Project
import StructuralLint.Proofs.Worktree.Links

/-!
# Collecting over links

A run takes the files that it finds at a place where they really are: a file is collected if its
path leads within the place, through no directory that is left out (`FileTree.LeadsWithin`). What it
keeps is the path itself. So a path to a file that is within the place is collected wherever that
path stands: in a directory that is left out, or outside of the place if it is one that changed.
Paths without links on their way are within the place themselves (`collectFiles_of_closed`).
-/

namespace StructuralLint

/-- The path is at or below a place, on a way through no directory that is left out. -/
def Path.IsWithin (file place : Path) : Prop :=
  ∃ names, file = place.append names ∧ isSkippedWay names = false

namespace FileTree

variable {tree : FileTree} {place file location : Path} {kept : Bool}

/-- The path leads to a location within the place. -/
def LeadsWithin (tree : FileTree) (place file : Path) : Prop :=
  ∃ location, tree.resolve file = .ok location ∧ location.IsWithin place

/-- Whether a path is collected that has been found. -/
def collects (tree : FileTree) (place file : Path) : Bool :=
  match isCollected tree place file with
  | .ok kept => kept
  | .error _ => false

/-! ### One path -/

theorem isCollected_of_resolve (resolved : tree.resolve file = .ok location) :
    isCollected tree place file = .ok (tree.collects place file) := by
  rw [collects, isCollected, resolved]
  simp only [bind, Except.bind]
  split <;> rfl

theorem isCollected_of_error {error : PathError} (failed : tree.resolve file = .error error) :
    isCollected tree place file = .error error := by
  rw [isCollected, failed]
  rfl

/-- What is collected leads within the place. -/
theorem collects_iff : tree.collects place file = true ↔ tree.LeadsWithin place file := by
  rw [collects, isCollected]
  cases resolved : tree.resolve file with
  | error error =>
      refine iff_of_false Bool.false_ne_true ?_
      rintro ⟨location, leads, -⟩
      rw [resolved] at leads
      cases leads
  | ok location =>
      have leads : tree.LeadsWithin place file ↔ location.IsWithin place := by
        constructor
        · rintro ⟨other, leads, within⟩
          rw [resolved] at leads
          cases leads
          exact within
        · exact fun within => ⟨location, resolved, within⟩
      rw [leads, Path.IsWithin]
      simp only [bind, Except.bind, ← Path.relativeTo?_eq_some_iff]
      cases location.relativeTo? place with
      | none => simp [pure, Except.pure]
      | some names => simp [pure, Except.pure]

/-- A direct path leads within a place if it is within the place. -/
theorem IsDirect.leadsWithin_iff (direct : tree.IsDirect file) :
    tree.LeadsWithin place file ↔ file.IsWithin place := by
  constructor
  · rintro ⟨location, leads, within⟩
    rw [direct.resolve_eq] at leads
    cases leads
    exact within
  · exact fun within => ⟨file, direct.resolve_eq, within⟩

/-! ### What is found -/

/-- A source that is found at a place is at or below it, and direct if it is no link. -/
theorem Closed.of_mem_sourcesAt (closed : tree.Closed) (direct : tree.IsDirect place)
    (found : file ∈ sourcesAt tree place) :
    (∃ names, file = place.append names) ∧ (tree.IsDirect file ∨ tree.IsLink file) := by
  rw [sourcesAt] at found
  split at found
  · rw [List.mem_singleton.mp found]
    exact ⟨⟨[], (Path.append_nil _).symm⟩, .inl direct⟩
  · obtain ⟨stands, names, -, below, -⟩ := mem_below_iff.mp found
    obtain ⟨entry, stands⟩ := Option.isSome_iff_exists.mp stands
    exact ⟨⟨names, below⟩, closed.isDirect_or_isLink stands⟩

/-- What is left of the sources that were found at a place. -/
structure Keeps (tree : FileTree) (place : Path) (since : Option String)
    (found files : List Path) : Prop where
  /-- What leads within the place is kept, and the order with it. -/
  chosen : files = found.filter (tree.collects place) ∧
    ∀ file, file ∈ files ↔ file ∈ found ∧ tree.LeadsWithin place file
  /-- The locations are within the place by their own paths, which no link is on. -/
  located : ∀ file ∈ files, ∃ location, tree.resolve file = .ok location ∧
    tree.IsDirect location ∧ location.IsWithin place
  /-- So are the paths of files that no link leads to. -/
  within : ∀ file ∈ files, tree.IsDirect file → file.IsWithin place
  /-- Without a revision to look back to, the paths are at or below the place, and only a link may
  be in a directory that is left out. -/
  below : since = none → ∀ file ∈ files, (∃ names, file = place.append names) ∧
    (file.IsWithin place ∨ tree.IsLink file)
  /-- Otherwise each path leads to a file. -/
  areFiles : since ≠ none → ∀ file ∈ files, tree.isFile file = true

/-! ### Runs -/

variable {history : History} {here : Path} {since : Option String} {log log' : RunLog}
  {found files : List Path}

theorem run_collectFiles_of_ok
    (candidates : (candidates history tree here place since).run.run log = (.ok found, log')) :
    (collectFiles history tree here place since).run.run log =
      ((found.filterM (isCollected tree place)).mapError .path, log') := by
  rw [collectFiles, Steps.run_bind_of_ok candidates]
  cases found.filterM (isCollected tree place) <;> rfl

theorem run_collectFiles_of_error {error : RunError}
    (failed : (candidates history tree here place since).run.run log = (.error error, log')) :
    (collectFiles history tree here place since).run.run log = (.error error, log') := by
  rw [collectFiles, Steps.run_bind_of_error failed]

/-- What is found of the changes since a revision are files. -/
theorem isFile_of_mem_candidates
    (candidates : (candidates history tree here place since).run.run log = (.ok found, log'))
    (back : since ≠ none) (member : file ∈ found) : tree.isFile file = true := by
  obtain ⟨revision, rfl⟩ := Option.ne_none_iff_exists'.mp back
  rw [StructuralLint.candidates] at candidates
  rcases asked : (Run.ofInquiry (Repository.changedSources history tree here
    (workingDirectory tree place).text revision)).run.run log with ⟨error | changed, after⟩
  · rw [Steps.run_bind_of_error asked] at candidates
    cases candidates
  · rw [Steps.run_bind_of_ok asked, Steps.run_pure] at candidates
    cases candidates
    exact (List.mem_filter.mp member).2

/-- A run that collects has found something, and each path that it has found leads somewhere. -/
theorem exists_found (collected : (collectFiles history tree here place since).run.run log =
      (.ok files, log')) :
    ∃ found, (candidates history tree here place since).run.run log = (.ok found, log') ∧
      files = found.filter (tree.collects place) ∧
        ∀ file ∈ found, ∃ location, tree.resolve file = .ok location := by
  rcases asked : (candidates history tree here place since).run.run log with ⟨error | found, after⟩
  · rw [run_collectFiles_of_error asked] at collected
    cases collected
  · rw [run_collectFiles_of_ok asked] at collected
    cases chosen : found.filterM (isCollected tree place) with
    | error error =>
        rw [chosen] at collected
        cases collected
    | ok kept =>
        have leads : ∀ file ∈ found, ∃ location, tree.resolve file = .ok location := by
          intro file member
          obtain ⟨passes, done⟩ := Lists.exists_of_filterM chosen file member
          cases resolved : tree.resolve file with
          | error error =>
              rw [isCollected_of_error resolved] at done
              cases done
          | ok location => exact ⟨location, rfl⟩
        have each : ∀ file ∈ found, isCollected tree place file = .ok (tree.collects place file) :=
          fun file member => isCollected_of_resolve (leads file member).choose_spec
        rw [chosen] at collected
        rw [Lists.filterM_eq_ok each] at chosen
        cases chosen
        cases collected
        exact ⟨found, rfl, rfl, leads⟩

/-- A run collects if each path that it has found leads somewhere. -/
theorem run_collectFiles_of_leads
    (candidates : (candidates history tree here place since).run.run log = (.ok found, log'))
    (leads : ∀ file ∈ found, ∃ location, tree.resolve file = .ok location) :
    (collectFiles history tree here place since).run.run log =
      (.ok (found.filter (tree.collects place)), log') := by
  have each : ∀ file ∈ found, isCollected tree place file = .ok (tree.collects place file) :=
    fun file member => isCollected_of_resolve (leads file member).choose_spec
  rw [run_collectFiles_of_ok candidates, Lists.filterM_eq_ok each]
  rfl

theorem Closed.keeps (closed : tree.Closed) (direct : tree.IsDirect place)
    (candidates : (candidates history tree here place since).run.run log = (.ok found, log')) :
    tree.Keeps place since found (found.filter (tree.collects place)) := by
  have kept : ∀ file, file ∈ found.filter (tree.collects place) ↔
      file ∈ found ∧ tree.LeadsWithin place file := by
    intro file
    rw [List.mem_filter, collects_iff]
  have within : ∀ file ∈ found.filter (tree.collects place), tree.IsDirect file →
      file.IsWithin place :=
    fun file member own => own.leadsWithin_iff.mp ((kept file).mp member).2
  constructor
  · exact ⟨rfl, kept⟩
  · intro file member
    obtain ⟨-, location, resolved, inside⟩ := (kept file).mp member
    exact ⟨location, resolved, closed.isDirect_of_resolve resolved, inside⟩
  · exact within
  · rintro rfl file member
    rw [StructuralLint.candidates, Steps.run_pure] at candidates
    cases candidates
    obtain ⟨below, own⟩ := closed.of_mem_sourcesAt direct (List.mem_filter.mp member).1
    exact ⟨below, own.imp_left (within file member)⟩
  · intro back file member
    exact isFile_of_mem_candidates candidates back (List.mem_filter.mp member).1

end FileTree

/-- **Collected files are within the place, as far as no links lead to them.** At a place with all
links followed, a run collects files if it finds any paths and, without a revision to look back to,
each of them leads somewhere. What it collects are those of the paths, in order, that lead within
the place. They are within the place by their own paths too, unless a link leads to them. -/
theorem collectFiles_of_closed {tree : FileTree} (closed : tree.Closed) {path place : Path}
    (resolved : tree.resolve path = .ok place) (history : History) (here : Path)
    (since : Option String) (log log' : RunLog) :
    ((∃ files, (collectFiles history tree here place since).run.run log = (.ok files, log')) ↔
      ∃ found, (candidates history tree here place since).run.run log = (.ok found, log') ∧
        (since = none → ∀ file ∈ found, ∃ location, tree.resolve file = .ok location)) ∧
    ∀ files, (collectFiles history tree here place since).run.run log = (.ok files, log') →
      ∃ found, (candidates history tree here place since).run.run log = (.ok found, log') ∧
        tree.Keeps place since found files := by
  have direct := closed.isDirect_of_resolve resolved
  refine ⟨⟨?_, ?_⟩, ?_⟩
  · rintro ⟨files, collected⟩
    obtain ⟨found, candidates, -, leads⟩ := FileTree.exists_found collected
    exact ⟨found, candidates, fun _ => leads⟩
  · rintro ⟨found, candidates, leads⟩
    refine ⟨_, FileTree.run_collectFiles_of_leads candidates fun file member => ?_⟩
    by_cases back : since = none
    · exact leads back file member
    · obtain ⟨location, _, resolved, -⟩ := FileTree.exists_file_of_isFile
        (FileTree.isFile_of_mem_candidates candidates back member)
      exact ⟨location, resolved⟩
  · intro files collected
    obtain ⟨found, candidates, rfl, -⟩ := FileTree.exists_found collected
    exact ⟨found, candidates, closed.keeps direct candidates⟩

/-- A link in a hidden directory leads to a file beside the directory. -/
def linkedTree : FileTree :=
  ⟨[(.root, .directory), (⟨[".h"]⟩, .directory), (⟨[".h", "a.py"]⟩, .link "../b.py"),
    (⟨["b.py"]⟩, .file "x = 1\n".toUTF8)]⟩

theorem closed_linkedTree : linkedTree.Closed := by
  apply FileTree.closed_of_forall (by rfl)
  intro item member
  simp only [linkedTree, List.mem_cons, List.not_mem_nil, or_false] at member
  rcases member with rfl | rfl | rfl | rfl
  · exact ⟨.inl rfl, by decide⟩
  · exact ⟨.inr rfl, by decide⟩
  · exact ⟨.inr rfl, by decide⟩
  · exact ⟨.inr rfl, by decide⟩

/-- The file is collected twice: once over the link, whose own path is not within the place. -/
theorem collectFiles_of_closed_linkedTree :
    linkedTree.Closed ∧ linkedTree.resolve .root = .ok .root ∧
      (collectFiles (fun _ => ⟨0, [], ""⟩) linkedTree .root .root none).run.run .empty =
        (.ok [⟨[".h", "a.py"]⟩, ⟨["b.py"]⟩], .empty) ∧
      ¬(⟨[".h", "a.py"]⟩ : Path).IsWithin .root ∧ linkedTree.IsLink ⟨[".h", "a.py"]⟩ := by
  have resolved : linkedTree.resolve .root = .ok .root := by cbv
  have hidden : ¬(⟨[".h", "a.py"]⟩ : Path).IsWithin .root := by
    rintro ⟨names, same, shown⟩
    rw [← (show [".h", "a.py"] = names from congrArg Path.names same)] at shown
    revert shown
    decide
  have sources : sourcesAt linkedTree .root = [⟨[".h", "a.py"]⟩, ⟨["b.py"]⟩] := by cbv
  have first : linkedTree.resolve ⟨[".h", "a.py"]⟩ = .ok ⟨["b.py"]⟩ := by cbv
  have second : linkedTree.resolve ⟨["b.py"]⟩ = .ok ⟨["b.py"]⟩ := by cbv
  obtain ⟨returns, keeps⟩ := collectFiles_of_closed closed_linkedTree resolved
    (fun _ => ⟨0, [], ""⟩)
    .root none .empty .empty
  have candidates : (candidates (fun _ => ⟨0, [], ""⟩) linkedTree .root .root none).run.run .empty =
      (.ok (sourcesAt linkedTree .root), .empty) := rfl
  obtain ⟨files, collected⟩ := returns.mpr ⟨_, candidates, fun _ file member => by
    rw [sources, List.mem_pair] at member
    rcases member with rfl | rfl
    · exact ⟨_, first⟩
    · exact ⟨_, second⟩⟩
  obtain ⟨found, candidates', kept⟩ := keeps files collected
  rw [candidates] at candidates'
  cases candidates'
  have within : (⟨["b.py"]⟩ : Path).IsWithin .root := ⟨["b.py"], rfl, by decide⟩
  refine ⟨closed_linkedTree, resolved, ?_, hidden, ⟨"../b.py", rfl⟩⟩
  rw [collected, kept.chosen.1, sources, List.filter_cons_of_pos, List.filter_cons_of_pos,
    List.filter_nil]
  · exact FileTree.collects_iff.mpr ⟨_, second, within⟩
  · exact FileTree.collects_iff.mpr ⟨_, first, within⟩

end StructuralLint
