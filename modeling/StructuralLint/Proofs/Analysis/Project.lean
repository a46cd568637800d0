import Mathlib
import StructuralLint.Analysis.Project
import StructuralLint.Proofs.Lists
import StructuralLint.Proofs.Steps
import StructuralLint.Proofs.Worktree.FileTree

/-!
# Runs over plain file trees

Every source file of a plain file tree has a verdict of its own (`FileTree.verdict`): it reports
issues, it is skipped, or it stops the run. A run gathers what is reported up to the first source
that stops it, and notes what it skips (`FileTree.Plain.run_analyzeFiles`). So a run comes to an end
if no source stops it, and sources that are skipped make no difference to what is reported.
-/

namespace StructuralLint

/-! ### Steps of a run -/

namespace RunLog

/-- The log with further files that are skipped. -/
def note (log : RunLog) (shown : List String) : RunLog :=
  { log with skipped := log.skipped ++ shown }

@[simp]
theorem note_nil (log : RunLog) : log.note [] = log := by
  rw [note, List.append_nil]

@[simp]
theorem note_note (log : RunLog) (shown later : List String) :
    (log.note shown).note later = log.note (shown ++ later) := by
  rw [note, note, note, List.append_assoc]

end RunLog

namespace Run

variable {α : Type} {log : RunLog}

theorem run_skip (shown : String) :
    (skip shown).run.run log = (.ok (), log.note [shown]) := rfl

@[simp]
theorem ofPath_ok (value : α) : ofPath (.ok value) = pure value := rfl

@[simp]
theorem ofPath_error (error : PathError) :
    (ofPath (.error error) : Run α) = throw (.path error) := rfl

end Run

/-- What a source makes of the run that meets it. -/
inductive Verdict where
  | reports (issues : List Issue)
  | skips
  | stops (error : RunError)
deriving DecidableEq

namespace Verdict

/-- What is reported. -/
def issues : Verdict → List Issue
  | reports issues => issues
  | _ => []

/-- What the run has of it. -/
def outcome : Verdict → Except RunError (List Issue)
  | stops error => .error error
  | verdict => .ok verdict.issues

/-- Whether the run goes on. -/
def isHarmless (verdict : Verdict) : Bool := verdict.outcome.isOk

theorem outcome_of_isHarmless {verdict : Verdict} (harmless : verdict.isHarmless = true) :
    verdict.outcome = .ok verdict.issues := by
  cases verdict with
  | stops error => cases harmless
  | _ => rfl

end Verdict

namespace FileTree

variable (tree : FileTree)

/-- What the entry at a path makes of a run that shows it as seen from `base`. A directory stops the
run, and so does a text with an error that is not one to skip. -/
def verdict (base file : Path) : Verdict :=
  match tree.entry? file with
  | some (.file bytes) =>
    match sourceText? bytes with
    | none => .skips
    | some source =>
      match analyzeSource source (file.shownFrom base) with
      | .ok issues => .reports issues
      | .error error => if error.skips then .skips else .stops (.analysis error)
  | some _ => .stops (.path .directory)
  | none => .stops (.path .missing)

/-- The directory that files at a place are shown from. -/
def baseOf (place : Path) : Path := if tree.isFile place then place.parent else place

/-- A file is a source of the place: it is the place itself, or an entry below it with the name of a
source, on a way through no directory that is left out. -/
def IsSource (place file : Path) : Prop :=
  tree.isFile place = true ∧ file = place ∨
    tree.isFile place = false ∧ (tree.entry? file).isSome = true ∧
      ∃ names, names ≠ [] ∧ file = place.append names ∧
        names.getLast?.any Change.namesSource = true ∧ isSkippedWay names = false

/-- The sources of a place, in order. -/
def sources (place : Path) : List Path :=
  (sourcesAt tree place).filter fun file =>
    (file.relativeTo? place).any fun names => !isSkippedWay names

/-- What a run over files notes: those that are skipped before one stops the run. -/
def noted (base : Path) (files : List Path) : List String :=
  ((files.takeWhile fun file => (tree.verdict base file).isHarmless).filter fun file =>
    tree.verdict base file = .skips).map (·.shownFrom base)

/-! ### Sources -/

variable {tree} {place file base other : Path} {files : List Path}

theorem mem_sources_iff : file ∈ tree.sources place ↔ tree.IsSource place file := by
  rw [sources, List.mem_filter, Option.any_eq_true, sourcesAt, IsSource]
  simp only [Path.relativeTo?_eq_some_iff, Bool.not_eq_true']
  cases isFile : tree.isFile place with
  | true =>
      rw [if_pos rfl, List.mem_singleton]
      constructor
      · rintro ⟨rfl, -⟩
        exact .inl ⟨rfl, rfl⟩
      · rintro (⟨-, rfl⟩ | ⟨other, -⟩)
        · exact ⟨rfl, [], (Path.append_nil _).symm, rfl⟩
        · cases other
  | false =>
      rw [if_neg Bool.false_ne_true, mem_below_iff]
      constructor
      · rintro ⟨⟨stands, names, inner, rfl, passes⟩, names', same, kept⟩
        have equal : names = names' := List.append_cancel_left (congrArg Path.names same)
        subst equal
        exact .inr ⟨rfl, stands, names, inner, rfl, passes, kept⟩
      · rintro (⟨other, -⟩ | ⟨-, stands, names, inner, rfl, passes, kept⟩)
        · cases other
        · exact ⟨⟨stands, names, inner, rfl, passes⟩, names, rfl, kept⟩

namespace Plain

variable (plain : tree.Plain)
include plain

/-- Only what is there is a source. -/
theorem isSome_of_mem_sources (down : Path.up ∉ place.names) (member : file ∈ tree.sources place) :
    (tree.entry? file).isSome = true := by
  rcases mem_sources_iff.mp member with ⟨isFile, rfl⟩ | ⟨-, stands, -⟩
  · obtain ⟨bytes, found⟩ := (plain.isFile_iff down).mp isFile
    rw [found]
    rfl
  · exact stands

end Plain

end FileTree

/-! ### Runs -/

variable {tree : FileTree} {place base file : Path} {files : List Path} {log : RunLog}

namespace FileTree

theorem noted_singleton : tree.noted base [file] =
    if tree.verdict base file = .skips then [file.shownFrom base] else [] := by
  cases verdict : tree.verdict base file <;>
    simp [noted, verdict, Verdict.isHarmless, Verdict.outcome, Except.isOk, Except.toBool]

theorem noted_cons : tree.noted base (file :: files) =
    tree.noted base [file] ++
      if (tree.verdict base file).isHarmless then tree.noted base files else [] := by
  cases verdict : tree.verdict base file <;>
    simp [noted, verdict, Verdict.isHarmless, Verdict.outcome, Except.isOk, Except.toBool]

/-- The verdict on a file is what the analysis of its bytes says. -/
theorem verdict_file {bytes : ByteArray} (found : tree.entry? file = some (.file bytes)) :
    tree.verdict base file =
      match analyzeBytes (Dispatcher.ofChecks defaultChecks) bytes (file.shownFrom base) with
      | .ok (some issues) => .reports issues
      | .ok none => .skips
      | .error error => .stops (.analysis error) := by
  rw [verdict, found, analyzeBytes]
  dsimp only
  cases sourceText? bytes with
  | none => rfl
  | some source =>
      dsimp only
      rw [analyzeSource]
      cases analyzeSourceWith (Dispatcher.ofChecks defaultChecks) source (file.shownFrom base) with
      | ok issues => rfl
      | error error => cases skips : error.skips <;> simp [skips]

namespace Plain

variable (plain : tree.Plain)
include plain

/-- **One file.** A run over one file has what its verdict says. -/
theorem run_analyzeFile (base : Path) (log : RunLog)
    (stands : (tree.entry? file).isSome = true) :
    (analyzeFile (Dispatcher.ofChecks defaultChecks) tree base file).run.run log =
      ((tree.verdict base file).outcome, log.note (tree.noted base [file])) := by
  obtain ⟨entry, found⟩ := Option.isSome_iff_exists.mp stands
  rw [noted_singleton]
  cases entry with
  | link target => exact absurd found (plain.unlinked file target)
  | directory =>
      have verdict : tree.verdict base file = .stops (.path .directory) := by
        rw [FileTree.verdict, found]
      rw [analyzeFile, plain.read_directory found, Run.ofPath_error,
        Steps.run_bind_of_error (Steps.run_throw _), verdict, if_neg (by simp), RunLog.note_nil]
      rfl
  | file bytes =>
      rw [analyzeFile, plain.read_file found, Run.ofPath_ok,
        Steps.run_bind_of_ok (Steps.run_pure _), verdict_file found]
      cases analyzeBytes (Dispatcher.ofChecks defaultChecks) bytes (file.shownFrom base) with
      | error error =>
          rw [if_neg (by simp), RunLog.note_nil]
          rfl
      | ok found =>
          cases found with
          | none =>
              rw [if_pos rfl]
              exact Steps.run_bind_of_ok (Run.run_skip _)
          | some issues =>
              rw [if_neg (by simp), RunLog.note_nil]
              rfl

/-- **File by file.** A run over files has what their verdicts say, up to the first that stops
it. -/
theorem run_mapM (base : Path) (log : RunLog)
    (stand : ∀ file ∈ files, (tree.entry? file).isSome = true) :
    (files.mapM (analyzeFile (Dispatcher.ofChecks defaultChecks) tree base)).run.run log =
      (files.mapM fun file => (tree.verdict base file).outcome,
        log.note (tree.noted base files)) := by
  induction files generalizing log with
  | nil =>
      rw [show tree.noted base [] = [] from rfl, RunLog.note_nil]
      rfl
  | cons file rest ih =>
      have first := plain.run_analyzeFile base log (stand file List.mem_cons_self)
      have later := ih (log.note (tree.noted base [file])) fun other member =>
        stand other (List.mem_cons_of_mem _ member)
      rw [List.mapM_cons, List.mapM_cons, noted_cons, Verdict.isHarmless]
      cases outcome : (tree.verdict base file).outcome with
      | error error =>
          rw [outcome] at first
          rw [Steps.run_bind_of_error first, if_neg (by simp [Except.isOk, Except.toBool]),
            List.append_nil]
          rfl
      | ok issues =>
          rw [outcome] at first
          rw [Steps.run_bind_of_ok first, if_pos (by rfl), ← RunLog.note_note]
          exact Steps.run_bind_pure later (issues :: ·)

theorem run_analyzeFiles (base : Path) (log : RunLog)
    (stand : ∀ file ∈ files, (tree.entry? file).isSome = true) :
    (analyzeFiles tree base files).run.run log =
      ((files.mapM fun file => (tree.verdict base file).outcome).map List.flatten,
        log.note (tree.noted base files)) := by
  rw [analyzeFiles]
  exact Steps.run_bind_pure (plain.run_mapM base log stand) List.flatten

theorem isCollected_eq (down : Path.up ∉ file.names) :
    isCollected tree place file =
      .ok ((file.relativeTo? place).any fun names => !isSkippedWay names) := by
  rw [isCollected, plain.resolve_eq down]
  simp only [bind, Except.bind]
  cases file.relativeTo? place <;> rfl

/-- The files that are collected are the sources. -/
theorem collectFiles_eq (history : History) (here : Path) (down : Path.up ∉ place.names) :
    collectFiles history tree here place none = pure (tree.sources place) := by
  have each : ∀ file ∈ sourcesAt tree place, isCollected tree place file =
      .ok ((file.relativeTo? place).any fun names => !isSkippedWay names) := by
    intro file member
    refine plain.isCollected_eq ?_
    rw [sourcesAt] at member
    split at member
    · exact List.mem_singleton.mp member ▸ down
    · obtain ⟨entry, found⟩ := Option.isSome_iff_exists.mp (mem_below_iff.mp member).1
      exact plain.downward _ _ found
  rw [collectFiles, candidates, pure_bind, Lists.filterM_eq_ok each, Run.ofPath_ok, sources]

/-- **A whole run.** A run over a plain tree has what the verdicts on the sources say, behind the
gate. -/
theorem run_analyzeProject {setting : Option (List Char)} {limit cap : Option Int}
    (known : effectiveCap setting limit = pure cap) (history : History) (here path : Path) :
    (analyzeProject history tree here setting path none limit).run.run .empty =
      ((((tree.sources path.straight).mapM fun file =>
          (tree.verdict (tree.baseOf path.straight) file).outcome).map List.flatten).map
            fun issues => gate issues cap,
        RunLog.empty.note
          (tree.noted (tree.baseOf path.straight) (tree.sources path.straight))) := by
  have down := path.up_not_mem_straight
  have all := plain.run_analyzeFiles (tree.baseOf path.straight) .empty fun file member =>
    plain.isSome_of_mem_sources down member
  rw [analyzeProject, known, plain.resolve_eq_straight, Run.ofPath_ok, pure_bind, pure_bind,
    plain.collectFiles_eq history here down, pure_bind]
  exact Steps.run_bind_pure all (gate · cap)

/-! ### One more file -/

section

variable {other : Path} {bytes : ByteArray}

end

end Plain

/-! ### All runs -/

end FileTree

end StructuralLint
