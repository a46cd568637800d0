import StructuralLint.Proofs.Analysis.Project
import StructuralLint.Proofs.Check.Dispatch
import StructuralLint.Proofs.History.Listing
import StructuralLint.Proofs.Report.Gate
import StructuralLint.Proofs.Worktree.Naming

/-!
# Runs over what changed

A run that looks back to a revision asks version control where the top of the working tree is and
what changed, and then analyzes the sources among what it is told (`Listing.sourcesIn`). These are
the sources of a run over everything that the listing names (`FileTree.Plain.mem_sourcesIn_iff`),
and each of them is shown in the same way. So such a run reports what a run over everything reports
of the files that changed (`analyzeProject_since`).
-/

namespace StructuralLint

/-- A path that is written in a listing as it is: it fits into a line, and none of its names leads
up. -/
structure PlainName where
  text : String
  fits : Fits text.toList
  downward : Path.up ∉ Path.namesIn text

/-- How the path is written. -/
def PlainName.written (name : PlainName) : List Char := name.text.toList

/-- Asked in a directory, version control tells the top of the working tree. -/
structure History.Locates (history : History) (directory top : Path) : Prop where
  accepts : (history ⟨directory, .topLevel⟩).code = 0
  told : (history ⟨directory, .topLevel⟩).output = top.text.toList ++ ['\n']

/-- Version control tells what changed since a revision in the working tree around a place. -/
structure History.Knows (history : History) (tree : FileTree) (place top : Path)
    (revision : String) (listing : Listing PlainName) : Prop where
  locates : history.Locates (workingDirectory tree place) top
  tells : history.Tells top revision PlainName.written listing

namespace Listing

variable (listing : Listing PlainName)

/-- The paths of sources that are still there. -/
def sourcePaths (top : Path) : List Path :=
  (listing.items.filter fun item => Change.namesSource item.path.text).map fun item =>
    top.join item.path.text

/-- The sources at a place that are looked at: files that are not on a way that is left out. -/
def sourcesIn (tree : FileTree) (top place : Path) : List Path :=
  ((listing.sourcePaths top).filter tree.isFile).filter fun file =>
    (file.relativeTo? place).any fun names => !isSkippedWay names

end Listing

/-- A directory whose text can be read from a line. The blanks at the ends of the line are dropped,
so the text must not end with one. -/
structure FileTree.IsTop (tree : FileTree) (top : Path) : Prop where
  stands : tree.entry? top = some .directory
  unblank : ∀ c ∈ top.text.toList.getLast?, Text.isBlank c = false

variable {tree : FileTree} {top place file base : Path} {history : History}
  {revision : String} {listing listing' : Listing PlainName} {entry : Entry} {log : RunLog}

/-! ### What is looked at -/

theorem Run.run_ofInquiry {α : Type} {inquiry : Inquiry α} {value : α} {asked : List Asked}
    (done : inquiry.run.run [] = (.ok value, asked)) :
    (ofInquiry inquiry).run.run log = (.ok value, { log with asked := log.asked ++ asked }) := by
  unfold ofInquiry
  rw [done]
  rfl

/-- The sources that are read from a listing. -/
theorem Listing.sourcePaths_eq (listing : Listing PlainName) (top : Path) :
    (⟨top⟩ : Repository).sourcePaths (listing.items.map (Item.change PlainName.written)) =
      listing.sourcePaths top := by
  have written : Item.change PlainName.written =
      fun item : Item PlainName => ⟨item.path.text, String.ofList [item.letter]⟩ := by
    funext item
    exact congrArg (Change.mk · _) String.ofList_toList
  unfold Repository.sourcePaths
  rw [written, List.filter_map, List.map_map]
  rfl

theorem Listing.mem_sourcePaths_iff : file ∈ listing.sourcePaths top ↔
    ∃ name ∈ listing.items.map (·.path),
      Change.namesSource name.text = true ∧ top.join name.text = file := by
  unfold Listing.sourcePaths
  simp only [List.mem_map, List.mem_filter]
  constructor
  · rintro ⟨item, ⟨member, source⟩, same⟩
    exact ⟨item.path, ⟨item, member, rfl⟩, source, same⟩
  · rintro ⟨name, ⟨item, member, rfl⟩, source, same⟩
    exact ⟨item, ⟨member, source⟩, same⟩

/-- The last name of what a listing names is that of a source. -/
theorem Listing.getLast?_of_mem_sourcePaths (member : file ∈ listing.sourcePaths top) :
    file.names.getLast?.any Change.namesSource = true := by
  obtain ⟨item, chosen, rfl⟩ := List.mem_map.mp member
  have last := Path.getLast?_namesIn (List.mem_filter.mp chosen).2
  have inner : Path.namesIn item.path.text ≠ [] := by
    intro none
    rw [none] at last
    cases last
  unfold Path.join
  split
  · exact last
  · rwa [Path.append, List.getLast?_append_of_ne_nil _ inner]

namespace FileTree.Plain

variable (plain : tree.Plain)
include plain

theorem entry?_workingDirectory (stands : (tree.entry? place).isSome = true) :
    tree.entry? (workingDirectory tree place) = some .directory := by
  obtain ⟨entry, found⟩ := Option.isSome_iff_exists.mp stands
  unfold workingDirectory isDirectory
  rw [plain.find_eq found]
  cases entry with
  | file bytes =>
      refine plain.closed _ _ found ?_
      rintro rfl
      rw [plain.root] at found
      cases found
  | directory => exact found
  | link target => exact absurd found (plain.unlinked _ _)

/-- What is named in a listing is below the top. -/
theorem downward_of_mem_sourcePaths (isTop : tree.IsTop top)
    (member : file ∈ listing.sourcePaths top) : Path.up ∉ file.names := by
  obtain ⟨item, -, rfl⟩ := List.mem_map.mp member
  unfold Path.join
  split
  · exact item.path.downward
  · rw [Path.append, List.mem_append, not_or]
    exact ⟨plain.downward _ _ isTop.stands, item.path.downward⟩

/-- The files that are looked at are sources of the place. -/
theorem mem_sourcesIn_iff (isTop : tree.IsTop top) (stands : (tree.entry? place).isSome = true) :
    file ∈ listing.sourcesIn tree top place ↔
      file ∈ tree.sources place ∧ tree.isFile file = true ∧ file ∈ listing.sourcePaths top := by
  obtain ⟨entry, found⟩ := Option.isSome_iff_exists.mp stands
  have downPlace := plain.downward _ _ found
  unfold Listing.sourcesIn
  rw [List.mem_filter, List.mem_filter]
  constructor
  · rintro ⟨⟨named, isFile⟩, collected⟩
    refine ⟨mem_sources_iff.mpr ?_, isFile, named⟩
    have downFile := plain.downward_of_mem_sourcePaths isTop named
    obtain ⟨bytes, stands⟩ := (plain.isFile_iff downFile).mp isFile
    obtain ⟨names, below, kept⟩ := (Option.any_eq_true _ _).mp collected
    obtain rfl := Path.relativeTo?_eq_some_iff.mp below
    by_cases alone : tree.isFile place = true
    · -- there is nothing below a file
      refine .inl ⟨alone, ?_⟩
      by_contra other
      have inner : names ≠ [] := by
        rintro rfl
        exact other (Path.append_nil _)
      obtain ⟨bytes', isPlace⟩ := (plain.isFile_iff downPlace).mp alone
      have directory := plain.entry?_above stands inner
      rw [isPlace] at directory
      cases directory
    · have inner : names ≠ [] := by
        rintro rfl
        exact alone (Path.append_nil place ▸ isFile)
      refine .inr ⟨Bool.eq_false_of_not_eq_true alone, ?_, names, inner, rfl, ?_,
        by simpa using kept⟩
      · rw [stands]
        rfl
      · rw [← List.getLast?_append_of_ne_nil place.names inner]
        exact Listing.getLast?_of_mem_sourcePaths named
  · intro ⟨source, isFile, named⟩
    exact ⟨⟨named, isFile⟩, (List.mem_filter.mp source).2⟩

variable (named : tree.Named)
include named

/-- The working tree around a place is the one whose top version control tells. -/
theorem run_around (isTop : tree.IsTop top) (stands : tree.entry? place = some entry)
    (locates : history.Locates place top) (here : Path) (before : List Asked) :
    (Repository.around history tree here place.text).run.run before =
      (.ok ⟨top⟩, before ++ [⟨place, .topLevel⟩]) := by
  have there : (Repository.follow tree (here.join place.text)).run.run before =
      (.ok place, before) := by
    unfold Repository.follow
    rw [Path.join_text (named _ _ stands), plain.resolve_eq (plain.downward _ _ stands)]
    rfl
  have line : Text.trim (history ⟨place, .topLevel⟩).output = top.text.toList := by
    rw [locates.told]
    apply Text.trim_append_singleton (by rfl) _ _ isTop.unblank
    · rw [Path.toList_text]
      exact List.cons_ne_nil _ _
    · intro c first
      rw [Path.toList_text] at first
      cases first
      rfl
  unfold Repository.around
  rw [Steps.run_bind_of_ok there, Steps.run_bind_of_ok (Repository.run_ask locates.accepts _ _),
    line, String.ofList_toList, Path.join_text (named _ _ isTop.stands)]
  unfold Repository.follow
  rw [plain.resolve_eq (plain.downward _ _ isTop.stands)]
  rfl

/-- A run that looks back to a revision asks three questions, and its candidates are the files that
the listing names. -/
theorem run_candidates (isTop : tree.IsTop top) (stands : (tree.entry? place).isSome = true)
    (knows : history.Knows tree place top revision listing) (here : Path) (log : RunLog) :
    (candidates history tree here place (some revision)).run.run log =
      (.ok ((listing.sourcePaths top).filter tree.isFile),
        { log with asked := log.asked ++ [⟨workingDirectory tree place, .topLevel⟩,
          ⟨top, .changedSince revision⟩, ⟨top, .notTracked⟩] }) := by
  have around := plain.run_around named isTop (plain.entry?_workingDirectory stands)
    knows.locates here []
  have told := Repository.run_changedSources (fun name => name.fits) around knows.tells
  rw [listing.sourcePaths_eq] at told
  unfold candidates
  exact Steps.run_bind_pure (Run.run_ofInquiry told) _

theorem run_collectFiles (isTop : tree.IsTop top) (stands : (tree.entry? place).isSome = true)
    (knows : history.Knows tree place top revision listing) (here : Path) (log : RunLog) :
    (collectFiles history tree here place (some revision)).run.run log =
      (.ok (listing.sourcesIn tree top place),
        { log with asked := log.asked ++ [⟨workingDirectory tree place, .topLevel⟩,
          ⟨top, .changedSince revision⟩, ⟨top, .notTracked⟩] }) := by
  have each : ∀ file ∈ (listing.sourcePaths top).filter tree.isFile,
      isCollected tree place file =
        .ok ((file.relativeTo? place).any fun names => !isSkippedWay names) := by
    intro file member
    exact plain.isCollected_eq
      (plain.downward_of_mem_sourcePaths isTop (List.mem_filter.mp member).1)
  unfold collectFiles
  rw [Steps.run_bind_of_ok (plain.run_candidates named isTop stands knows here log),
    Lists.filterM_eq_ok each, Run.ofPath_ok]
  rfl

end FileTree.Plain

/-! ### What is reported -/

theorem filePath_of_mem_analyzeSource {source : List Char} {filePath : String}
    {issues : List Issue} (found : analyzeSource source filePath = .ok issues) {issue : Issue}
    (member : issue ∈ issues) : issue.filePath = filePath := by
  unfold analyzeSource analyzeSourceWith at found
  cases read : parse source true with
  | error error =>
      rw [read] at found
      cases found
  | ok parsed =>
      rw [read] at found
      dsimp only at found
      cases scanned : (Dispatcher.ofChecks defaultChecks).scan parsed.tree filePath with
      | error error =>
          rw [scanned] at found
          cases found
      | ok issues =>
          rw [scanned] at found
          cases found
          exact Dispatcher.filePath_of_mem_scan scanned member

namespace FileTree

/-- The sources of a place are below the directory that they are shown from. -/
theorem exists_append_of_mem_sources (stands : (tree.entry? place).isSome = true)
    (member : file ∈ tree.sources place) :
    ∃ names, file = (tree.baseOf place).append names ∧ (tree.entry? file).isSome = true := by
  unfold baseOf
  rcases mem_sources_iff.mp member with ⟨isFile, rfl⟩ | ⟨none, found, names, -, rfl, -⟩
  · rw [if_pos isFile]
    refine ⟨file.names.drop (file.names.length - 1), ?_, stands⟩
    unfold Path.parent Path.append
    rw [List.dropLast_eq_take, List.take_append_drop]
  · rw [if_neg (by rw [none]; exact Bool.false_ne_true)]
    exact ⟨names, rfl, found⟩

/-- A source is known by how it is shown. -/
theorem Named.join_shownFrom (named : tree.Named) (stands : (tree.entry? place).isSome = true)
    (member : file ∈ tree.sources place) :
    (tree.baseOf place).join (file.shownFrom (tree.baseOf place)) = file := by
  obtain ⟨names, same, found⟩ := exists_append_of_mem_sources stands member
  obtain ⟨entry, found⟩ := Option.isSome_iff_exists.mp found
  have proper : ∀ name ∈ names, Path.IsName name := by
    intro name among
    refine named file entry found name ?_
    rw [same]
    exact List.mem_append_right _ among
  rw [same]
  exact Path.join_shownFrom proper

/-- What is reported of a file carries the path by which it is shown. -/
theorem filePath_of_mem_verdict {issue : Issue}
    (member : issue ∈ (tree.verdict base file).issues) :
    issue.filePath = file.shownFrom base := by
  unfold verdict at member
  split at member
  · split at member
    · cases member
    · split at member
      · rename_i found
        exact filePath_of_mem_analyzeSource found member
      · split at member <;> cases member
  · cases member
  · cases member

/-- The file of an issue is known by the path that it carries. -/
theorem Named.join_filePath (named : tree.Named) (stands : (tree.entry? place).isSome = true)
    (member : file ∈ tree.sources place) {issue : Issue}
    (reported : issue ∈ (tree.verdict (tree.baseOf place) file).issues) :
    (tree.baseOf place).join issue.filePath = file := by
  rw [filePath_of_mem_verdict reported]
  exact named.join_shownFrom stands member

/-- Only what is a file lets a run go on. -/
theorem isFile_of_isHarmless (plain : tree.Plain)
    (harmless : (tree.verdict base file).isHarmless = true) : tree.isFile file = true := by
  cases found : tree.entry? file with
  | none =>
      rw [verdict, found] at harmless
      cases harmless
  | some entry =>
      refine (plain.isFile_iff (plain.downward _ _ found)).mpr ?_
      cases entry with
      | file bytes => exact ⟨bytes, found⟩
      | _ =>
          rw [verdict, found] at harmless
          cases harmless

/-- A run over files has a result if all of them let it go on. It is made of what is reported. -/
theorem reported_eq_ok_iff {files : List Path} {report : List Issue → List Issue}
    {found : List Issue} :
    ((files.mapM fun file => (tree.verdict base file).outcome).map List.flatten).map report =
        .ok found ↔
      (∀ file ∈ files, (tree.verdict base file).isHarmless = true) ∧
        found = report (files.flatMap fun file => (tree.verdict base file).issues) := by
  have reported (harmless : ∀ file ∈ files, (tree.verdict base file).isHarmless = true) :
      ((files.mapM fun file => (tree.verdict base file).outcome).map List.flatten).map report =
        .ok (report (files.flatMap fun file => (tree.verdict base file).issues)) := by
    rw [Lists.mapM_eq_ok fun file member => Verdict.outcome_of_isHarmless (harmless file member),
      List.flatMap_def]
    rfl
  constructor
  · intro result
    have harmless : ∀ file ∈ files, (tree.verdict base file).isHarmless = true := by
      cases done : files.mapM fun file => (tree.verdict base file).outcome with
      | error error =>
          rw [done] at result
          cases result
      | ok lists =>
          intro file member
          obtain ⟨issues, -, outcome⟩ :=
            Lists.exists_left (Lists.forall₂_of_mapM done).flip member
          unfold Verdict.isHarmless
          rw [outcome]
          rfl
    rw [reported harmless] at result
    exact ⟨harmless, (Except.ok.inj result).symm⟩
  · rintro ⟨harmless, rfl⟩
    exact reported harmless

namespace Plain

variable (plain : tree.Plain) (named : tree.Named)
include plain named

/-- The result of a run that looks back to a revision. -/
theorem result_since {setting : Option (List Char)} {limit cap : Option Int}
    (known : effectiveCap setting limit = pure cap) {path : Path}
    (stands : (tree.entry? path.straight).isSome = true) (isTop : tree.IsTop top)
    (knows : history.Knows tree path.straight top revision listing) (here : Path) :
    ((analyzeProject history tree here setting path (some revision) limit).run.run .empty).1 =
      (((listing.sourcesIn tree top path.straight).mapM fun file =>
        (tree.verdict (tree.baseOf path.straight) file).outcome).map List.flatten).map
          fun issues => gate issues cap := by
  have stand : ∀ file ∈ listing.sourcesIn tree top path.straight,
      (tree.entry? file).isSome = true := by
    intro file member
    obtain ⟨_, -, stands⟩ := exists_append_of_mem_sources stands
      ((plain.mem_sourcesIn_iff isTop stands).mp member).1
    exact stands
  unfold analyzeProject
  rw [known, plain.resolve_eq_straight, Run.ofPath_ok, pure_bind, pure_bind,
    Steps.run_bind_of_ok (plain.run_collectFiles named isTop stands knows here _)]
  exact congrArg Prod.fst
    (Steps.run_bind_pure (plain.run_analyzeFiles (tree.baseOf path.straight) _ stand) (gate · cap))

/-- What is reported of the files that a listing names is what is reported of all sources,
restricted to these files. -/
theorem gate_sourcesIn (isTop : tree.IsTop top) (stands : (tree.entry? place).isSome = true)
    (harmless : ∀ file ∈ tree.sources place,
      (tree.verdict (tree.baseOf place) file).isHarmless = true) :
    gate ((listing.sourcesIn tree top place).flatMap fun file =>
        (tree.verdict (tree.baseOf place) file).issues) none =
      (gate ((tree.sources place).flatMap fun file =>
        (tree.verdict (tree.baseOf place) file).issues) none).filter fun issue =>
          (tree.baseOf place).join issue.filePath ∈ listing.sourcePaths top := by
  have same : ∀ file, file ∈ listing.sourcesIn tree top place ↔
      file ∈ (tree.sources place).filter (· ∈ listing.sourcePaths top) := by
    intro file
    rw [plain.mem_sourcesIn_iff isTop stands, List.mem_filter, decide_eq_true_eq]
    refine and_congr_right fun member => ?_
    rw [isFile_of_isHarmless plain (harmless file member)]
    exact and_iff_right rfl
  let owner (key : Gate.Key) : Path := (tree.baseOf place).join key.filePath
  have own : ∀ file ∈ tree.sources place,
      ∀ issue ∈ (tree.verdict (tree.baseOf place) file).issues, owner (Gate.key issue) = file :=
    fun _ member _ reported => named.join_filePath stands member reported
  rw [Gate.gate_flatMap_congr owner
      (fun file member => own file (List.mem_of_mem_filter ((same file).mp member))) same,
    ← Gate.filter_flatMap owner own]
  exact (Gate.filter_gate_none fun key => decide (owner key ∈ listing.sourcePaths top)).symm

/-- Listings with the same paths have the same files reported. -/
theorem gate_sourcesIn_congr (isTop : tree.IsTop top) (stands : (tree.entry? place).isSome = true)
    (same : ∀ file, file ∈ listing'.sourcesIn tree top place ↔
      file ∈ listing.sourcesIn tree top place) :
    gate ((listing'.sourcesIn tree top place).flatMap fun file =>
        (tree.verdict (tree.baseOf place) file).issues) none =
      gate ((listing.sourcesIn tree top place).flatMap fun file =>
        (tree.verdict (tree.baseOf place) file).issues) none := by
  refine Gate.gate_flatMap_congr (fun key => (tree.baseOf place).join key.filePath) ?_ same
  intro file member issue reported
  exact named.join_filePath stands ((plain.mem_sourcesIn_iff isTop stands).mp member).1 reported

end Plain

end FileTree

/-- **A run over what changed.** If version control tells the top of the working tree and what
changed in it, a run that looks back to the revision reports what a run over everything reports of
the sources that the listing names, as long as there is no cap. In which order the paths are listed,
how often and with which letters makes no difference: every listing of the same paths leads to the
same report. -/
theorem analyzeProject_since (plain : tree.Plain) (named : tree.Named)
    {setting : Option (List Char)} {limit : Option Int}
    (known : effectiveCap setting limit = pure none) {path : Path}
    (stands : (tree.entry? path.straight).isSome = true) (isTop : tree.IsTop top)
    (knows : history.Knows tree path.straight top revision listing) (here : Path) :
    (∀ all,
      ((analyzeProject history tree here setting path none limit).run.run .empty).1 = .ok all →
        ((analyzeProject history tree here setting path (some revision) limit).run.run .empty).1 =
          .ok (all.filter fun issue =>
            (tree.baseOf path.straight).join issue.filePath ∈ listing.sourcePaths top)) ∧
      ∀ history' revision' listing', history'.Knows tree path.straight top revision' listing' →
        (∀ name, name ∈ listing'.items.map (·.path) ↔ name ∈ listing.items.map (·.path)) →
          ∀ found,
            ((analyzeProject history' tree here setting path (some revision') limit).run.run
                .empty).1 = .ok found ↔
              ((analyzeProject history tree here setting path (some revision) limit).run.run
                .empty).1 = .ok found := by
  constructor
  · intro all result
    rw [plain.run_analyzeProject known] at result
    obtain ⟨harmless, rfl⟩ := FileTree.reported_eq_ok_iff.mp result
    rw [plain.result_since named known stands isTop knows, FileTree.reported_eq_ok_iff]
    refine ⟨fun file member => ?_, (plain.gate_sourcesIn named isTop stands harmless).symm⟩
    exact harmless file ((plain.mem_sourcesIn_iff isTop stands).mp member).1
  · intro history' revision' listing' knows' same found
    have alike : ∀ file, file ∈ listing'.sourcesIn tree top path.straight ↔
        file ∈ listing.sourcesIn tree top path.straight := by
      intro file
      rw [plain.mem_sourcesIn_iff isTop stands, plain.mem_sourcesIn_iff isTop stands,
        Listing.mem_sourcePaths_iff, Listing.mem_sourcePaths_iff]
      simp only [same]
    rw [plain.result_since named known stands isTop knows',
      plain.result_since named known stands isTop knows, FileTree.reported_eq_ok_iff,
      FileTree.reported_eq_ok_iff, plain.gate_sourcesIn_congr named isTop stands alike]
    simp only [alike]

/-- Two files that both raise on the way out. -/
def changedTree : FileTree :=
  ⟨[(.root, .directory), (⟨["s"]⟩, .directory),
    (⟨["s", "a.py"]⟩, .file "try: pass\nfinally: raise\n".toUTF8),
    (⟨["s", "b.py"]⟩, .file "try: pass\nfinally: raise\n".toUTF8)]⟩

/-- The name of the file that changed. -/
def changedName : PlainName where
  text := "a.py"
  fits := ⟨by decide, by decide, by simp [Text.isLineBoundary]⟩
  downward := by
    have alone : Path.namesIn "a.py" = ["a.py"] := by cbv
    rw [alone]
    decide

/-- The name of a file that is gone. -/
def goneName : PlainName where
  text := "old.py"
  fits := ⟨by decide, by decide, by simp [Text.isLineBoundary]⟩
  downward := by
    have alone : Path.namesIn "old.py" = ["old.py"] := by cbv
    rw [alone]
    decide

/-- The file that changed is listed twice, around the one that is gone. -/
def changedListing : Listing PlainName :=
  ⟨[.modified changedName, .gone goneName, .modified changedName], []⟩

/-- The text of that listing. -/
def changedText : String := "M\ta.py\nD\told.py\nM\ta.py\n"

/-- The file that changed is listed once. -/
def shortListing : Listing PlainName := ⟨[.modified changedName], []⟩

/-- Version control with a text for what changed. -/
def changedHistory (changed : String) : History := fun asked =>
  match asked.question with
  | .topLevel => ⟨0, "/s\n".toList, ""⟩
  | .changedSince _ => ⟨0, changed.toList, ""⟩
  | .notTracked => ⟨0, [], ""⟩

theorem plain_changedTree : changedTree.Plain := by
  apply FileTree.plain_of_forall (by rfl) _ (by decide)
  intro item member
  simp only [changedTree, List.mem_cons, List.not_mem_nil, or_false] at member
  rcases member with rfl | rfl | rfl | rfl
  · exact ⟨.inl rfl, nofun, by decide⟩
  all_goals exact ⟨.inr rfl, nofun, by decide⟩

theorem named_changedTree : changedTree.Named := by
  have each : ∀ item ∈ changedTree.entries, ∀ name ∈ item.1.names, Path.IsName name := by
    simp [changedTree, Path.root, Path.isName_iff]
  intro path entry found
  exact each _ <| FileTree.mem_of_entry? found

theorem isTop_changedTree : changedTree.IsTop ⟨["s"]⟩ where
  stands := rfl
  unblank := by
    have last : (⟨["s"]⟩ : Path).text.toList.getLast? = some 's' := by decide +kernel
    rw [last]
    rintro c member
    cases member
    rfl

theorem knows_changedHistory {changed : String} {listing : Listing PlainName}
    (written : changed.toList = listing.changed PlainName.written)
    (tracked : listing.unknown PlainName.written = []) (revision : String) :
    (changedHistory changed).Knows changedTree ⟨["s"]⟩ ⟨["s"]⟩ revision listing where
  locates := by
    have line : "/s\n".toList = (⟨["s"]⟩ : Path).text.toList ++ ['\n'] := by decide +kernel
    exact ⟨rfl, line⟩
  tells := by
    refine ⟨?_, written, tracked.symm⟩
    rintro question (rfl | rfl) <;> rfl

/-- Both files have an issue. -/
theorem result_changedTree (history : History) :
    ((analyzeProject history changedTree .root none ⟨["s"]⟩ none none).run.run .empty).1 =
      .ok [⟨BareRaise.key, "a.py", 2, 9, BareRaise.message⟩,
        ⟨BareRaise.key, "b.py", 2, 9, BareRaise.message⟩] := by
  have known : effectiveCap none none = pure none := rfl
  have straight : (⟨["s"]⟩ : Path).straight = ⟨["s"]⟩ := by decide
  have base : changedTree.baseOf ⟨["s"]⟩ = ⟨["s"]⟩ := by cbv
  have sources : changedTree.sources ⟨["s"]⟩ = [⟨["s", "a.py"]⟩, ⟨["s", "b.py"]⟩] := by cbv
  have harmless : ∀ file ∈ ([⟨["s", "a.py"]⟩, ⟨["s", "b.py"]⟩] : List Path),
      (changedTree.verdict ⟨["s"]⟩ file).isHarmless = true := by
    decide +kernel
  have found : ([⟨["s", "a.py"]⟩, ⟨["s", "b.py"]⟩] : List Path).flatMap
      (fun file => (changedTree.verdict ⟨["s"]⟩ file).issues) =
        [⟨BareRaise.key, "a.py", 2, 9, BareRaise.message⟩,
          ⟨BareRaise.key, "b.py", 2, 9, BareRaise.message⟩] := by
    decide +kernel
  rw [plain_changedTree.run_analyzeProject known, straight, sources, base,
    FileTree.reported_eq_ok_iff]
  refine ⟨harmless, ?_⟩
  have order : "a.py" < "b.py" := by decide
  rw [found, Gate.Increasing.gate_none_eq]
  exact List.pairwise_pair.mpr (Prod.Lex.toLex_lt_toLex.mpr (.inl order))

/-- The run that looks back reports the issue of the file that changed, also if the file is listed
only once. -/
theorem analyzeProject_since_changedTree :
    changedTree.Plain ∧ changedTree.Named ∧ changedTree.IsTop ⟨["s"]⟩ ∧
      (changedHistory changedText).Knows changedTree ⟨["s"]⟩ ⟨["s"]⟩ "HEAD" changedListing ∧
      ((analyzeProject (changedHistory changedText) changedTree .root none ⟨["s"]⟩ (some "HEAD")
        none).run.run .empty).1 = .ok [⟨BareRaise.key, "a.py", 2, 9, BareRaise.message⟩] ∧
      (changedHistory "M\ta.py\n").Knows changedTree ⟨["s"]⟩ ⟨["s"]⟩ "HEAD" shortListing ∧
      ((analyzeProject (changedHistory "M\ta.py\n") changedTree .root none ⟨["s"]⟩ (some "HEAD")
        none).run.run .empty).1 = .ok [⟨BareRaise.key, "a.py", 2, 9, BareRaise.message⟩] := by
  have known : effectiveCap none none = pure none := rfl
  have straight : (⟨["s"]⟩ : Path).straight = ⟨["s"]⟩ := by decide
  have stands : (changedTree.entry? (⟨["s"]⟩ : Path).straight).isSome = true := by
    rw [straight]
    rfl
  have long :
      (changedHistory changedText).Knows changedTree ⟨["s"]⟩ ⟨["s"]⟩ "HEAD" changedListing :=
    knows_changedHistory (by decide +kernel) rfl _
  have short : (changedHistory "M\ta.py\n").Knows changedTree ⟨["s"]⟩ ⟨["s"]⟩ "HEAD" shortListing :=
    knows_changedHistory (by decide +kernel) rfl _
  obtain ⟨restricted, alike⟩ := analyzeProject_since plain_changedTree named_changedTree known
    stands isTop_changedTree (straight.symm ▸ long) .root
  have base : changedTree.baseOf ⟨["s"]⟩ = ⟨["s"]⟩ := by cbv
  have listed : changedListing.sourcePaths ⟨["s"]⟩ = [⟨["s", "a.py"]⟩, ⟨["s", "a.py"]⟩] := by cbv
  have result : ((analyzeProject (changedHistory changedText) changedTree .root none ⟨["s"]⟩
      (some "HEAD") none).run.run .empty).1 =
        .ok [⟨BareRaise.key, "a.py", 2, 9, BareRaise.message⟩] := by
    refine (restricted _ (result_changedTree _)).trans (congrArg Except.ok ?_)
    rw [straight, base, listed]
    cbv
  have same : ∀ name, name ∈ shortListing.items.map (·.path) ↔
      name ∈ changedListing.items.map (·.path) := by
    intro name
    have long : changedListing.items.map (·.path) = [changedName, changedName] := rfl
    have short : shortListing.items.map (·.path) = [changedName] := rfl
    rw [long, short]
    simp
  exact ⟨plain_changedTree, named_changedTree, isTop_changedTree, long, result, short,
    (alike _ _ _ (straight.symm ▸ short) same _).mpr result⟩

end StructuralLint
