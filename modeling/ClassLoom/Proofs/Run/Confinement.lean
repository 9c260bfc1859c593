import ClassLoom.Proofs.Rebuild.Confining
import ClassLoom.Proofs.Run.Staging

namespace ClassLoom
namespace Run

/-!
# What a run over an archive may touch

A run may take away and write what is at or below four places: those of the archive, the staging
directory, the copy, and the backup.  Elsewhere it may only make directories, and it does: the names of
an entry are checked by where they end, and the directories on the way are made as they are spelled.
There must be no links, since a link at one of the four places may lead anywhere.
-/

open Config (Value)
open Files (FileTree Path IsName)
open Rebuild (Rebuilder WorkingPaths)

variable {host : Host} {plan : Plan} {before after : Workspace}

/-! ## The areas of a run -/

section Areas

variable {directory : Files.Location} {name : String}

/-- Where the staging directory and the copy are. -/
def workAreas (directory : Files.Location) (name : String) : List Files.Location :=
  [directory ++ [name ++ ".tmp"], directory ++ ["copy-" ++ name]]

/-- Where everything is that a run replaces. -/
def runAreas (directory : Files.Location) (name : String) : List Files.Location :=
  [directory ++ [name], directory ++ ["old-" ++ name]] ++ workAreas directory name

theorem outside_workAreas (directory : Files.Location) (name : String) :
    Outside (workAreas directory name) (directory ++ [name]) := by
  intro area member
  simp only [workAreas, List.mem_cons, List.not_mem_nil, or_false] at member
  rcases member with rfl | rfl
  · exact FileTree.not_isBelow_sibling (Rebuild.staging_ne_archive name).symm []
  · exact FileTree.not_isBelow_sibling (Rebuild.copy_ne_archive name).symm []

theorem confined_of_workAreas {before after : FileTree}
    (confined : Confined (workAreas directory name) before after) :
    Confined (runAreas directory name) before after :=
  confined.mono fun _ => List.mem_append_right _

end Areas

/-! ## Replacing the archive -/

theorem keeps_cleanStaging {related : Workspace → Workspace → Prop} [Logging related]
    {rebuilder : Rebuilder} (cleans : Keeps related rebuilder.cleanUp) :
    Keeps related (cleanStaging plan rebuilder) := by
  refine (Work.keeps_attempt cleans).bind fun outcome => ?_
  split
  · exact keeps_pure _
  · split
    · exact Log.keeps_warning _ _
    · exact keeps_throw _

section Replacing

variable {origin : FileTree} {path : Path} {name : String} {directory : Files.Location}

/-- Replacing the archive touches the four places only, whatever it comes to. -/
theorem confined_of_replaceArchive {staging : Staging} {artifact : Path}
    (linkless : origin.Linkless) (reaches : origin.Reaches path directory)
    (paths : Rebuild.Named staging.rebuilder path name) (clear : before.files.Linkless)
    (start : before.files.start = origin.start) (reachesNow : before.files.Reaches path directory)
    {file : Files.File} (held : before.files.at? (directory ++ [name]) = some (.file file))
    {outcome : Outcome Report} (run : replaceArchive plan artifact staging before = (outcome, after)) :
    Follows (Confined (runAreas directory name)) before after := by
  intro healthy
  have named := paths.named
  have copyNamed := Rebuild.isName_copy named
  have serializes : Keeps (Confines origin (workAreas directory name))
      (staging.rebuilder.serialize staging.manifest) :=
    Rebuild.keeps_serialize linkless reaches paths.proper copyNamed paths.copy (by simp [workAreas]) _
  rcases bind_cases run with ⟨_, written, _⟩ | ⟨_, copied, written, further⟩
  · exact (serializes.run written clear start healthy).imp_right confined_of_workAreas
  obtain ⟨healthyCopied, one⟩ := serializes.run written clear start healthy
  have clearCopied := one.linkless clear
  have startCopied := one.start.trans start
  have heldCopied := one.at?_of_some (outside_workAreas directory name) held
  obtain ⟨_, _, _, _, _, _, _, _, copy, _⟩ :=
    Rebuild.copied_of_serialize paths.copy paths.proper copyNamed reachesNow healthy written
  obtain ⟨entry, heldCopy, bare⟩ := copy.held copyNamed
  obtain ⟨new, rfl⟩ : ∃ new, entry = .file new := by
    cases entry with
    | file new => exact ⟨new, rfl⟩
    | directory => exact absurd rfl bare
    | link target => exact absurd heldCopy (clearCopied _ _)
  have swap := fun {outcome : Outcome Path} {last : Workspace} =>
    @Rebuild.confined_of_finalize (runAreas directory name) staging.rebuilder path name directory origin
      linkless reaches paths (by simp [runAreas]) (by simp [runAreas, workAreas]) (by simp [runAreas])
      copied last clearCopied startCopied file new heldCopied heldCopy copy.fresh.clean outcome
  have before_ : Confined (runAreas directory name) before.files copied.files := confined_of_workAreas one
  rcases bind_cases further with ⟨_, swapping, _⟩ | ⟨backup, swapped, swapping, rest⟩
  · obtain ⟨healthyAfter, two⟩ := swap swapping healthyCopied
    exact ⟨healthyAfter, trans_of (Confined _) before_ two⟩
  obtain ⟨healthySwapped, two⟩ := swap swapping healthyCopied
  have both := trans_of (Confined (runAreas directory name)) before_ two
  have cleans : Keeps (Confines origin (runAreas directory name)) staging.rebuilder.cleanUp := by
    refine Keeps.bind ?_ fun _ => keeps_pure _
    rw [paths.staging]
    exact Rebuild.keeps_delete linkless reaches paths.proper (Rebuild.isName_staging named)
      (by simp [runAreas, workAreas]) _
  have ending : Keeps (Confines origin (runAreas directory name)) (do
      Log.info plan.logger
        ("Replaced " ++ artifact.toString ++ ", previous archive kept as " ++ backup.toString)
      if plan.clean then cleanStaging plan staging.rebuilder
      logReport plan { staging.report with backup := some backup.toString }
      return { staging.report with backup := some backup.toString } : Work Report) := by
    refine (Log.keeps_info _ _).bind fun _ => ?_
    have reports : Keeps (Confines origin (runAreas directory name)) (do
        logReport plan { staging.report with backup := some backup.toString }
        return { staging.report with backup := some backup.toString } : Work Report) :=
      (Log.keeps_info _ _).bind fun _ => keeps_pure _
    split
    · exact (keeps_cleanStaging cleans).bind fun _ => reports
    · exact reports
  obtain ⟨healthyAfter, three⟩ :=
    ending.run rest (both.linkless clear) (both.start.trans start) healthySwapped
  exact ⟨healthyAfter, trans_of (Confined _) both three⟩

end Replacing

/-! ## The whole run -/

theorem confined_of_rebuildJar (leaves : host.LeavesFiles) (healthy : before.Healthy)
    (linkless : before.files.Linkless) {artifact : Path} (proper : artifact.Proper) (nonempty : artifact.parts ≠ [])
    (named : IsName artifact.name) {directory : Files.Location}
    (reaches : before.files.Reaches artifact.parent directory) {file : Files.File}
    (held : before.files.at? (directory ++ [artifact.name]) = some (.file file))
    {elements : List Value} {outcome : Outcome Report}
    (run : rebuildJar host plan artifact elements before = (outcome, after)) :
    after.Healthy ∧ Confined (runAreas directory artifact.name) before.files after.files := by
  have paths := Rebuild.named_of_new proper nonempty named plan.policy plan.logger
  have staging := Rebuild.isName_staging named
  have prepares : Keeps (Confines before.files (workAreas directory artifact.name))
      (Rebuilder.new artifact plan.policy plan.logger).prepare :=
    Rebuild.keeps_prepare linkless reaches paths.proper staging paths.staging (by simp [workAreas])
  rcases bind_cases run with ⟨_, failed, _⟩ | ⟨prepared, _, preparing, further⟩
  · exact (prepares.run failed linkless rfl healthy).imp_right confined_of_workAreas
  obtain ⟨healthyReady, one⟩ := prepares.run preparing linkless rfl healthy
  have ready := Rebuild.ready_of_prepare proper nonempty named reaches healthy
    (linkless.not_isLink reaches paths.proper staging) preparing
  have stays : Keeps (Follows (Within (directory ++ [artifact.name ++ ".tmp"])))
      (stageInRun host plan artifact elements prepared) :=
    keeps_stageInRun leaves artifact elements ready.rooted
  have stages : Keeps (Confines before.files (workAreas directory artifact.name))
      (stageInRun host plan artifact elements prepared) :=
    stays.confines_of_within (by simp [workAreas])
  have clearReady := one.linkless linkless
  rcases bind_cases further with ⟨_, failed, _⟩ | ⟨staged, last, staging, replacing⟩
  · obtain ⟨healthyAfter, two⟩ := stages.run failed clearReady one.start healthyReady
    exact ⟨healthyAfter, confined_of_workAreas (trans_of (Confined _) one two)⟩
  obtain ⟨healthyLast, two⟩ := stages.run staging clearReady one.start healthyReady
  have both := trans_of (Confined (workAreas directory artifact.name)) one two
  obtain ⟨_, within⟩ := stays.run staging healthyReady
  obtain ⟨entries, remembered⟩ := remembers_of_stageInRun staging
  obtain ⟨healthyAfter, three⟩ := confined_of_replaceArchive linkless reaches
    (ready.paths.of_same (by rw [remembered])) (both.linkless linkless) both.start
    (ready.made.reaches.mono within.carries within.start)
    (both.at?_of_some (outside_workAreas directory artifact.name) held) replacing healthyLast
  exact ⟨healthyAfter, trans_of (Confined _) (confined_of_workAreas both) three⟩

theorem isFile_of_checkArchive {tree : FileTree} {value : Value}
    (checked : checkArchive tree value = .ok ()) :
    tree.isFile? (Path.ofString value.plain) = .ok true := by
  unfold checkArchive at checked
  cases spelled : Config.checkPath value with
  | error failure => simp [spelled, bind, Except.bind] at checked
  | ok _ =>
      simp only [spelled, bind, Except.bind] at checked
      cases present : asked (tree.exists? (Path.ofString value.plain)) with
      | error failure => simp [present] at checked
      | ok found =>
          cases found with
          | false => simp_all [Config.refuse]
          | true =>
              cases plain : tree.isFile? (Path.ofString value.plain) with
              | error failure => simp_all [asked]
              | ok answer =>
                  cases answer with
                  | false => simp_all [asked, Config.refuse]
                  | true => rfl

/-- A run does nothing, or its path names a file, and it goes on to rebuild that. -/
theorem rebuildJar_of_transformJar {jar : Value} {elements : List Value} {outcome : Outcome Report}
    (run : transformJar host plan jar elements before = (outcome, after)) :
    (after = before ∧ ∃ failure, outcome = .error failure) ∨
      ∃ place file last, before.files.stat true (Path.ofString jar.plain).toString =
          .ok (place, .file file) ∧
        rebuildJar host plan (Path.ofString jar.plain) elements { before with
          contexts := before.contexts ++ [logContext .staged (Path.ofString jar.plain).toString] } =
            (outcome, last) ∧ after = { last with contexts := last.contexts.dropLast } := by
  unfold transformJar at run
  rw [Work.files_bind] at run
  rcases bind_cases run with ⟨failure, refused, answer⟩ | ⟨_, checked, checking, entering⟩
  · obtain ⟨rfl, _⟩ := Work.ofOutcome_cases refused
    exact .inl ⟨rfl, failure, answer⟩
  obtain ⟨rfl, accepted⟩ := Work.ofOutcome_cases checking
  obtain ⟨place, entry, seen, isFile⟩ := FileTree.test_eq_true (isFile_of_checkArchive accepted.symm)
  obtain ⟨last, course, rfl⟩ := Log.inContext_cases entering
  cases entry with
  | file file => exact .inr ⟨place, file, last, seen, course, rfl⟩
  | directory => cases isFile
  | link target => cases isFile

/-- Whatever a run over an archive comes to, in a tree without links: outside of the four places that
the archive's path names, nothing is different but that there may be more directories. -/
theorem places_of_transformJar (leaves : host.LeavesFiles) (sound : before.files.Sound)
    (quiet : before.LogsToNoFile) (linkless : before.files.Linkless) {jar : Value}
    {elements : List Value} {outcome : Outcome Report}
    (run : transformJar host plan jar elements before = (outcome, after)) {place : Files.Location}
    (outside : let paths := WorkingPaths.of (Path.ofString jar.plain)
      ∀ path ∈ [paths.archive, paths.staging, paths.copy, paths.backup], ∀ area,
        before.files.resolve? path = some area → FileTree.isBelow place area = false) :
    after.files.at? place = before.files.at? place ∨
      before.files.at? place = none ∧ after.files.at? place = some .directory := by
  rcases rebuildJar_of_transformJar run with ⟨rfl, _⟩ | ⟨_, file, last, seen, course, rfl⟩
  · exact .inl rfl
  have proper := Path.ofString_proper jar.plain
  obtain ⟨nonempty, named, directory, reaches, _, held⟩ := linkless.reaches_of_stat sound proper seen
  have healthy : Workspace.Healthy { before with contexts := before.contexts ++
      [logContext .staged (Path.ofString jar.plain).toString] } := ⟨sound, quiet⟩
  obtain ⟨_, confined⟩ := confined_of_rebuildJar leaves healthy linkless proper nonempty named reaches
    held course
  refine confined.places fun area member => ?_
  have resolves : ∀ {name : String}, IsName name →
      before.files.resolve? ((Path.ofString jar.plain).parent.child name) = some (directory ++ [name]) :=
    fun named => linkless.resolve_eq (reaches.settles named (linkless _))
  have own := resolves named
  rw [Path.parent_child_name nonempty] at own
  simp only [runAreas, workAreas, List.cons_append, List.nil_append, List.mem_cons, List.not_mem_nil,
    or_false] at member
  rcases member with rfl | rfl | rfl | rfl
  · exact outside _ (.head _) _ own
  · exact outside _ (.tail _ (.tail _ (.tail _ (.head _)))) _ (resolves (Rebuild.isName_backup named))
  · exact outside _ (.tail _ (.head _)) _ (resolves (Rebuild.isName_staging named))
  · exact outside _ (.tail _ (.tail _ (.head _))) _ (resolves (Rebuild.isName_copy named))

end Run
end ClassLoom
