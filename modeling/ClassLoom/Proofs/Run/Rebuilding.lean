import ClassLoom.Proofs.Files.Granting
import ClassLoom.Proofs.Rebuild.Ordering
import ClassLoom.Proofs.Run.Confinement
import ClassLoom.Proofs.Run.Laying

namespace ClassLoom
namespace Run

/-!
# The archive that a run leaves

A run that succeeds replaces the archive by one that has the manifest first, and then one record for
every other entry, in the order in which the staging directory lists them, and nothing else.  What was
left of earlier runs, in the staging directory or beside the archive, is of no influence: everything
that is written is in the place of what was there, and nothing else is collected.

There must be no links.  With a link at the path of the copy, or in the staging directory, what is
written may be written elsewhere.
-/

open Config (Value)
open Files (FileTree Path IsName)
open Rebuild (Rebuilder StagedEntry Clear Manifest Found WorkingPaths)

variable {host : Host} {plan : Plan} {context : Context} {archive : Bytes} {region : Files.Location}
  {tree : FileTree}

/-! ## Records -/

/-- The record of an entry in the new archive: under its name, and with its attributes if it has any. -/
inductive Rendered (host : Host) (context : Context) (archive : Bytes) (region : Files.Location)
    (visit : Visit) : Zip.Record → Prop
  | directory : visit.isDirectory = true →
      Rendered host context archive region visit (.ofContent visit.member.name visit.member.stamp
        Zip.methodStored (Rebuild.attributesOr visit.member.attributes Rebuild.directoryAttributes) [])
  | file {transformed : Bool} {content : Bytes} {stamp : Zip.Timestamp} : visit.isDirectory = false →
      visit.Content host context archive (FileTree.pathOf region) transformed content →
      (transformed = false → stamp = visit.member.stamp) →
      Rendered host context archive region visit (.ofContent visit.member.name stamp
        Zip.methodDeflated (Rebuild.attributesOr visit.member.attributes Rebuild.fileAttributes) content)

theorem exists_laid {visits : List Visit} {staged : List (String × StagedEntry)}
    (laid : List.Forall₂ (Laid host context archive region tree) visits staged)
    {item : String × StagedEntry} (member : item ∈ staged) :
    ∃ visit ∈ visits, Laid host context archive region tree visit item := by
  induction laid with
  | nil => cases member
  | cons first _ inductionHypothesis =>
      rcases List.mem_cons.1 member with rfl | later
      · exact ⟨_, List.mem_cons_self, first⟩
      · obtain ⟨visit, among, held⟩ := inductionHypothesis later
        exact ⟨visit, List.mem_cons_of_mem _ among, held⟩

section Collecting

variable {rebuilder : Rebuilder} {visits : List Visit}

theorem eq_of_key {names : List String} (nonempty : names ≠ []) (named : ∀ name ∈ names, IsName name)
    {visit : Visit} (visited : visit.names ≠ []) {isDirectory : Bool}
    (same : Rebuild.keyAt names isDirectory = visit.key) :
    visit.names = names ∧ visit.isDirectory = isDirectory :=
  Rebuild.keyAt_injective visited nonempty (fun _ member => Rebuild.isSegment_of_mem_nameParts member)
    (fun name member => (named name member).1) same.symm

/-- What is found in the staging directory is what has been staged. -/
theorem rendered_of_found (sound : tree.Sound) (clear : Clear tree region)
    (laid : List.Forall₂ (Laid host context archive region tree) visits rebuilder.staged)
    {names : List String} (nonempty : names ≠ []) (named : ∀ name ∈ names, IsName name)
    {item : String × Zip.Record} (found : Found rebuilder tree (FileTree.pathOf region) names item) :
    ∃ visit ∈ visits, item.1 = visit.key ∧ Rendered host context archive region visit item.2 := by
  cases found with
  | @directory entry record known _ made =>
      obtain ⟨visit, among, held⟩ := exists_laid laid (Rebuild.mem_of_lookup known)
      have key : Rebuild.keyAt names true = visit.key := held.key
      refine ⟨visit, among, key, ?_⟩
      obtain ⟨_, isDirectory⟩ := eq_of_key nonempty named held.names_ne_nil key
      generalize pair : (Rebuild.keyAt names true, entry) = staged at held
      cases held with
      | directory _ _ _ =>
          obtain ⟨_, rfl⟩ := Prod.mk.inj pair
          obtain rfl := Except.ok.inj made
          exact .directory isDirectory
      | file _ isFile _ _ =>
          rw [isFile] at isDirectory
          cases isDirectory
  | @file entry record place file known opened made =>
      obtain ⟨visit, among, held⟩ := exists_laid laid (Rebuild.mem_of_lookup known)
      have key : Rebuild.keyAt names false = visit.key := held.key
      refine ⟨visit, among, key, ?_⟩
      obtain ⟨rfl, isDirectory⟩ := eq_of_key nonempty named held.names_ne_nil key
      have there : tree.at? (region ++ visit.names) = some (.file file) := by
        unfold FileTree.openFile at opened
        split at opened
        next spot other seen =>
          obtain ⟨_, rfl⟩ := Prod.mk.inj (Except.ok.inj opened)
          exact (Rebuild.at?_of_stat_under sound clear nonempty named seen).2
        next => cases opened
        next => cases opened
      generalize pair : (Rebuild.keyAt visit.names false, entry) = staged at held
      cases held with
      | directory _ isFolder _ =>
          rw [isFolder] at isDirectory
          cases isDirectory
      | @file transformed laidFile _ isFile content laidThere =>
          obtain ⟨_, rfl⟩ := Prod.mk.inj pair
          obtain rfl : file = laidFile := Files.Entry.file.inj (Option.some.inj (there.symm.trans laidThere))
          unfold StagedEntry.fileRecord at made
          cases transformed with
          | false =>
              obtain rfl := Except.ok.inj made
              exact .file isFile content fun _ => rfl
          | true =>
              simp only [Visit.entry, if_true] at made
              cases stamped : Rebuild.stampOf file.modified with
              | error failure =>
                  rw [stamped] at made
                  cases made
              | ok stamp =>
                  rw [stamped] at made
                  obtain rfl := Except.ok.inj made
                  exact .file isFile content fun old => by cases old

end Collecting

/-! ## The order of records -/

section Ordering

variable {α β : Type} {key : α → String} {related : α → β → Prop} {sources : List α}
  {items : List (String × β)}

theorem exists_choice (each : ∀ item ∈ items, ∃ source ∈ sources, item.1 = key source ∧
      related source item.2) :
    ∃ order, List.Forall₂ (fun source item => source ∈ sources ∧ item.1 = key source ∧
      related source item.2) order items := by
  induction items with
  | nil => exact ⟨[], .nil⟩
  | cons first rest inductionHypothesis =>
      obtain ⟨source, among, chosen⟩ := each first List.mem_cons_self
      obtain ⟨order, choice⟩ :=
        inductionHypothesis fun item member => each item (List.mem_cons_of_mem _ member)
      exact ⟨source :: order, .cons ⟨among, chosen⟩ choice⟩

/-- Items that have the keys of some sources, and come from them, are those of the sources in some
order. -/
theorem exists_order (once : (items.map Prod.fst).Nodup)
    (all : (items.map Prod.fst).Perm (sources.map key))
    (each : ∀ item ∈ items, ∃ source ∈ sources, item.1 = key source ∧ related source item.2) :
    ∃ order, order.Perm sources ∧ order.map key = items.map Prod.fst ∧
      List.Forall₂ related order (items.map Prod.snd) := by
  obtain ⟨order, choice⟩ := exists_choice each
  have keys : order.map key = items.map Prod.fst := by
    clear once all each
    induction choice with
    | nil => rfl
    | cons chosen _ inductionHypothesis => rw [List.map_cons, List.map_cons, inductionHypothesis, chosen.2.1]
  have among : ∀ source ∈ order, source ∈ sources := by
    clear once all each keys
    induction choice with
    | nil => simp
    | cons chosen _ inductionHypothesis =>
        intro source member
        rcases List.mem_cons.1 member with rfl | later
        · exact chosen.1
        · exact inductionHypothesis source later
  have sourcesOnce : (sources.map key).Nodup := all.nodup_iff.1 once
  have orderOnce : order.Nodup := List.Nodup.of_map key (keys ▸ once)
  refine ⟨order, (List.perm_ext_iff_of_nodup orderOnce (List.Nodup.of_map key sourcesOnce)).2 fun source =>
    ⟨among source, fun member => ?_⟩, keys, ?_⟩
  · have listed : key source ∈ order.map key := keys ▸ all.mem_iff.2 (List.mem_map_of_mem member)
    obtain ⟨other, held, same⟩ := List.mem_map.1 listed
    rwa [List.inj_on_of_nodup_map sourcesOnce member (among other held) same.symm]
  · exact List.forall₂_map_right_iff.2 (choice.imp fun _ _ chosen => chosen.2.2)

end Ordering

/-! ## Replacing the archive -/

/-- An archive is replaced by another, and kept as the backup; no copy is left. -/
structure Replaced (before after : FileTree) (directory : Files.Location) (name : String)
    (old new : Files.File) : Prop where
  held : before.at? (directory ++ [name]) = some (.file old)
  archive : after.at? (directory ++ [name]) = some (.file new)
  backup : after.at? (directory ++ ["old-" ++ name]) = some (.file old)
  copy : after.at? (directory ++ ["copy-" ++ name]) = none

/-- The new archive has come to its place, and the old one to that of the backup. -/
structure Exchanged (path : Path) (name : String) (directory : Files.Location) (before after : FileTree)
    (old new : Files.File) : Prop where
  sound : after.Sound
  start : after.start = before.start
  reaches : after.Reaches path directory
  archive : after.at? (directory ++ [name]) = some (.file new)
  backup : after.at? (directory ++ ["old-" ++ name]) = some (.file old)
  copy : after.at? (directory ++ ["copy-" ++ name]) = none
  askable : FileTree.Askable (path.child ("copy-" ++ name))
  elsewhere : ∀ {place : Files.Location}, place ≠ directory ++ [name] →
    FileTree.isBelow place (directory ++ ["copy-" ++ name]) = false →
    FileTree.isBelow place (directory ++ ["old-" ++ name]) = false → after.at? place = before.at? place

namespace Exchanged

variable {path : Path} {name : String} {directory : Files.Location} {before swapped after : FileTree}
  {old new : Files.File}

/-- To take away from the staging directory is of no consequence for what is beside it. -/
theorem replaced {origin : FileTree} (exchanged : Exchanged path name directory before swapped old new)
    (eroded : FileTree.Eroded swapped after (directory ++ [name ++ ".tmp"]))
    (held : origin.at? (directory ++ [name]) = some (.file old)) :
    Replaced origin after directory name old new := by
  have outside : ∀ {other : String}, other ≠ name ++ ".tmp" →
      after.at? (directory ++ [other]) = swapped.at? (directory ++ [other]) :=
    fun different => eroded.at?_of_outside (FileTree.not_isBelow_sibling different [])
  exact ⟨held, (outside (Rebuild.staging_ne_archive name).symm).trans exchanged.archive,
    (outside (Rebuild.backup_ne_staging name)).trans exchanged.backup,
    (outside (Rebuild.copy_ne_staging name)).trans exchanged.copy⟩

end Exchanged

section Replacing

variable {rebuilder : Rebuilder} {path : Path} {name : String} {directory : Files.Location}
  {before after : Workspace}

theorem eroded_of_cleanStaging (paths : Rebuild.Named rebuilder path name)
    (tracks : before.files.Tracks path (name ++ ".tmp") directory) (healthy : before.Healthy)
    {outcome : Outcome Unit} (run : cleanStaging plan rebuilder before = (outcome, after)) :
    after.Healthy ∧ FileTree.Eroded before.files after.files (directory ++ [name ++ ".tmp"]) := by
  have clean : ∀ {outcome : Outcome Rebuilder} {last : Workspace},
      rebuilder.cleanUp before = (outcome, last) → last.Healthy ∧
        FileTree.Eroded before.files last.files (directory ++ [name ++ ".tmp"]) := by
    intro outcome last cleaning
    unfold Rebuilder.cleanUp at cleaning
    rw [paths.staging] at cleaning
    rcases bind_cases cleaning with ⟨_, deleting, _⟩ | ⟨_, _, deleting, ending⟩
    · exact Rebuild.eroded_of_delete paths.proper (Rebuild.isName_staging paths.named) tracks healthy
        deleting
    · obtain ⟨_, rfl⟩ := pure_ok ending
      exact Rebuild.eroded_of_delete paths.proper (Rebuild.isName_staging paths.named) tracks healthy
        deleting
  unfold cleanStaging at run
  obtain ⟨result, middle, cleaning, ending⟩ := Work.attempt_bind run
  obtain ⟨healthyMiddle, eroded⟩ := clean cleaning
  have rest : Follows Eq middle after := by
    refine Keeps.run ?_ ending
    split
    · exact keeps_pure _
    · split
      · exact Log.keeps_warning _ _
      · exact keeps_throw _
  obtain ⟨healthyAfter, same⟩ := rest healthyMiddle
  exact ⟨healthyAfter, same ▸ eroded⟩

/-- The report of a run over an archive is that of its staging, with the backup. -/
theorem report_of_replaceArchive {staging : Staging} {artifact : Path} {report : Report}
    (run : replaceArchive plan artifact staging before = (.ok report, after)) :
    report = { staging.report with backup := report.backup } := by
  obtain ⟨_, _, _, further⟩ := bind_ok run
  obtain ⟨backup, _, _, further⟩ := bind_ok further
  obtain ⟨_, _, _, ending⟩ := bind_ok further
  have ends {before : Workspace} (run : (do
      logReport plan { staging.report with backup := some backup.toString }
      return { staging.report with backup := some backup.toString } : Work Report) before =
        (.ok report, after)) : report = { staging.report with backup := report.backup } := by
    obtain ⟨_, _, _, answer⟩ := bind_ok run
    obtain rfl := Except.ok.inj (pure_ok answer).1
    rfl
  simp only at ending
  split at ending
  · obtain ⟨_, _, _, reporting⟩ := bind_ok ending
    exact ends reporting
  · exact ends ending

/-- What is collected when the copy has been opened is what the new archive has for its content. -/
theorem exchanged_of_replaceArchive {staging : Staging} {artifact : Path}
    (paths : Rebuild.Named staging.rebuilder path name) (reaches : before.files.Reaches path directory)
    (healthy : before.Healthy) (clear : before.files.Linkless) {old : Files.File}
    (held : before.files.at? (directory ++ [name]) = some (.file old)) {report : Report}
    (run : replaceArchive plan artifact staging before = (.ok report, after)) :
    ∃ root opened last bytes id swapped, staging.rebuilder.root = some root ∧ opened.Healthy ∧
      (∀ place, FileTree.isBelow place (directory ++ ["copy-" ++ name]) = false →
        opened.files.at? place = before.files.at? place) ∧
      staging.rebuilder.archiveBytes root staging.manifest opened = (.ok bytes, last) ∧
      Exchanged path name directory before.files swapped old ⟨id, bytes, opened.files.clock⟩ ∧
      after.Healthy ∧ FileTree.Eroded swapped after.files (directory ++ [name ++ ".tmp"]) ∧
      report.backup = some (path.child ("old-" ++ name)).toString := by
  have named := paths.named
  have copyNamed := Rebuild.isName_copy named
  obtain ⟨_, copied, written, further⟩ := bind_ok run
  obtain ⟨root, cleared, place, opened, bytes, rootOk, _, eroded, copy, suited⟩ :=
    Rebuild.copied_of_serialize paths.copy paths.proper copyNamed reaches healthy written
  obtain rfl := suited (.inl (clear _))
  obtain ⟨healthyCopied, kept⟩ :=
    Rebuild.kept_of_serialize paths.copy paths.proper copyNamed reaches healthy written
  obtain ⟨last, collected⟩ := copy.collected
  obtain ⟨id, places⟩ := copy.places
  have heldCopy : copied.files.at? (directory ++ ["copy-" ++ name]) =
      some (.file ⟨id, bytes, opened.files.clock⟩) := (places _).trans (if_pos rfl)
  have away : ∀ {other}, FileTree.isBelow other (directory ++ ["copy-" ++ name]) = false →
      other ≠ directory ++ ["copy-" ++ name] := by
    rintro other outside rfl
    rw [FileTree.isBelow_refl] at outside
    cases outside
  have unmoved : ∀ other, FileTree.isBelow other (directory ++ ["copy-" ++ name]) = false →
      opened.files.at? other = before.files.at? other := by
    intro other outside
    rw [copy.fresh.written.at?_of_ne (away outside), eroded.at?_of_outside outside]
  have outsideArchive : FileTree.isBelow (directory ++ [name]) (directory ++ ["copy-" ++ name]) = false :=
    FileTree.not_isBelow_sibling (Rebuild.copy_ne_archive name).symm []
  obtain ⟨backup, swapped, swapping, rest⟩ := bind_ok further
  rcases Rebuild.finalize_cases paths copy.reaches healthyCopied (kept outsideArchive held) (by simp)
    heldCopy (by simp) copy.fresh.clean (.inl ⟨old, rfl⟩) swapping with
    ⟨answer, healthySwapped, put⟩ | ⟨_, failed, _⟩
  swap
  · cases failed
  obtain rfl := Except.ok.inj answer
  have exchanged : Exchanged path name directory before.files swapped.files old
      ⟨id, bytes, opened.files.clock⟩ :=
    { sound := healthySwapped.files
      start := put.start.trans (copy.start.trans eroded.start)
      reaches := put.reaches rfl
      archive := by
        rw [put.places (FileTree.not_isBelow_sibling (Rebuild.backup_ne_archive name).symm []), if_pos rfl]
      backup := put.backup
      copy := by
        rw [put.places (FileTree.not_isBelow_sibling (Rebuild.copy_ne_backup name) []),
          if_neg (by simp [Rebuild.copy_ne_archive name]), if_pos rfl]
      askable := copy.fresh.reaches.askable copy.fresh.fits copy.fresh.clean
      elsewhere := fun {place} archive outside outsideBackup => by
        rw [put.places outsideBackup, if_neg archive, if_neg (away outside), places, if_neg (away outside),
          eroded.at?_of_outside outside] }
  obtain ⟨_, told, telling, cleaning⟩ := bind_ok rest
  obtain ⟨healthyTold, sameTold⟩ := (Log.keeps_info _ _).still healthySwapped telling
  have finish : ∀ {tidy : Workspace}, (do
      logReport plan { staging.report with
        backup := some staging.rebuilder.paths.backup.toString }
      return { staging.report with
        backup := some staging.rebuilder.paths.backup.toString } : Work Report) tidy = (.ok report, after) →
      tidy.Healthy → after.Healthy ∧ after.files = tidy.files ∧
        report.backup = some (path.child ("old-" ++ name)).toString := by
    intro tidy reporting healthyTidy
    obtain ⟨_, reported, logging, ending⟩ := bind_ok reporting
    obtain ⟨same, rfl⟩ := pure_ok ending
    obtain rfl := Except.ok.inj same
    obtain ⟨healthyAfter, still⟩ := (Log.keeps_info _ _).still healthyTidy logging
    exact ⟨healthyAfter, still, by rw [paths.backup]⟩
  have tracks : told.files.Tracks path (name ++ ".tmp") directory :=
    sameTold ▸ put.tracks (Rebuild.isName_staging named).1
  refine ⟨root, opened, last, bytes, id, swapped.files, rootOk, copy.healthy, unmoved, collected, exchanged,
    ?_⟩
  split at cleaning
  · obtain ⟨_, tidy, tidying, reporting⟩ := bind_ok cleaning
    obtain ⟨healthyTidy, tidied⟩ := eroded_of_cleanStaging paths tracks healthyTold tidying
    obtain ⟨healthyAfter, same, reported⟩ := finish reporting healthyTidy
    exact ⟨healthyAfter, same ▸ sameTold ▸ tidied, reported⟩
  · obtain ⟨healthyAfter, same, reported⟩ := finish cleaning healthyTold
    exact ⟨healthyAfter, same ▸ sameTold ▸ .refl _ _, reported⟩

end Replacing

/-! ## The staging of a run -/

section Staging

variable {rebuilder : Rebuilder} {path : Path} {elements : List Value} {staging : Staging}
  {before after : Workspace}

/-- A run stages what the archive has in it when the run begins, and ends with no class failed. -/
theorem course_of_stageInRun (leaves : host.LeavesFiles) (healthy : before.Healthy)
    (run : stageInRun host plan path elements rebuilder before = (.ok staging, after)) :
    ∃ context classpath opened visits start last, context.mode = .staged ∧
      Pattern.PathFilter.ofSetting plan.filter = .ok context.filter ∧
      openClasspath (.text path.toString :: elements) before = (.ok context.classpath, classpath) ∧
      context.invoker = classpath.invokers.length ∧ (∃ ready, Transformer.Invoker.prepare host context.invoker { classpath with
        invokers := classpath.invokers ++ [.new plan.transformer (some context.classpath)] } =
          (.ok ready, start)) ∧ start.Healthy ∧
      FileTree.Alike before.files start.files ∧ Classpath.openArchive start.files path = .ok opened ∧
      visits.map Visit.member = opened.archive.members ∧
      Course host plan context opened ⟨.start .staged path.toString, rebuilder, none⟩ start visits
        staging last ∧
      staging.report.failures = [] ∧ Follows FileTree.Alike last after := by
  obtain ⟨context, classpath, ready, start, ended, staged, opening, filter, invoker, prepared, working,
    rfl⟩ := inRun_ok run
  have one : Follows FileTree.Alike before classpath := (keeps_openClasspath _).run opening
  have added : Follows FileTree.Alike classpath { classpath with invokers := classpath.invokers ++
      [.new plan.transformer (some context.classpath)] } := follows_of_same rfl rfl
  have two : Follows FileTree.Alike classpath start :=
    trans_of (Follows FileTree.Alike) added ((Transformer.Invoker.keeps_prepare
      (Transformer.keeps_construct leaves) context.invoker).run prepared)
  obtain ⟨healthyClasspath, alikeClasspath⟩ := one healthy
  obtain ⟨healthyStart, alikeStart⟩ := two healthyClasspath
  obtain ⟨staging, last, course, further⟩ := bind_ok working
  obtain ⟨_, told, telling, checking⟩ := bind_ok further
  obtain ⟨_, checked, check, ending⟩ := bind_ok checking
  obtain ⟨rfl, accepted⟩ := Work.ofOutcome_cases check
  obtain ⟨same, rfl⟩ := pure_ok ending
  obtain rfl := Except.ok.inj same
  obtain ⟨opened, visits, openedOk, members, visited⟩ := course_of_stageArchive course
  have statistics : Follows FileTree.Alike last ended :=
    ((Work.keeps_invoker _).bind fun _ => Log.keeps_debug _ _).run telling
  have closed : Follows FileTree.Alike ended ((Classpath.close context.classpath).run ended).2 :=
    follows_of_same rfl rfl
  refine ⟨context, classpath, opened, visits, start, last, staged, filter, opening, invoker,
    ⟨ready, prepared⟩, healthyStart, trans_of FileTree.Alike alikeClasspath alikeStart, openedOk, members, visited, ?_,
    trans_of (Follows FileTree.Alike) statistics closed⟩
  unfold Report.check at accepted
  split at accepted
  next clean => simpa using clean
  next => cases accepted

end Staging

/-! ## The whole run -/

/-- The content of an archive that has been rebuilt: the manifest, and the records of the other entries,
each as its visit came to it. -/
inductive Rebuilt (host : Host) (plan : Plan) (region : Files.Location) (old : Bytes) : Bytes → Prop
  | encoded {context : Context} {opened : Classpath.OpenArchive} {first staging : Staging}
      {start last : Workspace} {visits order : List Visit} {manifest : Option Manifest}
      {records : List Zip.Record} :
      context.mode = .staged →
      Pattern.PathFilter.ofSetting plan.filter = .ok context.filter →
      Zip.Archive.ofBytes old = .ok opened.archive →
      visits.map Visit.member = opened.archive.members →
      first.rebuilder.staged = [] →
      Course host plan context opened first start visits staging last →
      Describes old visits manifest →
      order.Perm (ordinary visits) →
      List.Forall₂ (Rendered host context old region) order records →
      Rebuilt host plan region old
        (Zip.encode ((manifest.map Manifest.record).toList ++ records) [])

/-! ### Names -/

/-- The name of an entry as it stands in an archive. -/
def nameBytes (member : Zip.Member) : Bytes := Bytes.ofText member.name

theorem name_ofContent (name : String) (stamp : Zip.Timestamp) (method : Nat)
    (attributes : Zip.Attributes) (content : Bytes) :
    (Zip.Record.ofContent name stamp method attributes content).name = Bytes.ofText name := by
  rw [Zip.Record.ofContent]

theorem Rendered.name {visit : Visit} {record : Zip.Record}
    (rendered : Rendered host context archive region visit record) :
    record.name = nameBytes visit.member := by
  cases rendered with
  | directory _ => exact name_ofContent _ _ _ _ _
  | file _ _ _ => exact name_ofContent _ _ _ _ _

/-- Where there is one manifest at most, that is the one that is kept. -/
theorem Describes.members {visits : List Visit} {manifest : Option Manifest}
    (describes : Describes archive visits manifest)
    (one : (visits.filter Visit.isManifest).length ≤ 1) :
    manifest.toList.map Manifest.member = (visits.filter Visit.isManifest).map Visit.member := by
  induction describes with
  | nothing => rfl
  | @manifest visits visit _ _ _ isManifest _ _ =>
      rw [List.filter_append, List.length_append] at one
      have none : visits.filter Visit.isManifest = [] := by
        rw [← List.length_eq_zero_iff]
        simp only [List.filter_cons_of_pos isManifest, List.filter_nil, List.length_singleton] at one
        omega
      simp [none, isManifest]
  | entry _ isEntry inductionHypothesis =>
      rw [List.filter_append, List.filter_cons_of_neg (by simp [isEntry]), List.filter_nil,
        List.append_nil] at one ⊢
      exact inductionHypothesis one

/-- No entry is lost or invented, unless there are several manifests. -/
theorem Rebuilt.names {old new : Bytes} (rebuilt : Rebuilt host plan region old new) :
    ∃ (opened : Zip.Archive) (records : List Zip.Record), Zip.Archive.ofBytes old = .ok opened ∧
      new = Zip.encode records [] ∧
      ((opened.members.filter fun member => isManifestName member.name).length ≤ 1 →
        (records.map Zip.Record.name).Perm
          (opened.members.map nameBytes)) := by
  cases rebuilt with
  | @encoded context opened first staging start last visits order manifest records _ _ archive members _ _
      described ordered rendered =>
      refine ⟨opened.archive, _, archive, rfl, fun one => ?_⟩
      have entries : records.map Zip.Record.name = (order.map Visit.member).map nameBytes := by
        clear ordered
        induction rendered with
        | nil => rfl
        | cons first _ inductionHypothesis =>
            rw [List.map_cons, List.map_cons, List.map_cons, inductionHypothesis, first.name]
      have kept : (manifest.map Manifest.record).toList.map Zip.Record.name =
          (manifest.toList.map Manifest.member).map nameBytes := by
        cases manifest with
        | none => rfl
        | some manifest => exact congrArg (fun name => [name]) (name_ofContent _ _ _ _ _)
      have describedMembers := described.members (by
        rw [← members, List.filter_map, List.length_map] at one
        exact one)
      have all : (manifest.toList.map Manifest.member ++ order.map Visit.member).Perm
          (visits.map Visit.member) := by
        rw [describedMembers]
        refine ((ordered.map Visit.member).append_left _).trans ?_
        rw [← List.map_append]
        exact (List.filter_append_perm Visit.isManifest visits).map Visit.member
      rw [List.map_append, kept, entries, ← List.map_append, ← members]
      exact all.map nameBytes

section Whole

variable {opened : Classpath.OpenArchive} {place : Files.Location} {file : Files.File}
  {visits : List Visit} {first staging : Staging} {start last collecting after : Workspace}
  {bytes : Bytes}

/-- Every entry whose staging is found again has names on its way only. -/
theorem names_of_complete {written : Rebuild.Written} {spots : List String → Prop}
    (keys : staging.rebuilder.staged.map Prod.fst = (ordinary visits).map Visit.key)
    (finds : Rebuild.Finds staging.rebuilder tree (FileTree.pathOf region) spots [] written)
    (complete : Rebuild.missingNames staging.rebuilder written = []) :
    ∀ visit ∈ ordinary visits, ∀ name ∈ visit.names, IsName name := by
  intro visit among name member
  obtain ⟨names, isDirectory, spelled, nonempty, named⟩ :=
    Rebuild.exists_names_of_complete finds complete (keys ▸ List.mem_map_of_mem among)
  obtain ⟨rfl, _⟩ := eq_of_key nonempty named (List.ne_nil_of_mem member) spelled.symm
  exact named name member

end Whole

/-! ### Stages -/

/-- The stages of a run over an archive that succeeds: the staging directory is prepared, the classpath is
opened and the transformer made, the entries are visited, what has been staged is collected, and the new
archive comes to its place. -/
structure Stages where
  prepared : Rebuilder
  begun : Workspace
  context : Context
  classpath : Workspace
  opened : Classpath.OpenArchive
  start : Workspace
  visits : List Visit
  staging : Staging
  ended : Workspace
  last : Workspace
  collecting : Workspace
  written : Rebuild.Written
  swapped : FileTree
  new : Files.File

/-- A run that succeeds has gone through some stages. -/
structure GoesThrough (host : Host) (plan : Plan) (artifact : Path) (elements : List Value)
    (directory : Files.Location) (old : Files.File) (before after : Workspace) (report : Report)
    (stages : Stages) : Prop where
  ready : Rebuild.Ready artifact plan.policy plan.logger directory before stages.begun stages.prepared
  held : stages.begun.files.at? (directory ++ [artifact.name]) = some (.file old)
  mode : stages.context.mode = .staged
  filter : Pattern.PathFilter.ofSetting plan.filter = .ok stages.context.filter
  opening : openClasspath (.text artifact.toString :: elements) stages.begun =
    (.ok stages.context.classpath, stages.classpath)
  invoker : stages.context.invoker = stages.classpath.invokers.length
  making : ∃ transformer, Transformer.Invoker.prepare host stages.context.invoker { stages.classpath with
    invokers := stages.classpath.invokers ++
      [.new plan.transformer (some stages.context.classpath)] } = (.ok transformer, stages.start)
  opens : Classpath.openArchive stages.start.files artifact = .ok stages.opened
  same : stages.opened.file = old.id
  archive : Zip.Archive.ofBytes old.content = .ok stages.opened.archive
  members : stages.visits.map Visit.member = stages.opened.archive.members
  course : Course host plan stages.context stages.opened
    ⟨.start .staged artifact.toString, stages.prepared, none⟩ stages.start stages.visits stages.staging
    stages.ended
  clean : stages.staging.report.failures = []
  begins : Underway host stages.context (directory ++ [artifact.name ++ ".tmp"])
    (directory ++ [artifact.name]) old [] ⟨.start .staged artifact.toString, stages.prepared, none⟩
    stages.start
  linkless : stages.start.files.Linkless ∧ stages.last.files.Linkless
  start : stages.start.files.start = before.files.start
  reaches : stages.start.files.Reaches artifact.parent directory
  healthy : stages.collecting.Healthy
  ending : Follows FileTree.Alike stages.ended stages.last
  inside : ∀ names, stages.collecting.files.at? (directory ++ [artifact.name ++ ".tmp"] ++ names) =
    stages.last.files.at? (directory ++ [artifact.name ++ ".tmp"] ++ names)
  collected : ∃ middle, Rebuild.collect stages.staging.rebuilder FileTree.pathLimit
    (Rebuild.under (FileTree.pathOf (directory ++ [artifact.name ++ ".tmp"])) []) "" []
    stages.collecting = (.ok stages.written, middle)
  complete : Rebuild.missingNames stages.staging.rebuilder stages.written = []
  content : stages.new.content = Zip.encode
    ((stages.staging.manifest.map Manifest.record).toList ++ stages.written.map Prod.snd) []
  exchanged : Exchanged artifact.parent artifact.name directory stages.last.files stages.swapped old
    stages.new
  tidied : after.Healthy ∧
    FileTree.Eroded stages.swapped after.files (directory ++ [artifact.name ++ ".tmp"])
  backup : report.backup = some (artifact.parent.child ("old-" ++ artifact.name)).toString
  report : report = { stages.staging.report with backup := report.backup }

section Jar

variable {before after : Workspace}

/-- The archive that is opened is the one that is replaced. -/
theorem opened_of_openArchive {origin : FileTree} {artifact : Path} {directory : Files.Location}
    {opened : Classpath.OpenArchive} {old : Files.File} (linkless : origin.Linkless)
    (reaches : origin.Reaches artifact.parent directory) (clear : tree.Linkless)
    (start : tree.start = origin.start) (sound : tree.Sound) (proper : artifact.Proper)
    (held : tree.at? (directory ++ [artifact.name]) = some (.file old))
    (done : Classpath.openArchive tree artifact = .ok opened) :
    opened.file = old.id ∧ Zip.Archive.ofBytes old.content = .ok opened.archive := by
  unfold Classpath.openArchive at done
  split at done
  next => cases done
  next place file openedOk =>
    unfold FileTree.openFile at openedOk
    split at openedOk
    next there found seen =>
      obtain ⟨rfl, rfl⟩ := Prod.mk.inj (Except.ok.inj openedOk)
      have again := linkless.held_of_stat reaches clear start sound proper seen
      obtain rfl := Files.Entry.file.inj (Option.some.inj (held.symm.trans again))
      split at done
      next archive read =>
        obtain rfl := Except.ok.inj done
        exact ⟨rfl, read⟩
      next => cases done
    next => cases openedOk
    next => cases openedOk

section Whole

variable {artifact : Path} {elements : List Value} {directory : Files.Location} {old : Files.File}
  {report : Report} {stages : Stages}

theorem stages_of_rebuildJar (leaves : host.LeavesFiles) (healthy : before.Healthy)
    (linkless : before.files.Linkless) (proper : artifact.Proper) (nonempty : artifact.parts ≠ [])
    (named : IsName artifact.name) (reaches : before.files.Reaches artifact.parent directory)
    (held : before.files.at? (directory ++ [artifact.name]) = some (.file old))
    (run : rebuildJar host plan artifact elements before = (.ok report, after)) :
    ∃ stages, GoesThrough host plan artifact elements directory old before after report stages := by
  have outside : FileTree.isBelow (directory ++ [artifact.name])
      (directory ++ [artifact.name ++ ".tmp"]) = false :=
    FileTree.not_isBelow_sibling (Rebuild.staging_ne_archive _).symm []
  obtain ⟨prepared, begun, preparing, further⟩ := bind_ok run
  obtain ⟨staging, last, course, replacing⟩ := bind_ok further
  have ready := Rebuild.ready_of_prepare proper nonempty named reaches healthy
    (linkless.not_isLink reaches proper.parent (Rebuild.isName_staging named)) preparing
  have made := ready.made
  have clearBegun : begun.files.Linkless := fun place target there => linkless _ _ (made.links there)
  have heldBegun := made.files outside held
  have stays : Keeps (Follows (Within (directory ++ [artifact.name ++ ".tmp"])))
      (stageInRun host plan artifact elements prepared) :=
    keeps_stageInRun leaves artifact elements ready.rooted
  obtain ⟨healthyLast, within⟩ := stays.run course ready.healthy
  have clearLast : last.files.Linkless := fun place target there => clearBegun _ _ (within.links there)
  obtain ⟨entries, remembered⟩ := remembers_of_stageInRun course
  obtain ⟨context, classpath, opened, visits, start, ended, mode, filter, opening, invoker, making, healthyStart,
    alike, opens, members, visited, clean, ending⟩ := course_of_stageInRun leaves ready.healthy course
  have clearStart : start.files.Linkless := fun place target there =>
    clearBegun _ _ ((alike.places place).symm.trans there)
  have heldStart := (alike.places _).trans heldBegun
  have sameStart := alike.start.trans made.start
  obtain ⟨same, archive⟩ : opened.file = old.id ∧ Zip.Archive.ofBytes old.content = .ok opened.archive :=
    opened_of_openArchive linkless reaches clearStart sameStart healthyStart.files proper heldStart opens
  have begins : Underway host context (directory ++ [artifact.name ++ ".tmp"])
      (directory ++ [artifact.name]) old [] ⟨.start .staged artifact.toString, prepared, none⟩ start :=
    { healthy := healthyStart
      clear := ⟨(alike.places _).trans made.alive, fun _ => clearStart _ _⟩
      held := heldStart
      rooted := ready.rooted
      once := by rw [made.shape]; exact List.nodup_nil
      laid := by rw [made.shape]; exact .nil
      described := .nothing }
  obtain ⟨root, collecting, _, bytes, id, swapped, rootOk, healthyCollecting, unmoved, collected, exchanged,
    healthyAfter, tidied, reported⟩ := exchanged_of_replaceArchive (ready.paths.of_same (by rw [remembered]))
      (made.reaches.mono within.carries within.start) healthyLast clearLast
      ((within.files outside).1 heldBegun) replacing
  obtain rfl : root = FileTree.pathOf (directory ++ [artifact.name ++ ".tmp"]) := by
    rw [remembered, made.shape] at rootOk
    exact (Option.some.inj rootOk).symm
  obtain ⟨written, middle, walk, complete, rfl⟩ := Rebuild.collect_of_archiveBytes collected
  have inside : ∀ names, collecting.files.at? (directory ++ [artifact.name ++ ".tmp"] ++ names) =
      last.files.at? (directory ++ [artifact.name ++ ".tmp"] ++ names) := by
    intro names
    rw [List.append_assoc]
    exact unmoved _ (FileTree.not_isBelow_sibling (Rebuild.copy_ne_staging artifact.name).symm names)
  have reachesStart : start.files.Reaches artifact.parent directory :=
    made.reaches.mono (fun there _ => (alike.places _).trans there) alike.start
  exact ⟨⟨prepared, begun, context, classpath, opened, start, visits, staging, ended, last, collecting,
      written, swapped, _⟩,
    { ready, held := heldBegun, mode, filter, opening, invoker, making, opens, same, archive, members
      course := visited, clean, begins
      linkless := ⟨clearStart, clearLast⟩, start := sameStart, reaches := reachesStart
      healthy := healthyCollecting, ending, inside, collected := ⟨middle, walk⟩, complete, content := rfl
      exchanged, tidied := ⟨healthyAfter, tidied⟩, backup := reported
      report := report_of_replaceArchive replacing }⟩

namespace GoesThrough

variable (through : GoesThrough host plan artifact elements directory old before after report stages)

include through

theorem finds : Rebuild.Finds stages.staging.rebuilder stages.collecting.files
      (FileTree.pathOf (directory ++ [artifact.name ++ ".tmp"])) (fun _ => True) [] stages.written ∧
    stages.written.Pairwise fun first second => nameParts first.1 < nameParts second.1 := by
  obtain ⟨middle, walk⟩ := through.collected
  exact Rebuild.ordered_of_collect through.healthy walk

theorem keys : stages.staging.rebuilder.staged.map Prod.fst =
    (ordinary stages.visits).map Visit.key :=
  keys_of_course through.mode (by rw [through.ready.made.shape]; rfl) through.course through.clean

/-- Every entry is where it has been staged. -/
theorem underway (leaves : host.LeavesFiles) : Underway host stages.context
    (directory ++ [artifact.name ++ ".tmp"]) (directory ++ [artifact.name]) old stages.visits
    stages.staging stages.ended :=
  underway_of_course leaves through.mode through.same
    (FileTree.not_isBelow_sibling (Rebuild.staging_ne_archive _).symm []) through.begins through.course
    through.clean (names_of_complete through.keys through.finds.1 through.complete)

theorem clear (leaves : host.LeavesFiles) :
    Clear stages.collecting.files (directory ++ [artifact.name ++ ".tmp"]) := by
  have underway := through.underway leaves
  refine ⟨?_, fun {place target} below there => ?_⟩
  · have inside := through.inside []
    rw [List.append_nil] at inside
    rw [inside, (through.ending underway.healthy).2.places, underway.clear.alive]
  · obtain ⟨names, rfl⟩ := FileTree.exists_append_of_isBelow below
    exact through.linkless.2 _ _ ((through.inside names).symm.trans there)

theorem laid (leaves : host.LeavesFiles) : List.Forall₂ (Laid host stages.context old.content
    (directory ++ [artifact.name ++ ".tmp"]) stages.collecting.files) (ordinary stages.visits)
    stages.staging.rebuilder.staged := by
  have underway := through.underway leaves
  refine laid_all underway.laid fun visit _ _ held => held.mono fun entry there => ?_
  rw [through.inside, (through.ending underway.healthy).2.places, there]

/-- What is written is what has been staged, in the order in which it is found. -/
theorem exists_order (leaves : host.LeavesFiles) : ∃ order, order.Perm (ordinary stages.visits) ∧
    order.map Visit.key = stages.written.map Prod.fst ∧
    List.Forall₂ (Rendered host stages.context old.content (directory ++ [artifact.name ++ ".tmp"])) order
      (stages.written.map Prod.snd) := by
  have all := Rebuild.keys_perm (through.underway leaves).once through.finds.1 through.complete
  obtain ⟨_, rfl, once, found⟩ := through.finds.1
  rw [through.keys] at all
  refine Run.exists_order once all fun item member => ?_
  obtain ⟨names, _, nonempty, named, found⟩ := found item member
  exact rendered_of_found through.healthy.files (through.clear leaves) (through.laid leaves) nonempty named found

end GoesThrough

end Whole

theorem rebuilt_of_rebuildJar (leaves : host.LeavesFiles) (healthy : before.Healthy)
    (linkless : before.files.Linkless) {artifact : Path} (proper : artifact.Proper)
    (nonempty : artifact.parts ≠ []) (named : IsName artifact.name) {directory : Files.Location}
    (reaches : before.files.Reaches artifact.parent directory) {old : Files.File}
    (held : before.files.at? (directory ++ [artifact.name]) = some (.file old))
    {elements : List Value} {report : Report}
    (run : rebuildJar host plan artifact elements before = (.ok report, after)) :
    ∃ new, Replaced before.files after.files directory artifact.name old new ∧
      Rebuilt host plan (directory ++ [artifact.name ++ ".tmp"]) old.content new.content ∧
      report.backup = some (artifact.parent.child ("old-" ++ artifact.name)).toString := by
  obtain ⟨stages, through⟩ :=
    stages_of_rebuildJar leaves healthy linkless proper nonempty named reaches held run
  obtain ⟨order, ordered, _, rendered⟩ := through.exists_order leaves
  refine ⟨stages.new, through.exchanged.replaced through.tidied.2 held, ?_, through.backup⟩
  rw [through.content]
  exact .encoded through.mode through.filter through.archive through.members
    (by rw [through.ready.made.shape]; rfl) through.course (through.underway leaves).described ordered rendered

/-- A run over an archive that succeeds, in a tree without links: the archive is kept as the backup, and
replaced by one that has its manifest, and its other entries as they were staged. -/
theorem rebuilt_of_transformJar (leaves : host.LeavesFiles) (sound : before.files.Sound)
    (quiet : before.LogsToNoFile) (linkless : before.files.Linkless) {jar : Value}
    {elements : List Value} {report : Report}
    (run : transformJar host plan jar elements before = (.ok report, after)) :
    let artifact := Path.ofString jar.plain
    ∃ directory old new,
      before.files.stat true artifact.toString = .ok (directory ++ [artifact.name], .file old) ∧
      Replaced before.files after.files directory artifact.name old new ∧
      Rebuilt host plan (directory ++ [artifact.name ++ ".tmp"]) old.content new.content ∧
      report.backup = some (WorkingPaths.of artifact).backup.toString := by
  intro artifact
  have proper := Path.ofString_proper jar.plain
  rcases rebuildJar_of_transformJar run with ⟨_, _, failed⟩ | ⟨place, old, last, seen, course, rfl⟩
  · cases failed
  obtain ⟨nonempty, named, directory, reaches, rfl, held⟩ := linkless.reaches_of_stat sound proper seen
  have healthy : Workspace.Healthy { before with contexts := before.contexts ++
      [logContext .staged (Path.ofString jar.plain).toString] } := ⟨sound, quiet⟩
  obtain ⟨new, replaced, rebuilt, reported⟩ := rebuilt_of_rebuildJar leaves healthy linkless proper
    nonempty named reaches held course
  exact ⟨directory, old, new, seen, replaced, rebuilt, reported⟩

end Jar

end Run
end ClassLoom
