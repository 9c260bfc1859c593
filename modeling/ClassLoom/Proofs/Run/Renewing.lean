import ClassLoom.Proofs.Rebuild.Outcomes
import ClassLoom.Proofs.Run.Atomicity
import ClassLoom.Proofs.Run.Storing
import ClassLoom.Proofs.Run.Unwinding

namespace ClassLoom
namespace Run

/-!
# How a run over an archive ends

Where nothing is in the way beside an archive that has for its entries the files below a directory, nothing
but the transformer can fail a run.  So the run ends as the calls on its classes decide, and if it
succeeds, the new archive has a record for every file, with the content that its call has left.
-/

open Files (FileTree IsName Path)
open Files.FileTree (Askable)
open Rebuild (Furnished Named Packed Rebuilder Rooted Taken Unhindered under unhindered_of_bare)
open Transformer (Prepared)

variable {host : Host} {plan : Plan} {respond : String → Bytes → Outcome Config.Value}
  {note : String → Bytes → String} {artifact : Path} {before after : Workspace}
  {directory : Files.Location} {old : Files.File}

/-! ## Replacing the archive -/

section Replacing

variable {path : Path} {name : String} {staging : Staging}

/-- Where the way to it is open, the staging directory is cleaned up, if it has to be. -/
theorem tidied_run (plan : Plan) (paths : Named staging.rebuilder path name)
    (reaches : before.files.Reaches path directory) (healthy : before.Healthy)
    (askable : Askable (path.child ("copy-" ++ name)))
    (plain : ∀ target, before.files.at? (directory ++ [name ++ ".tmp"]) ≠ some (.link target)) :
    ∃ after, (if plan.clean then cleanStaging plan staging.rebuilder else pure ()) before =
        (.ok (), after) ∧ after.Healthy ∧
      FileTree.Eroded before.files after.files (directory ++ [name ++ ".tmp"]) := by
  split
  · have tracks : before.files.Tracks path (name ++ ".tmp") directory := .inl reaches
    have askableStaging : Askable (path.child (name ++ ".tmp")) := Rebuild.askable_beside askable (by simp)
    rcases run : cleanStaging plan staging.rebuilder before with ⟨outcome, after⟩
    obtain rfl := cleanStaging_answers paths tracks askableStaging.fits plain run
    exact ⟨after, rfl, eroded_of_cleanStaging paths tracks healthy run⟩
  · exact ⟨before, rfl, healthy, .refl _ _⟩

/-- What has been staged takes the place of the archive. -/
theorem replaceArchive_run (plan : Plan) (artifact : Path)
    (unhindered : Unhindered staging.rebuilder path name directory (Rebuild.swappedNames name) before)
    (rooted : Rooted staging.rebuilder (directory ++ [name ++ ".tmp"]))
    (once : (staging.rebuilder.staged.map Prod.fst).Nodup)
    (furnished : Furnished staging.rebuilder before.files (directory ++ [name ++ ".tmp"]))
    (held : before.files.at? (directory ++ [name]) = some (.file old)) :
    ∃ report after new written, replaceArchive plan artifact staging before = (.ok report, after) ∧
      after.printed = before.printed ∧ after.files.at? (directory ++ [name]) = some (.file new) ∧
      Packed staging.rebuilder before.files (directory ++ [name ++ ".tmp"]) written ∧
      new.content =
        Zip.encode ((staging.manifest.map Rebuild.Manifest.record).toList ++ written.map (·.2)) [] := by
  have paths := unhindered.paths
  have askable := unhindered.askable
  have apart : ∀ rest, FileTree.isBelow (directory ++ [name ++ ".tmp"] ++ rest)
      (directory ++ ["copy-" ++ name]) = false :=
    Rebuild.not_isBelow_beside (Rebuild.copy_ne_staging name).symm
  have copying : Unhindered staging.rebuilder path name directory ["copy-" ++ name] before :=
    unhindered.mono (by simp [Rebuild.swappedNames])
  obtain ⟨copied, serializes⟩ := copying.serialize_run rooted furnished apart staging.manifest
  obtain ⟨healthyCopied, spares, ⟨_, copy, written, there, packed, whole⟩ | ⟨⟨_, failed⟩, _⟩⟩ :=
    copying.all_or_nothing_of_serialize rooted once (furnished.clear.direct furnished.sound) apart
      serializes
  case inr => cases failed
  have same : ∀ other, "copy-" ++ name ≠ other →
      copied.files.at? (directory ++ [other]) = before.files.at? (directory ++ [other]) :=
    fun other different => (spares.beside (by simpa using different.symm)).here
  have swappable : Unhindered staging.rebuilder path name directory (Rebuild.swappedNames name) copied := by
    refine unhindered.of_spares healthyCopied (spares.mono (by simp [Rebuild.swappedNames])) ?_
    simp only [Rebuild.swappedNames, List.mem_cons, List.not_mem_nil, or_false]
    rintro other (rfl | rfl | rfl) target linked
    · rw [same _ (Rebuild.copy_ne_archive _)] at linked
      exact unhindered.plain _ (by simp [Rebuild.swappedNames]) target linked
    · rw [there] at linked
      cases linked
    · rw [same _ (Rebuild.copy_ne_backup name)] at linked
      exact unhindered.plain _ (by simp [Rebuild.swappedNames]) target linked
  obtain ⟨swapped, swaps, healthySwapped, sparesSwapped, _, put, _⟩ :=
    swappable.finalize_swapped ((same _ (Rebuild.copy_ne_archive name)).trans held) there
  obtain ⟨told, telling, logged⟩ := Log.logged_write healthySwapped.quiet plan.logger .info
    ("Replaced " ++ artifact.toString ++ ", previous archive kept as " ++
      staging.rebuilder.paths.backup.toString) [] none
  have healthyTold : told.Healthy := ⟨logged.files ▸ healthySwapped.files, logged.quiet⟩
  have new : told.files.at? (directory ++ [name]) = some (.file copy) := by
    rw [logged.files]
    exact put.here.trans there
  have stagedAlive : told.files.at? (directory ++ [name ++ ".tmp"]) = some .directory := by
    rw [logged.files]
    refine (sparesSwapped.beside ?_).here.trans ((same _ (Rebuild.copy_ne_staging name)).trans furnished.clear.alive)
    simp [Rebuild.swappedNames, (Rebuild.copy_ne_staging name).symm, (Rebuild.backup_ne_staging name).symm]
  obtain ⟨tidy, tidying, healthyTidy, eroded⟩ := tidied_run plan paths
    (logged.files ▸ (swappable.open_of_spares sparesSwapped).1) healthyTold askable
    (fun target linked => by rw [stagedAlive] at linked; cases linked)
  have kept := (eroded.at?_of_outside (archive_outside directory name)).trans new
  let report : Report := { staging.report with backup := some staging.rebuilder.paths.backup.toString }
  obtain ⟨last, reported, loggedLast⟩ := Log.logged_write healthyTidy.quiet plan.logger .info
    ("Transformed classes: " ++ report.summary.quoted) [] none
  have run : replaceArchive plan artifact staging before = (.ok report, last) := by
    rw [replaceArchive, bind_of_ok serializes, bind_of_ok swaps]
    simp only
    rw [Log.info, bind_of_ok telling]
    have ends : (logReport plan report >>= fun _ => return report : Work Report) tidy =
        (.ok report, last) := by
      rw [logReport, Log.info, bind_of_ok reported]
      rfl
    split at tidying
    next clean =>
      rw [if_pos clean, bind_of_ok tidying]
      exact ends
    next unclean =>
      rw [if_neg unclean]
      obtain ⟨_, rfl⟩ := pure_ok tidying
      exact ends
  refine ⟨report, last, copy, written, run,
    ((sameObjects_replaceArchive plan artifact staging).run run).printed, ?_, packed, whole⟩
  rw [loggedLast.files]
  exact kept

end Replacing

/-! ## Records -/

section Entries

variable {tree : FileTree} {top region place : Files.Location} {names : List String} {file : Files.File}
  {archive : Zip.Archive} {bytes : Bytes} {member : Zip.Member} {records : List Zip.Record}

/-- What a run leaves of a file, if no call fails. -/
def outcomeAt (respond : String → Bytes → Outcome Config.Value) (names : List String) (content : Bytes) :
    Bytes :=
  if isClassName ("/".intercalate names) then
    settled respond (classOfResource ("/".intercalate names)) content
  else content

/-- An archive is made anew by records of the files below a directory: each file has its record with what
a run leaves of it, and no entry has another. -/
structure Renewed (respond : String → Bytes → Outcome Config.Value) (archive : Zip.Archive)
    (tree : FileTree) (top : Files.Location) (records : List Zip.Record) : Prop where
  names : (records.map Zip.Record.name).Perm ((archive.members.map Zip.Member.name).map Bytes.ofText)
  complete : ∀ {names : List String} {file : Files.File}, tree.at? (top ++ names) = some (.file file) →
    ∃ stamp attributes, .ofContent ("/".intercalate names) stamp Zip.methodDeflated attributes
      (outcomeAt respond names file.content) ∈ records

theorem IsEntry.outputFor_eq (entry : IsEntry tree top bytes names file member) :
    outputFor respond bytes member = outcomeAt respond names file.content := by
  rw [outputFor, outcomeAt, entry.name, entry.content]

/-- Everything is in the staging directory, remembered under its name, and makes the archive anew. -/
structure Stowed (respond : String → Bytes → Outcome Config.Value) (archive : Zip.Archive)
    (tree : FileTree) (top region : Files.Location) (first : Rebuilder) (staging : Staging)
    (files : FileTree) : Prop where
  remembers : Remembers first staging.rebuilder
  manifest : staging.manifest = none
  once : (staging.rebuilder.staged.map Prod.fst).Nodup
  furnished : Furnished staging.rebuilder files region
  renews : ∀ {written : Rebuild.Written}, Packed staging.rebuilder files region written →
    Renewed respond archive tree top (written.map Prod.snd)

variable {context : Context} {opened : Classpath.OpenArchive} {origin : FileTree} {first : Rebuilder}
  {printed : String} {final : Staging} {written : Rebuild.Written}

section

variable (depot : Depot context artifact opened region place origin old tree top)
  (stored : Storing plan.failFast respond note context artifact opened region origin old.content tree top
    first printed opened.archive.members final after)
  (clean : final.report.failures = [])

include depot stored clean

omit depot in
/-- What is remembered are the names of the entries. -/
theorem Storing.keys : final.rebuilder.staged.map Prod.fst = opened.archive.members.map Zip.Member.name := by
  have pairs : List.Forall₂ (fun member item => Prod.fst item = member.name) opened.archive.members
      final.rebuilder.staged := (stored.all clean).imp fun _ _ held => held.key
  rw [eq_comm, ← List.forall₂_eq_eq_eq, List.forall₂_map_left_iff, List.forall₂_map_right_iff]
  exact pairs.imp fun _ _ same => same.symm

/-- A record that is written is that of a file. -/
theorem Storing.exists_record {item : String × Zip.Record}
    (taken : Taken final.rebuilder after.files region item) :
    ∃ names file stamp attributes, tree.at? (top ++ names) = some (.file file) ∧
      item = ("/".intercalate names, .ofContent ("/".intercalate names) stamp Zip.methodDeflated attributes
        (outcomeAt respond names file.content)) := by
  cases taken with
  | directory clock known _ _ =>
      obtain ⟨folder, _⟩ := stored.exists_stored depot clean known
      cases folder
  | @file names entry record there known held made =>
      obtain ⟨file, member, _, same, called, content, dated⟩ := stored.stored_at depot clean held known
      obtain ⟨stamp, rendered⟩ := exists_fileRecord dated
      obtain rfl := Except.ok.inj (made.symm.trans rendered)
      refine ⟨names, file, stamp, Rebuild.attributesOr entry.attributes Rebuild.fileAttributes, same.held, ?_⟩
      have bare : Rebuild.keyAt names false = "/".intercalate names := String.append_empty
      rw [called, same.name, content, same.outputFor_eq, bare]

theorem Storing.renewed (packed : Packed final.rebuilder after.files region written) :
    Renewed respond opened.archive tree top (written.map Prod.snd) := by
  have keys : (written.map Prod.fst).Perm (opened.archive.members.map Zip.Member.name) :=
    stored.keys clean ▸ packed.keys
  constructor
  · have named : (written.map Prod.snd).map Zip.Record.name =
        (written.map Prod.fst).map Bytes.ofText := by
      rw [List.map_map, List.map_map]
      refine List.map_congr_left fun item among => ?_
      obtain ⟨_, _, _, _, _, rfl⟩ := stored.exists_record depot clean (packed.taken item among)
      rfl
    rw [named]
    exact keys.map Bytes.ofText
  · intro names file held
    obtain ⟨member, among, entry⟩ := depot.bundles.packed held
    obtain ⟨item, listed, key⟩ := List.mem_map.1 (keys.mem_iff.2 (List.mem_map_of_mem among))
    obtain ⟨others, other, stamp, attributes, heldOther, rfl⟩ :=
      stored.exists_record depot clean (packed.taken item listed)
    have spelled : "/".intercalate others = "/".intercalate names := key.trans entry.name
    obtain rfl : others = names := by
      have pieces := congrArg Files.segments spelled
      rwa [Files.segments_intercalate (depot.bundles.names_ne_nil heldOther) fun name among =>
          (depot.bundles.segments heldOther name among).1,
        Files.segments_intercalate (depot.bundles.names_ne_nil held) fun name among =>
          (depot.bundles.segments held name among).1] at pieces
    obtain rfl := Files.Entry.file.inj (Option.some.inj (held.symm.trans heldOther))
    exact ⟨stamp, attributes, List.mem_map.2 ⟨_, listed, rfl⟩⟩

theorem Storing.stowed : Stowed respond opened.archive tree top region first final after.files where
  remembers := stored.remembers
  manifest := stored.manifest
  once := stored.keys clean ▸ depot.bundles.once
  furnished := stored.furnished depot clean
  renews := stored.renewed depot clean

end

end Entries

/-! ## Staging in a run -/

section Staging

variable {path : Path} {name : String} {tree : FileTree} {top : Files.Location} {archive : Zip.Archive}
  {rebuilder : Rebuilder}

/-- A staging directory that is empty, beside an archive of the files below a directory. -/
structure EmptyStaging (path : Path) (name : String) (directory : Files.Location) (old : Files.File)
    (archive : Zip.Archive) (tree : FileTree) (top : Files.Location) (state : Workspace) : Prop where
  healthy : state.Healthy
  linkless : state.files.Linkless
  dated : Rebuild.Dated state.files.clock
  ends : EndsIn state.files path name directory old
  alive : state.files.at? (directory ++ [name ++ ".tmp"]) = some .directory
  empty : ∀ names ≠ [], state.files.at? (directory ++ [name ++ ".tmp"] ++ names) = none
  reads : Zip.Archive.ofBytes old.content = .ok archive
  bundles : Bundles tree top archive old.content
  common : AllCommon tree top
  room : ∀ {names : List String} {entry : Files.Entry}, tree.at? (top ++ names) = some entry →
    Askable (under (FileTree.pathOf (directory ++ [name ++ ".tmp"])) names)

namespace EmptyStaging

variable {context : Context} {ready : Workspace}
  (start : EmptyStaging path name directory old archive tree top before)

include start

/-- Whatever is put into the staging directory, the archive opens. -/
theorem reopens : Reopens (path.child name) ⟨old.id, archive⟩ (directory ++ [name ++ ".tmp"]) before.files :=
  fun _ within => (start.ends.within (archive_outside directory name) within).openArchive_run start.reads

theorem depot (mode : context.mode = .staged) (filter : context.filter = .everything) :
    Depot context (path.child name) ⟨old.id, archive⟩ (directory ++ [name ++ ".tmp"]) (directory ++ [name])
      before.files old tree top where
  mode := mode
  filter path := filter ▸ Pattern.PathFilter.accepts_everything path
  bundles := start.bundles
  common := start.common
  reopens := start.reopens
  same := rfl
  held := start.ends.held
  outside := archive_outside directory name
  linkless := start.linkless
  alive := start.alive
  below := by simp
  room := start.room

/-- Nothing has been stored to begin with. -/
theorem storing (passes : before.files.TimePasses ready.files) (dated : Rebuild.Dated ready.files.clock)
    (attends : Attends context (path.child name) ⟨old.id, archive⟩ (directory ++ [name ++ ".tmp"])
      before.files ready) (fresh : rebuilder.staged = []) (report : Report) (none : report.failures = []) :
    Storing plan.failFast respond note context (path.child name) ⟨old.id, archive⟩
      (directory ++ [name ++ ".tmp"]) before.files old.content tree top rebuilder ready.printed []
      ⟨report, rebuilder, .none⟩ ready where
  attends := attends
  remembers := ⟨rebuilder.staged, rfl⟩
  manifest := rfl
  agrees {names entry} held := by
    rw [passes.at?] at held
    by_cases above : names = []
    · subst above
      rw [List.append_nil, start.alive] at held
      obtain rfl := Option.some.inj held
      exact ⟨_, by rw [List.append_nil]; exact start.bundles.alive, rfl⟩
    · rw [start.empty names above] at held
      cases held
  dated := dated
  stored := by
    rw [fresh]
    exact .nil
  going := by
    rw [none]
    exact .start attends.prepared

end EmptyStaging

/-- The staging of a run ends as the calls on the classes of the archive decide, and if it succeeds,
everything is staged. -/
theorem comesTo_of_stageInRun (calculates : host.Calculates respond note)
    (usable : Transformer.Usable host plan.transformer)
    (everything : Pattern.PathFilter.ofSetting plan.filter = .ok .everything)
    (start : EmptyStaging path name directory old archive tree top before)
    (rooted : Rooted rebuilder (directory ++ [name ++ ".tmp"])) (fresh : rebuilder.staged = []) :
    ∃ outcome after, stageInRun host plan (path.child name) [] rebuilder before = (outcome, after) ∧
      ComesTo plan.failFast respond note (callsFor old.content archive.members) before after outcome ∧
      ∀ staging, outcome = .ok staging → Stowed respond archive tree top (directory ++ [name ++ ".tmp"])
        rebuilder staging after.files := by
  let region := directory ++ [name ++ ".tmp"]
  let opened : Classpath.OpenArchive := ⟨old.id, archive⟩
  obtain ⟨named, opening, said⟩ := start.ends.openClasspath_run start.reads start.healthy.quiet
  obtain ⟨context, ready, mode, number, filter, interim, prepared, runs⟩ := inRun_run usable .staged
    (fun context => do
      let staging ← stageArchive host plan context (path.child name) rebuilder
      logStatistics plan context
      Work.ofOutcome staging.report.check
      return staging) opening everything said.quiet
  have depot := start.depot mode filter
  have passes : before.files.TimePasses ready.files := said.files ▸ interim.passes
  have healthy : ready.Healthy := ⟨passes.sound start.healthy.files, interim.quiet⟩
  have within : Within region before.files ready.files := by
    obtain ⟨moment, _, same⟩ := passes
    rw [same]
    exact Frame.clock before.files moment
  have attends : Attends context (path.child name) opened region before.files ready := by
    refine ⟨healthy, within, ⟨start.reopens healthy.files within, none, ?_, by simp⟩, prepared⟩
    rw [interim.classpaths, number]
    simp
  have printed : ready.printed = before.printed := by
    rw [interim.printed, String.append_empty]
    exact said.printed
  have opensJar : openJar (path.child name) ready = (.ok opened, ready) := by
    rw [openJar, Work.files_bind, attends.fronted.opens]
    rfl
  have stages : stageArchive host plan context (path.child name) rebuilder ready =
      archive.members.foldlM (stageEntry host plan context opened)
        ⟨.start .staged (path.child name).toString, rebuilder, none⟩ ready := by
    rw [stageArchive, bind_of_ok opensJar]
  rcases storing_run calculates depot rooted
      (start.storing passes (interim.dated (said.files ▸ start.dated)) attends fresh
        (.start .staged (path.child name).toString) rfl) with
    ⟨past, call, rest, failure, last, whole, earlier, stops, failed, prints⟩ |
      ⟨goes, final, last, done, stored⟩
  · rw [← stages] at failed
    rw [bind_of_error failed] at runs
    exact ⟨.error failure, _, runs, .stopped whole earlier stops (printed ▸ prints),
      fun _ same => by cases same⟩
  rw [← stages] at done
  obtain ⟨told, telling, logged⟩ := statistics_run plan context stored.attends.healthy.quiet
  rw [bind_of_ok done, bind_of_ok telling] at runs
  have prints := logged.printed.trans (printed ▸ stored.going.printed)
  cases checked : final.report.check with
  | error failure =>
      rw [checked] at runs
      refine ⟨.error failure, _, runs, .ended goes prints ?_, fun _ same => by cases same⟩
      rw [← stored.going.failures, ← check_eq_ok_iff, checked]
      exact iff_of_false (by rintro ⟨_, ⟨⟩⟩) (by rintro ⟨⟩)
  | ok nothing =>
      rw [checked] at runs
      have clean := check_eq_ok_iff.1 checked
      refine ⟨.ok final, _, runs, .ended goes prints ?_, fun staging same => ?_⟩
      · exact iff_of_true ⟨final, rfl⟩ (stored.going.failures.1 clean)
      · obtain rfl := Except.ok.inj same
        exact logged.files ▸ stored.stowed depot clean

end Staging

/-! ## The whole run -/

section Jar

variable {model : FileTree} {top : Files.Location} {archive : Zip.Archive}

/-- An archive in a tree without links, with nothing at the place of its staging directory, and a way to it
that does not lead through what a run replaces.  It has for its entries the files below a directory of a
model, and their paths in the staging directory can be asked for. -/
structure Site (tree : FileTree) (artifact : Path) (directory : Files.Location) (old : Files.File)
    (archive : Zip.Archive) (model : FileTree) (top : Files.Location) : Prop where
  sound : tree.Sound
  linkless : tree.Linkless
  dated : Rebuild.Dated tree.clock
  found : tree.stat true artifact.toString = .ok (directory ++ [artifact.name], .file old)
  way : (Rebuild.stripped directory (Rebuild.swappedNames artifact.name) tree).Reaches artifact.parent
    directory
  vacant : tree.at? (directory ++ [artifact.name ++ ".tmp"]) = none
  askable : Askable (artifact.parent.child ("copy-" ++ artifact.name))
  reads : Zip.Archive.ofBytes old.content = .ok archive
  bundles : Bundles model top archive old.content
  common : AllCommon model top
  room : ∀ {names : List String} {entry : Files.Entry}, model.at? (top ++ names) = some entry →
    Askable (under (FileTree.pathOf (directory ++ [artifact.name ++ ".tmp"])) names)

namespace Site

variable (site : Site before.files artifact directory old archive model top)

include site

theorem checkArchive_run {jar : Config.Value} (spelled : artifact = Path.ofString jar.plain)
    (shaped : Config.checkPath (.text jar.plain) = .ok ()) :
    checkArchive before.files (.text jar.plain) = .ok () := by
  subst spelled
  have isThere : before.files.exists? (Path.ofString jar.plain) = .ok true :=
    FileTree.exists_of_stat site.found
  have isFile : before.files.isFile? (Path.ofString jar.plain) = .ok true :=
    FileTree.test_of_stat site.found
  have packs : Classpath.isArchiveFile before.files (Path.ofString jar.plain).toString = .ok true := by
    rw [Classpath.isArchiveFile, FileTree.read_of_stat site.found]
    simp only [isArchive_of_ofBytes site.reads]
  have plain : (Config.Value.text jar.plain).plain = jar.plain := rfl
  simp only [checkArchive, shaped, plain, isThere, isFile, packs, asked]
  rfl

theorem ends (proper : artifact.Proper) : artifact.parts ≠ [] ∧
    EndsIn before.files artifact.parent artifact.name directory old := by
  obtain ⟨nonempty, named, there, reaches, same, held⟩ :=
    site.linkless.reaches_of_stat site.sound proper site.found
  obtain rfl := (List.append_inj' same rfl).1
  exact ⟨nonempty, proper.parent, named, Rebuild.askable_beside site.askable (by simp), reaches, held⟩

theorem unhindered (proper : artifact.Proper) (quiet : before.LogsToNoFile) (policy : Config.StagingPolicy)
    (logger : String) : Unhindered (Rebuilder.new artifact policy logger) artifact.parent artifact.name
      directory (Rebuild.swappedNames artifact.name) before where
  paths := Rebuild.named_of_new proper (site.ends proper).1 (site.ends proper).2.named policy logger
  healthy := ⟨site.sound, quiet⟩
  askable := site.askable
  alive := site.sound.at?_above (site.ends proper).2.held (FileTree.isBelow_append _ _) (by simp)
  way := site.way
  plain _ _ := site.linkless _

/-- The staging directory is made, and empty. -/
theorem prepare_run (proper : artifact.Proper) (quiet : before.LogsToNoFile) (policy : Config.StagingPolicy)
    (logger : String) : ∃ files, (Rebuilder.new artifact policy logger).prepare before =
        (.ok { Rebuilder.new artifact policy logger with
          root := some (FileTree.pathOf (directory ++ [artifact.name ++ ".tmp"])) }, { before with files }) ∧
      FileTree.Grown before.files files ∧
      EmptyStaging artifact.parent artifact.name directory old archive model top { before with files } := by
  have unhindered := site.unhindered proper quiet policy logger
  have ends := (site.ends proper).2
  have askable : Askable (artifact.parent.child (artifact.name ++ ".tmp")) :=
    Rebuild.askable_beside site.askable (by simp)
  obtain ⟨files, prepares, paved⟩ := Rebuild.prepare_of_clearStaging unhindered.paths
    (Rebuild.clearStaging_of_absent unhindered.paths ends.reaches askable site.vacant) unhindered.healthy
    site.linkless ends.reaches unhindered.alive askable (.inl site.vacant)
  have grown := paved.grown
  refine ⟨files, prepares, grown, ⟨grown.sound site.sound, quiet⟩, fun place target held =>
    site.linkless place target (grown.at?_of_not_directory held nofun), paved.clock ▸ site.dated,
    ends.within (archive_outside directory artifact.name) (.of_grown grown), paved.alive, ?_, site.reads,
    site.bundles, site.common, site.room⟩
  intro names nonempty
  rcases paved.places (directory ++ [artifact.name ++ ".tmp"] ++ names) with
    same | ⟨_, _, front, start, there⟩
  · exact same.trans (Rebuild.EmptyAt.of_absent site.sound site.vacant names)
  · -- Only the directory of the archive and the staging directory are on the way.
    rw [List.append_assoc] at there
    obtain rfl := List.append_cancel_left there
    have short := start.length_le
    simp only [List.length_append, List.length_singleton] at short
    exact absurd (List.length_eq_zero_iff.1 (by omega)) nonempty

end Site

/-- A run over an archive ends as the calls on its classes decide, and if it succeeds, the archive has been
made anew. -/
theorem comesTo_of_transformJar (calculates : host.Calculates respond note)
    (usable : Transformer.Usable host plan.transformer)
    (everything : Pattern.PathFilter.ofSetting plan.filter = .ok .everything) {jar : Config.Value}
    (shaped : Config.checkPath (.text jar.plain) = .ok ())
    (site : Site before.files (Path.ofString jar.plain) directory old archive model top)
    (quiet : before.LogsToNoFile) :
    ∃ outcome after, transformJar host plan jar [] before = (outcome, after) ∧
      ComesTo plan.failFast respond note (callsFor old.content archive.members) before after outcome ∧
      ∀ report, outcome = .ok report → ∃ new records,
        after.files.at? (directory ++ [(Path.ofString jar.plain).name]) = some (.file new) ∧
          new.content = Zip.encode records [] ∧ Renewed respond archive model top records := by
  let artifact := Path.ofString jar.plain
  let entered : Workspace := { before with
    contexts := before.contexts ++ [logContext .staged artifact.toString] }
  have proper : artifact.Proper := Path.ofString_proper jar.plain
  have site : Site entered.files artifact directory old archive model top := site
  have quietEntered : entered.LogsToNoFile := quiet
  have unhindered := site.unhindered proper quietEntered plan.policy plan.logger
  have spelled : artifact.parent.child artifact.name = artifact :=
    Path.parent_child_name (site.ends proper).1
  obtain ⟨files, prepares, grown, empty⟩ := site.prepare_run proper quietEntered plan.policy plan.logger
  let prepared : Rebuilder := { Rebuilder.new artifact plan.policy plan.logger with
    root := some (FileTree.pathOf (directory ++ [artifact.name ++ ".tmp"])) }
  have rooted : Rooted prepared (directory ++ [artifact.name ++ ".tmp"]) :=
    ⟨rfl, fun part among => empty.healthy.files.named empty.alive part among⟩
  obtain ⟨staged, last, stages, comes, stowed⟩ :=
    comesTo_of_stageInRun calculates usable everything empty rooted rfl
  rw [spelled] at stages
  obtain ⟨healthy, within⟩ :=
    (keeps_stageInRun calculates.leavesFiles artifact [] rooted).run stages empty.healthy
  have goesOn : ∀ staging, staged = .ok staging → ∃ report after,
      replaceArchive plan artifact staging last = (.ok report, after) ∧ after.printed = last.printed ∧
        ∃ new records, after.files.at? (directory ++ [artifact.name]) = some (.file new) ∧
          new.content = Zip.encode records [] ∧ Renewed respond archive model top records := by
    intro staging succeeded
    have stowed := stowed staging succeeded
    have still : Unhindered staging.rebuilder artifact.parent artifact.name directory
        (Rebuild.swappedNames artifact.name) last := by
      obtain ⟨entries, same⟩ := stowed.remembers
      exact unhindered.within (by rw [same]) healthy (trans_of (Within _) (.of_grown grown) within)
    obtain ⟨report, after, new, written, run, printed, held, packed, whole⟩ := replaceArchive_run plan
      artifact still (stowed.remembers.rooted rooted) stowed.once stowed.furnished
      ((within.files (archive_outside directory artifact.name)).1 empty.ends.held)
    rw [stowed.manifest] at whole
    exact ⟨report, after, run, printed, new, _, held, whole, stowed.renews packed⟩
  obtain ⟨outcome, after, replaced, ends, renewed⟩ := comes.bind stages goesOn
  have rebuilds : rebuildJar host plan artifact [] entered = (outcome, after) := by
    rw [rebuildJar, bind_of_ok prepares]
    exact replaced
  have checks : Work.ofOutcome (checkArchive before.files (.text jar.plain)) before = (.ok (), before) := by
    rw [site.checkArchive_run rfl shaped]
    rfl
  have entering := Log.inContext_run (logContext .staged artifact.toString) rebuilds
  refine ⟨outcome, _, (?_ : transformJar host plan jar [] before = _).trans entering,
    ends.congr rfl rfl, renewed⟩
  rw [transformJar, Work.files_bind, bind_of_ok checks]

end Jar

end Run
end ClassLoom
