import ClassLoom.Proofs.Classpath.Front
import ClassLoom.Proofs.Rebuild.Objects
import ClassLoom.Proofs.Rebuild.Repacking
import ClassLoom.Proofs.Run.Completing
import ClassLoom.Proofs.Run.Rebuilding

namespace ClassLoom

/-!
# Runs whose transformer changes no class

A transformer that never has new content for a class may look at other classes, which opens archives, and
take time.  Where the archive is all that classes are looked up in, a run with such a transformer writes
what `Rebuild.repacked` says: which entries are classes, which of them are accepted, and which entry each
takes its content from is told by the archive alone.
-/

open Files (FileTree FileWork Path IsName)

/-! ## Transformers without new content -/

/-- Time passes, and classes are looked up. -/
structure Idles (before after : Workspace) : Prop where
  files : ∃ moment, after.files = { before.files with clock := moment }
  quiet : before.LogsToNoFile → after.LogsToNoFile
  opens : Classpath.Opens before after
  prepared : ∀ {number : Nat}, Transformer.Prepared number before → Transformer.Prepared number after

/-- A host whose transformers never have new content for a class, and do nothing but look at classes. -/
structure Host.Idle (host : Host) : Prop where
  leaves : host.LeavesFiles
  transform : ∀ (ready : Transformer.Ready) (loader : Option Nat) (className : String)
    (content : Bytes) (before : Workspace), ∃ value after,
      host.transform ready loader className content before = (.ok value, after) ∧
      Transformer.contentOf value = .ok none ∧ Idles before after

/-- A call of a transformer that is ready answers that there is no new content. -/
theorem Transformer.Invoker.invoke_idle {host : Host} {number : Nat} {before : Workspace}
    (idle : host.Idle) (prepared : Prepared number before) (className : String) (content : Bytes) :
    ∃ name after, Invoker.invoke host number className content before =
        (.ok ⟨className, none, name⟩, after) ∧ Idles before after := by
  obtain ⟨ready, readies⟩ := prepared.prepare_run host
  obtain ⟨value, called, calls, nothing, idles⟩ := idle.transform ready
    (before.invokers.getD number (.new none none)).loader className content before
  obtain ⟨change, same, counts⟩ := counted_eq number called (upshot? (.ok value))
  have run := Invoker.invoke_eq readies calls
  rw [counts, conclusion, nothing] at run
  exact ⟨ready.name, _, run, idles.files, idles.quiet, idles.opens, fun made => (idles.prepared made).change same⟩

namespace Run

open Rebuild (Rooted recordOf sourceOf Distinct orderedMembers ordinaryMembers)
open Transformer (Prepared)

variable {host : Host} {plan : Plan} {context : Context} {artifact : Path}
  {opened : Classpath.OpenArchive} {region : Files.Location} {origin : FileTree}
  {staging next : Staging} {member : Zip.Member} {before after : Workspace}

/-! ## Accepted classes -/

/-- A class without new content is written back with what it was handed with. -/
theorem process_unchanged (staged : context.mode = .staged) (report : Report) {candidate : Candidate}
    {target : Target} {className name : String} {found called : Workspace}
    (fresh : target.applied = false)
    (seeks : Resolver.resolve ⟨.staged, some context.classpath⟩ candidate before = (.ok target, found))
    (invokes : Transformer.Invoker.invoke host context.invoker target.className target.content found =
      (.ok ⟨className, none, name⟩, called)) :
    process host plan context report candidate before =
      (Work.onFiles (FileWork.writeFileInParents target.writePath.toString target.content) >>= fun _ =>
        pure ({ report with presented := report.presented + 1, noop := report.noop + 1 },
          some { target with transformed := none, applied := true })) called := by
  have applies : Work.ofOutcome (target.apply none) called =
      (.ok { target with transformed := none, applied := true }, called) := by
    rw [Target.apply, fresh]
    rfl
  rw [process, staged, bind_of_ok seeks, Work.attempt_run invokes]
  simp only
  rw [bind_of_ok applies]
  rcases writing : Work.onFiles (FileWork.writeFileInParents target.writePath.toString target.content) called
    with ⟨outcome, last⟩
  have writes : writeBack .staged plan.logger { target with transformed := none, applied := true } called =
      (outcome.map fun _ => false, last) := by
    have unchanged : Target.isNoop { target with transformed := none, applied := true } = true := rfl
    rw [writeBack, Work.files_bind, unchanged]
    simp only
    rw [run_bind, writing]
    cases outcome with
    | error failure => rfl
    | ok _ => rfl
  cases outcome with
  | error failure => rw [bind_of_error writes, bind_of_error writing]
  | ok _ =>
      rw [bind_of_ok writes, bind_of_ok writing]
      rfl

/-- A class that is processed has been found. -/
theorem exists_resolved (staged : context.mode = .staged) {report : Report} {candidate : Candidate}
    {result : Report × Option Target}
    (run : process host plan context report candidate before = (.ok result, after)) :
    ∃ source found, Classpath.resolve context.classpath candidate.className before = (.ok source, found) := by
  obtain ⟨target, found, seeking, _⟩ := bind_ok run
  rw [staged] at seeking
  obtain ⟨_, source, same, resolved, _⟩ := resolve_ok seeking
  obtain rfl := Option.some.inj same
  exact ⟨source, found, resolved⟩

/-! ## The archive on its own classpath -/

/-- The archive opens as it did, whatever has been staged. -/
def Reopens (artifact : Path) (opened : Classpath.OpenArchive) (region : Files.Location)
    (origin : FileTree) : Prop :=
  ∀ {tree : FileTree}, tree.Sound → Within region origin tree →
    Classpath.openArchive tree artifact = .ok opened

/-- A state in which entries can be visited: the archive is all that classes are looked up in, the
transformer has been made, and only the staging directory has changed. -/
structure Attends (context : Context) (artifact : Path) (opened : Classpath.OpenArchive)
    (region : Files.Location) (origin : FileTree) (state : Workspace) : Prop where
  healthy : state.Healthy
  within : Within region origin state.files
  fronted : Classpath.Fronted context.classpath artifact opened [] state
  prepared : Prepared context.invoker state

namespace Attends

theorem of_same {middle : Workspace} (reopens : Reopens artifact opened region origin)
    (healthy : after.Healthy) (within : Within region origin after.files)
    (attends : Attends context artifact opened region origin middle) (same : SameObjects middle after) :
    Attends context artifact opened region origin after where
  healthy := healthy
  within := within
  fronted := attends.fronted.of_same same.classpaths (reopens healthy.files within)
  prepared := attends.prepared.of_same same

theorem idles (reopens : Reopens artifact opened region origin)
    (attends : Attends context artifact opened region origin before) (idles : Idles before after) :
    Attends context artifact opened region origin after := by
  obtain ⟨moment, passed⟩ := idles.files
  have sound : after.files.Sound := passed ▸ attends.healthy.files.clock moment
  have within : Within region origin after.files :=
    passed ▸ trans_of (Within region) attends.within (Frame.clock before.files moment)
  exact ⟨⟨sound, idles.quiet attends.healthy.quiet⟩, within,
    attends.fronted.of_opens idles.opens (reopens sound within), idles.prepared attends.prepared⟩

/-- An accepted class is written back with the content of the entry in which it is looked for. -/
theorem process_eq (idle : host.Idle) (staged : context.mode = .staged)
    (reopens : Reopens artifact opened region origin)
    (attends : Attends context artifact opened region origin before) (report : Report)
    {candidate : Candidate} {source : Zip.Member} {content : Bytes}
    (found : opened.archive.find? (resourceOfClass candidate.className) = some source)
    (read : opened.read before.files source = .ok content) :
    ∃ called target, Attends context artifact opened region origin called ∧
      (∃ moment, called.files = { before.files with clock := moment }) ∧
      Target.isNoop target = true ∧
      process host plan context report candidate before =
        (Work.onFiles (FileWork.writeFileInParents candidate.filePath.toString content) >>= fun _ =>
          pure ({ report with presented := report.presented + 1, noop := report.noop + 1 },
            some target)) called := by
  obtain ⟨classpaths, resolves, fronted⟩ := attends.fronted.resolve_run found read
  let resolved : Workspace := { before with classpaths }
  have attendsResolved : Attends context artifact opened region origin resolved :=
    ⟨⟨attends.healthy.files, attends.healthy.quiet⟩, attends.within, fronted, attends.prepared⟩
  let target : Target := .new candidate.className ⟨artifact.toString,
    some (resourceOfClass candidate.className)⟩ candidate.filePath content
  have seeks : Resolver.resolve ⟨.staged, some context.classpath⟩ candidate before =
      (.ok target, resolved) := by
    change (Classpath.resolve context.classpath candidate.className >>= fun source =>
      pure (Target.new candidate.className source.location candidate.filePath source.content)) before = _
    rw [bind_of_ok resolves]
    rfl
  obtain ⟨name, called, invokes, idles⟩ := Transformer.Invoker.invoke_idle idle attendsResolved.prepared
    target.className target.content
  have fresh : target.applied = false := rfl
  have same : process host plan context report candidate before = _ :=
    process_unchanged staged report fresh seeks invokes
  refine ⟨called, _, attendsResolved.idles reopens idles, idles.files, ?_, same⟩
  rfl

/-- What is visited leaves a state in which entries can be visited. -/
theorem visit (idle : host.Idle) (staged : context.mode = .staged)
    (reopens : Reopens artifact opened region origin) (rooted : Rooted staging.rebuilder region)
    (attends : Attends context artifact opened region origin before)
    (run : stageEntry host plan context opened staging member before = (.ok next, after)) :
    Attends context artifact opened region origin after := by
  obtain ⟨healthy, step⟩ := (keeps_stageEntry idle.leaves staged opened rooted member).run run attends.healthy
  have within := trans_of (Within region) attends.within step
  cases entryStaged_of_run run with
  | manifest _ _ => exact attends
  | directory _ _ staged =>
      obtain ⟨_, made, _⟩ := Rebuild.stageDirectory_ok staged
      have same : SameObjects before after := (sameObjects_onFiles _).run made
      exact attends.of_same reopens healthy within same
  | accepted _ _ _ _ classRun =>
      obtain ⟨report, target, processed, _⟩ := stageClass_ok classRun
      obtain ⟨_, _, resolved⟩ := exists_resolved staged processed
      obtain ⟨source, found⟩ := attends.fronted.exists_found resolved
      obtain ⟨read, _⟩ := attends.fronted.resolve found resolved
      obtain ⟨called, made, attendsCalled, _, _, same⟩ :=
        attends.process_eq idle staged reopens staging.report found read
      rw [same] at processed
      obtain ⟨_, last, writing, ending⟩ := bind_ok processed
      obtain ⟨_, rfl⟩ := pure_ok ending
      have same : SameObjects called after := (sameObjects_onFiles _).run writing
      exact attendsCalled.of_same reopens healthy within same
  | copied _ _ _ _ copying =>
      obtain ⟨_, ⟨middle, made, copied⟩, _⟩ := Rebuild.stageCopy_ok copying
      have one : SameObjects before middle := (sameObjects_onFiles _).run made
      have two : SameObjects middle after := (Rebuild.Rebuilder.sameObjects_copyEntry _ _ _).run copied
      exact attends.of_same reopens healthy within (trans_of SameObjects one two)

/-- Every entry is visited in such a state. -/
theorem course {first : Staging} {start : Workspace} {visits : List Visit} (idle : host.Idle)
    (staged : context.mode = .staged) (reopens : Reopens artifact opened region origin)
    (rooted : Rooted first.rebuilder region)
    (attends : Attends context artifact opened region origin start)
    (course : Course host plan context opened first start visits staging after) :
    Rooted staging.rebuilder region ∧ Attends context artifact opened region origin after ∧
      ∀ visit ∈ visits, Attends context artifact opened region origin visit.state := by
  induction course with
  | nothing => exact ⟨rooted, attends, by simp⟩
  | visit _ run inductionHypothesis =>
      obtain ⟨rootedHere, attendsHere, each⟩ := inductionHypothesis
      refine ⟨(entryStaged_of_run run).remembers.rooted rootedHere,
        attendsHere.visit idle staged reopens rootedHere run, fun visit among => ?_⟩
      rcases List.mem_append.1 among with earlier | now
      · exact each visit earlier
      · obtain rfl := List.mem_singleton.1 now
        exact attendsHere

/-- What an entry is staged with is the content of the entry from which it has its content. -/
theorem source {visit : Visit} {archive content : Bytes} {root : Path} {transformed : Bool} (idle : host.Idle)
    (attends : Attends context artifact opened region origin visit.state)
    (held : visit.state.files.contentOf opened.file = some archive)
    (comesTo : visit.Content host context archive root transformed content) :
    transformed = false ∧ ∃ source,
      sourceOf context.filter root opened.archive visit.member = some source ∧
        source.read archive = .ok content := by
  cases comesTo with
  | copied passed read =>
      refine ⟨rfl, visit.member, ?_, read⟩
      rw [Visit.isAccepted] at passed
      rw [sourceOf, passed]
      rfl
  | @processed found answer last taken processed =>
      obtain ⟨state, called, _, resolved, invoked, _⟩ := processed
      obtain ⟨source, search⟩ := attends.fronted.exists_found resolved
      obtain ⟨read, _⟩ := attends.fronted.resolve search resolved
      obtain ⟨classpaths, resolves, _⟩ := attends.fronted.resolve_run search read
      obtain ⟨_, rfl⟩ := Prod.mk.inj (resolves.symm.trans resolved)
      have prepared : Prepared context.invoker { visit.state with classpaths } := attends.prepared
      obtain ⟨_, _, invokes, _⟩ :=
        Transformer.Invoker.invoke_idle idle prepared (classOfResource visit.member.name) found.content
      obtain rfl := Except.ok.inj (Prod.mk.inj (invokes.symm.trans invoked)).1
      refine ⟨rfl, source, ?_, ?_⟩
      · rw [Visit.isAccepted] at taken
        rw [sourceOf, taken]
        exact search
      · rw [Classpath.OpenArchive.read, held, Option.getD_some] at read
        split at read
        next content done =>
          rw [done, Except.ok.inj read]
          rfl
        next => cases read

end Attends

/-! ## Opening the archive -/

section Opening

variable {tree : FileTree} {path : Path} {name : String} {directory : Files.Location} {file : Files.File}
  {archive : Zip.Archive}

/-- A file that begins like an archive is taken for one. -/
theorem isArchive_of_ofBytes {bytes : Bytes} (reads : Zip.Archive.ofBytes bytes = .ok archive) :
    Zip.isArchive bytes = .ok true := by
  unfold Zip.Archive.ofBytes at reads
  unfold Zip.isArchive
  cases found : Zip.findEnd bytes with
  | error error =>
      rw [found] at reads
      cases reads
  | ok ending =>
      cases ending with
      | none =>
          rw [found] at reads
          cases reads
      | some record => rfl

/-- An archive that is opened can be asked for by its path. -/
theorem askable_of_openArchive {opened : Classpath.OpenArchive} (proper : path.Proper) (named : IsName name)
    (opens : Classpath.openArchive tree (path.child name) = .ok opened) :
    FileTree.Askable (path.child name) := by
  unfold Classpath.openArchive at opens
  split at opens
  next => cases opens
  next place file openedOk =>
    unfold FileTree.openFile at openedOk
    split at openedOk
    next there found seen =>
      obtain ⟨clean, search⟩ := FileTree.stat_eq_ok_iff.1 seen
      obtain ⟨_, reaches, fits⟩ := FileTree.exists_reaches proper named search
      exact reaches.askable fits clean
    next => cases openedOk
    next => cases openedOk

/-- A file at the end of a path. -/
structure EndsIn (tree : FileTree) (path : Path) (name : String) (directory : Files.Location)
    (file : Files.File) : Prop where
  proper : path.Proper
  named : IsName name
  askable : FileTree.Askable (path.child name)
  reaches : tree.Reaches path directory
  held : tree.at? (directory ++ [name]) = some (.file file)

namespace EndsIn

theorem stat (ends : EndsIn tree path name directory file) :
    tree.stat true (path.child name).toString = .ok (directory ++ [name], .file file) :=
  ends.reaches.stat_child true ends.proper ends.named ends.askable ends.held rfl

theorem openArchive_run (ends : EndsIn tree path name directory file)
    (packs : Zip.Archive.ofBytes file.content = .ok archive) :
    Classpath.openArchive tree (path.child name) = .ok ⟨file.id, archive⟩ := by
  rw [Classpath.openArchive, FileTree.openFile_of_stat ends.stat]
  simp only [packs]

theorem isArchiveFile (ends : EndsIn tree path name directory file)
    (packs : Zip.Archive.ofBytes file.content = .ok archive) :
    Classpath.isArchiveFile tree (path.child name).toString = .ok true := by
  rw [Classpath.isArchiveFile, FileTree.read_of_stat ends.stat]
  simp only [isArchive_of_ofBytes packs]

/-- A classpath that is opened on the archive alone has the archive for its only element. -/
theorem openClasspath_run {before : Workspace} (ends : EndsIn before.files path name directory file)
    (packs : Zip.Archive.ofBytes file.content = .ok archive) (quiet : before.LogsToNoFile) :
    ∃ named, openClasspath [.text (path.child name).toString] before = (.ok named.classpaths.length,
        { named with classpaths := named.classpaths ++ [⟨[.archive (path.child name) none], false⟩] }) ∧
      Logged before named := by
  have read := Path.ofString_toString (ends.proper.child ends.named.1)
  have bare : before.files.isDirectory? (path.child name) = .ok false :=
    FileTree.test_of_stat ends.stat
  have seen : before.files.isFile? (path.child name) = .ok true := FileTree.test_of_stat ends.stat
  obtain ⟨named, names, logged⟩ := rootOf_of_isArchiveFile quiet bare seen (ends.isArchiveFile packs)
  rw [← read] at names
  refine ⟨named, ?_, logged⟩
  rw [openClasspath_single names, read]

theorem within {later : FileTree} (ends : EndsIn tree path name directory file)
    (outside : FileTree.isBelow (directory ++ [name]) region = false) (within : Within region tree later) :
    EndsIn later path name directory file where
  proper := ends.proper
  named := ends.named
  askable := ends.askable
  reaches := ends.reaches.mono within.carries within.start
  held := (within.files outside).1 ends.held

end EndsIn

end Opening

/-- The archive is not in its staging directory. -/
theorem archive_outside (directory : Files.Location) (name : String) :
    FileTree.isBelow (directory ++ [name]) (directory ++ [name ++ ".tmp"]) = false :=
  FileTree.not_isBelow_sibling (Rebuild.staging_ne_archive name).symm []

/-! ## The order of entries -/

theorem Describes.kept {bytes : Bytes} {visits : List Visit} {manifest : Option Rebuild.Manifest}
    (describes : Describes bytes visits manifest) :
    (manifest = none ∧
      ((visits.map Visit.member).filter fun member => isManifestName member.name).getLast? = none) ∨
    ∃ member content, manifest = some ⟨member, content⟩ ∧ member.read bytes = .ok content ∧
      ((visits.map Visit.member).filter fun member => isManifestName member.name).getLast? =
        some member := by
  induction describes with
  | nothing => exact .inl ⟨rfl, rfl⟩
  | @manifest visits visit _ content _ isManifest read _ =>
      refine .inr ⟨visit.member, content, rfl, read, ?_⟩
      rw [List.map_append, List.filter_append, List.map_singleton, List.filter_singleton,
        show isManifestName visit.member.name = true from isManifest]
      simp
  | @entry visits visit _ _ isEntry inductionHypothesis =>
      rw [List.map_append, List.filter_append, List.map_singleton, List.filter_singleton,
        show isManifestName visit.member.name = false from isEntry]
      simpa using inductionHypothesis

/-- The manifest that is kept is the one that is written. -/
theorem Describes.manifestRecords {archive : Zip.Archive} {bytes : Bytes} {visits : List Visit}
    {manifest : Option Rebuild.Manifest} (describes : Describes bytes visits manifest)
    (members : visits.map Visit.member = archive.members) :
    Rebuild.manifestRecords archive bytes = some (manifest.map Rebuild.Manifest.record).toList := by
  rw [Rebuild.manifestRecords, ← members]
  rcases describes.kept with ⟨rfl, none⟩ | ⟨member, content, rfl, read, last⟩
  · rw [none]
    rfl
  · rw [last]
    simp only [read, Except.toOption, Option.bind_eq_bind, Option.bind_some, Option.pure_def]
    rfl

section Ordered

variable {archive : Zip.Archive} {visits order : List Visit}

theorem perm_ordinary (members : visits.map Visit.member = archive.members)
    (same : order.Perm (ordinary visits)) :
    (order.map Visit.member).Perm (ordinaryMembers archive) := by
  have entries : (fun member : Zip.Member => !isManifestName member.name) ∘ Visit.member =
      fun visit => !visit.isManifest := by
    funext visit
    rw [Function.comp_apply, Visit.isManifest]
  have all : ordinaryMembers archive = (ordinary visits).map Visit.member := by
    rw [ordinaryMembers, ← members, List.filter_map, entries, ordinary]
  rw [all]
  exact same.map Visit.member

/-- Entries that are visited in the order of their paths have different paths. -/
theorem distinct_of_ascending (members : visits.map Visit.member = archive.members)
    (same : order.Perm (ordinary visits))
    (ascends : order.Pairwise fun first second => first.names < second.names) : Distinct archive := by
  have once : (order.map Visit.names).Nodup := by
    refine List.pairwise_map.2 (ascends.imp ?_)
    intro first second less same
    rw [same] at less
    exact lt_irrefl _ less
  have names : (order.map Visit.member).map (fun member => nameParts member.name) = order.map Visit.names := by
    rw [List.map_map]
    refine List.map_congr_left fun visit _ => ?_
    rw [Function.comp_apply, Visit.names]
  have perm := (perm_ordinary members same).map fun member => nameParts member.name
  rw [names] at perm
  rw [Distinct]
  exact perm.nodup_iff.1 once

/-- They are in the order in which they are written. -/
theorem orderedMembers_eq (members : visits.map Visit.member = archive.members)
    (same : order.Perm (ordinary visits))
    (ascends : order.Pairwise fun first second => first.names < second.names) :
    orderedMembers archive = order.map Visit.member := by
  have perm := perm_ordinary members same
  have distinct := distinct_of_ascending members same ascends
  rw [Distinct] at distinct
  have sorted : (order.map Visit.member).Pairwise fun first second =>
      nameParts first.name ≤ nameParts second.name :=
    List.pairwise_map.2 (ascends.imp fun {_ _} less => le_of_lt less)
  have atOnce : (orderedMembers archive).Pairwise fun first second =>
      nameParts first.name ≤ nameParts second.name := List.pairwise_insertionSort _ _
  have unique : ∀ first second, first ∈ orderedMembers archive → second ∈ order.map Visit.member →
      nameParts first.name ≤ nameParts second.name → nameParts second.name ≤ nameParts first.name →
      first = second := by
    intro first second member among le ge
    exact List.inj_on_of_nodup_map distinct (Rebuild.mem_orderedMembers_iff.1 member)
      (perm.mem_iff.1 among) (le_antisymm le ge)
  exact List.Perm.eq_of_pairwise unique atOnce sorted
    ((Rebuild.perm_orderedMembers archive).trans perm.symm)

end Ordered

/-! ## The whole run -/

/-- The record of an entry that has been visited is the one that is written for it. -/
theorem Rendered.recordOf {visit : Visit} {archive : Bytes} {record : Zip.Record} (idle : host.Idle)
    (attends : Attends context artifact opened region origin visit.state)
    (held : visit.state.files.contentOf opened.file = some archive)
    (rendered : Rendered host context archive region visit record) :
    Rebuild.recordOf context.filter (FileTree.pathOf region) opened.archive archive visit.member =
      some record := by
  cases rendered with
  | directory folder => exact Rebuild.recordOf_of_directory folder
  | file leaf comesTo dated =>
      obtain ⟨rfl, source, from_, read⟩ := attends.source idle held comesTo
      obtain rfl := dated rfl
      exact (Rebuild.recordOf_eq_some_iff leaf).2 ⟨source, _, from_, read, rfl⟩

namespace GoesThrough

variable {directory : Files.Location} {old : Files.File} {report : Report} {stages : Stages}
  (through : GoesThrough host plan artifact [] directory old before after report stages)

include through

theorem spelled : artifact.parent.child artifact.name = artifact := by
  have archive := through.ready.paths.archive
  rw [through.ready.made.shape] at archive
  exact archive.symm

theorem endsIn : EndsIn stages.start.files artifact.parent artifact.name directory old where
  proper := through.ready.paths.proper
  named := through.ready.paths.named
  askable := askable_of_openArchive through.ready.paths.proper through.ready.paths.named
    (through.spelled.symm ▸ through.opens)
  reaches := through.reaches
  held := through.begins.held

theorem opened_eq : stages.opened = ⟨old.id, stages.opened.archive⟩ := by
  rw [← through.same]

/-- Whatever has been staged, the archive opens. -/
theorem reopens :
    Reopens artifact stages.opened (directory ++ [artifact.name ++ ".tmp"]) stages.start.files := by
  intro tree _ within
  have opens := (through.endsIn.within (archive_outside directory artifact.name) within).openArchive_run through.archive
  rwa [through.spelled, ← through.opened_eq] at opens

/-- When the entries are visited, the archive is on its own classpath and the transformer is ready. -/
theorem attends (usable : Transformer.Usable host plan.transformer) :
    Attends stages.context artifact stages.opened (directory ++ [artifact.name ++ ".tmp"])
      stages.start.files stages.start := by
  have ends : EndsIn stages.begun.files artifact.parent artifact.name directory old :=
    ⟨through.endsIn.proper, through.endsIn.named, through.endsIn.askable, through.ready.made.reaches,
      through.held⟩
  obtain ⟨named, opening, logged⟩ := ends.openClasspath_run through.archive through.ready.healthy.quiet
  rw [through.spelled] at opening
  obtain ⟨number, classpath⟩ := Prod.mk.inj (through.opening.symm.trans opening)
  obtain ⟨_, making⟩ := through.making
  let added : Workspace := { stages.classpath with
    invokers := stages.classpath.invokers ++ [.new plan.transformer (some stages.context.classpath)] }
  have quiet : added.LogsToNoFile := by
    change stages.classpath.LogsToNoFile
    rw [classpath]
    exact logged.quiet
  have fresh : added.invokers[stages.context.invoker]? =
      some (.new plan.transformer (some stages.context.classpath)) := by
    rw [through.invoker]
    simp [added]
  obtain ⟨ready, made, prepares, interim, prepared⟩ := usable.prepare_run quiet fresh
  obtain ⟨_, rfl⟩ := Prod.mk.inj (making.symm.trans prepares)
  refine ⟨through.begins.healthy, refl_of (Within _) _, ⟨through.opens, none, ?_, by simp⟩, prepared⟩
  rw [interim.classpaths, Except.ok.inj number]
  change stages.classpath.classpaths[_]? = _
  rw [classpath]
  simp

/-- What is visited is told by the archive that is replaced. -/
theorem attendsAll (idle : host.Idle) (usable : Transformer.Usable host plan.transformer) {visit : Visit}
    (among : visit ∈ stages.visits) :
    Attends stages.context artifact stages.opened (directory ++ [artifact.name ++ ".tmp"])
      stages.start.files visit.state ∧
    visit.state.files.contentOf stages.opened.file = some old.content := by
  obtain ⟨_, _, each⟩ := (through.attends usable).course idle through.mode through.reopens
    through.ready.rooted through.course
  have attends := each visit among
  have ends := through.endsIn.within (archive_outside directory artifact.name) attends.within
  refine ⟨attends, ?_⟩
  rw [through.same, attends.healthy.files.contentOf_eq ends.held]

/-- A run with a transformer that changes no class writes the archive again. -/
theorem repacks (idle : host.Idle) (usable : Transformer.Usable host plan.transformer) :
    Distinct stages.opened.archive ∧ ∃ records,
      Rebuild.repacked stages.context.filter (FileTree.pathOf (directory ++ [artifact.name ++ ".tmp"]))
          old.content = some records ∧ stages.new.content = Zip.encode records [] := by
  obtain ⟨order, same, keys, rendered⟩ := through.exists_order idle.leaves
  have named : ∀ visit ∈ order, nameParts visit.key = visit.names := by
    intro visit member
    obtain ⟨item, _, laid⟩ := Rebuild.exists_of_forall₂ (through.laid idle.leaves) (same.mem_iff.1 member)
    rw [visit.key_eq]
    exact Rebuild.nameParts_keyAt laid.names_ne_nil
      (fun name among => Rebuild.isSegment_of_mem_nameParts among) _
  have ascends : order.Pairwise fun first second => first.names < second.names := by
    have written : (stages.written.map Prod.fst).Pairwise fun first second =>
        nameParts first < nameParts second := List.pairwise_map.2 through.finds.2
    rw [← keys, List.pairwise_map] at written
    exact written.imp_of_mem fun {first second} here there less => by
      rwa [named first here, named second there] at less
  refine ⟨distinct_of_ascending through.members same ascends, _, ?_, through.content⟩
  refine Rebuild.repacked_eq_some_iff.2 ⟨stages.opened.archive, _, _, through.archive,
    (through.underway idle.leaves).described.manifestRecords through.members, ?_, rfl⟩
  rw [orderedMembers_eq through.members same ascends, List.forall₂_map_left_iff]
  have attended : ∀ visit ∈ order, Attends stages.context artifact stages.opened
      (directory ++ [artifact.name ++ ".tmp"]) stages.start.files visit.state ∧
      visit.state.files.contentOf stages.opened.file = some old.content := fun visit member =>
    through.attendsAll idle usable (List.mem_filter.1 (same.mem_iff.1 member)).1
  refine ((List.forall₂_and_left _ _).2 ⟨attended, rendered⟩).imp ?_
  rintro visit record ⟨⟨attends, held⟩, rendered⟩
  exact rendered.recordOf idle attends held

end GoesThrough

end Run
end ClassLoom
