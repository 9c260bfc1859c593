import ClassLoom.Proofs.Rebuild.Collecting
import ClassLoom.Proofs.Run.Course

namespace ClassLoom
namespace Run

/-!
# What a staging leaves

Without links in the staging directory, every entry that has been visited is where its name spells it,
with the content that its visit came to, until the staging ends.  No later entry disturbs it: entries
with the same path are refused, a file does not take the place of a directory, and directories that are
made on the way are made where nothing was.

The manifest is kept aside.  If there are several entries that could be the manifest, the last is kept
and the others are lost.
-/

open Config (Value)
open Files (FileTree Path IsName)
open Rebuild (Rebuilder StagedEntry Clear Lays Manifest Rooted)

variable {host : Host} {plan : Plan} {context : Context} {archive : Bytes} {region : Files.Location}
  {tree later : FileTree}

/-- The visits of the entries that are staged. -/
def ordinary (visits : List Visit) : List Visit := visits.filter fun visit => !visit.isManifest

/-- The manifest that is kept: that of the last visit of one. -/
inductive Describes (archive : Bytes) : List Visit → Option Manifest → Prop
  | nothing : Describes archive [] none
  | manifest {visits : List Visit} {visit : Visit} {old : Option Manifest} {content : Bytes} :
      Describes archive visits old → visit.isManifest = true →
      visit.member.read archive = .ok content →
      Describes archive (visits ++ [visit]) (some ⟨visit.member, content⟩)
  | entry {visits : List Visit} {visit : Visit} {manifest : Option Manifest} :
      Describes archive visits manifest → visit.isManifest = false →
      Describes archive (visits ++ [visit]) manifest

/-- What is in the staging directory for an entry, and what is remembered of it. -/
inductive Laid (host : Host) (context : Context) (archive : Bytes) (region : Files.Location)
    (tree : FileTree) (visit : Visit) : String × StagedEntry → Prop
  | directory : visit.names ≠ [] → visit.isDirectory = true →
      tree.at? (region ++ visit.names) = some .directory →
      Laid host context archive region tree visit (visit.key, visit.entry false)
  | file {transformed : Bool} {file : Files.File} : visit.names ≠ [] → visit.isDirectory = false →
      visit.Content host context archive (FileTree.pathOf region) transformed file.content →
      tree.at? (region ++ visit.names) = some (.file file) →
      Laid host context archive region tree visit (visit.key, visit.entry transformed)

theorem Visit.key_eq (visit : Visit) : visit.key = Rebuild.keyAt visit.names visit.isDirectory :=
  Rebuild.keyOf_eq_keyAt _ _

theorem Laid.names_ne_nil {visit : Visit} {item : String × StagedEntry}
    (laid : Laid host context archive region tree visit item) : visit.names ≠ [] := by
  cases laid with
  | directory nonempty _ _ => exact nonempty
  | file nonempty _ _ _ => exact nonempty

theorem Laid.key {visit : Visit} {item : String × StagedEntry}
    (laid : Laid host context archive region tree visit item) : item.1 = visit.key := by
  cases laid with
  | directory _ _ _ => rfl
  | file _ _ _ _ => rfl

theorem Laid.mono {visit : Visit} {item : String × StagedEntry}
    (laid : Laid host context archive region tree visit item)
    (kept : ∀ entry, tree.at? (region ++ visit.names) = some entry →
      later.at? (region ++ visit.names) = some entry) :
    Laid host context archive region later visit item := by
  cases laid with
  | directory nonempty isDirectory held => exact .directory nonempty isDirectory (kept _ held)
  | file nonempty isFile content held => exact .file nonempty isFile content (kept _ held)

/-- A file that is staged disturbs no entry with another key. -/
theorem Laid.of_lays {visit other : Visit} {item : String × StagedEntry} {content : Bytes}
    (laid : Laid host context archive region tree visit item) (isFile : other.isDirectory = false)
    (lays : Lays tree later (region ++ other.names) content) (apart : item.1 ≠ other.key) :
    Laid host context archive region later visit item := by
  refine laid.mono fun entry held => lays.kept (fun same => ?_) held
  cases laid with
  | directory _ _ directory =>
      rw [same] at directory
      exact lays.bare directory
  | file _ alsoFile _ _ =>
      refine apart ?_
      rw [Visit.key_eq, Visit.key_eq, isFile, alsoFile, List.append_cancel_left same]

theorem laid_all {visits : List Visit} {staged : List (String × StagedEntry)}
    (laid : List.Forall₂ (Laid host context archive region tree) visits staged)
    (kept : ∀ visit, ∀ item ∈ staged, Laid host context archive region tree visit item →
      Laid host context archive region later visit item) :
    List.Forall₂ (Laid host context archive region later) visits staged := by
  induction laid with
  | nil => exact .nil
  | cons first _ inductionHypothesis =>
      refine .cons (kept _ _ List.mem_cons_self first) (inductionHypothesis fun visit item member => ?_)
      exact kept visit item (List.mem_cons_of_mem _ member)

/-! ## One visit -/

/-- How far a staging has come in which no class has failed. -/
structure Underway (host : Host) (context : Context) (region place : Files.Location)
    (file : Files.File) (visits : List Visit) (staging : Staging) (state : Workspace) : Prop where
  healthy : state.Healthy
  clear : Clear state.files region
  held : state.files.at? place = some (.file file)
  rooted : Rooted staging.rebuilder region
  once : (staging.rebuilder.staged.map Prod.fst).Nodup
  laid : List.Forall₂ (Laid host context file.content region state.files) (ordinary visits)
    staging.rebuilder.staged
  described : Describes file.content visits staging.manifest

section Visiting

variable {opened : Classpath.OpenArchive} {place : Files.Location} {file : Files.File}
  {visits : List Visit} {staging next : Staging} {member : Zip.Member} {before after : Workspace}

theorem ordinary_concat (visits : List Visit) (visit : Visit) :
    ordinary (visits ++ [visit]) =
      ordinary visits ++ if visit.isManifest then [] else [visit] := by
  cases manifest : visit.isManifest with
  | true => simp [ordinary, manifest]
  | false => simp [ordinary, manifest]

/-- An entry that is remembered is a new one. -/
theorem Underway.record (underway : Underway host context region place file visits staging before)
    {visit : Visit} (sameMember : visit.member = member) (isEntry : visit.isManifest = false)
    {transformed : Bool} {recorded : Rebuilder} {report : Report}
    (recordedOk : staging.rebuilder.record member visit.isDirectory transformed = .ok recorded)
    (healthy : after.Healthy) (within : Within region before.files after.files)
    (outside : FileTree.isBelow place region = false)
    (laid : Laid host context file.content region after.files visit
      (visit.key, visit.entry transformed))
    (kept : ∀ visit', ∀ item ∈ staging.rebuilder.staged, item.1 ≠ visit.key →
      Laid host context file.content region before.files visit' item →
      Laid host context file.content region after.files visit' item) :
    Underway host context region place file (visits ++ [visit])
      { staging with report, rebuilder := recorded } after := by
  subst sameMember
  obtain ⟨fresh, rfl⟩ := Rebuild.record_ok recordedOk
  have apart : ∀ item ∈ staging.rebuilder.staged, item.1 ≠ visit.key := by
    intro item among same
    have missed := List.lookup_eq_none_iff.1 fresh item among
    simp only [bne_iff_ne, ne_eq] at missed
    exact missed same.symm
  refine ⟨healthy, underway.clear.within within, (within.files outside).1 underway.held,
    ⟨underway.rooted.root, underway.rooted.named⟩, ?_, ?_, underway.described.entry isEntry⟩
  · rw [List.map_append, List.nodup_append]
    refine ⟨underway.once, by simp, fun key among other last same => ?_⟩
    obtain ⟨item, listed, rfl⟩ := List.mem_map.1 among
    have isNew : other = visit.key := by simpa [Visit.key, Visit.isDirectory] using last
    exact apart item listed (same.trans isNew)
  · rw [ordinary_concat, if_neg (by simp [isEntry])]
    refine List.rel_append (laid_all underway.laid fun other item among => ?_) (.cons laid .nil)
    exact kept other item among (apart item among)

theorem Underway.directory (underway : Underway host context region place file visits staging before)
    (outside : FileTree.isBelow place region = false) (ordinaryName : isManifestName member.name = false)
    (folder : isDirectoryName member.name = true) (named : ∀ name ∈ nameParts member.name, IsName name)
    {path : Path} {rebuilder : Rebuilder} {report : Report}
    (run : staging.rebuilder.stageDirectory member before = (.ok (path, rebuilder), after)) :
    Underway host context region place file (visits ++ [⟨member, staging, before⟩])
      { staging with report, rebuilder } after := by
  obtain ⟨healthy, within⟩ := (Rebuild.keeps_stageDirectory staging.rebuilder member).run run
    underway.healthy
  obtain ⟨placed, made, recorded⟩ := Rebuild.stageDirectory_ok run
  obtain ⟨_, nonempty, rfl, _, _⟩ := Rebuild.pathFor_ok underway.rooted placed
  rw [Rebuild.descend_eq_under] at made
  obtain ⟨grown, held⟩ :=
    Rebuild.directory_of_createDirectory underway.healthy underway.clear nonempty named made
  refine @Underway.record host context region place file visits staging member before after underway
    ⟨member, staging, before⟩ rfl ordinaryName false rebuilder report ?_ healthy within outside
    (.directory nonempty folder held) fun _ _ _ _ laid => laid.mono fun _ => grown.at?_of_some
  rw [Visit.isDirectory, folder]
  exact recorded

/-- A file that is staged is where its name spells it, and everything before it is still there. -/
theorem Underway.put (underway : Underway host context region place file visits staging before)
    (outside : FileTree.isBelow place region = false) (ordinaryName : isManifestName member.name = false)
    (leaf : isDirectoryName member.name = false) (nonempty : nameParts member.name ≠ [])
    {transformed : Bool} {content : Bytes} {recorded : Rebuilder} {report : Report}
    (healthy : after.Healthy) (within : Within region before.files after.files)
    (recordedOk : staging.rebuilder.record member false transformed = .ok recorded)
    (comesTo : Visit.Content host context file.content (FileTree.pathOf region)
      ⟨member, staging, before⟩ transformed content)
    (lays : Lays before.files after.files (region ++ nameParts member.name) content) :
    Underway host context region place file (visits ++ [⟨member, staging, before⟩])
      { staging with report, rebuilder := recorded } after := by
  obtain ⟨new, held, rfl⟩ := lays.here
  have isFile : Visit.isDirectory ⟨member, staging, before⟩ = false := leaf
  refine @Underway.record host context region place file visits staging member before after underway
    ⟨member, staging, before⟩ rfl ordinaryName transformed recorded report ?_ healthy within outside
    (.file nonempty isFile comesTo held) fun _ _ _ apart laid => laid.of_lays isFile lays apart
  rw [isFile]
  exact recordedOk

theorem Underway.copied (underway : Underway host context region place file visits staging before)
    (same : opened.file = file.id) (outside : FileTree.isBelow place region = false)
    (ordinaryName : isManifestName member.name = false) (leaf : isDirectoryName member.name = false)
    (named : ∀ name ∈ nameParts member.name, IsName name) {path target : Path}
    (passed : (isClassName member.name && context.filter.accepts path.toString) = false)
    (placed : staging.rebuilder.pathFor member.name before = (.ok path, before))
    {rebuilder : Rebuilder} {report : Report}
    (run : staging.rebuilder.stageCopy opened.file member before = (.ok (target, rebuilder), after)) :
    Underway host context region place file (visits ++ [⟨member, staging, before⟩])
      { staging with report, rebuilder } after := by
  obtain ⟨healthy, within⟩ := (Rebuild.keeps_stageCopy underway.rooted opened.file member).run run
    underway.healthy
  obtain ⟨placedAgain, ⟨middle, made, copied⟩, recorded⟩ := Rebuild.stageCopy_ok run
  obtain ⟨_, nonempty, rfl, _, _⟩ := Rebuild.pathFor_ok underway.rooted placed
  obtain rfl : (FileTree.pathOf region).descend (nameParts member.name) = target := by
    rw [placed] at placedAgain
    exact Except.ok.inj (Prod.mk.inj placedAgain).1
  rw [Rebuild.descend_eq_under] at made copied
  obtain ⟨healthyMiddle, grown⟩ : middle.Healthy ∧ FileTree.Grown before.files middle.files := by
    obtain ⟨files, done, rfl⟩ := Work.onFiles_cases made
    have grown := Files.FileWork.grown_of_createDirectory done
    exact ⟨⟨grown.sound underway.healthy.files, underway.healthy.quiet⟩, grown⟩
  obtain ⟨content, read, lays⟩ := Rebuild.copyEntry_ok healthyMiddle
    (underway.clear.within (@Within.of_grown region _ _ grown)) nonempty named copied
  rw [same, healthyMiddle.files.contentOf_eq (grown.at?_of_some underway.held)] at read
  have laysBefore : Lays before.files after.files (region ++ nameParts member.name) content :=
    ⟨lays.here, fun directory => lays.bare (grown.at?_of_some directory),
      fun away there => lays.kept away (grown.at?_of_some there)⟩
  exact underway.put outside ordinaryName leaf nonempty healthy within recorded (.copied passed read)
    laysBefore

theorem Underway.accepted (leaves : host.LeavesFiles) (staged : context.mode = .staged)
    (underway : Underway host context region place file visits staging before)
    (outside : FileTree.isBelow place region = false) (ordinaryName : isManifestName member.name = false)
    (leaf : isDirectoryName member.name = false) (named : ∀ name ∈ nameParts member.name, IsName name)
    {path : Path} (taken : (isClassName member.name && context.filter.accepts path.toString) = true)
    (placed : staging.rebuilder.pathFor member.name before = (.ok path, before))
    (run : stageClass host plan context staging member path before = (.ok next, after))
    (clean : next.report.failures = []) :
    Underway host context region place file (visits ++ [⟨member, staging, before⟩]) next after := by
  obtain ⟨_, nonempty, rfl, _, lies⟩ := Rebuild.pathFor_ok underway.rooted placed
  have below : ((FileTree.pathOf region).descend (nameParts member.name)).parts ≠ [] := by
    rw [Rebuild.descend_nameParts]
    simp [nonempty]
  obtain ⟨healthy, within⟩ := (keeps_stageClass leaves staged staging member
    (underway.rooted.proper member.name) below).of_at lies run underway.healthy
  obtain ⟨report, target, processed, ending⟩ := stageClass_ok run
  rcases process_ok staged processed with failed | ⟨source, answer, made, course, _, rfl, noop⟩
  · refine absurd ?_ failed
    rcases ending with ⟨_, rfl⟩ | ⟨_, _, _, _, rfl⟩
    · exact clean
    · exact clean
  rcases ending with ⟨missing, _⟩ | ⟨_, recorded, same, recordedOk, rfl⟩
  · cases missing
  obtain rfl := Option.some.inj same
  obtain ⟨found, called, written, resolved, invoked, still, put⟩ := id course
  -- Until the class is written, nothing happens to the files.
  have one : Follows FileTree.Alike before found := (Classpath.keeps_resolve _ _).run resolved
  have two : Follows FileTree.Alike found called :=
    (Transformer.Invoker.keeps_invoke leaves _ _ _).run invoked
  obtain ⟨healthyFound, alikeFound⟩ := one underway.healthy
  obtain ⟨healthyCalled, alikeCalled⟩ := two healthyFound
  obtain ⟨healthyWritten, sameFiles⟩ := still healthyCalled
  have alike : ∀ other, written.files.at? other = before.files.at? other := fun other => by
    rw [← sameFiles, alikeCalled.places, alikeFound.places]
  have clear : Clear written.files region :=
    ⟨(alike region).trans underway.clear.alive,
      fun inside held => underway.clear.plain inside ((alike _).symm.trans held)⟩
  rw [Rebuild.descend_eq_under] at put
  have lays := Rebuild.lays_of_writeFileInParents healthyWritten clear nonempty named put
  have laysBefore : Lays before.files after.files (region ++ nameParts member.name)
      ((substance answer.content).getD source.content) :=
    ⟨lays.here, fun directory => lays.bare ((alike _).trans directory),
      fun away there => lays.kept away ((alike _).trans there)⟩
  rw [noop] at recordedOk
  have comesTo : Visit.Content host context file.content (FileTree.pathOf region)
      ⟨member, staging, before⟩ (!(substance answer.content).isNone)
      ((substance answer.content).getD source.content) := by
    rw [Option.not_isNone]
    exact .processed taken course
  exact underway.put outside ordinaryName leaf nonempty healthy within recordedOk comesTo laysBefore

/-- What a visit does to a staging, if no class fails in it. -/
theorem Underway.visit (leaves : host.LeavesFiles) (staged : context.mode = .staged)
    (underway : Underway host context region place file visits staging before)
    (same : opened.file = file.id) (outside : FileTree.isBelow place region = false)
    (named : isManifestName member.name = false → ∀ name ∈ nameParts member.name, IsName name)
    (run : stageEntry host plan context opened staging member before = (.ok next, after))
    (clean : next.report.failures = []) :
    Underway host context region place file (visits ++ [⟨member, staging, before⟩]) next after := by
  cases entryStaged_of_run run with
  | manifest described read =>
      refine ⟨underway.healthy, underway.clear, underway.held, underway.rooted, underway.once, ?_,
        .manifest underway.described described ?_⟩
      · rw [ordinary_concat, if_pos (by exact described), List.append_nil]
        exact underway.laid
      · rw [Classpath.OpenArchive.read, same, underway.healthy.files.contentOf_eq underway.held] at read
        split at read
        next content readOk =>
          obtain rfl := Except.ok.inj read
          exact readOk
        next => cases read
  | directory ordinaryName folder done =>
      exact underway.directory outside ordinaryName folder (named ordinaryName) done
  | accepted ordinaryName leaf taken placed done =>
      exact underway.accepted leaves staged outside ordinaryName leaf (named ordinaryName) taken placed
        done clean
  | copied ordinaryName leaf passed placed done =>
      exact underway.copied same outside ordinaryName leaf (named ordinaryName) passed placed done

/-! ## The whole course -/

theorem keys_of_record {rebuilder recorded : Rebuilder} {isDirectory transformed : Bool}
    (run : rebuilder.record member isDirectory transformed = .ok recorded) :
    recorded.staged.map Prod.fst =
      rebuilder.staged.map Prod.fst ++ [Rebuild.keyOf member.name isDirectory] := by
  obtain ⟨_, rfl⟩ := Rebuild.record_ok run
  simp

/-- Failures are not forgotten, and without one an entry is remembered under its key. -/
theorem keys_of_stageEntry (staged : context.mode = .staged)
    (run : stageEntry host plan context opened staging member before = (.ok next, after))
    (clean : next.report.failures = []) :
    staging.report.failures = [] ∧ next.rebuilder.staged.map Prod.fst =
      staging.rebuilder.staged.map Prod.fst ++
        if isManifestName member.name then []
        else [Rebuild.keyOf member.name (isDirectoryName member.name)] := by
  cases entryStaged_of_run run with
  | manifest described _ => exact ⟨clean, by simp [described]⟩
  | directory ordinaryName folder done =>
      rw [if_neg (by simp [ordinaryName]), folder]
      exact ⟨clean, keys_of_record (Rebuild.stageDirectory_ok done).2.2⟩
  | copied ordinaryName leaf _ _ done =>
      rw [if_neg (by simp [ordinaryName]), leaf]
      exact ⟨(Report.failures_withCopy _ _).symm.trans clean, keys_of_record (Rebuild.stageCopy_ok done).2.2⟩
  | accepted ordinaryName leaf _ _ done =>
      rw [if_neg (by simp [ordinaryName]), leaf]
      obtain ⟨report, target, processed, ending⟩ := stageClass_ok done
      rcases process_ok staged processed with failed | ⟨_, _, _, _, failures, rfl, _⟩
      · refine absurd ?_ failed
        rcases ending with ⟨_, rfl⟩ | ⟨_, _, _, _, rfl⟩
        · exact clean
        · exact clean
      · rcases ending with ⟨missing, _⟩ | ⟨_, recorded, _, recordedOk, rfl⟩
        · cases missing
        · exact ⟨failures.symm.trans clean, keys_of_record recordedOk⟩

variable {first : Staging} {start : Workspace}

theorem keys_of_course (staged : context.mode = .staged) (nothing : first.rebuilder.staged = [])
    (course : Course host plan context opened first start visits staging before)
    (clean : staging.report.failures = []) :
    staging.rebuilder.staged.map Prod.fst = (ordinary visits).map Visit.key := by
  induction course with
  | nothing => simp [nothing, ordinary]
  | @visit visits member staging next before after _ run inductionHypothesis =>
      obtain ⟨cleanBefore, keys⟩ := keys_of_stageEntry staged run clean
      rw [keys, inductionHypothesis cleanBefore, ordinary_concat, List.map_append]
      cases described : isManifestName member.name with
      | true => simp [Visit.isManifest, described]
      | false => simp [Visit.isManifest, Visit.key, Visit.isDirectory, described]

theorem underway_of_course (leaves : host.LeavesFiles) (staged : context.mode = .staged)
    (same : opened.file = file.id) (outside : FileTree.isBelow place region = false)
    (begun : Underway host context region place file [] first start)
    (course : Course host plan context opened first start visits staging before)
    (clean : staging.report.failures = [])
    (named : ∀ visit ∈ ordinary visits, ∀ name ∈ visit.names, IsName name) :
    Underway host context region place file visits staging before := by
  induction course with
  | nothing => exact begun
  | @visit visits member staging next before after _ run inductionHypothesis =>
      rw [ordinary_concat] at named
      have cleanBefore := (keys_of_stageEntry staged run clean).1
      refine (inductionHypothesis cleanBefore fun visit among =>
        named visit (List.mem_append_left _ among)).visit leaves staged same outside ?_ run clean
      intro ordinaryName
      refine named ⟨member, staging, before⟩ (List.mem_append_right _ ?_)
      rw [if_neg (by simp [Visit.isManifest, ordinaryName])]
      exact List.mem_cons_self

end Visiting

end Run
end ClassLoom
