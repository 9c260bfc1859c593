import ClassLoom.Proofs.Answering
import ClassLoom.Proofs.Rebuild.Region
import ClassLoom.Run.Jar

namespace ClassLoom
namespace Run

/-!
# A run stages in its region

Whatever the entries of an archive are called, whatever is in the staging directory, and however the
staging of an entry ends, nothing but directories and the region of the staging directory changes.
-/

open Files (FileTree Path)
open Rebuild (Rebuilder Rooted)

variable {host : Host} {plan : Plan} {context : Context} {region : Files.Location}

/-- A candidate resolved by name is to be written where its entry is staged. -/
theorem resolve_ok {classpath : Option Nat} {candidate : Candidate} {target : Target}
    {before after : Workspace}
    (run : Resolver.resolve ⟨.staged, classpath⟩ candidate before = (.ok target, after)) :
    ∃ number source, classpath = some number ∧
      Classpath.resolve number candidate.className before = (.ok source, after) ∧
      target = .new candidate.className source.location candidate.filePath source.content := by
  cases classpath with
  | none => cases (throw_error run).1
  | some number =>
      obtain ⟨source, middle, resolved, run⟩ := bind_ok run
      obtain ⟨same, rfl⟩ := pure_ok run
      exact ⟨number, source, rfl, resolved, Except.ok.inj same⟩

theorem keeps_resolve {related : Workspace → Workspace → Prop} [Housekeeping related]
    (classpath : Option Nat) (candidate : Candidate) :
    Keeps related (Resolver.resolve ⟨.staged, classpath⟩ candidate) := by
  cases classpath with
  | none => exact keeps_throw _
  | some number => exact (Classpath.keeps_resolve number _).bind fun _ => keeps_pure _

theorem apply_ok {target applied : Target} {content : Option Bytes}
    (done : target.apply content = .ok applied) :
    applied = { target with transformed := substance content, applied := true } := by
  unfold Target.apply at done
  split at done
  · cases done
  · exact (Except.ok.inj done).symm

theorem keeps_writeBack {target : Target} (proper : target.writePath.Proper)
    (nonempty : target.writePath.parts ≠ []) (logger : String) :
    Keeps (FollowsAt target.writePath region) (writeBack .staged logger target) := by
  refine Work.keeps_files.at_.bind fun tree => ?_
  cases target.isNoop with
  | true => exact (keeps_writeFileInParents proper nonempty _).bind fun _ => keeps_pure _
  | false =>
    exact (Log.keeps_info _ _).at_.bind fun _ =>
      (keeps_writeFileInParents proper nonempty _).bind fun _ => keeps_pure _

theorem keeps_process (leaves : host.LeavesFiles) (staged : context.mode = .staged) (report : Report)
    (candidate : Candidate) (proper : candidate.filePath.Proper)
    (nonempty : candidate.filePath.parts ≠ []) :
    Keeps (FollowsAt candidate.filePath region) (process host plan context report candidate) := by
  refine keeps_of_run fun run => ?_
  unfold process at run
  rw [staged] at run
  rcases bind_cases run with ⟨failure, sought, _⟩ | ⟨target, middle, sought, run⟩
  · exact (keeps_resolve _ _).at_.run sought
  refine trans_of (FollowsAt candidate.filePath region) ((keeps_resolve _ _).at_.run sought)
    (Keeps.run ?_ run)
  obtain ⟨_, source, _, _, rfl⟩ := resolve_ok sought
  refine (Work.keeps_attempt (Transformer.Invoker.keeps_invoke leaves _ _ _)).at_.bind
    fun outcome => ?_
  cases outcome with
  | error failure =>
      simp only
      split
      · exact keeps_throw _
      · exact (Log.keeps_exception _ _ _ _ _ _).at_.bind fun _ => keeps_pure _
  | ok answer =>
      simp only
      refine Work.keeps_ofOutcome_bind fun applied taken => ?_
      obtain rfl := apply_ok taken
      have written := @keeps_writeBack region { Target.new candidate.className source.location
        candidate.filePath source.content with
          transformed := substance answer.content, applied := true } proper nonempty plan.logger
      refine Keeps.bind written fun changed => ?_
      · split
        · exact keeps_pure _
        · exact keeps_pure _

theorem keeps_stageClass (leaves : host.LeavesFiles) (staged : context.mode = .staged)
    (staging : Staging) (member : Zip.Member) {path : Path} (proper : path.Proper)
    (nonempty : path.parts ≠ []) :
    Keeps (FollowsAt path region) (stageClass host plan context staging member path) := by
  unfold stageClass
  refine Keeps.bind ?_ fun result => ?_
  · exact keeps_process leaves staged staging.report
      ⟨member.name, classOfResource member.name, path⟩ proper nonempty
  simp only
  split
  · exact keeps_pure _
  · exact (Work.keeps_ofOutcome _).at_.bind fun _ => keeps_pure _

theorem keeps_readEntry {related : Workspace → Workspace → Prop} [IsPreorder Workspace related]
    (opened : Classpath.OpenArchive) (member : Zip.Member) :
    Keeps related (readEntry opened member) := by
  refine Work.keeps_files.bind fun tree => ?_
  split
  · exact keeps_pure _
  · split
    · exact keeps_throw _
    · exact keeps_throw _

theorem keeps_openJar {related : Workspace → Workspace → Prop} [IsPreorder Workspace related]
    (jar : Path) : Keeps related (openJar jar) := by
  refine Work.keeps_files.bind fun tree => ?_
  split
  · exact keeps_pure _
  · split
    · exact keeps_throw _
    · exact keeps_throw _

/-- Where the path of an entry leads is checked before the entry is staged. -/
theorem keeps_stageEntry (leaves : host.LeavesFiles) (staged : context.mode = .staged)
    (opened : Classpath.OpenArchive) {staging : Staging} (rooted : Rooted staging.rebuilder region)
    (member : Zip.Member) :
    Keeps (Follows (Within region)) (stageEntry host plan context opened staging member) := by
  unfold stageEntry
  simp only
  split
  · exact (keeps_readEntry opened member).bind fun _ => keeps_pure _
  refine (Work.keeps_ofOutcome _).bind fun _ => ?_
  split
  · exact (Rebuild.keeps_stageDirectory _ member).bind fun _ => keeps_pure _
  refine keeps_of_run fun run => ?_
  rcases bind_cases run with ⟨failure, placed, _⟩ | ⟨path, middle, placed, run⟩
  · exact (Rebuild.keeps_pathFor _ member.name).run placed
  obtain ⟨rfl, nonempty, rfl, _, lies⟩ := Rebuild.pathFor_ok rooted placed
  have below : ((FileTree.pathOf region).descend (nameParts member.name)).parts ≠ [] := by
    rw [Rebuild.descend_nameParts]
    simp [nonempty]
  split at run
  · exact (keeps_stageClass leaves staged staging member (rooted.proper member.name) below).of_at lies run
  · refine Keeps.run ?_ run
    exact (Rebuild.keeps_stageCopy rooted opened.file member).bind fun _ => keeps_pure _

theorem keeps_openClasspath {related : Workspace → Workspace → Prop} [Housekeeping related]
    (elements : List Config.Value) : Keeps related (openClasspath elements) := by
  refine (Classpath.keeps_rootsOf _).bind fun roots => ?_
  split
  · exact Work.keeps_addClasspath _
  · exact keeps_throw _

section Opening

variable {α : Type} {related : Workspace → Workspace → Prop} [Housekeeping related]

/-- Once it has its classpath, a run keeps what the making of transformers and its own work keep. -/
theorem related_of_inRun (made : ∀ procedure, Keeps related (host.construct procedure)) {mode : Mode}
    {elements : List Config.Value} {work : Context → Work α}
    (kept : ∀ context : Context, context.mode = mode → Keeps related (work context))
    {before opened after : Workspace} {number : Nat} {outcome : Outcome α}
    (opening : openClasspath elements before = (.ok number, opened))
    (run : inRun host plan mode elements work before = (outcome, after)) : related opened after := by
  rcases bind_cases run with ⟨_, failed, _⟩ | ⟨classpath, middle, made_, course⟩
  · cases opening.symm.trans failed
  obtain ⟨same, rfl⟩ := Prod.mk.inj (opening.symm.trans made_)
  obtain rfl := Except.ok.inj same
  refine Keeps.run ?_ course
  refine Work.keeps_ensuring ?_ fun workspace => Housekeeping.kept rfl rfl rfl rfl
    (.modify (fun _ _ => rfl) workspace.classpaths number)
  exact (Work.keeps_ofOutcome _).bind fun filter => (Work.keeps_addInvoker _).bind fun invoker =>
    (Transformer.Invoker.keeps_prepare made invoker).bind fun _ => kept _ rfl

/-- A run keeps what the making of transformers and its own work keep. -/
theorem keeps_inRun_of (made : ∀ procedure, Keeps related (host.construct procedure)) (mode : Mode)
    (elements : List Config.Value) {work : Context → Work α}
    (kept : ∀ context : Context, context.mode = mode → Keeps related (work context)) :
    Keeps related (inRun host plan mode elements work) := by
  refine keeps_of_run fun {before after outcome} run => ?_
  have opens : Keeps related (openClasspath elements) := keeps_openClasspath elements
  rcases opening : openClasspath elements before with ⟨_ | number, opened⟩
  · rw [inRun, bind_of_error opening] at run
    exact (Prod.mk.inj run).2 ▸ opens.run opening
  · exact trans_of related (opens.run opening) (related_of_inRun made kept opening run)

end Opening

/-- Opening and closing a run is nothing to the files. -/
theorem keeps_inRun {α : Type} {related : FileTree → FileTree → Prop} [Frame related]
    (leaves : host.LeavesFiles) (mode : Mode) (elements : List Config.Value)
    {work : Context → Work α}
    (kept : ∀ context : Context, context.mode = mode → Keeps (Follows related) (work context)) :
    Keeps (Follows related) (inRun host plan mode elements work) :=
  keeps_inRun_of (Transformer.keeps_construct leaves) mode elements kept

/-! ## How the staging of an entry ends -/

/-- The report when a file has been copied: a class that is copied is one that the filter rejects. -/
def Report.withCopy (report : Report) (name : String) : Report :=
  let counted :=
    if isClassName name then { report with filtered := report.filtered + 1 } else report
  { counted with copied := counted.copied + 1 }

theorem Report.failures_withCopy (report : Report) (name : String) :
    (report.withCopy name).failures = report.failures := by
  unfold Report.withCopy
  split
  · rfl
  · rfl

/-- An entry of an archive, in the state in which it is looked at, and what its staging leads to. -/
inductive EntryStaged (host : Host) (plan : Plan) (context : Context)
    (opened : Classpath.OpenArchive) (staging : Staging) (member : Zip.Member) (before : Workspace) :
    Staging → Workspace → Prop
  | manifest {content : Bytes} : isManifestName member.name = true →
      opened.read before.files member = .ok content →
      EntryStaged host plan context opened staging member before
        { staging with manifest := some ⟨member, content⟩ } before
  | directory {path : Path} {rebuilder : Rebuilder} {after : Workspace} :
      isManifestName member.name = false → isDirectoryName member.name = true →
      staging.rebuilder.stageDirectory member before = (.ok (path, rebuilder), after) →
      EntryStaged host plan context opened staging member before
        { staging with
          report := { staging.report with directories := staging.report.directories + 1 }
          rebuilder } after
  | accepted {path : Path} {next : Staging} {after : Workspace} :
      isManifestName member.name = false → isDirectoryName member.name = false →
      (isClassName member.name && context.filter.accepts path.toString) = true →
      staging.rebuilder.pathFor member.name before = (.ok path, before) →
      stageClass host plan context staging member path before = (.ok next, after) →
      EntryStaged host plan context opened staging member before next after
  | copied {path target : Path} {rebuilder : Rebuilder} {after : Workspace} :
      isManifestName member.name = false → isDirectoryName member.name = false →
      (isClassName member.name && context.filter.accepts path.toString) = false →
      staging.rebuilder.pathFor member.name before = (.ok path, before) →
      staging.rebuilder.stageCopy opened.file member before = (.ok (target, rebuilder), after) →
      EntryStaged host plan context opened staging member before
        { staging with report := staging.report.withCopy member.name, rebuilder } after

theorem entryStaged_of_run {opened : Classpath.OpenArchive} {staging next : Staging}
    {member : Zip.Member} {before after : Workspace}
    (run : stageEntry host plan context opened staging member before = (.ok next, after)) :
    EntryStaged host plan context opened staging member before next after := by
  unfold stageEntry at run
  simp only at run
  split at run
  next described =>
    obtain ⟨content, middle, read, kept⟩ := bind_ok run
    rw [readEntry, Work.files_bind] at read
    cases answer : opened.read before.files member with
    | error cause =>
        rw [answer] at read
        simp only at read
        split at read
        · cases (throw_error read).1
        · cases (throw_error read).1
    | ok bytes =>
        rw [answer] at read
        obtain ⟨sameContent, rfl⟩ := pure_ok read
        obtain rfl := Except.ok.inj sameContent
        obtain ⟨same, rfl⟩ := pure_ok kept
        obtain rfl := Except.ok.inj same
        exact .manifest described answer
  next ordinary =>
    have ordinary : isManifestName member.name = false := by simpa using ordinary
    obtain ⟨_, middle, checked, named⟩ := bind_ok run
    obtain ⟨rfl, _⟩ := Work.ofOutcome_cases checked
    split at named
    next folder =>
      obtain ⟨⟨path, rebuilder⟩, later, staged, kept⟩ := bind_ok named
      obtain ⟨same, rfl⟩ := pure_ok kept
      obtain rfl := Except.ok.inj same
      exact .directory ordinary folder staged
    next leaf =>
      have leaf : isDirectoryName member.name = false := by simpa using leaf
      obtain ⟨path, later, placed, chosen⟩ := bind_ok named
      obtain rfl := Rebuild.pathFor_pure placed
      split at chosen
      next taken => exact .accepted ordinary leaf taken placed chosen
      next passed =>
        obtain ⟨⟨target, rebuilder⟩, last, staged, kept⟩ := bind_ok chosen
        obtain ⟨same, rfl⟩ := pure_ok kept
        obtain rfl := Except.ok.inj same
        exact .copied ordinary leaf (by simpa using passed) placed staged

theorem stageClass_ok {staging next : Staging} {member : Zip.Member} {path : Path}
    {before after : Workspace}
    (run : stageClass host plan context staging member path before = (.ok next, after)) :
    ∃ report target, process host plan context staging.report
        ⟨member.name, classOfResource member.name, path⟩ before = (.ok (report, target), after) ∧
      (target = none ∧ next = { staging with report } ∨
        ∃ made recorded, target = some made ∧
          staging.rebuilder.record member false (!made.isNoop) = .ok recorded ∧
          next = { staging with report, rebuilder := recorded }) := by
  obtain ⟨⟨report, target⟩, middle, processed, kept⟩ := bind_ok run
  cases target with
  | none =>
      obtain ⟨same, rfl⟩ := pure_ok kept
      exact ⟨report, none, processed, .inl ⟨rfl, Except.ok.inj same⟩⟩
  | some made =>
      obtain ⟨recorded, last, remembered, answer⟩ := bind_ok kept
      obtain ⟨rfl, recordedOk⟩ := Work.ofOutcome_cases remembered
      obtain ⟨same, rfl⟩ := pure_ok answer
      exact ⟨report, some made, processed,
        .inr ⟨made, recorded, rfl, recordedOk.symm, Except.ok.inj same⟩⟩

/-- Staging changes nothing of a rebuilder but what is remembered of entries. -/
def Remembers (rebuilder next : Rebuilder) : Prop :=
  ∃ staged, next = { rebuilder with staged }

theorem Remembers.rooted {rebuilder next : Rebuilder} (remembers : Remembers rebuilder next)
    (rooted : Rooted rebuilder region) : Rooted next region := by
  obtain ⟨staged, rfl⟩ := remembers
  exact ⟨rooted.root, rooted.named⟩

theorem remembers_of_record {rebuilder recorded : Rebuilder} {member : Zip.Member}
    {isDirectory transformed : Bool}
    (run : rebuilder.record member isDirectory transformed = .ok recorded) :
    Remembers rebuilder recorded := ⟨_, (Rebuild.record_ok run).2⟩

theorem EntryStaged.remembers {opened : Classpath.OpenArchive} {staging next : Staging}
    {member : Zip.Member} {before after : Workspace}
    (step : EntryStaged host plan context opened staging member before next after) :
    Remembers staging.rebuilder next.rebuilder := by
  cases step with
  | manifest _ _ => exact ⟨_, rfl⟩
  | directory _ _ run => exact remembers_of_record (Rebuild.stageDirectory_ok run).2.2
  | copied _ _ _ _ run => exact remembers_of_record (Rebuild.stageCopy_ok run).2.2
  | accepted _ _ _ _ run =>
      obtain ⟨report, target, _, ⟨_, rfl⟩ | ⟨made, recorded, _, done, rfl⟩⟩ := stageClass_ok run
      · exact ⟨_, rfl⟩
      · exact remembers_of_record done

theorem keeps_stageArchive (leaves : host.LeavesFiles) (staged : context.mode = .staged) (jar : Path)
    {rebuilder : Rebuilder} (rooted : Rooted rebuilder region) :
    Keeps (Follows (Within region)) (stageArchive host plan context jar rebuilder) := by
  refine (keeps_openJar jar).bind fun opened => ?_
  exact keeps_foldlM_of (fun member rooted => keeps_stageEntry leaves staged opened rooted member)
    (fun rooted run => (entryStaged_of_run run).remembers.rooted rooted) _ rooted

theorem keeps_stageInRun (leaves : host.LeavesFiles) (path : Path) (elements : List Config.Value)
    {rebuilder : Rebuilder} (rooted : Rooted rebuilder region) :
    Keeps (Follows (Within region)) (stageInRun host plan path elements rebuilder) := by
  refine keeps_inRun leaves .staged _ fun context staged => ?_
  refine (keeps_stageArchive leaves staged path rooted).bind fun staging => ?_
  exact ((Work.keeps_invoker _).bind fun _ => Log.keeps_debug _ _).bind fun _ =>
    (Work.keeps_ofOutcome _).bind fun _ => keeps_pure _

/-! ## A staging that succeeds -/

theorem inRun_ok {α : Type} {mode : Mode} {elements : List Config.Value} {work : Context → Work α}
    {before after : Workspace} {value : α}
    (run : inRun host plan mode elements work before = (.ok value, after)) :
    ∃ context opened made ready ended, context.mode = mode ∧
      openClasspath elements before = (.ok context.classpath, opened) ∧
      Pattern.PathFilter.ofSetting plan.filter = .ok context.filter ∧
      context.invoker = opened.invokers.length ∧
      Transformer.Invoker.prepare host context.invoker
        { opened with
          invokers := opened.invokers ++ [.new plan.transformer (some context.classpath)] } =
        (.ok made, ready) ∧
      work context ready = (.ok value, ended) ∧
      after = ((Classpath.close context.classpath).run ended).2 := by
  obtain ⟨classpath, _, opening, further⟩ := bind_ok run
  obtain ⟨ended, course, rfl⟩ := Work.ensuring_cases further
  obtain ⟨filter, opened, set, adding⟩ := bind_ok course
  obtain ⟨rfl, filterOk⟩ := Work.ofOutcome_cases set
  obtain ⟨invoker, added, add, preparing⟩ := bind_ok adding
  obtain ⟨made, ready, prepared, working⟩ := bind_ok preparing
  obtain ⟨number, rfl⟩ := Prod.mk.inj add
  exact ⟨⟨mode, classpath, filter, invoker⟩, opened, made, ready, ended, rfl, opening,
    filterOk.symm, (Except.ok.inj number).symm, prepared, working, rfl⟩

/-- A staging that succeeds remembers entries in the rebuilder that it was given. -/
theorem remembers_of_stageInRun {path : Path} {elements : List Config.Value} {rebuilder : Rebuilder}
    {staging : Staging} {before after : Workspace}
    (run : stageInRun host plan path elements rebuilder before = (.ok staging, after)) :
    Remembers rebuilder staging.rebuilder := by
  obtain ⟨context, _, _, ready, ended, _, _, _, _, _, course, _⟩ := inRun_ok run
  obtain ⟨staged, middle, staging, further⟩ := bind_ok course
  obtain ⟨_, _, _, checking⟩ := bind_ok further
  obtain ⟨_, _, _, answer⟩ := bind_ok checking
  obtain rfl := Except.ok.inj (pure_ok answer).1
  obtain ⟨opened, _, _, folding⟩ := bind_ok staging
  refine foldlM_ok (fun _ value _ => Remembers rebuilder value.rebuilder) ?_ ⟨_, rfl⟩ folding
  rintro _ _ value next member _ _ _ ⟨_, same⟩ step
  obtain ⟨staged, further⟩ := (entryStaged_of_run step).remembers
  exact ⟨staged, by rw [further, same]⟩

end Run
end ClassLoom
