import ClassLoom.Proofs.Rebuild.Failing
import ClassLoom.Run.Directory
import ClassLoom.Run.Jar

namespace ClassLoom
namespace Run

/-!
# How a run can fail

Apart from its transformer, a run fails in ways that are foreseen.  A transformer that cannot be made is
reported as such, and one that fails on a class is reported with the name of the class; only an
interruption goes through.
-/

open Failure (Foreseen Impersonal)
open Files (FileTree FileWork Path)
open Rebuild (Rebuilder)

/-! ## Looking classes up -/

theorem foreseen_of_opening {tree : FileTree} {path : Path} {cause : Fault}
    (refused : Classpath.openArchive tree path = .error cause)
    (uncaught : (cause.isSystem || cause.isDamage) ≠ true) : (Failure.fault cause).Foreseen := by
  refine Rebuild.Rebuilder.foreseen_of_uncaught ?_ uncaught
  unfold Classpath.openArchive at refused
  split at refused
  · cases refused
    exact .inl ⟨_, rfl⟩
  · split at refused
    · cases refused
    · cases refused
      exact .inr ⟨_, rfl⟩

theorem foreseen_of_reading {tree : FileTree} {opened : Classpath.OpenArchive} {member : Zip.Member}
    {cause : Fault} (refused : opened.read tree member = .error cause)
    (uncaught : (cause.isSystem || cause.isDamage) ≠ true) : (Failure.fault cause).Foreseen := by
  refine Rebuild.Rebuilder.foreseen_of_uncaught (.inr ?_) uncaught
  unfold Classpath.OpenArchive.read at refused
  split at refused
  · cases refused
  · cases refused
    exact ⟨_, rfl⟩

theorem failsAs_opened (tree : FileTree) (root : Classpath.Root) :
    (root.opened tree).FailsAs Foreseen := by
  unfold Classpath.Root.opened
  split
  · split
    · exact Outcome.failsAs_ok _
    next cause refused =>
      split
      · exact Outcome.failsAs_error (.own rfl nofun nofun)
      next uncaught => exact Outcome.failsAs_error (foreseen_of_opening refused uncaught)
  · exact Outcome.failsAs_ok _

theorem failsAs_find (tree : FileTree) (resource : String) (root : Classpath.Root) :
    (root.find? tree resource).FailsAs Foreseen := by
  unfold Classpath.Root.find?
  split
  · simp only
    split
    · exact Outcome.failsAs_ok _
    · exact Outcome.failsAs_ok _
    · exact Outcome.failsAs_error (.fault (.file _))
  · exact Outcome.failsAs_ok _
  · exact Outcome.failsAs_ok _

theorem failsAs_read (tree : FileTree) (location : Classpath.Location) (root : Classpath.Root) :
    (root.read tree location).FailsAs Foreseen := by
  unfold Classpath.Root.read
  split
  · split
    · exact Outcome.failsAs_ok _
    · exact Outcome.failsAs_error (foreseen_failureOf _ _)
  · exact Outcome.failsAs_error (.own rfl nofun nofun)
  next path handle =>
    split
    · exact Outcome.failsAs_ok _
    · exact Outcome.failsAs_error (.own rfl nofun nofun)
    next cause known refused =>
      split
      · exact Outcome.failsAs_error (.own rfl nofun nofun)
      next uncaught =>
        refine Outcome.failsAs_error ?_
        unfold Classpath.Root.readEntry at refused
        split at refused
        · cases refused
          exact absurd rfl (known _)
        · split at refused
          · cases refused
            exact absurd rfl (known _)
          · exact foreseen_of_reading refused uncaught

theorem failsAs_askRoot {α : Type} (number position : Nat)
    {question : FileTree → Classpath.Root → Outcome α}
    (answers : ∀ tree root, (question tree root).FailsAs Foreseen) :
    FailsAs Foreseen (Classpath.askRoot number position question) := by
  have looks : FailsAs Foreseen (Work.classpath number) := FailsAs.get.bind fun _ => .pure _
  refine looks.bind fun context => ?_
  split
  · exact .pure none
  · refine FailsAs.files.bind fun tree => (FailsAs.ofOutcome (failsAs_opened tree _)).bind fun root =>
      (FailsAs.modify _).bind fun _ => FailsAs.files.bind fun tree => ?_
    exact (FailsAs.ofOutcome (answers tree root)).bind fun _ => .pure _

theorem failsAs_findFrom (number : Nat) (resource : String) (left position : Nat) :
    FailsAs Foreseen (Classpath.findFrom number resource left position) := by
  induction left generalizing position with
  | zero => exact .pure none
  | succ left inductionHypothesis =>
      unfold Classpath.findFrom
      refine (failsAs_askRoot number position fun tree root =>
        failsAs_find tree resource root).bind fun answer => ?_
      split
      · exact .pure _
      · exact inductionHypothesis _

theorem failsAs_resolveClass (number : Nat) (className : String) :
    FailsAs Foreseen (Classpath.resolve number className) := by
  have looks : FailsAs Foreseen (Work.classpath number) := FailsAs.get.bind fun _ => .pure _
  have checks : FailsAs Foreseen (Classpath.checkOpen number) := by
    refine looks.bind fun context => ?_
    split
    · exact .throw (.own rfl nofun nofun)
    · exact .pure ()
  refine checks.bind fun _ => looks.bind fun context =>
    (failsAs_findFrom _ _ _ _).bind fun found => ?_
  split
  · exact .throw (.own rfl nofun nofun)
  · refine (failsAs_askRoot number _ fun tree root => failsAs_read tree _ root).bind fun content => ?_
    split
    · exact .pure _
    · exact .throw (.own rfl nofun nofun)

theorem error_of_map {α β : Type} {change : α → β} {answer : Except Zip.ReadError α}
    {error : Zip.ReadError} (refused : answer.map change = .error error) : answer = .error error := by
  cases answer with
  | ok value => cases refused
  | error cause => exact congrArg Except.error (Except.error.inj refused)

theorem spansDisks_of_widen {bytes : Bytes} {record : Zip.EndRecord} {error : Zip.ReadError}
    (refused : record.widen bytes = .error error) : error = .damaged .spansDisks := by
  unfold Zip.EndRecord.widen at refused
  simp only at refused
  split at refused
  · cases refused
  · split at refused
    · cases refused
    · split at refused
      · exact (Except.error.inj refused).symm
      · split at refused
        · cases refused
        · split at refused
          · cases refused
          · cases refused

/-- Whether a file is an archive is told, unless it is one that says that it spans disks. -/
theorem spansDisks_of_findEnd {bytes : Bytes} {error : Zip.ReadError}
    (refused : Zip.findEnd bytes = .error error) : error = .damaged .spansDisks := by
  unfold Zip.findEnd at refused
  extract_lets size signature tail start at refused
  -- The start of the search is a difference that must not be computed.
  clear_value start
  split at refused
  · cases refused
  · split at refused
    · exact spansDisks_of_widen (error_of_map refused)
    · split at refused
      · cases refused
      · extract_lets record at refused
        split at refused
        · cases refused
        · exact spansDisks_of_widen (error_of_map refused)

theorem failsAs_isArchiveFile (tree : FileTree) (path : String) :
    (Classpath.isArchiveFile tree path).FailsAs Foreseen := by
  unfold Classpath.isArchiveFile
  split
  · exact Outcome.failsAs_error (.fault (.file _))
  · exact Outcome.failsAs_ok _
  next content _ =>
    split
    · exact Outcome.failsAs_ok _
    next error refused =>
      obtain rfl := spansDisks_of_findEnd (error_of_map refused)
      exact Outcome.failsAs_error (.fault .spanning)

theorem failsAs_rootOf (path : Path) : FailsAs Foreseen (Classpath.rootOf? path) := by
  unfold Classpath.rootOf?
  have knows : FailsAs Foreseen Log.globalLogger := FailsAs.get.bind fun _ => .pure _
  refine knows.bind fun logger => (failsAs_ask _).bind fun isDirectory => ?_
  have ends : FailsAs Foreseen (do
      if ← Work.ask (·.isFile? path) then
        if ← Work.ofOutcome (Classpath.isArchiveFile (← Work.files) path.toString) then
          Log.debug logger ("Adding classpath archive: " ++ path.toString)
          return some (.archive path none)
        Log.warning logger ("Ignoring classpath element that is not an archive: " ++ path.toString)
        return none
      Log.warning logger ("Ignoring missing classpath element: " ++ path.toString)
      return none : Work (Option Classpath.Root)) := by
    refine (failsAs_ask _).bind fun isFile => ?_
    split
    · refine FailsAs.files.bind fun tree =>
        (FailsAs.ofOutcome (failsAs_isArchiveFile tree _)).bind fun packed => ?_
      split
      · exact (FailsAs.write _ _ _ _ _).bind fun _ => .pure _
      · exact (FailsAs.write _ _ _ _ _).bind fun _ => .pure _
    · exact (FailsAs.write _ _ _ _ _).bind fun _ => .pure _
  split
  · exact (FailsAs.write _ _ _ _ _).bind fun _ => .pure _
  · exact ends

theorem failsAs_rootsOf (elements : List String) : FailsAs Foreseen (Classpath.rootsOf elements) :=
  FailsAs.filterMapM (fun _ => failsAs_rootOf _) elements

/-! ## Reading an archive -/

theorem failsAs_openJar (jar : Path) : FailsAs Foreseen (openJar jar) := by
  refine FailsAs.files.bind fun tree => ?_
  split
  · exact .pure _
  next cause refused =>
    split
    · exact .throw (.own rfl nofun nofun)
    next uncaught => exact .throw (foreseen_of_opening refused uncaught)

theorem failsAs_readEntry (opened : Classpath.OpenArchive) (member : Zip.Member) :
    FailsAs Foreseen (readEntry opened member) := by
  refine FailsAs.files.bind fun tree => ?_
  split
  · exact .pure _
  next cause refused =>
    split
    · exact .throw (.own rfl nofun nofun)
    next uncaught => exact .throw (foreseen_of_reading refused uncaught)

theorem failsAs_checkName (name : String) : (checkName name).FailsAs Foreseen := by
  unfold checkName
  split
  · exact Outcome.failsAs_error (.fault .noIndex)
  · exact Outcome.failsAs_ok ()

/-! ## A class -/

theorem failsAs_resolve (resolver : Resolver) (candidate : Candidate) :
    FailsAs Foreseen (resolver.resolve candidate) := by
  unfold Resolver.resolve
  split
  · exact (FileWork.failsAs_load _).onFiles.bind fun _ => .pure _
  · exact (failsAs_resolveClass _ _).bind fun _ => .pure _
  · exact .throw (.own rfl nofun nofun)

theorem failsAs_apply (target : Target) (content : Option Bytes) :
    (target.apply content).FailsAs Foreseen := by
  unfold Target.apply
  split
  · exact Outcome.failsAs_error (.own rfl nofun nofun)
  · exact Outcome.failsAs_ok _

theorem failsAs_writeBack (mode : Mode) (logger : String) (target : Target) :
    FailsAs Foreseen (writeBack mode logger target) := by
  refine FailsAs.files.bind fun tree => ?_
  split
  · exact (FailsAs.write _ _ _ _ _).bind fun _ => .pure _
  · refine (FailsAs.write _ _ _ _ _).bind fun _ => (FileWork.failsAs_writeFile _ _).onFiles.bind fun _ =>
      (FileWork.failsAs_touch _ _).onFiles.bind fun touched => ?_
    split
    · exact (FailsAs.write _ _ _ _ _).bind fun _ => .pure _
    · exact .pure _
  · exact (FileWork.failsAs_writeFileInParents _ _).onFiles.bind fun _ => .pure _
  · exact (FailsAs.write _ _ _ _ _).bind fun _ =>
      (FileWork.failsAs_writeFileInParents _ _).onFiles.bind fun _ => .pure _

/-! ## What a run is told -/

theorem failsAs_asked {α : Type} (answer : Except Files.FileError α) :
    (asked answer).FailsAs Foreseen := by
  cases answer with
  | ok value => exact Outcome.failsAs_ok value
  | error error => exact Outcome.failsAs_error (.fault (.file error))

theorem failsAs_refuse {α : Type} (cause : InvalidInput) :
    (Config.refuse cause : Outcome α).FailsAs Foreseen :=
  Outcome.failsAs_error (.own rfl nofun nofun)

theorem failsAs_checkPath (value : Config.Value) : (Config.checkPath value).FailsAs Foreseen := by
  unfold Config.checkPath
  split
  · exact failsAs_refuse _
  · split
    · unfold Config.checkPathText
      split
      · exact failsAs_refuse _
      · split
        · exact failsAs_refuse _
        · split
          · exact failsAs_refuse _
          · exact Outcome.failsAs_ok ()
    · exact failsAs_refuse _

theorem failsAs_checkArchive (tree : FileTree) (value : Config.Value) :
    (checkArchive tree value).FailsAs Foreseen := by
  have packs : Outcome.FailsAs Foreseen (do
      if !(← Classpath.isArchiveFile tree (Path.ofString value.plain).toString) then
        Config.refuse (.notAnArchive value.plain)) := by
    refine (failsAs_isArchiveFile tree _).bind fun packed => ?_
    split
    · exact failsAs_refuse _
    · exact Outcome.failsAs_ok _
  have plain : Outcome.FailsAs Foreseen (do
      if !(← asked (tree.isFile? (Path.ofString value.plain))) then
        Config.refuse (.archiveNotAFile value.plain)
      if !(← Classpath.isArchiveFile tree (Path.ofString value.plain).toString) then
        Config.refuse (.notAnArchive value.plain)) := by
    refine (failsAs_asked _).bind fun isFile => ?_
    split
    · exact (failsAs_refuse _).bind fun _ => packs
    · exact packs
  refine (failsAs_checkPath value).bind fun _ => (failsAs_asked _).bind fun present => ?_
  split
  · exact (failsAs_refuse _).bind fun _ => plain
  · exact plain

theorem failsAs_checkDirectory (tree : FileTree) (value : Config.Value) :
    (checkDirectory tree value).FailsAs Foreseen := by
  have plain : Outcome.FailsAs Foreseen (do
      if !(← asked (tree.isDirectory? (Path.ofString value.plain))) then
        Config.refuse (.notADirectory value.plain)) := by
    refine (failsAs_asked _).bind fun isDirectory => ?_
    split
    · exact failsAs_refuse _
    · exact Outcome.failsAs_ok _
  refine (failsAs_checkPath value).bind fun _ => (failsAs_asked _).bind fun present => ?_
  split
  · exact (failsAs_refuse _).bind fun _ => plain
  · exact plain

theorem foreseen_of_elementPaths {elements : List Config.Value} {failure : Failure}
    (refused : (elementPaths elements).2 = some failure) : failure.Foreseen := by
  induction elements with
  | nil => cases refused
  | cons element rest inductionHypothesis =>
      cases element with
      | text path => exact inductionHypothesis refused
      | _ =>
          cases refused
          exact .fault (.wrongType _)

theorem failsAs_openClasspath (elements : List Config.Value) :
    FailsAs Foreseen (openClasspath elements) := by
  refine (failsAs_rootsOf _).bind fun roots => ?_
  split
  · exact FailsAs.get.bind fun _ => (FailsAs.modify _).bind fun _ => .pure _
  next failure refused => exact .throw (foreseen_of_elementPaths refused)

theorem failsAs_ofSetting (setting : Config.Value) :
    (Pattern.PathFilter.ofSetting setting).FailsAs Foreseen := by
  have compiles (pattern : String) : (Pattern.compile pattern).FailsAs Foreseen := by
    unfold Pattern.compile
    split
    · exact Outcome.failsAs_error (.own rfl nofun nofun)
    · split
      · exact Outcome.failsAs_ok _
      · exact Outcome.failsAs_error (.fault (.outOfRange _))
      · exact Outcome.failsAs_error (.fault (.wrongValue _))
      · exact Outcome.failsAs_error (.own rfl nofun nofun)
  have values (value : Config.Value) : (Pattern.compileValue value).FailsAs Foreseen := by
    unfold Pattern.compileValue
    split
    · exact compiles _
    · exact Outcome.failsAs_error (.own rfl nofun nofun)
  unfold Pattern.PathFilter.ofSetting Pattern.PathFilter.ofValue
  split
  · exact Outcome.failsAs_ok _
  · exact (values _).bind fun _ => Outcome.failsAs_ok _

/-! ## Transformers -/

/-- A kind of failure that allows for what is foreseen and for the interruptions that come from the
making of transformers. -/
structure Admits (kind : Failure → Prop) (host : Host) : Prop where
  foreseen : ∀ ⦃failure : Failure⦄, failure.Foreseen → kind failure
  construct : ∀ procedure : Nat,
    FailsAs (fun failure => failure.isOrdinary = false → kind failure) (host.construct procedure)

theorem isTransformFailure_of_impersonal {failure : Failure} (impersonal : failure.Impersonal) :
    isTransformFailure failure = false :=
  decide_eq_false impersonal.single

theorem impersonal_of_interrupted {failure : Failure} (interrupted : failure.isOrdinary = false) :
    failure.Impersonal := by
  cases failure with
  | interrupted => exact ⟨nofun, nofun⟩
  | exited status => exact ⟨nofun, nofun⟩
  | _ => cases interrupted

theorem admits_impersonal (host : Host) : Admits Impersonal host where
  foreseen _ := Failure.Foreseen.impersonal
  construct _ _ _ _ _ interrupted := impersonal_of_interrupted interrupted

/-- A kind of failure that allows for the failures of calls as well. -/
structure Permits (kind : Failure → Prop) (host : Host) : Prop extends Admits kind host where
  transform : ∀ (ready : Transformer.Ready) (loader : Option Nat) (className : String)
    (content : Bytes), FailsAs (fun failure => failure.isOrdinary = false → kind failure)
      (host.transform ready loader className content)
  raised : ∀ ⦃failure : Failure⦄, isTransformFailure failure = true → kind failure

section Kinds

variable {kind : Failure → Prop} {host : Host} {plan : Plan} {context : Context}

theorem failsAs_importModule {modules : List (String × Transformer.Module)} {name : String}
    {failure : Transformer.ImportFailure} (unnamed : ∀ complaint, failure ≠ .failed complaint)
    (refused : Transformer.importModule modules name = .error failure) :
    (Failure.fault failure.fault).Foreseen := by
  cases failure with
  | failed complaint => exact absurd rfl (unnamed complaint)
  | nameless => exact .fault (.wrongValue _)
  | relative => exact .fault (.wrongType _)

theorem failsAs_lookup (registry : Transformer.Registry) (name : String) :
    (Transformer.lookup registry name).FailsAs Foreseen := by
  unfold Transformer.lookup
  split
  · exact Outcome.failsAs_ok _
  · split
    · split
      · exact Outcome.failsAs_ok _
      · exact Outcome.failsAs_error (.own rfl nofun nofun)
    · unfold Transformer.importPlugin
      split
      · exact Outcome.failsAs_error (.own rfl nofun nofun)
      · split
        · exact Outcome.failsAs_error (.own rfl nofun nofun)
        next failure unnamed refused =>
          exact Outcome.failsAs_error (failsAs_importModule unnamed refused)
        · split
          · exact Outcome.failsAs_ok _
          · exact Outcome.failsAs_error (.own rfl nofun nofun)

theorem failsAs_wrap (plugin : Transformer.Plugin) (name : Option String) :
    (Transformer.wrap plugin name).FailsAs Foreseen := by
  unfold Transformer.wrap
  split
  · exact Outcome.failsAs_ok _
  · exact Outcome.failsAs_ok _
  · exact Outcome.failsAs_ok _
  · exact Outcome.failsAs_error (.own rfl nofun nofun)

namespace Admits

variable (admits : Admits kind host)

include admits

theorem instantiate (plugin : Transformer.Plugin) (name : Option String) :
    FailsAs kind (Transformer.instantiate host plugin name) := by
  unfold Transformer.instantiate
  split
  next procedure complaint made _ =>
    have recasts {work : Work Unit}
        (fails : FailsAs (fun failure => failure.isOrdinary = false → kind failure) work) :
        FailsAs kind (Work.recast (fun failure =>
          if failure.isOrdinary then some (.notInstantiable (name.getD "None") failure) else none) work) := by
      refine fails.recast fun failure passes => ?_
      split
      · exact admits.foreseen (.own rfl nofun nofun)
      next interrupted => exact passes (Bool.eq_false_iff.2 interrupted)
    refine (recasts ?_).bind fun _ => (FailsAs.ofOutcome (failsAs_wrap _ name)).mono admits.foreseen
    cases complaint with
    | some complaint =>
        have complains : FailsAs (fun failure => failure.isOrdinary = false → kind failure)
            (throw (.fault (.wrongType complaint)) : Work Unit) :=
          .throw fun interrupted => by cases interrupted
        cases procedure with
        | some procedure => exact (admits.construct procedure).bind fun _ => complains
        | none => exact complains
    | none =>
        cases procedure with
        | some procedure => exact (admits.construct procedure).bind fun _ => .pure ()
        | none => exact .pure ()
  · exact (FailsAs.ofOutcome (failsAs_wrap _ name)).mono admits.foreseen

theorem prepare (number : Nat) : FailsAs kind (Transformer.Invoker.prepare host number) := by
  have looks : FailsAs kind (Work.invoker number) := FailsAs.get.bind fun _ => .pure _
  have missing : kind .transformerMissing := admits.foreseen (.own rfl nofun nofun)
  have resolves (spec : Option Transformer.Plugin) : FailsAs kind (Transformer.resolve host spec) := by
    unfold Transformer.resolve
    split
    · exact .throw missing
    · exact .pure _
    · exact .throw missing
    · exact FailsAs.get.bind fun workspace =>
        ((FailsAs.ofOutcome (failsAs_lookup _ _)).mono admits.foreseen).bind fun plugin =>
          admits.instantiate plugin _
    · exact admits.instantiate _ _
  refine looks.bind fun invoker => ?_
  split
  · exact .pure _
  · exact (resolves _).bind fun ready => (FailsAs.modify _).bind fun _ => FailsAs.get.bind fun _ =>
      (FailsAs.write _ _ _ _ _).bind fun _ => .pure ready

/-- Opening a run fails in ways that are foreseen. -/
theorem inRun {α : Type} (mode : Mode) (elements : List Config.Value) {work : Context → Work α}
    (fails : ∀ context : Context, context.mode = mode → FailsAs kind (work context)) :
    FailsAs kind (inRun host plan mode elements work) := by
  have opens := (failsAs_openClasspath elements).mono admits.foreseen
  have filters : FailsAs kind (Work.ofOutcome (Pattern.PathFilter.ofSetting plan.filter)) :=
    (FailsAs.ofOutcome (failsAs_ofSetting plan.filter)).mono admits.foreseen
  refine opens.bind fun classpath => FailsAs.ensuring (filters.bind fun filter => ?_)
  have adds : FailsAs kind (Work.addInvoker (.new plan.transformer (some classpath))) :=
    FailsAs.get.bind fun _ => (FailsAs.modify _).bind fun _ => .pure _
  exact adds.bind fun invoker => (admits.prepare invoker).bind fun _ => fails _ rfl

end Admits

namespace Permits

variable (permits : Permits kind host)

include permits

theorem invoke (number : Nat) (className : String) (content : Bytes) :
    FailsAs kind (Transformer.Invoker.invoke host number className content) := by
  refine (permits.prepare number).bind fun ready => ?_
  have looks : FailsAs kind (Work.invoker number) := FailsAs.get.bind fun _ => .pure _
  refine looks.bind fun invoker =>
    FailsAs.attempt (permits.transform ready invoker.loader className content) fun outcome passes => ?_
  cases outcome with
  | error failure =>
      simp only
      split
      · exact (FailsAs.modify _).bind fun _ => .throw (permits.raised rfl)
      next interrupted => exact .throw (passes rfl (Bool.eq_false_iff.2 interrupted))
  | ok value =>
      simp only
      split
      · exact (FailsAs.modify _).bind fun _ => .throw (permits.raised rfl)
      · exact (FailsAs.modify _).bind fun _ => .pure _

theorem process (report : Report) (candidate : Candidate) :
    FailsAs kind (process host plan context report candidate) := by
  refine ((failsAs_resolve _ candidate).mono permits.foreseen).bind fun target =>
    FailsAs.attempt (permits.invoke _ target.className target.content) fun outcome fails => ?_
  cases outcome with
  | error failure =>
      have goes : FailsAs kind (do
          logFailure plan.logger candidate.className failure
          return ({ report with
            presented := report.presented + 1
            failures := report.failures ++ [(candidate.className, failure)] }, none) :
          Work (Report × Option Target)) :=
        (FailsAs.write _ _ _ _ _).bind fun _ => .pure _
      simp only
      split
      · exact (FailsAs.throw (fails rfl)).bind fun _ => goes
      · exact goes
  | ok answer =>
      refine ((FailsAs.ofOutcome (failsAs_apply _ _)).mono permits.foreseen).bind fun target =>
        ((failsAs_writeBack _ _ target).mono permits.foreseen).bind fun changed => ?_
      split
      · exact .pure _
      · exact .pure _

end Permits

section Staging

variable (foreseen : ∀ failure : Failure, failure.Foreseen → kind failure)
  (processes : ∀ (report : Report) (candidate : Candidate),
    FailsAs kind (process host plan context report candidate))

include foreseen processes

/-- The staging of an entry fails as the processing of a class does, or in ways that are foreseen. -/
theorem failsAs_stageEntry (opened : Classpath.OpenArchive) (staging : Staging) (member : Zip.Member) :
    FailsAs kind (stageEntry host plan context opened staging member) := by
  have reads := (failsAs_readEntry opened member).mono foreseen
  have named := (FailsAs.ofOutcome (failsAs_checkName member.name)).mono foreseen
  have stages := (staging.rebuilder.failsAs_stageDirectory member).mono foreseen
  have copies := (staging.rebuilder.failsAs_stageCopy opened.file member).mono foreseen
  have leads := (staging.rebuilder.failsAs_pathFor member.name).mono foreseen
  have classes (path : Path) : FailsAs kind (stageClass host plan context staging member path) := by
    refine (processes staging.report _).bind fun processed => ?_
    obtain ⟨_, target⟩ := processed
    cases target with
    | none => exact .pure _
    | some target =>
        exact ((FailsAs.ofOutcome (staging.rebuilder.failsAs_record member false _)).mono
          foreseen).bind fun _ => .pure _
  unfold stageEntry
  simp only
  split
  · exact reads.bind fun _ => .pure _
  · refine named.bind fun _ => ?_
    split
    · exact stages.bind fun _ => .pure _
    · refine leads.bind fun path => ?_
      split
      · exact classes path
      · exact copies.bind fun _ => .pure _

theorem failsAs_stageArchive (jar : Path) (rebuilder : Rebuilder) :
    FailsAs kind (stageArchive host plan context jar rebuilder) :=
  ((failsAs_openJar jar).mono foreseen).bind fun opened =>
    .foldlM (failsAs_stageEntry foreseen processes opened) _ _

end Staging

end Kinds

/-! ## A whole run over an archive -/

theorem failsAs_cleanStaging (plan : Plan) (rebuilder : Rebuilder) :
    FailsAs Foreseen (cleanStaging plan rebuilder) := by
  refine FailsAs.attempt rebuilder.failsAs_cleanUp fun outcome fails => ?_
  cases outcome with
  | ok cleaned => exact .pure _
  | error failure =>
      simp only
      split
      · exact .write _ _ _ _ _
      · exact .throw (fails rfl)

theorem failsAs_replaceArchive (plan : Plan) (path : Path) (staging : Staging) :
    FailsAs Foreseen (replaceArchive plan path staging) := by
  refine (staging.rebuilder.failsAs_serialize _).bind fun _ =>
    staging.rebuilder.failsAs_finalize.bind fun backup => (FailsAs.write _ _ _ _ _).bind fun _ => ?_
  split
  · exact (failsAs_cleanStaging plan _).bind fun _ => (FailsAs.write _ _ _ _ _).bind fun _ => .pure _
  · exact (FailsAs.write _ _ _ _ _).bind fun _ => .pure _

/-- A host that is not interrupted. -/
structure Uninterrupted (host : Host) : Prop where
  construct : ∀ procedure : Nat,
    FailsAs (fun failure => failure.isOrdinary = true) (host.construct procedure)
  transform : ∀ (ready : Transformer.Ready) (loader : Option Nat) (className : String)
    (content : Bytes), FailsAs (fun failure => failure.isOrdinary = true)
      (host.transform ready loader className content)

/-- A failure that is reported by the tool, or a fault that nothing catches. -/
def Reported (failure : Failure) : Prop :=
  failure.kind?.isSome ∨ ∃ fault, failure = .fault fault ∧ fault.Escapes

theorem reported_of_foreseen {failure : Failure} (foreseen : failure.Foreseen) : Reported failure := by
  cases foreseen with
  | own same _ _ => exact .inl (same ▸ rfl)
  | fault escapes => exact .inr ⟨_, rfl, escapes⟩

theorem Uninterrupted.permits {host : Host} (uninterrupted : Uninterrupted host) :
    Permits Reported host where
  foreseen _ := reported_of_foreseen
  construct procedure := (uninterrupted.construct procedure).mono fun _ ordinary interrupted =>
    absurd (ordinary.symm.trans interrupted) nofun
  transform ready loader className content :=
    (uninterrupted.transform ready loader className content).mono fun _ ordinary interrupted =>
      absurd (ordinary.symm.trans interrupted) nofun
  raised _ raised := .inl (of_decide_eq_true raised ▸ rfl)

/-- Whatever an archive holds and whatever is beside it, a run over it that is not interrupted fails in a
way that the tool reports, or with one of the faults that nothing catches: damage and refusals that are
met in reading an entry are reported, any other cause goes through. -/
theorem reported_of_transformJar {host : Host} (uninterrupted : Uninterrupted host) (plan : Plan)
    (jar : Config.Value) (elements : List Config.Value) :
    FailsAs Reported (transformJar host plan jar elements) := by
  have permits := uninterrupted.permits
  have widens {α : Type} {work : Work α} (fails : FailsAs Foreseen work) : FailsAs Reported work :=
    fails.mono fun _ => reported_of_foreseen
  have stages (path : Path) (rebuilder : Rebuilder) :
      FailsAs Reported (stageInRun host plan path elements rebuilder) := by
    refine permits.toAdmits.inRun _ _ fun context _ =>
      (failsAs_stageArchive permits.foreseen permits.process path rebuilder).bind fun staging => ?_
    have looks : FailsAs Reported (Work.invoker context.invoker) := FailsAs.get.bind fun _ => .pure _
    have checks : Outcome.FailsAs Reported staging.report.check := by
      unfold Report.check
      split
      · exact Outcome.failsAs_ok ()
      · exact Outcome.failsAs_error (.inl rfl)
    exact (looks.bind fun _ => .write _ _ _ _ _).bind fun _ =>
      (FailsAs.ofOutcome checks).bind fun _ => .pure staging
  refine FailsAs.files.bind fun tree =>
    (widens (FailsAs.ofOutcome (failsAs_checkArchive tree _))).bind fun _ => FailsAs.inContext ?_
  exact (widens (Rebuilder.failsAs_prepare _)).bind fun rebuilder =>
    (stages _ rebuilder).bind fun staging => widens (failsAs_replaceArchive plan _ staging)

end Run
end ClassLoom
