import ClassLoom.Proofs.Rebuild.Objects
import ClassLoom.Proofs.Run.Completing
import ClassLoom.Proofs.Run.Confinement
import ClassLoom.Proofs.Run.GoingOn
import ClassLoom.Session.Script

namespace ClassLoom

/-!
# What runs unwind

Some relations between workspaces allow for all that a run does by itself: it works on files, makes a
classpath and closes it, and leaves the log context that it has entered.  A run keeps such a relation,
however it ends, as soon as its transformer does.  So a transformer may start runs, and these may start
further ones: what keeps the relation does so to any depth.
-/

open Files (Path)

variable {α : Type}

/-- A relation that allows for work on files and on classpaths, and for log contexts: what holds inside a
context holds when that has been left. -/
class Unwinding (related : Workspace → Workspace → Prop) : Prop extends Housekeeping related where
  spare : ∀ {before after : Workspace}, SameObjects before after → related before after
  leave : ∀ {before last : Workspace} (context : Log.Context),
    related { before with contexts := before.contexts ++ [context] } last →
    related before { last with contexts := last.contexts.dropLast }

/-- The log contexts are the same. -/
def SameContexts (before after : Workspace) : Prop := after.contexts = before.contexts

/-- No classpath is lost, and none that has been closed is open again. -/
def ClosesOnly (before after : Workspace) : Prop :=
  Classpath.Onward before.classpaths after.classpaths

instance : Unwinding SameContexts where
  refl _ := rfl
  trans _ _ _ first second := Eq.trans second first
  logged name level message context error before :=
    (Log.write_objects name level message context error before).1
  kept _ _ _ contexts _ := contexts
  spare same := same.contexts
  leave _ same := (congrArg List.dropLast same).trans List.dropLast_concat

instance : Unwinding ClosesOnly where
  refl workspace := .refl workspace.classpaths
  trans _ _ _ first second := Classpath.Onward.trans first second
  logged name level message context error before := by
    rw [ClosesOnly, (Log.write_objects name level message context error before).2.1]
    exact .refl before.classpaths
  kept _ _ _ _ onward := onward
  spare {before _} same := by
    rw [ClosesOnly, same.classpaths]
    exact .refl before.classpaths
  leave _ onward := onward

/-- A transformer keeps a relation whenever it is called, and when it is made. -/
structure Host.Preserves (related : Workspace → Workspace → Prop) (host : Host) : Prop where
  transform : ∀ (ready : Transformer.Ready) (loader : Option Nat) (className : String)
    (content : Bytes), Keeps related (host.transform ready loader className content)
  construct : ∀ procedure : Nat, Keeps related (host.construct procedure)

section Relations

variable {related : Workspace → Workspace → Prop} [Unwinding related]

theorem Keeps.spare {work : Work α} (kept : Keeps SameObjects work) : Keeps related work :=
  fun before => Unwinding.spare (kept before)

theorem Log.keeps_inContext_of (context : Log.Context) {work : Work α} (kept : Keeps related work) :
    Keeps related (Log.inContext context work) := by
  refine keeps_of_run fun run => ?_
  obtain ⟨last, course, rfl⟩ := Log.inContext_cases run
  exact Unwinding.leave context (kept.run course)

end Relations

/-! ## Walks -/

namespace Run

section Walking

variable {σ : Type} {related : Workspace → Workspace → Prop} [IsPreorder Workspace related]

theorem keeps_advance {step : σ → Work (Progress σ)} (kept : ∀ result, Keeps related (step result))
    (progress : Progress σ) : Keeps related (advance step progress) := by
  rcases progress with ⟨result, _ | failure⟩
  · refine (Work.keeps_attempt (kept result)).bind fun outcome => ?_
    split
    · exact keeps_pure _
    · exact keeps_pure _
  · exact keeps_pure _

theorem keeps_listing (current : Path) : Keeps related (listing current) := by
  refine Work.keeps_files.bind fun tree => ?_
  split
  · exact keeps_pure _
  · exact keeps_throw _

theorem keeps_classify (path : Path) (names : List String) (entry : Files.Entry) :
    Keeps related (classify path names entry) := by
  refine (Work.keeps_ask _).bind fun directory => ?_
  split
  · exact keeps_pure _
  · refine (Work.keeps_ask _).bind fun file => ?_
    split
    · exact keeps_pure _
    · exact keeps_pure _

/-- A walk through a directory keeps what its visits keep. -/
theorem keeps_walk {visit : σ → Candidate → Work σ}
    (kept : ∀ result candidate, Keeps related (visit result candidate)) (depth : Nat) (current : Path)
    (parts : List String) (result : σ) : Keeps related (walk visit depth current parts result) := by
  induction depth generalizing current parts result with
  | zero => exact keeps_pure _
  | succ depth inductionHypothesis =>
      refine (keeps_listing current).bind fun entries => keeps_foldlM (fun progress listed => ?_) _ _
      refine keeps_advance (fun result => (keeps_classify _ _ _).bind fun kind => ?_) progress
      cases kind with
      | directory => exact inductionHypothesis _ _ result
      | candidate candidate => exact (kept result candidate).bind fun _ => keeps_pure _
      | other => exact keeps_pure _

theorem keeps_visitClasses_of {visit : σ → Candidate → Work σ}
    (kept : ∀ result candidate, Keeps related (visit result candidate)) (root : Path) (result : σ) :
    Keeps related (visitClasses visit root result) := by
  refine keeps_advance (fun result => (Work.keeps_ask _).bind fun directory => ?_) (result, none)
  split
  · exact (keeps_throw _).bind fun _ => keeps_walk kept _ _ _ _
  · exact keeps_walk kept _ _ _ _

end Walking

theorem sameObjects_replaceArchive (plan : Plan) (path : Path) (staging : Staging) :
    Keeps SameObjects (replaceArchive plan path staging) := by
  refine (staging.rebuilder.sameObjects_serialize _).bind fun _ =>
    staging.rebuilder.sameObjects_finalize.bind fun backup => (Log.keeps_info _ _).bind fun _ => ?_
  have ends (report : Report) : Keeps SameObjects (do
      logReport plan report
      return report : Work Report) := (Log.keeps_info _ _).bind fun _ => keeps_pure _
  simp only
  split
  · exact (keeps_cleanStaging staging.rebuilder.sameObjects_cleanUp).bind fun _ => ends _
  · exact ends _

end Run

/-! ## Runs -/

namespace Host.Preserves

open Run (Report Candidate Staging)

variable {related : Workspace → Workspace → Prop} [Unwinding related] {host : Host} {plan : Run.Plan}
  {context : Run.Context}

theorem process (preserves : host.Preserves related) (report : Report) (candidate : Candidate) :
    Keeps related (Run.process host plan context report candidate) := by
  have resolves : Keeps related
      (Run.Resolver.resolve ⟨context.mode, some context.classpath⟩ candidate) := by
    cases context.mode with
    | inPlace => exact (sameObjects_onFiles _).spare.bind fun _ => keeps_pure _
    | staged => exact Run.keeps_resolve _ candidate
  refine resolves.bind fun target => (Work.keeps_attempt (Transformer.Invoker.keeps_invoke_of
    preserves.construct preserves.transform _ _ _)).bind fun outcome => ?_
  cases outcome with
  | error failure =>
      have goesOn : Keeps related (do
          Run.logFailure plan.logger candidate.className failure
          return ({ report with
            presented := report.presented + 1
            failures := report.failures ++ [(candidate.className, failure)] }, none) :
          Work (Report × Option Run.Target)) :=
        (Log.keeps_exception _ _ _ _ _ _).bind fun _ => keeps_pure _
      simp only
      split
      · exact (keeps_throw failure).bind fun _ => goesOn
      · exact goesOn
  | ok answer =>
      refine (Work.keeps_ofOutcome _).bind fun target =>
        (Run.sameObjects_writeBack _ _ target).spare.bind fun changed => ?_
      split
      · exact keeps_pure _
      · exact keeps_pure _

theorem logStatistics (plan : Run.Plan) (context : Run.Context) :
    Keeps related (Run.logStatistics plan context) :=
  (Work.keeps_invoker _).bind fun _ => Log.keeps_debug _ _

theorem visitCandidate (preserves : host.Preserves related) (report : Report) (candidate : Candidate) :
    Keeps related (Run.visitCandidate host plan context report candidate) := by
  unfold Run.visitCandidate
  split
  · exact (preserves.process report candidate).bind fun _ => keeps_pure _
  · exact keeps_pure _

theorem visitAll (preserves : host.Preserves related) (artifact : String) :
    Keeps related (Run.visitAll host plan artifact context) := by
  refine (Run.keeps_visitClasses_of preserves.visitCandidate _ _).bind fun progress => ?_
  rcases progress with ⟨report, failure⟩
  have ends : Keeps related (do
      Run.logStatistics plan context
      Work.ofOutcome report.check
      Run.logReport plan report
      return report : Work Report) :=
    (logStatistics plan context).bind fun _ =>
      (Work.keeps_ofOutcome _).bind fun _ => (Log.keeps_info _ _).bind fun _ => keeps_pure _
  cases failure with
  | some failure => exact (keeps_throw failure).bind fun _ => ends
  | none => exact ends

theorem transformDirectory (preserves : host.Preserves related) (plan : Run.Plan) (value : Config.Value)
    (elements : List Config.Value) :
    Keeps related (Run.transformDirectory host plan value elements) := by
  rw [Run.transformDirectory_eq]
  exact Work.keeps_files.bind fun _ => (Work.keeps_ofOutcome _).bind fun _ =>
    Log.keeps_inContext_of _ (Run.keeps_inRun_of preserves.construct .inPlace elements
      fun _ _ => preserves.visitAll value.plain)

theorem stageClass (preserves : host.Preserves related) (staging : Staging) (member : Zip.Member)
    (path : Path) : Keeps related (Run.stageClass host plan context staging member path) := by
  refine (preserves.process _ _).bind fun processed => ?_
  rcases processed with ⟨report, _ | target⟩
  · exact keeps_pure _
  · exact (Work.keeps_ofOutcome _).bind fun _ => keeps_pure _

theorem stageEntry (preserves : host.Preserves related) (opened : Classpath.OpenArchive)
    (staging : Staging) (member : Zip.Member) :
    Keeps related (Run.stageEntry host plan context opened staging member) := by
  unfold Run.stageEntry
  simp only
  split
  · exact (Run.keeps_readEntry opened member).bind fun _ => keeps_pure _
  refine (Work.keeps_ofOutcome _).bind fun _ => ?_
  split
  · exact (Rebuild.Rebuilder.sameObjects_stageDirectory _ member).spare.bind fun _ => keeps_pure _
  refine (Rebuild.keeps_pathFor _ _).bind fun path => ?_
  split
  · exact preserves.stageClass staging member path
  · exact (Rebuild.Rebuilder.sameObjects_stageCopy _ _ member).spare.bind fun _ => keeps_pure _

theorem stageAll (preserves : host.Preserves related) (path : Path) (rebuilder : Rebuild.Rebuilder) :
    Keeps related (Run.stageAll host plan path rebuilder context) := by
  have stages : Keeps related (Run.stageArchive host plan context path rebuilder) :=
    (Run.keeps_openJar path).bind fun opened => keeps_foldlM (preserves.stageEntry opened) _ _
  exact stages.bind fun _ => (logStatistics plan context).bind fun _ =>
    (Work.keeps_ofOutcome _).bind fun _ => keeps_pure _

theorem transformJar (preserves : host.Preserves related) (plan : Run.Plan) (jar : Config.Value)
    (elements : List Config.Value) : Keeps related (Run.transformJar host plan jar elements) := by
  refine Work.keeps_files.bind fun _ => (Work.keeps_ofOutcome _).bind fun _ =>
    Log.keeps_inContext_of _ ?_
  refine (Rebuild.Rebuilder.sameObjects_prepare _).spare.bind fun rebuilder => Keeps.bind ?_
    fun staging => (Run.sameObjects_replaceArchive plan _ staging).spare
  exact Run.keeps_inRun_of preserves.construct .staged _ fun _ _ => preserves.stageAll _ rebuilder

/-- A run keeps what its transformer keeps. -/
theorem run (preserves : host.Preserves related) (plan : Run.Plan) (mode : Run.Mode)
    (value : Config.Value) (elements : List Config.Value) :
    Keeps related (Run.transform host plan mode value elements) := by
  cases mode with
  | inPlace => exact preserves.transformDirectory plan value elements
  | staged => exact preserves.transformJar plan value elements

end Host.Preserves

/-! ## Transformers that start runs -/

namespace Session

variable {related : Workspace → Workspace → Prop} [Unwinding related]

theorem keeps_answer {procedure : Nat → Work Unit} (runs : ∀ number, Keeps related (procedure number))
    (loader : Option Nat) (given : Bytes) (behaviour : Transformer.Behaviour) :
    Keeps related (answer procedure loader given behaviour) := by
  induction behaviour with
  | call number next inductionHypothesis => exact (runs number).bind fun _ => inductionHypothesis
  | appendClass className =>
      cases loader with
      | some number => exact (Classpath.keeps_resolve number className).bind fun _ => keeps_pure _
      | none => exact keeps_throw _
  | appendPresence className =>
      cases loader with
      | some number => exact (Classpath.keeps_contains number className).bind fun _ => keeps_pure _
      | none => exact keeps_throw _
  | fail text kind => exact keeps_throw _
  | interrupt => exact keeps_throw _
  | _ => exact keeps_pure _

/-- Scripted transformers keep a relation to any depth, if a procedure keeps it as soon as the
transformers that it calls do.  Procedures may start runs, since these do. -/
theorem preserves_host {procedure : Nat → Host → Work Unit}
    (runs : ∀ number host, Host.Preserves related host → Keeps related (procedure number host))
    (depth : Nat) : (host procedure depth).Preserves related := by
  induction depth with
  | zero => exact ⟨fun _ _ _ _ => keeps_throw _, fun _ => keeps_throw _⟩
  | succ depth inductionHypothesis =>
      have called (number : Nat) : Keeps related (procedure number (host procedure depth)) :=
        runs number _ inductionHypothesis
      exact ⟨fun _ loader _ given => keeps_answer called loader given _, called⟩

end Session

end ClassLoom
