import ClassLoom.Proofs.Answering
import ClassLoom.Proofs.Run.Untouched

namespace ClassLoom
namespace Run

/-!
# Failures of the configuration

A run over a directory compiles its filter and makes its transformer before it visits a class.  From
then on the transformer is ready, and whatever fails is a failure of the files, of the enumeration or of
a class.  So a run that fails for its configuration has changed no file.

A run over an archive does it in another order: the staging directory is prepared first.
-/

open Files (FileTree FileWork Path)
open Transformer (Prepared)

variable {host : Host} {plan : Plan} {context : Context} {number : Nat} {before after : Workspace}

/-- A failure of what a run is told to do: of its input, or of its transformer. -/
def IsConfiguration (failure : Failure) : Prop :=
  failure.kind? = some .validation ∨ failure.kind? = some .transformerConfig

/-- An outcome that does not fail for the configuration. -/
def Blameless {α : Type} (outcome : Outcome α) : Prop :=
  ∀ failure, outcome = .error failure → ¬IsConfiguration failure

/-- A progress that does not fail, and has not been ended, for the configuration. -/
def BlamelessWalk {σ : Type} (outcome : Outcome (Progress σ)) : Prop :=
  Blameless outcome ∧ ∀ result failure, outcome = .ok (result, some failure) → ¬IsConfiguration failure

/-- A host that leaves the invokers alone. -/
structure LeavesInvokers (host : Host) : Prop where
  transform : ∀ (ready : Transformer.Ready) (loader : Option Nat) (className : String)
    (content : Bytes) (workspace : Workspace),
    (host.transform ready loader className content workspace).2.invokers = workspace.invokers
  construct : ∀ (procedure : Nat) (workspace : Workspace),
    (host.construct procedure workspace).2.invokers = workspace.invokers

/-! ## Work with a transformer that is ready -/

/-- Work under which a transformer stays ready, with outcomes of a kind. -/
def Ends {α : Type} (number : Nat) (good : Outcome α → Prop) (work : Work α) : Prop :=
  ∀ before, Prepared number before → Prepared number (work before).2 ∧ good (work before).1

namespace Ends

variable {α β : Type} {good : Outcome α → Prop} {fine : Outcome β → Prop} {work : Work α}
  {next : α → Work β}

theorem pure {value : α} (holds : good (.ok value)) : Ends number good (pure value : Work α) :=
  fun _ prepared => ⟨prepared, holds⟩

theorem throw {failure : Failure} (holds : good (.error failure)) :
    Ends number good (throw failure : Work α) :=
  fun _ prepared => ⟨prepared, holds⟩

theorem bind (first : Ends number good work) (second : ∀ value, good (.ok value) →
    Ends number fine (next value)) (fails : ∀ failure, good (.error failure) → fine (.error failure)) :
    Ends number fine (work >>= next) := by
  intro before prepared
  have held := first before prepared
  rw [run_bind]
  rcases stage : work before with ⟨outcome, middle⟩
  rw [stage] at held
  cases outcome with
  | error failure => exact ⟨held.1, fails failure held.2⟩
  | ok value => exact second value held.2 middle held.1

/-- Work that goes on after an attempt, whatever its outcome. -/
theorem attempt (first : Ends number good work) {next : Outcome α → Work β}
    (second : ∀ outcome, good outcome → Ends number fine (next outcome)) :
    Ends number fine (Work.attempt work >>= next) := by
  intro before prepared
  have held := first before prepared
  rw [run_bind, Work.attempt]
  rcases stage : work before with ⟨outcome, middle⟩
  rw [stage] at held
  exact second outcome held.2 middle held.1

theorem foldlM {ι : Type} {step : α → ι → Work α} (kept : ∀ value item, good (.ok value) →
    Ends number good (step value item)) (items : List ι) {start : α} (first : good (.ok start)) :
    Ends number good (items.foldlM step start) := by
  induction items generalizing start with
  | nil => exact pure first
  | cons item rest inductionHypothesis =>
      rw [List.foldlM_cons]
      exact (kept start item first).bind (fun value => inductionHypothesis) fun _ failed => failed

theorem of_same (same : ∀ before, (work before).2.invokers = before.invokers)
    (holds : ∀ before, good (work before).1) : Ends number good work := by
  intro before prepared
  refine ⟨?_, holds before⟩
  obtain ⟨ready, made⟩ := prepared
  exact ⟨ready, by rw [same before]; exact made⟩

end Ends

theorem blameless_ok {α : Type} (value : α) : Blameless (.ok value) := by
  intro failure failed
  cases failed

theorem blameless_error {α : Type} {failure : Failure} (innocent : ¬IsConfiguration failure) :
    Blameless (.error failure : Outcome α) := by
  rintro _ ⟨⟩
  exact innocent

theorem not_isConfiguration {failure : Failure} (validates : failure.kind? ≠ some .validation)
    (configures : failure.kind? ≠ some .transformerConfig) : ¬IsConfiguration failure := by
  rintro (invalid | unready)
  · exact validates invalid
  · exact configures unready

theorem Ends.innocent {α : Type} {work : Work α} (ends : Ends number Blameless work)
    (prepared : Prepared number before) {failure : Failure}
    (run : work before = (.error failure, after)) : ¬IsConfiguration failure :=
  (ends before prepared).2 failure (congrArg Prod.fst run)

/-- Blameless work is followed by blameless work. -/
theorem Ends.andThen {α β : Type} {work : Work α} {next : α → Work β}
    (first : Ends number Blameless work) (second : ∀ value, Ends number Blameless (next value)) :
    Ends number Blameless (work >>= next) :=
  first.bind (fun value _ => second value) fun failure innocent =>
    blameless_error (innocent failure rfl)

/-! ## The steps of a visit -/

section Steps

theorem ends_files {α : Type} {good : Outcome α → Prop} {work : FileWork α}
    (holds : ∀ tree, good (work tree).1) : Ends number good (Work.onFiles work) :=
  .of_same (fun _ => rfl) fun before => holds before.files

theorem blameless_failureOf {α : Type} (action : FileAction) (error : Files.FileError) :
    Blameless (.error (FileWork.failureOf action error) : Outcome α) := by
  cases error with
  | system cause => exact blameless_error (not_isConfiguration nofun nofun)
  | embeddedNul => exact blameless_error (not_isConfiguration nofun nofun)

theorem ends_ask {α : Type} (question : FileTree → Except Files.FileError α) :
    Ends number Blameless (Work.ask question) := by
  refine .of_same (fun _ => rfl) fun before => ?_
  rw [Work.ask_run]
  cases question before.files with
  | ok value => exact blameless_ok value
  | error error => exact blameless_error (not_isConfiguration nofun nofun)

theorem ends_write (name : String) (level : Log.Level) (message : String) (context : Log.Context)
    (error : Option String) : Ends number Blameless (Log.write name level message context error) :=
  .of_same (fun before => (Log.sameObjects_write name level message context error before).invokers)
    fun _ => blameless_ok ()

theorem ends_changeInvoker (change : Transformer.Invoker → Transformer.Invoker)
    (same : ∀ invoker, (change invoker).transformer = invoker.transformer) :
    Ends number Blameless (Work.changeInvoker number change) :=
  fun _ prepared => ⟨prepared.change same, blameless_ok ()⟩

/-- A transformer that is ready is not made again. -/
theorem ends_prepare : Ends number Blameless (Transformer.Invoker.prepare host number) := by
  intro before prepared
  obtain ⟨ready, answered⟩ := prepared.prepare_run host
  rw [answered]
  exact ⟨prepared, blameless_ok ready⟩

theorem ends_invoke (leaves : LeavesInvokers host) (className : String) (content : Bytes) :
    Ends number Blameless (Transformer.Invoker.invoke host number className content) := by
  refine ends_prepare.andThen fun ready => ?_
  have looks : Ends number Blameless (Work.invoker number) :=
    .of_same (fun _ => rfl) fun _ => blameless_ok _
  refine looks.andThen fun invoker => ?_
  have calls : Ends number (fun _ => True)
      (host.transform ready invoker.loader className content) :=
    .of_same (leaves.transform ready invoker.loader className content) fun _ => trivial
  refine calls.attempt fun outcome _ => ?_
  cases outcome with
  | error failure =>
      simp only
      split
      · refine Ends.andThen (ends_changeInvoker _ ?_) fun _ => .throw ?_
        · exact fun _ => rfl
        · exact blameless_error (not_isConfiguration nofun nofun)
      next interrupted =>
        refine .throw (blameless_error ?_)
        cases failure with
        | interrupted => exact not_isConfiguration nofun nofun
        | exited status => exact not_isConfiguration nofun nofun
        | _ => exact absurd rfl interrupted
  | ok value =>
      simp only
      split
      · refine Ends.andThen (ends_changeInvoker _ ?_) fun _ => .throw ?_
        · exact fun _ => rfl
        · exact blameless_error (not_isConfiguration nofun nofun)
      · refine Ends.andThen (ends_changeInvoker _ fun invoker => ?_) fun _ => .pure (blameless_ok _)
        split
        · rfl
        · rfl

theorem ends_change (action : FileAction)
    (operation : FileTree → Except Files.FileError FileTree) :
    Ends number Blameless (Work.onFiles (FileWork.change action operation)) := by
  refine ends_files fun tree => ?_
  rcases run : FileWork.change action operation tree with ⟨outcome, last⟩
  rcases FileWork.change_cases run with ⟨rfl, _⟩ | ⟨_, error, _, rfl⟩
  · exact blameless_ok ()
  · exact blameless_failureOf action error

theorem ends_touch (raw : String) (moment : Option Files.Moment) :
    Ends number Blameless (Work.onFiles (FileWork.touch raw moment)) := by
  refine ends_files fun tree => ?_
  rw [FileWork.touch, get_bind]
  cases tree.setModified raw (moment.getD tree.clock) with
  | ok next => exact blameless_ok true
  | error error =>
      cases error with
      | system cause => exact blameless_ok false
      | embeddedNul =>
          refine blameless_error (not_isConfiguration ?_ ?_)
          · intro same
            cases same
          · intro same
            cases same

theorem ends_resolve (classpath : Option Nat) (candidate : Candidate) :
    Ends number Blameless (Resolver.resolve ⟨.inPlace, classpath⟩ candidate) := by
  have loads : Ends number Blameless
      (Work.onFiles (FileWork.load candidate.filePath.toString)) := by
    refine ends_files fun tree => ?_
    rw [FileWork.load, get_bind]
    cases tree.read candidate.filePath.toString with
    | ok content => exact blameless_ok content
    | error error => exact blameless_failureOf _ error
  exact loads.andThen fun content => .pure (blameless_ok _)

theorem ends_writeBack (logger : String) (target : Target) :
    Ends number Blameless (writeBack .inPlace logger target) := by
  have looks : Ends number Blameless Work.files := .of_same (fun _ => rfl) fun _ => blameless_ok _
  refine looks.andThen fun tree => ?_
  split
  · exact (ends_write _ _ _ _ _).andThen fun _ => .pure (blameless_ok false)
  · refine (ends_write _ _ _ _ _).andThen fun _ => (ends_change _ _).andThen fun _ => ?_
    refine (ends_touch _ none).andThen fun done => ?_
    cases done with
    | true => exact .pure (blameless_ok true)
    | false => exact (ends_write _ _ _ _ _).andThen fun _ => .pure (blameless_ok true)
  next staged _ => cases staged
  next staged _ => cases staged

theorem ends_process (leaves : LeavesInvokers host) (inPlace : context.mode = .inPlace)
    (report : Report) (candidate : Candidate) :
    Ends context.invoker Blameless (process host plan context report candidate) := by
  unfold process
  rw [inPlace]
  refine (ends_resolve _ candidate).andThen fun target => ?_
  refine (ends_invoke leaves target.className target.content).attempt fun outcome innocent => ?_
  cases outcome with
  | error failure =>
      simp only
      split
      · exact .throw (blameless_error (innocent failure rfl))
      · exact (ends_write _ _ _ _ _).andThen fun _ => .pure (blameless_ok _)
  | ok answer =>
      have applies : Ends context.invoker Blameless (Work.ofOutcome (target.apply answer.content)) := by
        unfold Target.apply
        split
        · exact .throw (blameless_error (not_isConfiguration nofun nofun))
        · exact .pure (blameless_ok _)
      refine applies.andThen fun applied => (ends_writeBack _ applied).andThen fun changed => ?_
      cases changed with
      | true => exact .pure (blameless_ok _)
      | false => exact .pure (blameless_ok _)

theorem ends_visitCandidate (leaves : LeavesInvokers host) (inPlace : context.mode = .inPlace)
    (report : Report) (candidate : Candidate) :
    Ends context.invoker Blameless (visitCandidate host plan context report candidate) := by
  unfold visitCandidate
  split
  · exact (ends_process leaves inPlace report candidate).andThen fun _ => .pure (blameless_ok _)
  · exact .pure (blameless_ok _)

end Steps

/-! ## Walks -/

section Walks

variable {σ : Type} {visit : σ → Candidate → Work σ}

theorem blamelessWalk_ok (result : σ) : BlamelessWalk (.ok (result, none)) := by
  refine ⟨blameless_ok _, ?_⟩
  rintro _ _ ⟨⟩

/-- A step that fails ends the walk with its failure. -/
theorem ends_advance {step : σ → Work (Progress σ)} {progress : Progress σ}
    (innocent : BlamelessWalk (.ok progress)) (kept : ∀ result, Ends number BlamelessWalk (step result)) :
    Ends number BlamelessWalk (advance step progress) := by
  rcases progress with ⟨result, failure⟩
  cases failure with
  | some failure => exact .pure innocent
  | none =>
      refine (kept result).attempt fun outcome held => ?_
      cases outcome with
      | ok progress => exact .pure held
      | error failure =>
          refine .pure ⟨blameless_ok _, ?_⟩
          rintro _ _ ⟨⟩
          exact held.1 failure rfl

/-- Blameless work that is followed by a step of a walk. -/
theorem Ends.andWalk {α : Type} {work : Work α} {next : α → Work (Progress σ)}
    (first : Ends number Blameless work) (second : ∀ value, Ends number BlamelessWalk (next value)) :
    Ends number BlamelessWalk (work >>= next) :=
  first.bind (fun value _ => second value) fun failure innocent =>
    ⟨blameless_error (innocent failure rfl), nofun⟩

theorem ends_classify (path : Path) (names : List String) (entry : Files.Entry) :
    Ends number Blameless (classify path names entry) := by
  refine (ends_ask _).andThen fun isDirectory => ?_
  split
  · exact .pure (blameless_ok _)
  · refine (ends_ask _).andThen fun isFile => ?_
    split
    · exact .pure (blameless_ok _)
    · exact .pure (blameless_ok _)

theorem ends_listing (current : Path) : Ends number Blameless (listing current) := by
  have looks : Ends number Blameless Work.files := .of_same (fun _ => rfl) fun _ => blameless_ok _
  refine looks.andThen fun tree => ?_
  split
  · exact .pure (blameless_ok _)
  · exact .throw (blameless_error (not_isConfiguration nofun nofun))

/-- However deep a walk goes, it is ended by its visits, or by what is listed. -/
theorem ends_walk (visits : ∀ result candidate, Ends number Blameless (visit result candidate))
    (depth : Nat) (current : Path) (parts : List String) (result : σ) :
    Ends number BlamelessWalk (walk visit depth current parts result) := by
  induction depth generalizing current parts result with
  | zero => exact .pure (blamelessWalk_ok result)
  | succ depth inductionHypothesis =>
      refine (ends_listing current).andWalk fun entries => ?_
      refine .foldlM (fun progress item innocent => ends_advance innocent fun result => ?_) _
        (blamelessWalk_ok result)
      refine (ends_classify _ _ _).andWalk fun listed => ?_
      cases listed with
      | directory => exact inductionHypothesis _ _ result
      | candidate candidate =>
          exact (visits result candidate).andWalk fun next => .pure (blamelessWalk_ok next)
      | other => exact .pure (blamelessWalk_ok result)

theorem ends_visitClasses (visits : ∀ result candidate, Ends number Blameless (visit result candidate))
    (root : Path) (result : σ) : Ends number BlamelessWalk (visitClasses visit root result) := by
  refine ends_advance (blamelessWalk_ok result) fun result => ?_
  refine (ends_ask _).andWalk fun isDirectory => ?_
  cases isDirectory with
  | true => exact ends_walk visits _ _ _ result
  | false =>
      refine Ends.andWalk (.throw ?_) fun _ => ends_walk visits _ _ _ result
      exact blameless_error (not_isConfiguration nofun nofun)

end Walks

/-! ## The whole run -/

/-- The same invokers. -/
def SameInvokers (before after : Workspace) : Prop := after.invokers = before.invokers

instance : IsPreorder Workspace SameInvokers where
  refl _ := rfl
  trans _ _ _ first second := second.trans first

/-- A transformer that has been made is ready. -/
theorem prepared_of_prepare (leaves : LeavesInvokers host) {made : Transformer.Ready}
    (there : number < before.invokers.length)
    (run : Transformer.Invoker.prepare host number before = (.ok made, after)) :
    Prepared number after := by
  obtain ⟨invoker, looked, looking, further⟩ := bind_ok run
  obtain ⟨answered, rfl⟩ := Prod.mk.inj looking
  have known : before.invokers.getD number (.new none none) = invoker := Except.ok.inj answered
  cases ready : invoker.transformer with
  | some transformer =>
      rw [ready] at further
      obtain ⟨_, rfl⟩ := pure_ok further
      exact ⟨transformer, known ▸ ready⟩
  | none =>
      rw [ready] at further
      obtain ⟨transformer, resolved, resolving, changing⟩ := bind_ok further
      obtain ⟨_, changed, change, logging⟩ := bind_ok changing
      have makes : Keeps SameInvokers (Transformer.resolve host invoker.spec) :=
        Transformer.keeps_resolve (fun procedure workspace => leaves.construct procedure workspace) _
      have same : resolved.invokers = before.invokers := makes.run resolving
      obtain rfl := (Prod.mk.inj change).2
      have prepared : Prepared number { resolved with
          invokers := resolved.invokers.modify number fun invoker =>
            { invoker with transformer := some transformer } } := by
        refine ⟨transformer, ?_⟩
        rw [List.getD_eq_getElem?_getD, List.getElem?_modify_eq, same, List.getElem?_eq_getElem there]
        rfl
      have looks : Ends number Blameless Log.globalLogger :=
        .of_same (fun _ => rfl) fun _ => blameless_ok _
      have logs : Ends number Blameless (do
          Log.debug (← Log.globalLogger) ("Using transformer " ++ transformer.shown)
          return transformer : Work Transformer.Ready) :=
        looks.andThen fun _ => (ends_write _ _ _ _ _).andThen fun _ => .pure (blameless_ok _)
      have last := (logs _ prepared).1
      rwa [logging] at last

theorem ends_visits (leaves : LeavesInvokers host) (inPlace : context.mode = .inPlace) (root : Path)
    (report : Report) :
    Ends context.invoker BlamelessWalk (visitClasses (visitCandidate host plan context) root report) :=
  ends_visitClasses (fun report candidate => ends_visitCandidate leaves inPlace report candidate) root
    report

/-- What a run does after its visits. -/
theorem ends_closing (context : Context) (report : Report) : Ends context.invoker Blameless (do
    logStatistics plan context
    Work.ofOutcome report.check
    logReport plan report
    return report : Work Report) := by
  have looks : Ends context.invoker Blameless (Work.invoker context.invoker) :=
    .of_same (fun _ => rfl) fun _ => blameless_ok _
  have checks : Ends context.invoker Blameless (Work.ofOutcome report.check) := by
    unfold Report.check
    split
    · exact .pure (blameless_ok ())
    · exact .throw (blameless_error (not_isConfiguration nofun nofun))
  refine Ends.andThen (looks.andThen fun invoker => ends_write _ _ _ _ _) fun _ => ?_
  exact checks.andThen fun _ => (ends_write _ _ _ _ _).andThen fun _ => .pure (blameless_ok report)

/-- A run over a directory that fails for its configuration has changed no file. -/
theorem alike_of_isConfiguration (leaves : host.LeavesFiles) (keeps : LeavesInvokers host)
    (healthy : before.Healthy) {value : Config.Value} {elements : List Config.Value} {failure : Failure}
    (configuration : IsConfiguration failure)
    (run : transformDirectory host plan value elements before = (.error failure, after)) :
    before.files.Alike after.files := by
  unfold transformDirectory at run
  rw [Work.files_bind] at run
  rcases bind_cases run with ⟨_, refused, _⟩ | ⟨_, checked, checking, entering⟩
  · obtain ⟨rfl, _⟩ := Work.ofOutcome_cases refused
    exact refl_of FileTree.Alike _
  obtain ⟨rfl, _⟩ := Work.ofOutcome_cases checking
  obtain ⟨last, course, rfl⟩ := Log.inContext_cases entering
  have entered : Follows FileTree.Alike checked { checked with
      contexts := checked.contexts ++ [logContext .inPlace value.plain] } :=
    Bookkeeping.same rfl rfl rfl
  have opens : Keeps (Follows FileTree.Alike) (openClasspath elements) := keeps_openClasspath elements
  rcases bind_cases course with ⟨_, refused, _⟩ | ⟨classpath, opened, opening, further⟩
  · exact (trans_of (Follows FileTree.Alike) entered (opens.run refused) healthy).2
  obtain ⟨ended, working, rfl⟩ := Work.ensuring_cases further
  have before_ := trans_of (Follows FileTree.Alike) entered (opens.run opening)
  rcases bind_cases working with ⟨_, unset, _⟩ | ⟨filter, filtered, setting, adding⟩
  · obtain ⟨rfl, _⟩ := Work.ofOutcome_cases unset
    exact (before_ healthy).2
  obtain ⟨rfl, _⟩ := Work.ofOutcome_cases setting
  rcases bind_cases adding with ⟨_, unadded, _⟩ | ⟨invoker, added, add, preparing⟩
  · cases unadded
  obtain ⟨number, rfl⟩ := Prod.mk.inj add
  obtain rfl := Except.ok.inj number
  have adds : Follows FileTree.Alike filtered { filtered with
      invokers := filtered.invokers ++ [.new plan.transformer (some classpath)] } :=
    Bookkeeping.same rfl rfl rfl
  have start := trans_of (Follows FileTree.Alike) before_ adds
  have prepares : Keeps (Follows FileTree.Alike)
      (Transformer.Invoker.prepare host filtered.invokers.length) :=
    Transformer.Invoker.keeps_prepare (Transformer.keeps_construct leaves) _
  rcases bind_cases preparing with ⟨_, unmade, _⟩ | ⟨made, ready, making, visiting⟩
  · exact (trans_of (Follows FileTree.Alike) start (prepares.run unmade) healthy).2
  -- From here on the transformer is ready, and what fails is none of the configuration.
  have prepared := prepared_of_prepare keeps (by simp) making
  have visits : Ends filtered.invokers.length BlamelessWalk (visitClasses (visitCandidate host plan
      ⟨.inPlace, classpath, filter, filtered.invokers.length⟩) (Path.ofString value.plain)
      (.start .inPlace value.plain)) :=
    @ends_visits host plan ⟨.inPlace, classpath, filter, filtered.invokers.length⟩ keeps rfl _ _
  obtain ⟨preparedVisited, blameless⟩ := visits ready prepared
  rcases bind_cases visiting with ⟨cause, walked, same⟩ | ⟨⟨report, ending⟩, visited, walked, closing⟩
  · rw [walked] at blameless
    cases same
    exact absurd configuration (blameless.1 failure rfl)
  rw [walked] at blameless preparedVisited
  cases ending with
  | some cause =>
      rcases bind_cases closing with ⟨_, thrown, same⟩ | ⟨_, _, thrown, _⟩
      · cases same
        cases (throw_error thrown).1
        exact absurd configuration (blameless.2 report failure rfl)
      · cases (throw_error thrown).1
  | none =>
      have closes := @ends_closing plan ⟨.inPlace, classpath, filter, filtered.invokers.length⟩ report
      exact absurd configuration (closes.innocent preparedVisited closing)

end Run
end ClassLoom
