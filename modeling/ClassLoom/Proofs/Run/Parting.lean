import ClassLoom.Proofs.Run.Presenting
import ClassLoom.Proofs.Run.Untouched

namespace ClassLoom
namespace Run

/-!
# Where a run that stops parts from a run that goes on

A run that stops at the first class on which the transformer fails, and the same run going on after such
classes, are opened in the same way and present the same classes up to that one.  If there is none, they
are the same to the end, and leave the same workspace.  If there is one, both fail: the one with the
failure of that class, the other, if nothing else fails it, with the list of all complaints, of which that
is the first.
-/

open Failure (Foreseen Impersonal)
open Files (FileTree Path)
open Rebuild (Rebuilder)

variable {host : Host} {plan : Plan} {context : Context} {before after : Workspace}

/-! ## Opening a run -/

/-- A run is opened: its classpath is there, its filter is compiled, and its transformer is made. -/
structure Opens (host : Host) (plan : Plan) (mode : Mode) (elements : List Config.Value)
    (before : Workspace) (context : Context) (ready : Workspace) : Prop where
  mode : context.mode = mode
  filter : Pattern.PathFilter.ofSetting plan.filter = .ok context.filter
  prepares : ∃ opened made, openClasspath elements before = (.ok context.classpath, opened) ∧
    context.invoker = opened.invokers.length ∧
    Transformer.Invoker.prepare host context.invoker { opened with
        invokers := opened.invokers ++ [.new plan.transformer (some context.classpath)] } =
      (.ok made, ready)

/-- A run is not opened, whatever it is to do; or it is, and comes to what it is to do. -/
theorem inRun_cases (host : Host) (plan : Plan) (mode : Mode) (elements : List Config.Value)
    (before : Workspace) :
    (∃ failure after, ∀ {α : Type} (work : Context → Work α),
      inRun host plan mode elements work before = (.error failure, after)) ∨
    ∃ context ready, ∃ close : Workspace → Workspace,
      Opens host plan mode elements before context ready ∧
      (∀ workspace, (close workspace).files = workspace.files) ∧
      ∀ {α : Type} (work : Context → Work α), inRun host plan mode elements work before =
        ((work context ready).1, close (work context ready).2) := by
  rcases opening : openClasspath elements before with ⟨outcome, opened⟩
  cases outcome with
  | error failure =>
      exact .inl ⟨failure, opened, fun work => by rw [inRun, bind_of_error opening]⟩
  | ok classpath =>
      cases filtering : Pattern.PathFilter.ofSetting plan.filter with
      | error failure =>
          refine .inl ⟨failure, ((Classpath.close classpath).run opened).2, fun work => ?_⟩
          rw [inRun, bind_of_ok opening]
          simp only [Work.ensuring, filtering, Work.ofOutcome]
          rfl
      | ok filter =>
          let added : Workspace := { opened with
            invokers := opened.invokers ++ [.new plan.transformer (some classpath)] }
          have adds : Work.addInvoker (.new plan.transformer (some classpath)) opened =
            (.ok opened.invokers.length, added) := rfl
          rcases preparing : Transformer.Invoker.prepare host opened.invokers.length added with
            ⟨outcome, ready⟩
          cases outcome with
          | error failure =>
              refine .inl ⟨failure, ((Classpath.close classpath).run ready).2, fun work => ?_⟩
              rw [inRun, bind_of_ok opening]
              simp only [Work.ensuring, filtering, Work.ofOutcome, pure_bind]
              rw [bind_of_ok adds, bind_of_error preparing]
          | ok made =>
              refine .inr ⟨⟨mode, classpath, filter, opened.invokers.length⟩, ready,
                fun workspace => ((Classpath.close classpath).run workspace).2,
                ⟨rfl, filtering, opened, made, opening, rfl, preparing⟩, fun _ => rfl, fun work => ?_⟩
              rw [inRun, bind_of_ok opening]
              simp only [Work.ensuring, filtering, Work.ofOutcome, pure_bind]
              rw [bind_of_ok adds, bind_of_ok preparing]
              rfl

theorem inRun_failFast {α : Type} (host : Host) (plan : Plan) (failFast : Bool) (mode : Mode)
    (elements : List Config.Value) (work : Context → Work α) :
    inRun host { plan with failFast := failFast } mode elements work =
      inRun host plan mode elements work := by
  rw [inRun, inRun]

theorem Opens.failFast {mode : Mode} {elements : List Config.Value} {ready : Workspace}
    (opens : Opens host plan mode elements before context ready) (failFast : Bool) :
    Opens host { plan with failFast := failFast } mode elements before context ready :=
  ⟨opens.mode, opens.filter, opens.prepares⟩

/-! ## The classes of a run -/

/-- The classes that a run over a directory presents, in a workspace in which its transformer is ready. -/
def filesPresented (host : Host) (plan : Plan) (context : Context) (artifact : String)
    (found : List Candidate) (ready : Workspace) : List Presented :=
  (moments (visitCandidate host plan context) found (.start .inPlace artifact) ready).filterMap
    (presentedFile context)

/-- The classes that a run over an archive presents, in a workspace in which its transformer is ready. -/
def entriesPresented (host : Host) (plan : Plan) (context : Context) (path : Path)
    (opened : Classpath.OpenArchive) (rebuilder : Rebuilder) (ready : Workspace) : List Presented :=
  (moments (stageEntry host plan context opened) opened.archive.members
    ⟨.start .staged path.toString, rebuilder, none⟩ ready).filterMap (presentedEntry context rebuilder)

/-- The context of a run, and the classes that it presents. -/
inductive Presents (host : Host) (plan : Plan) (value : Config.Value) (elements : List Config.Value)
    (before : Workspace) : Mode → Context → List Presented → Prop
  | inPlace {context : Context} {ready : Workspace} {found : List Candidate} {ending : Option Failure} :
      Opens host plan .inPlace elements
        { before with contexts := before.contexts ++ [logContext .inPlace value.plain] } context ready →
      candidates (Path.ofString value.plain) before = (.ok (found, ending), before) →
      Presents host plan value elements before .inPlace context
        (filesPresented host plan context value.plain found ready)
  | staged {path : Path} {rebuilder : Rebuilder} {context : Context} {prepared ready : Workspace}
      {opened : Classpath.OpenArchive} :
      path = Path.ofString value.plain →
      (Rebuilder.new path plan.policy plan.logger).prepare
          { before with contexts := before.contexts ++ [logContext .staged path.toString] } =
        (.ok rebuilder, prepared) →
      Opens host plan .staged (.text path.toString :: elements) prepared context ready →
      Classpath.openArchive ready.files path = .ok opened →
      Presents host plan value elements before .staged context
        (entriesPresented host plan context path opened rebuilder ready)

/-! ## Where two runs part -/

/-- What two runs present that part at a class: what both do before it, the class, and what the one does
that goes on. -/
structure Parting where
  earlier : List Presented
  here : Presented
  later : List Presented

namespace Parting

/-- The classes of the run that stops. -/
def stopped (parting : Parting) : List Presented := parting.earlier ++ [parting.here]

/-- The classes of the run that goes on. -/
def went (parting : Parting) : List Presented := parting.earlier ++ parting.here :: parting.later

/-- The runs part at the first class on which the transformer fails. -/
structure At (host : Host) (context : Context) (className : String) (failure : Failure)
    (parting : Parting) : Prop where
  clear : ∀ presented ∈ parting.earlier, complaint host context presented = none
  complained : complaint host context parting.here = some (className, failure)
  about : failure.className? = some className

/-- The class at which the runs part is the first of the complaints. -/
theorem At.filterMap_went {className : String} {failure : Failure} {parting : Parting}
    (parts : parting.At host context className failure) :
    parting.went.filterMap (complaint host context) =
      (className, failure) :: parting.later.filterMap (complaint host context) := by
  rw [went, List.filterMap_append, List.filterMap_eq_nil_iff.2 parts.clear, List.nil_append,
    List.filterMap_cons_some parts.complained]

/-- How two runs end that part: the one with the failure of the class, the other, if with the failures of
its classes, then with all complaints in their order. -/
structure Ends {α : Type} (host : Host) (context : Context) (parting : Parting)
    (first second : Outcome α) : Prop where
  exists_first : ∃ className failure, parting.At host context className failure ∧
    first = .error failure
  exists_second : ∃ other, second = .error other ∧ ∀ failures,
    other = .transformationFailed failures → failures = parting.went.filterMap (complaint host context)

end Parting

/-- An end of a run over its classes that fails if any of them has failed: if with a list of failures, then
with theirs. -/
def Concludes {α β : Type} (listed : α → List (String × Failure)) (finish : α → Work β) : Prop :=
  ∀ {value : α}, listed value ≠ [] → ∀ state, ∃ failure after, finish value state = (.error failure, after) ∧
    ∀ failures, failure = .transformationFailed failures → failures = listed value

/-- Items that are compared present classes that part at the first complaint. -/
theorem exists_parting {ι : Type} {shows : ι × Workspace → Option Presented}
    {earlier later stopped went : List (ι × Workspace)} {here : ι × Workspace} {className : String}
    {failure : Failure} (stops : stopped = earlier ++ [here]) (goes : went = earlier ++ here :: later)
    (clear : ∀ moment ∈ earlier, (shows moment).bind (complaint host context) = none)
    (complained : (shows here).bind (complaint host context) = some (className, failure))
    (about : failure.className? = some className) :
    ∃ parting : Parting, stopped.filterMap shows = parting.stopped ∧ went.filterMap shows = parting.went ∧
      parting.At host context className failure ∧ shows here = some parting.here := by
  obtain ⟨presented, shown, failed⟩ := Option.bind_eq_some_iff.1 complained
  refine ⟨⟨earlier.filterMap shows, presented, later.filterMap shows⟩, ?_, ?_, ⟨?_, failed, about⟩, shown⟩
  · rw [stops, List.filterMap_append, List.filterMap_cons_some shown]
    rfl
  · rw [goes, List.filterMap_append, List.filterMap_cons_some shown]
    rfl
  · intro other member
    obtain ⟨moment, listed, same⟩ := List.mem_filterMap.1 member
    have innocent := clear moment listed
    rwa [same] at innocent

/-- Two runs over the same items with the same end are the same, or they part at the first complaint. -/
theorem Parts.ends {α β ι : Type} {stopping going : α → ι → Work α}
    {listed : α → List (String × Failure)} {shows : ι × Workspace → Option Presented} {holds : α → Prop}
    (parts : Parts stopping going listed (fun moment => (shows moment).bind (complaint host context)) holds)
    (goes : ∀ value item, FailsAs Impersonal (going value item)) {finish : α → Work β}
    (concludes : Concludes listed finish) (items : List ι) (start : α) (held : holds start)
    (empty : listed start = []) (before : Workspace) :
    (items.foldlM stopping start >>= finish) before = (items.foldlM going start >>= finish) before ∨
      ∃ (parting : Parting) (earlier later : List (ι × Workspace)) (here : ι × Workspace),
        moments stopping items start before = earlier ++ [here] ∧
        moments going items start before = earlier ++ here :: later ∧
        (∀ moment ∈ earlier, (shows moment).bind (complaint host context) = none) ∧
        shows here = some parting.here ∧
        (moments stopping items start before).filterMap shows = parting.stopped ∧
        (moments going items start before).filterMap shows = parting.went ∧
        parting.Ends host context ((items.foldlM stopping start >>= finish) before).1
          ((items.foldlM going start >>= finish) before).1 := by
  rcases parts.compare items held before with same |
    ⟨earlier, here, later, className, failure, after, stopped, went, clear, complained, about, failed⟩
  · left
    rw [run_bind, run_bind, same]
  · right
    obtain ⟨parting, stoppedAt, wentOn, at_, shown⟩ := exists_parting stopped went clear complained about
    refine ⟨parting, earlier, later, here, stopped, went, clear, shown, stoppedAt, wentOn,
      ⟨className, failure, at_, ?_⟩, ?_⟩
    · rw [bind_of_error failed]
    rcases course : items.foldlM going start before with ⟨outcome, ended⟩
    cases outcome with
    | error other =>
        rw [bind_of_error course]
        refine ⟨other, rfl, fun failures same => ?_⟩
        have impersonal : other.Impersonal := FailsAs.foldlM goes _ _ course
        exact absurd (same ▸ rfl) impersonal.whole
    | ok final =>
        have lists : listed final = parting.went.filterMap (complaint host context) := by
          rw [parts.listed_of_foldlM held course, empty, List.nil_append, ← List.filterMap_filterMap, wentOn]
        have failed : listed final ≠ [] := by
          rw [lists, at_.filterMap_went]
          exact List.cons_ne_nil _ _
        obtain ⟨other, last, finished, whole⟩ := concludes failed ended
        rw [bind_of_ok course, finished]
        exact ⟨other, rfl, fun failures same => (whole failures same).trans lists⟩

/-! ## Runs that go on -/

theorem className?_of_impersonal {failure : Failure} (impersonal : failure.Impersonal) :
    failure.className? = none :=
  Failure.className?_eq_none_iff.2 (isTransformFailure_of_impersonal impersonal)

theorem admits_nameless (host : Host) : Admits (fun failure => failure.className? = none) host where
  foreseen _ foreseen := className?_of_impersonal foreseen.impersonal
  construct _ _ _ _ _ interrupted := className?_of_impersonal (impersonal_of_interrupted interrupted)

theorem permits_personal (host : Host) :
    Permits (fun failure => isTransformFailure failure = false → failure.Impersonal) host where
  foreseen _ foreseen _ := foreseen.impersonal
  construct _ _ _ _ _ interrupted _ := impersonal_of_interrupted interrupted
  transform _ _ _ _ _ _ _ _ interrupted _ := impersonal_of_interrupted interrupted
  raised _ personal impersonal := absurd (personal.symm.trans impersonal) nofun

/-- Where a run goes on, no class fails it by itself. -/
theorem failsAs_process_going (host : Host) (plan : Plan) (context : Context) (report : Report)
    (candidate : Candidate) : FailsAs Impersonal (process host plan.going context report candidate) := by
  refine ((failsAs_resolve _ candidate).mono fun _ => Foreseen.impersonal).bind fun target =>
    FailsAs.attempt ((permits_personal host).invoke _ target.className target.content)
      fun outcome fails => ?_
  cases outcome with
  | error failure =>
      have goes : FailsAs Impersonal (do
          logFailure plan.going.logger candidate.className failure
          return ({ report with
            presented := report.presented + 1
            failures := report.failures ++ [(candidate.className, failure)] }, none) :
          Work (Report × Option Target)) :=
        (FailsAs.write _ _ _ _ _).bind fun _ => .pure _
      simp only
      split
      next thrown =>
        have impersonal : isTransformFailure failure = false := by simpa [Plan.going] using thrown
        exact (FailsAs.throw (fails rfl impersonal)).bind fun _ => goes
      · exact goes
  | ok answer =>
      refine ((FailsAs.ofOutcome (failsAs_apply _ _)).mono fun _ => Foreseen.impersonal).bind fun target =>
        ((failsAs_writeBack _ _ target).mono fun _ => Foreseen.impersonal).bind fun changed => ?_
      split
      · exact .pure _
      · exact .pure _

theorem check_of_ne_nil {report : Report} (some : report.failures ≠ []) :
    report.check = .error (.transformationFailed report.failures) := by
  rw [Report.check, if_neg]
  exact fun none => some (List.isEmpty_iff.1 none)

/-- Where the reports of the classes are checked, a run ends with their failures. -/
theorem concludes_check {α β : Type} (plan : Plan) (context : Context) (report : α → Report)
    (further : α → Work β) : Concludes (fun value => (report value).failures) (fun value => do
      logStatistics plan context
      Work.ofOutcome (report value).check
      further value) := by
  intro value failed state
  beta_reduce
  rw [check_of_ne_nil failed]
  refine ⟨.transformationFailed (report value).failures, (logStatistics plan context state).2, rfl, ?_⟩
  rintro _ ⟨⟩
  rfl

/-! ## Runs over an archive -/

/-- What a run over an archive does when its transformer is ready. -/
def stageAll (host : Host) (plan : Plan) (path : Path) (rebuilder : Rebuilder) (context : Context) :
    Work Staging := do
  let staging ← stageArchive host plan context path rebuilder
  logStatistics plan context
  Work.ofOutcome staging.report.check
  return staging

theorem stageInRun_eq (host : Host) (plan : Plan) (path : Path) (elements : List Config.Value)
    (rebuilder : Rebuilder) : stageInRun host plan path elements rebuilder =
      inRun host plan .staged (.text path.toString :: elements) (stageAll host plan path rebuilder) := rfl

/-- A run that goes on fails for no class, but for all that have failed. -/
theorem failsAs_stageInRun_going (host : Host) (plan : Plan) (path : Path)
    (elements : List Config.Value) (rebuilder : Rebuilder) :
    FailsAs (fun failure => failure.className? = none)
      (stageInRun host plan.going path elements rebuilder) := by
  rw [stageInRun_eq]
  refine (admits_nameless host).inRun _ _ fun context _ => ?_
  refine ((failsAs_stageArchive (fun _ => Foreseen.impersonal)
    (failsAs_process_going host plan context) path rebuilder).mono fun _ => className?_of_impersonal).bind
      fun staging => ?_
  have looks : FailsAs (fun failure => failure.className? = none) (Work.invoker context.invoker) :=
    FailsAs.get.bind fun _ => .pure _
  have checks : Outcome.FailsAs (fun failure => failure.className? = none) staging.report.check := by
    unfold Report.check
    split
    · exact Outcome.failsAs_ok ()
    · exact Outcome.failsAs_error rfl
  exact (looks.bind fun _ => .write _ _ _ _ _).bind fun _ =>
    (FailsAs.ofOutcome checks).bind fun _ => .pure staging

/-- The entries of an archive are staged in the same way, or in the same way up to the first class that
fails. -/
theorem stageAll_compare (host : Host) (plan : Plan) (path : Path) (rebuilder : Rebuilder)
    (context : Context) (ready : Workspace) :
    stageAll host plan.stopping path rebuilder context ready =
        stageAll host plan.going path rebuilder context ready ∨
      ∃ opened, ∃ parting : Parting, Classpath.openArchive ready.files path = .ok opened ∧
        entriesPresented host plan.stopping context path opened rebuilder ready = parting.stopped ∧
        entriesPresented host plan.going context path opened rebuilder ready = parting.went ∧
        parting.Ends host context (stageAll host plan.stopping path rebuilder context ready).1
          (stageAll host plan.going path rebuilder context ready).1 := by
  rcases opening : openJar path ready with ⟨outcome, last⟩
  cases outcome with
  | error failure =>
      left
      simp only [stageAll, stageArchive, bind_assoc, bind_of_error opening]
  | ok opened =>
      obtain ⟨rfl, openedOk⟩ := openJar_ok opening
      let start : Staging := ⟨.start .staged path.toString, rebuilder, none⟩
      have staged (plan : Plan) : stageAll host plan path rebuilder context last =
          (opened.archive.members.foldlM (stageEntry host plan context opened) start >>=
            fun staging => do
              logStatistics plan context
              Work.ofOutcome staging.report.check
              return staging) last := by
        rw [stageAll, stageArchive, bind_assoc, bind_of_ok opening]
      rw [staged plan.stopping, staged plan.going]
      rcases (parts_stageEntry host plan context opened rebuilder).ends
        (failsAs_stageEntry (fun _ => Foreseen.impersonal) (failsAs_process_going host plan context) opened)
        (concludes_check plan context Staging.report pure) opened.archive.members start
        (⟨_, rfl⟩ : Remembers rebuilder rebuilder) rfl last with same |
        ⟨parting, _, _, _, _, _, _, _, stopped, went, ends⟩
      · exact .inl same
      · exact .inr ⟨opened, parting, openedOk, stopped, went, ends⟩

theorem replaceArchive_failFast (plan : Plan) (failFast : Bool) (path : Path) :
    replaceArchive { plan with failFast := failFast } path = replaceArchive plan path := by
  funext staging
  simp only [replaceArchive, cleanStaging, logReport]

/-- A run over an archive fails before its classes, whatever it does about a failure; or it is prepared,
and comes to what staging and replacing come to. -/
theorem transformJar_cases (host : Host) (plan : Plan) (jar : Config.Value)
    (elements : List Config.Value) (before : Workspace) :
    (∃ failure after, ∀ failFast, transformJar host { plan with failFast := failFast } jar elements before =
      (.error failure, after)) ∨
    ∃ rebuilder prepared,
      (Rebuilder.new (Path.ofString jar.plain) plan.policy plan.logger).prepare { before with
          contexts := before.contexts ++ [logContext .staged (Path.ofString jar.plain).toString] } =
        (.ok rebuilder, prepared) ∧
      ∀ {failFast outcome after}, (stageInRun host { plan with failFast := failFast }
          (Path.ofString jar.plain) elements rebuilder >>= replaceArchive plan (Path.ofString jar.plain))
            prepared = (outcome, after) →
        transformJar host { plan with failFast := failFast } jar elements before =
          (outcome, { after with contexts := after.contexts.dropLast }) := by
  have runs (failFast : Bool) :
      transformJar host { plan with failFast := failFast } jar elements before = (do
        Work.ofOutcome (checkArchive before.files (.text jar.plain))
        Log.inContext (logContext .staged (Path.ofString jar.plain).toString)
          (rebuildJar host { plan with failFast := failFast } (Path.ofString jar.plain) elements) :
        Work Report) before := rfl
  cases checking : checkArchive before.files (.text jar.plain) with
  | error failure =>
      refine .inl ⟨failure, before, fun failFast => ?_⟩
      rw [runs, checking]
      rfl
  | ok checked =>
      have passed : Work.ofOutcome (.ok checked : Outcome Unit) before = (.ok checked, before) := rfl
      have enters (failFast : Bool) :
          transformJar host { plan with failFast := failFast } jar elements before =
            Log.inContext (logContext .staged (Path.ofString jar.plain).toString)
              (rebuildJar host { plan with failFast := failFast } (Path.ofString jar.plain) elements)
              before := by
        rw [runs, checking, bind_of_ok passed]
      rcases preparing : (Rebuilder.new (Path.ofString jar.plain) plan.policy plan.logger).prepare
        { before with
          contexts := before.contexts ++ [logContext .staged (Path.ofString jar.plain).toString] } with
        ⟨outcome, prepared⟩
      cases outcome with
      | error failure =>
          refine .inl ⟨failure, { prepared with contexts := prepared.contexts.dropLast },
            fun failFast => ?_⟩
          rw [enters]
          refine Log.inContext_run _ ?_
          rw [rebuildJar, bind_of_error preparing]
      | ok rebuilder =>
          refine .inr ⟨rebuilder, prepared, rfl, fun {failFast outcome after} run => ?_⟩
          rw [enters]
          refine Log.inContext_run _ ?_
          rw [rebuildJar, bind_of_ok preparing, replaceArchive_failFast]
          exact run

/-- Runs that part still do when something else is done at their ends. -/
theorem Parting.Ends.further {α β : Type} {parting : Parting} {first second : Outcome α}
    {firstEnd secondEnd : Outcome β} (ends : parting.Ends host context first second)
    (fails : ∀ failure, first = .error failure → firstEnd = .error failure)
    (failsToo : ∀ failure, second = .error failure → secondEnd = .error failure) :
    parting.Ends host context firstEnd secondEnd := by
  obtain ⟨⟨className, failure, at_, failed⟩, other, failedToo, whole⟩ := ends
  exact ⟨⟨className, failure, at_, fails failure failed⟩, other, failsToo other failedToo, whole⟩

/-- Two runs over an archive are the same, or they part at the first class that fails. -/
theorem transformJar_compare (host : Host) (plan : Plan) (jar : Config.Value)
    (elements : List Config.Value) (before : Workspace) :
    transformJar host plan.stopping jar elements before =
        transformJar host plan.going jar elements before ∨
      ∃ context, ∃ parting : Parting,
        Presents host plan.stopping jar elements before .staged context parting.stopped ∧
        Presents host plan.going jar elements before .staged context parting.went ∧
        parting.Ends host context (transformJar host plan.stopping jar elements before).1
          (transformJar host plan.going jar elements before).1 := by
  rcases transformJar_cases host plan jar elements before with
    ⟨failure, after, fails⟩ | ⟨rebuilder, prepared, prepares, comes⟩
  · exact .inl ((fails true).trans (fails false).symm)
  let path := Path.ofString jar.plain
  have staged (failFast : Bool) : stageInRun host { plan with failFast := failFast } path elements
      rebuilder = inRun host plan .staged (.text path.toString :: elements)
        (stageAll host { plan with failFast := failFast } path rebuilder) := by
    rw [stageInRun_eq, inRun_failFast]
  rcases inRun_cases host plan .staged (.text path.toString :: elements) prepared with
    ⟨failure, after, fails⟩ | ⟨context, ready, close, opens, _, runs⟩
  · have failed (failFast : Bool) :
        transformJar host { plan with failFast := failFast } jar elements before =
          (.error failure, { after with contexts := after.contexts.dropLast }) := by
      refine comes ?_
      rw [staged]
      exact bind_of_error (fails _)
    exact .inl ((failed true).trans (failed false).symm)
  have fails (failFast : Bool) (failure : Failure)
      (failed : (stageAll host { plan with failFast := failFast } path rebuilder context ready).1 =
        .error failure) :
      (transformJar host { plan with failFast := failFast } jar elements before).1 = .error failure := by
    have run := runs (stageAll host { plan with failFast := failFast } path rebuilder)
    rw [failed] at run
    rw [comes ((congrFun (congrArg (· >>= _) (staged failFast)) _).trans (bind_of_error run))]
  rcases stageAll_compare host plan path rebuilder context ready with same |
    ⟨opened, parting, openedOk, stopped, went, ends⟩
  · left
    have sameRun : stageInRun host plan.stopping path elements rebuilder prepared =
        stageInRun host plan.going path elements rebuilder prepared := by
      rw [Plan.stopping, Plan.going, staged, staged, runs, runs]
      rw [Plan.stopping, Plan.going] at same
      rw [same]
    rcases course : (stageInRun host plan.going path elements rebuilder >>= replaceArchive plan path)
      prepared with ⟨outcome, after⟩
    have twin : (stageInRun host plan.stopping path elements rebuilder >>= replaceArchive plan path)
        prepared = (outcome, after) := by
      rw [← course, run_bind, run_bind, sameRun]
    exact (comes twin).trans (comes course).symm
  · right
    refine ⟨context, parting, ?_, ?_, ends.further (fails true) (fails false)⟩
    · rw [← stopped]
      exact .staged rfl prepares (opens.failFast true) openedOk
    · rw [← went]
      exact .staged rfl prepares (opens.failFast false) openedOk

/-- A run over an archive that goes on fails for no class by itself. -/
theorem failsAs_transformJar_going (host : Host) (plan : Plan) (jar : Config.Value)
    (elements : List Config.Value) :
    FailsAs (fun failure => failure.className? = none) (transformJar host plan.going jar elements) := by
  have nameless {α : Type} {work : Work α} (fails : FailsAs Foreseen work) :
      FailsAs (fun failure => failure.className? = none) work :=
    fails.mono fun _ foreseen => className?_of_impersonal foreseen.impersonal
  refine FailsAs.files.bind fun tree =>
    (nameless (FailsAs.ofOutcome (failsAs_checkArchive tree _))).bind fun _ => FailsAs.inContext ?_
  exact (nameless (Rebuilder.failsAs_prepare _)).bind fun rebuilder =>
    (failsAs_stageInRun_going host plan _ elements rebuilder).bind fun staging =>
      nameless (failsAs_replaceArchive _ _ staging)

end Run
end ClassLoom
