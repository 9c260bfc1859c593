import ClassLoom.Proofs.Run.Parting

namespace ClassLoom
namespace Run

/-!
# Stopping at a class that fails, and going on

A run over a directory visits the same candidates whatever its visits do, so the run that stops and the
one that goes on part in the same way as they do over an archive.  A visit to a class that fails changes
no file.  So the run that stops has changed no more than files of candidates that come before the class,
and the one that goes on has changed none of a class that fails.
-/

open Failure (Foreseen Impersonal)
open Files (FileTree Path)

variable {host : Host} {plan : Plan} {context : Context} {before after : Workspace} {tree : FileTree}
  {root : Path} {top : Files.Location}

/-! ## Runs over a directory -/

/-- Opening a run changes no file. -/
theorem Opens.follows {mode : Mode} {elements : List Config.Value} {ready : Workspace}
    (opens : Opens host plan mode elements before context ready) (leaves : host.LeavesFiles) :
    Follows FileTree.Alike before ready := by
  obtain ⟨opened, made, opening, _, preparing⟩ := opens.prepares
  have added : Follows FileTree.Alike opened { opened with
      invokers := opened.invokers ++ [.new plan.transformer (some context.classpath)] } :=
    Bookkeeping.same rfl rfl rfl
  have prepares := trans_of (Follows FileTree.Alike) added
    ((Transformer.Invoker.keeps_prepare (Transformer.keeps_construct leaves) _).run preparing)
  exact trans_of (Follows FileTree.Alike) ((keeps_openClasspath elements).run opening) prepares

section Visits

variable {found : List Candidate} {ending : Option Failure}

/-- What follows the visits of a run over a directory. -/
def conclude (plan : Plan) (context : Context) (ending : Option Failure) (report : Report) :
    Work Report := do
  match ending with
  | some failure => throw failure
  | none => pure ()
  logStatistics plan context
  Work.ofOutcome report.check
  logReport plan report
  return report

/-- Through a directory without links, every run visits the same candidates one after another. -/
theorem DirectoryTree.exists_candidates (directory : DirectoryTree tree root top) :
    ∃ found ending, Lists tree root (fun _ => True) found ending ∧
      (∀ {workspace}, Steady tree workspace →
        candidates root workspace = (.ok (found, ending), workspace)) ∧
      ∀ {host : Host} (plan : Plan) {context : Context} {artifact : String} {ready : Workspace},
        host.LeavesFiles → context.mode = .inPlace → root = Path.ofString artifact → Steady tree ready →
        visitAll host plan artifact context ready =
          (found.foldlM (visitCandidate host plan context) (.start .inPlace artifact) >>=
            conclude plan context ending) ready := by
  obtain ⟨found, ending, lists, tours⟩ := tours_visitClasses directory.sound directory.found
  refine ⟨found, ending, lists, fun {workspace} steady => ?_, ?_⟩
  · have collects : Undisturbing tree root collectCandidate (Steady tree) :=
      ⟨fun steady => steady.healthy.files, fun steady => steady.shape, fun _ _ _ steady => steady⟩
    rw [candidates_eq, tours collects [] steady, tour_of_ok (collect_run found [] workspace)]
    rfl
  · rintro host plan context artifact ready leaves inPlace rfl steady
    have visits : visitClasses (visitCandidate host plan context) (Path.ofString artifact)
        (.start .inPlace artifact) ready =
        tour (visitCandidate host plan context) found ending (.start .inPlace artifact, none) ready :=
      tours (undisturbing_visitCandidate leaves inPlace directory) _ steady
    rcases course : found.foldlM (visitCandidate host plan context) (.start .inPlace artifact) ready with
      ⟨outcome, visited⟩
    cases outcome with
    | error failure =>
        obtain ⟨last, ended⟩ := tour_of_error course
        rw [bind_of_error course, visitAll, bind_of_ok (visits.trans ended)]
        rfl
    | ok final =>
        rw [bind_of_ok course, visitAll, bind_of_ok (visits.trans (tour_of_ok course))]
        rfl

theorem Stops.impersonal {failure : Failure} (stops : Stops tree root failure) : failure.Impersonal := by
  cases stops with
  | unlisted _ _ => exact ⟨nofun, nofun⟩
  | unfollowed _ _ _ => exact ⟨nofun, nofun⟩

theorem concludes_conclude (plan : Plan) (context : Context)
    (stops : ∀ failure ∈ ending, Stops tree root failure) :
    Concludes Report.failures (conclude plan context ending) := by
  cases ending with
  | none =>
      exact concludes_check plan context id fun report => do
        logReport plan report
        return report
  | some failure =>
      intro report _ state
      exact ⟨failure, state, rfl, fun failures same => absurd (same ▸ rfl) (stops failure rfl).impersonal.whole⟩

theorem failsAs_visitCandidate_going (host : Host) (plan : Plan) (context : Context) (report : Report)
    (candidate : Candidate) :
    FailsAs Impersonal (visitCandidate host plan.going context report candidate) := by
  unfold visitCandidate
  split
  · exact (failsAs_process_going host plan context report candidate).bind fun _ => .pure _
  · exact .pure _

theorem failsAs_conclude (plan : Plan) (context : Context)
    (stops : ∀ failure ∈ ending, Stops tree root failure) (report : Report) :
    FailsAs (fun failure => failure.className? = none) (conclude plan context ending report) := by
  have looks : FailsAs (fun failure => failure.className? = none) (Work.invoker context.invoker) :=
    FailsAs.get.bind fun _ => .pure _
  have checks : Outcome.FailsAs (fun failure => failure.className? = none) report.check := by
    unfold Report.check
    split
    · exact Outcome.failsAs_ok ()
    · exact Outcome.failsAs_error rfl
  have goesOn : FailsAs (fun failure => failure.className? = none) (do
      logStatistics plan context
      Work.ofOutcome report.check
      logReport plan report
      return report : Work Report) :=
    (looks.bind fun _ => .write _ _ _ _ _).bind fun _ => (FailsAs.ofOutcome checks).bind fun _ =>
      (FailsAs.write _ _ _ _ _).bind fun _ => .pure _
  cases ending with
  | none => exact goesOn
  | some failure =>
      exact (FailsAs.throw (className?_of_impersonal (stops failure rfl).impersonal)).bind fun _ => goesOn

end Visits

/-! ## What the runs leave alone -/

theorem keeps_conclude (plan : Plan) (context : Context) (ending : Option Failure) (report : Report) :
    Keeps (Follows FileTree.Alike) (conclude plan context ending report) := by
  have goesOn : Keeps (Follows FileTree.Alike) (do
      logStatistics plan context
      Work.ofOutcome report.check
      logReport plan report
      return report : Work Report) :=
    ((Work.keeps_invoker _).bind fun _ => Log.keeps_debug _ _).bind fun _ =>
      (Work.keeps_ofOutcome _).bind fun _ => (Log.keeps_info _ _).bind fun _ => keeps_pure _
  cases ending with
  | some failure => exact (keeps_throw failure).bind fun _ => goesOn
  | none => exact goesOn

/-- A visit to a class that fails changes no file. -/
theorem follows_of_complaint (leaves : host.LeavesFiles) (inPlace : context.mode = .inPlace)
    {candidate : Candidate} {failed : String × Failure}
    (complained : complaint host context ⟨candidate, before⟩ = some failed) (report : Report) :
    Follows FileTree.Alike before (process host plan context report candidate before).2 := by
  have resolves : Keeps (Follows FileTree.Alike)
      (Resolver.resolve ⟨context.mode, some context.classpath⟩ candidate) := by
    rw [inPlace]
    exact (keeps_load _).bind fun _ => keeps_pure _
  rcases call_cases host context candidate before with
    ⟨_, _, _, _, none⟩ | ⟨target, found, outcome, called, resolving, calling, same⟩
  · rw [none] at complained
    cases complained
  · have calls := trans_of (Follows FileTree.Alike) (resolves.run resolving)
      ((Transformer.Invoker.keeps_invoke leaves _ _ _).run calling)
    rw [complaint, same] at complained
    cases outcome with
    | ok answer => cases complained
    | error failure =>
        rw [process, bind_of_ok resolving, Work.attempt_run calling]
        simp only
        split
        · exact calls
        · exact trans_of (Follows FileTree.Alike) calls (Log.keeps_exception _ _ _ _ _ _ called)

theorem Spared.follows {visited : List Candidate} (spared : Spared tree root top visited before)
    (follows : Follows FileTree.Alike before after) : Spared tree root top visited after := by
  obtain ⟨healthy, alike⟩ := follows spared.steady.healthy
  exact ⟨⟨spared.steady.shape.trans alike.shape, healthy⟩,
    fun apart => (alike.places _).trans (spared.kept apart)⟩

theorem presented_of_presentedFile {moment : Candidate × Workspace} {presented : Presented}
    (shown : presentedFile context moment = some presented) : presented = ⟨moment.1, moment.2⟩ := by
  rw [presentedFile] at shown
  split at shown
  · exact (Option.some.inj shown).symm
  · cases shown

/-- The candidates among the moments of a run at which the transformer does not fail. -/
def uncomplained (host : Host) (context : Context) (moments : List (Candidate × Workspace)) :
    List Candidate :=
  (moments.filter fun moment =>
    ((presentedFile context moment).bind (complaint host context)).isNone).map Prod.fst

theorem uncomplained_append (first second : List (Candidate × Workspace)) :
    uncomplained host context (first ++ second) =
      uncomplained host context first ++ uncomplained host context second := by
  rw [uncomplained, uncomplained, uncomplained, List.filter_append, List.map_append]

/-- A visit changes the file of its candidate at most, and not if the transformer fails. -/
theorem Spared.moment (plan : Plan) (leaves : host.LeavesFiles) (inPlace : context.mode = .inPlace)
    (directory : DirectoryTree tree root top) {visited : List Candidate}
    (spared : Spared tree root top visited before) {names : List String} {file : Files.File}
    {candidate : Candidate} (classFile : IsClassFile tree root top names file candidate)
    (report : Report) :
    Spared tree root top (visited ++ uncomplained host context [(candidate, before)])
      (visitCandidate host plan context report candidate before).2 := by
  cases complained : (presentedFile context (candidate, before)).bind (complaint host context) with
  | none =>
      have innocent : uncomplained host context [(candidate, before)] = [candidate] := by
        simp [uncomplained, complained]
      rw [innocent]
      exact spared.visit leaves inPlace directory classFile report
  | some failed =>
      have guilty : uncomplained host context [(candidate, before)] = [] := by
        simp [uncomplained, complained]
      rw [guilty, List.append_nil]
      rw [presentedFile] at complained
      split at complained
      next accepted =>
        have follows : Follows FileTree.Alike before
            (process host plan context report candidate before).2 :=
          follows_of_complaint leaves inPlace complained report
        refine spared.follows ?_
        rw [visitCandidate, if_pos accepted, run_bind]
        rcases processed : process host plan context report candidate before with ⟨outcome, last⟩
        rw [processed] at follows
        cases outcome with
        | error failure => exact follows
        | ok answer => exact follows
      · cases complained

/-- However visits end, they have changed no files but those of candidates on which the transformer has
not failed. -/
theorem spared_of_foldlM (plan : Plan) (leaves : host.LeavesFiles) (inPlace : context.mode = .inPlace)
    (directory : DirectoryTree tree root top) {found visited : List Candidate}
    (classFiles : ∀ candidate ∈ found, ∃ names file, IsClassFile tree root top names file candidate)
    (report : Report) (spared : Spared tree root top visited before) :
    Spared tree root top
      (visited ++ uncomplained host context (moments (visitCandidate host plan context) found report before))
      (found.foldlM (visitCandidate host plan context) report before).2 := by
  induction found generalizing visited report before with
  | nil =>
      rw [moments, uncomplained, List.filter_nil, List.map_nil, List.append_nil]
      exact spared
  | cons candidate rest inductionHypothesis =>
      obtain ⟨names, file, classFile⟩ := classFiles candidate List.mem_cons_self
      have step := spared.moment plan leaves inPlace directory classFile report
      rw [List.foldlM_cons]
      rcases stage : visitCandidate host plan context report candidate before with ⟨outcome, middle⟩
      rw [stage] at step
      cases outcome with
      | error failure =>
          rw [bind_of_error stage, moments_of_error stage]
          exact step
      | ok next =>
          rw [bind_of_ok stage, moments_of_ok stage, ← List.singleton_append, uncomplained_append,
            ← List.append_assoc]
          exact inductionHypothesis (fun other member =>
            classFiles other (List.mem_cons_of_mem _ member)) next step

/-- What is come to is a first part of the items. -/
theorem moments_prefix {α ι : Type} (step : α → ι → Work α) (items : List ι) (value : α)
    (before : Workspace) : (moments step items value before).map Prod.fst <+: items := by
  induction items generalizing value before with
  | nil => exact List.prefix_refl []
  | cons item rest inductionHypothesis =>
      rw [moments, List.map_cons]
      refine List.cons_prefix_cons.2 ⟨rfl, ?_⟩
      rcases step value item before with ⟨outcome, after⟩
      cases outcome with
      | error failure => exact List.nil_prefix
      | ok next => exact inductionHypothesis next after

/-- What runs over a directory that part leave alone: the one that stops changes no more than files of
candidates before the class, the one that goes on changes none of a class on which the transformer
fails. -/
structure Parting.Leaves (host : Host) (context : Context) (parting : Parting) (root : Path)
    (top : Files.Location) (before : Workspace) (stopped went : FileTree) : Prop where
  exists_past : ∃ past rest ending,
    candidates root before = (.ok (past ++ parting.here.candidate :: rest, ending), before) ∧
    ∀ {place}, (∀ names file, ∀ candidate ∈ past,
      IsClassFile before.files root top names file candidate → place ≠ top ++ names) →
    stopped.at? place = before.files.at? place
  complained : ∀ presented ∈ parting.went, complaint host context presented ≠ none → ∃ names file,
    IsClassFile before.files root top names file presented.candidate ∧
      went.at? (top ++ names) = some (.file file)

section Parted

variable {found : List Candidate} {visited : List Candidate}

/-- The run that stops has changed no more than files of the candidates before the class. -/
theorem uncomplained_of_stopped {earlier : List (Candidate × Workspace)} {here : Candidate × Workspace}
    {className : String} {failure : Failure}
    (clear : ∀ moment ∈ earlier, (presentedFile context moment).bind (complaint host context) = none)
    (complained : (presentedFile context here).bind (complaint host context) = some (className, failure)) :
    uncomplained host context (earlier ++ [here]) = earlier.map Prod.fst := by
  have all : uncomplained host context earlier = earlier.map Prod.fst := by
    rw [uncomplained, List.filter_eq_self.2]
    intro moment member
    rw [clear moment member]
    rfl
  have none : uncomplained host context [here] = [] := by
    simp [uncomplained, complained]
  rw [uncomplained_append, all, none, List.append_nil]

/-- A class on which the transformer has failed has not been visited otherwise. -/
theorem Spared.held_of_complaint {visits : List (Candidate × Workspace)}
    (spared : Spared tree root top (uncomplained host context visits) before)
    (once : (visits.map Prod.fst).Nodup) {presented : Presented}
    (member : presented ∈ visits.filterMap (presentedFile context))
    (complained : complaint host context presented ≠ none) {names : List String} {file : Files.File}
    (classFile : IsClassFile tree root top names file presented.candidate) :
    before.files.at? (top ++ names) = some (.file file) := by
  refine spared.held ?_ classFile
  intro innocent
  obtain ⟨other, kept, sameCandidate⟩ := List.mem_map.1 innocent
  obtain ⟨visit, visited, shown⟩ := List.mem_filterMap.1 member
  obtain ⟨otherVisited, clear⟩ := List.mem_filter.1 kept
  have same : other = visit := List.inj_on_of_nodup_map once otherVisited visited
    (sameCandidate.trans (by rw [presented_of_presentedFile shown]))
  subst same
  rw [shown] at clear
  exact complained (Option.isNone_iff_eq_none.1 clear)

end Parted

/-- The visits of two runs over a directory, when their transformer is ready, are the same, or they part at
the first class that fails. -/
theorem visitAll_compare (plan : Plan) (leaves : host.LeavesFiles) (inPlace : context.mode = .inPlace)
    {artifact : String} (directory : DirectoryTree before.files (Path.ofString artifact) top)
    (quiet : before.LogsToNoFile) {ready : Workspace} (follows : Follows FileTree.Alike before ready) :
    (visitAll host plan.stopping artifact context ready = visitAll host plan.going artifact context ready ∧
      ∀ failure, (visitAll host plan.going artifact context ready).1 = .error failure →
        failure.className? = none) ∨
    ∃ found ending, ∃ parting : Parting,
      candidates (Path.ofString artifact) before = (.ok (found, ending), before) ∧
      filesPresented host plan.stopping context artifact found ready = parting.stopped ∧
      filesPresented host plan.going context artifact found ready = parting.went ∧
      parting.Ends host context (visitAll host plan.stopping artifact context ready).1
        (visitAll host plan.going artifact context ready).1 ∧
      parting.Leaves host context (Path.ofString artifact) top before
        (visitAll host plan.stopping artifact context ready).2.files
        (visitAll host plan.going artifact context ready).2.files := by
  obtain ⟨healthy, alike⟩ := follows ⟨directory.sound, quiet⟩
  have steady : Steady before.files ready := ⟨alike.shape, healthy⟩
  obtain ⟨found, ending, lists, collects, visits⟩ := directory.exists_candidates
  have first := visits plan.stopping leaves inPlace rfl steady
  have second := visits plan.going leaves inPlace rfl steady
  have classFiles : ∀ candidate ∈ found, ∃ names file,
      IsClassFile before.files (Path.ofString artifact) top names file candidate := by
    intro candidate member
    obtain ⟨names, _, meets⟩ := lists.meets candidate member
    exact ⟨names, directory.isClassFile_of_meets meets⟩
  have once : found.Nodup := lists.once.of_map
  -- Whatever the visits come to, the end of the run changes no file.
  have spared (plan : Plan) : Spared before.files (Path.ofString artifact) top
      (uncomplained host context
        (moments (visitCandidate host plan context) found (.start .inPlace artifact) ready))
      ((found.foldlM (visitCandidate host plan context) (.start .inPlace artifact) >>=
        conclude plan context ending) ready).2 := by
    have visited := spared_of_foldlM plan leaves inPlace directory classFiles
      (.start .inPlace artifact) (.start healthy alike)
    rw [run_bind]
    rcases course : found.foldlM (visitCandidate host plan context) (.start .inPlace artifact) ready with
      ⟨outcome, last⟩
    rw [course] at visited
    cases outcome with
    | error failure => exact visited
    | ok final => exact visited.follows (keeps_conclude plan context ending final last)
  rw [first, second]
  rcases (parts_visitCandidate host plan context).ends (failsAs_visitCandidate_going host plan context)
    (concludes_conclude plan context lists.stops) found (.start .inPlace artifact) trivial rfl ready
    with same |
    ⟨parting, earlier, later, here, stopped, went, clear, shown, stoppedAt, wentOn, ends⟩
  · refine .inl ⟨same, fun failure failed => ?_⟩
    have nameless : FailsAs (fun failure => failure.className? = none)
        (found.foldlM (visitCandidate host plan.going context) (.start .inPlace artifact) >>=
          conclude plan.going context ending) :=
      ((FailsAs.foldlM (failsAs_visitCandidate_going host plan context) _ _).mono
        fun _ => className?_of_impersonal).bind (failsAs_conclude plan.going context lists.stops)
    exact nameless (Prod.ext failed rfl)
  · refine .inr ⟨found, ending, parting, collects ⟨.refl _, directory.sound, quiet⟩, stoppedAt, wentOn,
      ends, ⟨?_, ?_⟩⟩
    · obtain ⟨rest, whole⟩ := moments_prefix (visitCandidate host plan.stopping context) found
        (.start .inPlace artifact) ready
      obtain ⟨⟨className, failure, at_, _⟩, _⟩ := ends
      have complained : (presentedFile context here).bind (complaint host context) =
          some (className, failure) := by rw [shown, Option.bind_some, at_.complained]
      have left := spared plan.stopping
      rw [stopped, uncomplained_of_stopped clear complained] at left
      rw [stopped, List.map_append, List.map_singleton, List.append_assoc, List.singleton_append] at whole
      refine ⟨earlier.map Prod.fst, rest, ending, ?_, left.kept⟩
      rw [presented_of_presentedFile shown, whole]
      exact collects ⟨.refl _, directory.sound, quiet⟩
    · intro presented member complained
      have presents := moments_prefix (visitCandidate host plan.going context) found
        (.start .inPlace artifact) ready
      rw [← wentOn] at member
      obtain ⟨moment, visited, shown⟩ := List.mem_filterMap.1 member
      have known : presented.candidate ∈ found := by
        rw [presented_of_presentedFile shown]
        exact presents.subset (List.mem_map_of_mem visited)
      obtain ⟨names, file, classFile⟩ := classFiles presented.candidate known
      exact ⟨names, file, classFile, (spared plan.going).held_of_complaint
        (once.sublist presents.sublist) member complained classFile⟩

/-- Two runs over a directory are the same, or they part at the first class that fails. -/
theorem transformDirectory_compare (plan : Plan) (leaves : host.LeavesFiles) {value : Config.Value}
    (directory : DirectoryTree before.files (Path.ofString value.plain) top)
    (quiet : before.LogsToNoFile) (elements : List Config.Value) :
    (transformDirectory host plan.stopping value elements before =
        transformDirectory host plan.going value elements before ∧
      ∀ failure, (transformDirectory host plan.going value elements before).1 = .error failure →
        failure.className? = none) ∨
    ∃ context, ∃ parting : Parting,
      Presents host plan.stopping value elements before .inPlace context parting.stopped ∧
      Presents host plan.going value elements before .inPlace context parting.went ∧
      parting.Ends host context (transformDirectory host plan.stopping value elements before).1
        (transformDirectory host plan.going value elements before).1 ∧
      parting.Leaves host context (Path.ofString value.plain) top before
        (transformDirectory host plan.stopping value elements before).2.files
        (transformDirectory host plan.going value elements before).2.files := by
  let entered : Workspace := { before with
    contexts := before.contexts ++ [logContext .inPlace value.plain] }
  cases checking : checkDirectory before.files (.text value.plain) with
  | error failure =>
      have refused (failFast : Bool) :
          transformDirectory host { plan with failFast := failFast } value elements before =
            (.error failure, before) := by
        rw [transformDirectory_eq, Work.files_bind, checking]
        rfl
      refine .inl ⟨(refused true).trans (refused false).symm, fun other failed => ?_⟩
      rw [Plan.going, refused false] at failed
      obtain rfl := Except.error.inj failed
      exact className?_of_impersonal (failsAs_checkDirectory _ _ checking).impersonal
  | ok checked =>
      have enters (failFast : Bool) {outcome : Outcome Report} {after : Workspace}
          (run : inRun host plan .inPlace elements
            (visitAll host { plan with failFast := failFast } value.plain) entered = (outcome, after)) :
          transformDirectory host { plan with failFast := failFast } value elements before =
            (outcome, { after with contexts := after.contexts.dropLast }) := by
        have passed : Work.ofOutcome (.ok checked : Outcome Unit) before = (.ok checked, before) := rfl
        rw [transformDirectory_eq, Work.files_bind, checking, bind_of_ok passed]
        refine Log.inContext_run _ ?_
        rw [inRun_failFast]
        exact run
      rcases inRun_cases host plan .inPlace elements entered with
        ⟨failure, after, fails⟩ | ⟨context, ready, close, opens, closes, runs⟩
      · refine .inl ⟨(enters true (fails _)).trans (enters false (fails _)).symm, fun other failed => ?_⟩
        rw [Plan.going, enters false (fails _)] at failed
        obtain rfl := Except.error.inj failed
        exact (admits_nameless host).inRun _ _ (fun _ _ => FailsAs.pure ()) (fails _)
      · have entering : Follows FileTree.Alike before entered := Bookkeeping.same rfl rfl rfl
        have opened := trans_of (Follows FileTree.Alike) entering (opens.follows leaves)
        have comes (failFast : Bool) :
            (transformDirectory host { plan with failFast := failFast } value elements before).1 =
              (visitAll host { plan with failFast := failFast } value.plain context ready).1 ∧
            (transformDirectory host { plan with failFast := failFast } value elements before).2.files =
              (visitAll host { plan with failFast := failFast } value.plain context ready).2.files := by
          rw [enters failFast (runs _)]
          dsimp only
          exact ⟨rfl, closes _⟩
        obtain ⟨firstOutcome, firstFiles⟩ := comes true
        obtain ⟨secondOutcome, secondFiles⟩ := comes false
        rcases visitAll_compare plan leaves opens.mode directory quiet opened with ⟨same, unnamed⟩ |
          ⟨found, ending, parting, lists, stopped, went, ends, left⟩
        · refine .inl ⟨?_, fun failure failed => unnamed failure ?_⟩
          · rw [Plan.stopping, Plan.going] at same ⊢
            rw [enters true (runs _), enters false (runs _), same]
          · rwa [Plan.going, secondOutcome] at failed
        · refine .inr ⟨context, parting, ?_, ?_, ?_, ?_⟩
          · rw [← stopped]
            exact .inPlace (opens.failFast true) lists
          · rw [← went]
            exact .inPlace (opens.failFast false) lists
          · rw [Plan.stopping, Plan.going] at ends ⊢
            rwa [firstOutcome, secondOutcome]
          · rw [Plan.stopping, Plan.going] at left ⊢
            rwa [firstFiles, secondFiles]

/-! ## The whole run -/

/-- A run over a directory, or over an archive. -/
def transform (host : Host) (plan : Plan) (mode : Mode) (value : Config.Value)
    (elements : List Config.Value) : Work Report :=
  match mode with
  | .inPlace => transformDirectory host plan value elements
  | .staged => transformJar host plan value elements

/-- The marking transformer, but that it fails on every class that it does not mark. -/
def choosyHost : Host :=
  ⟨fun ready loader className content workspace =>
    if className = "A" then markingHost.transform ready loader className content workspace
    else (.error (.fault (.wrongValue className)), workspace),
    markingHost.construct⟩

theorem choosyHost_leavesFiles : choosyHost.LeavesFiles := by
  refine ⟨fun ready loader className content workspace => ?_, markingHost_leavesFiles.construct⟩
  by_cases marked : className = "A"
  · simp only [choosyHost, if_pos marked]
    exact markingHost_leavesFiles.transform ready loader className content workspace
  · simp only [choosyHost, if_neg marked]
    exact ⟨⟨workspace.files.clock, rfl⟩, fun quiet => quiet⟩

/-- A workspace with the classes. -/
def classWorkspace : Workspace := { (default : Workspace) with files := classTree }

end Run
end ClassLoom
