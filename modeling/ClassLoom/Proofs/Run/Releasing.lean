import ClassLoom.Proofs.Run.Atomicity
import ClassLoom.Proofs.Run.Unwinding

namespace ClassLoom

/-!
# What a run releases

A run holds two things that its end has to give back: the classpath that it has made, with the archives
that look-ups have opened, and the log context that it has entered.  However it ends, and whatever its
transformer does, the classpath is closed; a run over an archive has closed it before it puts the new
archive in place.

The log contexts are one list for all, and to leave a context is to take the last one off.  So they are
what they were before the run if the transformer leaves the contexts that it enters, and not otherwise.
-/

open Files (Path)

/-! ## Released classpaths -/

namespace Classpath

variable {number : Nat} {before after : Workspace}

/-- Whatever is asked of the classpath of a number is refused. -/
structure Refuses (number : Nat) (workspace : Workspace) : Prop where
  find : ∀ className, find number className workspace = (.error (.general .classpathClosed), workspace)
  resolve : ∀ className,
    resolve number className workspace = (.error (.general .classpathClosed), workspace)
  contains : ∀ className,
    contains number className workspace = (.error (.general .classpathClosed), workspace)

/-- The classpath of a number is closed, holds no archive open, and refuses what it is asked. -/
structure Released (number : Nat) (workspace : Workspace) : Prop where
  closed : (workspace.classpaths.getD number ⟨[], true⟩).closed = true
  shut : ∀ root ∈ (workspace.classpaths.getD number ⟨[], true⟩).roots, root.isOpen? ≠ some true
  refuses : Refuses number workspace

theorem refuses_of_closed (closed : (before.classpaths.getD number ⟨[], true⟩).closed = true) :
    Refuses number before := by
  have checks : checkOpen number before = (.error (.general .classpathClosed), before) := by
    have known : Work.classpath number before =
      (.ok (before.classpaths.getD number ⟨[], true⟩), before) := rfl
    rw [checkOpen, bind_of_ok known, if_pos closed]
    rfl
  have finds (className : String) :
      find number className before = (.error (.general .classpathClosed), before) := by
    rw [find, bind_of_error checks]
  refine ⟨finds, fun className => ?_, fun className => ?_⟩
  · rw [resolve, bind_of_error checks]
  · rw [contains, bind_of_error (finds className)]

/-- A classpath that has been closed refuses for good. -/
theorem Released.refuses_later (released : Released number before)
    (known : number < before.classpaths.length) (later : ClosesOnly before after) :
    Refuses number after := by
  have held : before.classpaths[number]? = some before.classpaths[number] :=
    List.getElem?_eq_getElem known
  obtain ⟨context, heldAfter, closes⟩ := later number _ held
  refine refuses_of_closed ?_
  rw [List.getD_eq_getElem?_getD, heldAfter, Option.getD_some]
  apply closes
  have closed := released.closed
  rwa [List.getD_eq_getElem?_getD, held, Option.getD_some] at closed

theorem Released.of_same (released : Released number before)
    (same : after.classpaths = before.classpaths) : Released number after := by
  obtain ⟨closed, shut, _⟩ := released
  rw [← same] at closed shut
  exact ⟨closed, shut, refuses_of_closed closed⟩

theorem released_of_close (number : Nat) (workspace : Workspace) :
    Released number ((close number).run workspace).2 := by
  have closes : (workspace.classpaths.modify number Context.close).getD number ⟨[], true⟩ =
      Context.close (workspace.classpaths.getD number ⟨[], true⟩) := by
    rw [List.getD_eq_getElem?_getD, List.getD_eq_getElem?_getD, List.getElem?_modify_eq]
    cases workspace.classpaths[number]? with
    | none => rfl
    | some context => rfl
  have closed : ((workspace.classpaths.modify number Context.close).getD number ⟨[], true⟩).closed =
      true := by rw [closes]; rfl
  refine ⟨closed, fun root member => ?_, refuses_of_closed closed⟩
  change root ∈ ((workspace.classpaths.modify number Context.close).getD number ⟨[], true⟩).roots
    at member
  rw [closes] at member
  exact Context.isOpen_close member

end Classpath

namespace Run

open Classpath (Released Refuses)
open Rebuild (Rebuilder)

variable {host : Host} {plan : Plan} {mode : Mode} {value : Config.Value}
  {elements : List Config.Value} {number : Nat} {before opened after : Workspace}

/-- A classpath that is made is the last of all. -/
theorem openClasspath_ok (opening : openClasspath elements before = (.ok number, opened)) :
    number < opened.classpaths.length := by
  rcases listed : elementPaths elements with ⟨paths, refused⟩
  simp only [openClasspath, listed] at opening
  obtain ⟨roots, middle, _, adding⟩ := bind_ok opening
  cases refused with
  | some failure => cases (throw_error adding).1
  | none =>
      obtain ⟨same, rfl⟩ := Prod.mk.inj adding
      obtain rfl := Except.ok.inj same
      change middle.classpaths.length < (middle.classpaths ++ [_]).length
      rw [List.length_append]
      exact Nat.lt_succ_self _

/-- A run closes the classpath that it has made, whatever comes between. -/
theorem released_of_inRun {α : Type} {work : Context → Work α} {outcome : Outcome α}
    (opening : openClasspath elements before = (.ok number, opened))
    (run : inRun host plan mode elements work before = (outcome, after)) : Released number after := by
  rw [inRun, bind_of_ok opening] at run
  obtain ⟨middle, _, rfl⟩ := Work.ensuring_cases run
  exact Classpath.released_of_close number middle

/-! ## The classpath of a run -/

/-- A run makes its classpath, with a number, and goes on from a workspace with it. -/
inductive Makes (plan : Plan) (value : Config.Value) (elements : List Config.Value)
    (before : Workspace) : Mode → Nat → Workspace → Prop
  | inPlace {number : Nat} {opened : Workspace} :
      checkDirectory before.files (.text value.plain) = .ok () →
      openClasspath elements
          { before with contexts := before.contexts ++ [logContext .inPlace value.plain] } =
        (.ok number, opened) →
      Makes plan value elements before .inPlace number opened
  | staged {path : Path} {rebuilder : Rebuilder} {prepared : Workspace} {number : Nat}
      {opened : Workspace} :
      path = Path.ofString value.plain →
      checkArchive before.files (.text value.plain) = .ok () →
      (Rebuilder.new path plan.policy plan.logger).prepare
          { before with contexts := before.contexts ++ [logContext .staged path.toString] } =
        (.ok rebuilder, prepared) →
      openClasspath (.text path.toString :: elements) prepared = (.ok number, opened) →
      Makes plan value elements before .staged number opened

/-- A run over an archive has staged all and written the new archive, and puts it in place. -/
inductive Replaces (host : Host) (plan : Plan) (value : Config.Value) (elements : List Config.Value)
    (before : Workspace) : Workspace → Prop
  | intro {path copy : Path} {rebuilder : Rebuilder} {staging : Staging}
      {prepared staged begun : Workspace} :
      path = Path.ofString value.plain →
      (Rebuilder.new path plan.policy plan.logger).prepare
          { before with contexts := before.contexts ++ [logContext .staged path.toString] } =
        (.ok rebuilder, prepared) →
      stageInRun host plan path elements rebuilder prepared = (.ok staging, staged) →
      staging.rebuilder.serialize staging.manifest staged = (.ok copy, begun) →
      Replaces host plan value elements before begun

/-- A run over an archive that succeeds has made a classpath, and has put the new archive in place. -/
theorem exists_replaces {report : Report}
    (run : transform host plan .staged value elements before = (.ok report, after)) :
    ∃ number opened begun, Makes plan value elements before .staged number opened ∧
      Replaces host plan value elements before begun := by
  rw [transform, transformJar, Work.files_bind] at run
  obtain ⟨_, _, checking, entering⟩ := bind_ok run
  obtain ⟨rfl, checked⟩ := Work.ofOutcome_cases checking
  obtain ⟨last, course, rfl⟩ := Log.inContext_cases entering
  obtain ⟨rebuilder, prepared, prepares, further⟩ := bind_ok course
  obtain ⟨staging, staged, stages, replacing⟩ := bind_ok further
  obtain ⟨context, opened, _, _, _, _, opening, _⟩ := inRun_ok stages
  obtain ⟨copy, begun, serializes, _⟩ := bind_ok replacing
  exact ⟨context.classpath, opened, begun, .staged rfl checked.symm prepares opening,
    .intro rfl prepares stages serializes⟩

/-- The run goes on from where it has its classpath, closes that, and leaves its log context. -/
theorem exists_closing {outcome : Outcome Report} (makes : Makes plan value elements before mode number opened)
    (run : transform host plan mode value elements before = (outcome, after)) :
    ∃ last, Released number last ∧ after.classpaths = last.classpaths ∧
      (host.Preserves ClosesOnly → ClosesOnly opened last) := by
  have passed : Work.ofOutcome (.ok () : Outcome Unit) before = (.ok (), before) := rfl
  cases makes with
  | inPlace checked opening =>
      rw [transform, transformDirectory_eq, Work.files_bind, checked, bind_of_ok passed] at run
      obtain ⟨last, course, rfl⟩ := Log.inContext_cases run
      refine ⟨last, released_of_inRun opening course, rfl, fun preserves => ?_⟩
      exact related_of_inRun preserves.construct (fun _ _ => preserves.visitAll value.plain) opening course
  | @staged _ rebuilder prepared _ _ same checked prepares opening =>
      subst same
      rw [transform, transformJar, Work.files_bind, checked, bind_of_ok passed] at run
      obtain ⟨last, course, rfl⟩ := Log.inContext_cases run
      rw [rebuildJar, bind_of_ok prepares] at course
      rcases staging : stageInRun host plan (Path.ofString value.plain) elements rebuilder prepared with
        ⟨result, staged⟩
      have closes : host.Preserves ClosesOnly → ClosesOnly opened staged := fun preserves =>
        related_of_inRun preserves.construct (fun _ _ => preserves.stageAll _ _) opening staging
      have released : Released number staged := released_of_inRun opening staging
      refine ⟨staged, released, ?_, closes⟩
      cases result with
      | error failure =>
          rw [bind_of_error staging] at course
          obtain ⟨_, rfl⟩ := Prod.mk.inj course
          rfl
      | ok result =>
          rw [bind_of_ok staging] at course
          exact ((sameObjects_replaceArchive plan _ result).run course).classpaths

/-- Before the new archive is put in place, the classpath is closed. -/
theorem released_of_replaces {begun : Workspace}
    (makes : Makes plan value elements before .staged number opened)
    (replaces : Replaces host plan value elements before begun) : Released number begun := by
  cases makes with
  | staged same _ prepares opening =>
      cases replaces with
      | intro sameToo again stages serializes =>
          subst same sameToo
          obtain ⟨rebuilderSame, rfl⟩ := Prod.mk.inj (prepares.symm.trans again)
          obtain rfl := Except.ok.inj rebuilderSame
          exact (released_of_inRun opening stages).of_same
            ((Rebuilder.sameObjects_serialize _ _).run serializes).classpaths

/-- However a run ends, the classpath that it has made is closed, holds no archive open and refuses what it
is asked, and goes on to do so if the transformer opens no closed one; in a run over an archive it is so
before the new archive is put in place.  The log contexts are what they were before the run if the
transformer leaves them as it finds them. -/
theorem released_of_transform {outcome : Outcome Report}
    (run : transform host plan mode value elements before = (outcome, after)) :
    (∀ {number : Nat} {opened : Workspace}, Makes plan value elements before mode number opened →
      Released number after ∧
      (mode = .staged → ∀ {begun : Workspace}, Replaces host plan value elements before begun →
        Released number begun) ∧
      (host.Preserves ClosesOnly → ∀ {later : Workspace}, ClosesOnly after later →
        Refuses number later)) ∧
    (host.Preserves SameContexts → after.contexts = before.contexts) := by
  refine ⟨fun {number opened} makes => ?_, fun preserves => (preserves.run plan mode value elements).run run⟩
  obtain ⟨last, released, same, closes⟩ := exists_closing makes run
  have ended : Released number after := released.of_same same
  refine ⟨ended, fun staged begun replaces => ?_, fun preserves later further => ?_⟩
  · subst staged
    exact released_of_replaces makes replaces
  · have known : number < opened.classpaths.length := by
      cases makes with
      | inPlace _ opening => exact openClasspath_ok opening
      | staged _ _ _ opening => exact openClasspath_ok opening
    obtain ⟨context, held, _⟩ := closes preserves number _ (List.getElem?_eq_getElem known)
    rw [← same] at held
    exact ended.refuses_later (List.getElem?_eq_some_iff.1 held).1 further

/-! ### A run with a run inside -/

/-- A transformer that starts a run over a directory at every call. -/
def nestingHost : Host :=
  Session.host (fun _ host => do let _ ← transform host capitalPlan .inPlace (.text "w") []) 2

/-- A plan with a transformer that calls a procedure. -/
def callingPlan : Plan :=
  { cleanPlan with transformer := some (.ready ⟨"T", "T", ⟨[], .call 0 .nothing⟩⟩) }

theorem nestingHost_preserves {related : Workspace → Workspace → Prop} [Unwinding related] :
    nestingHost.Preserves related :=
  Session.preserves_host (fun _ _ preserves =>
    (preserves.run capitalPlan .inPlace (.text "w") []).bind fun _ => keeps_pure ()) 2

/-- The run over the archive is released before the swap and after it, with the run inside at an end. -/
theorem released_of_nested_run :
    ∃ report number opened begun after,
      transform nestingHost callingPlan .staged (.text "w/a.jar") []
        { (default : Workspace) with files := smallTree } = (.ok report, after) ∧
      Makes callingPlan (.text "w/a.jar") [] { (default : Workspace) with files := smallTree }
        .staged number opened ∧
      Replaces nestingHost callingPlan (.text "w/a.jar") []
        { (default : Workspace) with files := smallTree } begun ∧
      after.classpaths.length = 2 ∧ Released number begun ∧ Released number after ∧
      Refuses number after ∧ after.contexts = [] := by
  let start : Workspace := { (default : Workspace) with files := smallTree }
  have made : (transform nestingHost callingPlan .staged (.text "w/a.jar") [] start).2.classpaths.length =
      2 := by decide +kernel
  have answers : (match (transform nestingHost callingPlan .staged (.text "w/a.jar") [] start).1 with
      | .ok _ => true
      | .error _ => false) = true := by decide +kernel
  cases outcome : (transform nestingHost callingPlan .staged (.text "w/a.jar") [] start).1 with
  | error failure =>
      rw [outcome] at answers
      cases answers
  | ok report =>
      have run : transform nestingHost callingPlan .staged (.text "w/a.jar") [] start =
        (.ok report, (transform nestingHost callingPlan .staged (.text "w/a.jar") [] start).2) :=
        Prod.ext outcome rfl
      obtain ⟨number, opened, begun, makes, replaces⟩ := exists_replaces run
      obtain ⟨releases, leaves⟩ := released_of_transform run
      obtain ⟨released, before, later⟩ := releases makes
      exact ⟨report, number, opened, begun, _, run, makes, replaces, made, before rfl replaces, released,
        later nestingHost_preserves (refl_of ClosesOnly _), leaves nestingHost_preserves⟩

/-! ### A transformer that stays in a log context -/

/-- A transformer that enters a log context at every call, and leaves none. -/
def enteringHost : Host :=
  Session.host (fun _ _ => modify fun workspace =>
    { workspace with contexts := workspace.contexts ++ [[("k", .text "v")]] }) 1

/-- The run takes off what the transformer has entered last, and its own log context stays. -/
theorem contexts_of_entering_transform :
    (transform enteringHost callingPlan .inPlace (.text "w") [] classWorkspace).2.contexts ≠
      classWorkspace.contexts := by
  intro same
  have more : (transform enteringHost callingPlan .inPlace (.text "w") [] classWorkspace).2.contexts.length =
      2 := by decide +kernel
  rw [same] at more
  cases more

end Run
end ClassLoom
