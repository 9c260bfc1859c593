import ClassLoom.Proofs.Answering
import ClassLoom.Proofs.Calling
import ClassLoom.Proofs.Run.Staging

namespace ClassLoom

/-!
# How calls end for a run

A transformer that is a function of the class decides by its answer whether a run goes on after a class,
goes on and fails at its end, or stops there.  So how a run ends is told by what the transformer makes of
the classes, as long as nothing else that the run does can fail.
-/

open Files (FileTree)

/-! ## Transformers that compute -/

/-- A moment that has a date in an archive. -/
def Rebuild.Dated (moment : Files.Moment) : Prop := ∃ stamp, Rebuild.stampOf moment = .ok stamp

/-- A host whose transformers do nothing but compute a function of the class, print a function of it, and
take time, though not until after the last date that an archive can have. -/
structure Host.Calculates (host : Host) (respond : String → Bytes → Outcome Config.Value)
    (note : String → Bytes → String) : Prop where
  transform : ∀ (ready : Transformer.Ready) (loader : Option Nat) (className : String)
    (content : Bytes) (workspace : Workspace), ∃ moment, workspace.files.clock ≤ moment ∧
      (Rebuild.Dated workspace.files.clock → Rebuild.Dated moment) ∧
      host.transform ready loader className content workspace =
        (respond className content, { workspace with
          files := { workspace.files with clock := moment }
          printed := workspace.printed ++ note className content })
  construct : ∀ (procedure : Nat) (workspace : Workspace),
    (host.construct procedure workspace).2 = workspace

section Calculating

variable {host : Host} {respond : String → Bytes → Outcome Config.Value}
  {note : String → Bytes → String}

theorem Host.Calculates.computes (calculates : host.Calculates respond note) :
    host.Computes respond note where
  answer ready loader className content workspace := by
    obtain ⟨_, _, _, run⟩ := calculates.transform ready loader className content workspace
    rw [run]
  transform ready loader className content workspace := by
    obtain ⟨moment, later, _, run⟩ := calculates.transform ready loader className content workspace
    rw [run]
    exact fun quiet => ⟨quiet, rfl, moment, later, rfl⟩
  construct procedure workspace := by
    rw [calculates.construct procedure workspace]
    exact refl_of (Prints "") workspace

theorem Host.Calculates.leavesFiles (calculates : host.Calculates respond note) : host.LeavesFiles where
  transform ready loader className content workspace := by
    obtain ⟨moment, _, _, run⟩ := calculates.transform ready loader className content workspace
    rw [run]
    exact ⟨⟨moment, rfl⟩, id⟩
  construct procedure workspace := by
    rw [calculates.construct procedure workspace]
    exact ⟨⟨workspace.files.clock, rfl⟩, id⟩

end Calculating

/-! ## What happens besides -/

/-- Between two workspaces a text is printed and time passes, while classpaths and the transformer of an
invoker stay what they are. -/
structure Interim (number : Nat) (text : String) (before after : Workspace) : Prop where
  quiet : after.LogsToNoFile
  printed : after.printed = before.printed ++ text
  passes : before.files.TimePasses after.files
  dated : Rebuild.Dated before.files.clock → Rebuild.Dated after.files.clock
  classpaths : after.classpaths = before.classpaths
  prepared : Transformer.Prepared number before → Transformer.Prepared number after

namespace Interim

variable {number : Nat} {first second : String} {before middle after : Workspace}

theorem trans (one : Interim number first before middle) (two : Interim number second middle after) :
    Interim number (first ++ second) before after where
  quiet := two.quiet
  printed := by rw [two.printed, one.printed, String.append_assoc]
  passes := one.passes.trans two.passes
  dated := two.dated ∘ one.dated
  classpaths := two.classpaths.trans one.classpaths
  prepared := two.prepared ∘ one.prepared

theorem silent (one : Interim number first before middle) (two : Interim number "" middle after) :
    Interim number first before after := by
  have whole := one.trans two
  rwa [String.append_empty] at whole

theorem healthy (interim : Interim number first before after) (healthy : before.Healthy) :
    after.Healthy :=
  ⟨interim.passes.sound healthy.files, interim.quiet⟩

theorem at? (interim : Interim number first before after) (place : Files.Location) :
    after.files.at? place = before.files.at? place := interim.passes.at? place

end Interim

theorem Logged.interim {before after : Workspace} (logged : Logged before after) (number : Nat) :
    Interim number "" before after where
  quiet := logged.quiet
  printed := by rw [logged.printed, String.append_empty]
  passes := logged.files ▸ .refl _
  dated := logged.files ▸ id
  classpaths := logged.objects.classpaths
  prepared prepared := prepared.of_same logged.objects

theorem interim_changeInvoker {before : Workspace} (quiet : before.LogsToNoFile) (number : Nat)
    {change : Transformer.Invoker → Transformer.Invoker}
    (same : ∀ invoker, (change invoker).transformer = invoker.transformer) :
    Interim number "" before
      { before with invokers := before.invokers.modify number change } where
  quiet := quiet
  printed := String.append_empty.symm
  passes := .refl _
  dated := id
  classpaths := rfl
  prepared prepared := prepared.change same

/-! ## Calls -/

namespace Transformer

variable {host : Host} {respond : String → Bytes → Outcome Config.Value}
  {note : String → Bytes → String} {number : Nat} {before : Workspace}

/-- A specification that is a transformer, whatever is registered. -/
def Usable (host : Host) (spec : Option Plugin) : Prop :=
  ∀ workspace, ∃ ready, resolve host spec workspace = (.ok ready, workspace)

/-- The transformer of a new invoker is made, and is ready then. -/
theorem Usable.prepare_run {spec : Option Plugin} {loader : Option Nat} (usable : Usable host spec)
    (quiet : before.LogsToNoFile) (fresh : before.invokers[number]? = some (.new spec loader)) :
    ∃ ready after, Invoker.prepare host number before = (.ok ready, after) ∧
      Interim number "" before after ∧ Prepared number after := by
  obtain ⟨ready, resolved⟩ := usable before
  let made : Workspace := { before with
    invokers := before.invokers.modify number fun invoker => { invoker with transformer := some ready } }
  have prepared : Prepared number made := by
    refine ⟨ready, ?_⟩
    rw [List.getD_eq_getElem?_getD, List.getElem?_modify_eq, fresh]
    rfl
  have quietMade : made.LogsToNoFile := quiet
  obtain ⟨after, done, logged⟩ :=
    Log.logged_write quietMade made.logger .debug ("Using transformer " ++ ready.shown) [] none
  have interim := logged.interim number
  refine ⟨ready, after, ?_, ⟨interim.quiet, interim.printed, interim.passes, interim.dated,
    interim.classpaths, fun _ => interim.prepared prepared⟩, interim.prepared prepared⟩
  have known : before.invokers.getD number (.new none none) = .new spec loader := by
    rw [List.getD_eq_getElem?_getD, fresh, Option.getD_some]
  have found : Work.invoker number before = (.ok (before.invokers.getD number (.new none none)), before) := rfl
  rw [Invoker.prepare, bind_of_ok found, known]
  simp only [Invoker.new]
  rw [bind_of_ok resolved]
  change (Log.debug made.logger ("Using transformer " ++ ready.shown) >>= fun _ => pure ready) made = _
  rw [Log.debug, bind_of_ok done]
  rfl

/-- A call of a transformer that is ready answers what the transformer computes. -/
theorem Invoker.invoke_run (calculates : host.Calculates respond note) (prepared : Prepared number before)
    (quiet : before.LogsToNoFile) (className : String) (content : Bytes) :
    ∃ name after, Invoker.invoke host number className content before =
        (conclusion name className (respond className content), after) ∧
      Interim number (note className content) before after := by
  obtain ⟨ready, made⟩ := prepared.prepare_run host
  let loader := (before.invokers.getD number (.new none none)).loader
  obtain ⟨moment, later, dated, called⟩ := calculates.transform ready loader className content before
  let middle : Workspace := { before with
    files := { before.files with clock := moment }
    printed := before.printed ++ note className content }
  have calling : Interim number (note className content) before middle :=
    ⟨quiet, rfl, ⟨moment, later, rfl⟩, dated, rfl, id⟩
  refine ⟨ready.name, _, Invoker.invoke_eq made called, ?_⟩
  obtain ⟨change, same, counts⟩ := counted_eq number middle (upshot? (respond className content))
  rw [counts]
  exact calling.silent (interim_changeInvoker calling.quiet number same)

end Transformer

namespace Run

open Transformer (Prepared conclusion contentOf exists_of_conclusion)

variable {host : Host} {plan : Plan} {context : Context} {respond : String → Bytes → Outcome Config.Value}
  {note : String → Bytes → String}

/-- How the call on a class ends for a run: the run goes on, or goes on but fails at its end, or stops. -/
inductive Verdict where
  | passes | fails | stops
  deriving Repr, DecidableEq, Inhabited

/-- How an answer of the transformer ends for a run that stops at failures, or does not. -/
def verdict (failFast : Bool) : Outcome Config.Value → Verdict
  | .ok value =>
    match contentOf value with
    | .ok _ => .passes
    | .error _ => if failFast then .stops else .fails
  | .error failure => if failure.isOrdinary && !failFast then .fails else .stops

/-- The content of a class after its call. -/
def settled (respond : String → Bytes → Outcome Config.Value) (className : String) (content : Bytes) :
    Bytes :=
  match respond className content with
  | .ok (.octets out) => if out = [] then content else out
  | _ => content

theorem settled_of_answer {className : String} {content : Bytes} {value : Config.Value}
    {answer : Option Bytes} (answered : respond className content = .ok value)
    (read : contentOf value = .ok answer) :
    (substance answer).getD content = settled respond className content := by
  rw [settled, answered]
  cases value with
  | null =>
      obtain rfl := Except.ok.inj read
      rfl
  | octets out =>
      obtain rfl := Except.ok.inj read
      cases out with
      | nil => rfl
      | cons first rest => rfl
  | _ => cases read

/-- What the processing of a class comes to for a run, by the verdict on its call. -/
inductive Processes (host : Host) (plan : Plan) (context : Context) (report : Report)
    (candidate : Candidate) (target : Target) (settledAs : Bytes) (before called : Workspace) :
    Verdict → Prop
  | passed {answer : Option Bytes} : (substance answer).getD target.content = settledAs →
      (∀ {changed : Bool} {after : Workspace},
        writeBack context.mode plan.logger
          { target with transformed := substance answer, applied := true } called = (.ok changed, after) →
        ∃ next, next.failures = report.failures ∧
          process host plan context report candidate before =
            (.ok (next, some { target with transformed := substance answer, applied := true }), after)) →
      Processes host plan context report candidate target settledAs before called .passes
  | failed {next : Report} : next.failures ≠ [] →
      process host plan context report candidate before = (.ok (next, none), called) →
      Processes host plan context report candidate target settledAs before called .fails
  | stopped {failure : Failure} :
      process host plan context report candidate before = (.error failure, called) →
      Processes host plan context report candidate target settledAs before called .stops

/-- A failure of a call stops a run that stops at failures, and any other if it is none of the class. -/
theorem verdict_of_conclusion {name className : String} {failFast : Bool} {response : Outcome Config.Value}
    {failure : Failure} (failed : conclusion name className response = .error failure) :
    verdict failFast response =
      if !isTransformFailure failure || failFast then Verdict.stops else .fails := by
  cases response with
  | error cause =>
      obtain rfl := Except.error.inj failed
      cases cause with
      | interrupted => rfl
      | exited status => rfl
      | _ => cases failFast <;> rfl
  | ok value =>
      simp only [conclusion] at failed
      simp only [verdict]
      cases read : contentOf value with
      | ok content =>
          rw [read] at failed
          cases failed
      | error kind =>
          rw [read] at failed
          obtain rfl := Except.error.inj failed
          cases failFast <;> rfl

theorem process_run (calculates : host.Calculates respond note) (plan : Plan) (report : Report)
    {candidate : Candidate} {target : Target} {before resolved : Workspace}
    (prepared : Prepared context.invoker resolved) (quiet : resolved.LogsToNoFile)
    (resolves : Resolver.resolve ⟨context.mode, some context.classpath⟩ candidate before =
      (.ok target, resolved)) (fresh : target.applied = false) :
    ∃ called, Interim context.invoker (note target.className target.content) resolved called ∧
      Processes host plan context report candidate target
        (settled respond target.className target.content) before called
        (verdict plan.failFast (respond target.className target.content)) := by
  obtain ⟨name, called, invoked, interim⟩ :=
    Transformer.Invoker.invoke_run calculates prepared quiet target.className target.content
  cases concluded : conclusion name target.className (respond target.className target.content) with
  | error failure =>
      rw [verdict_of_conclusion concluded]
      rw [concluded] at invoked
      have start : process host plan context report candidate before = (do
          if !isTransformFailure failure || plan.failFast then throw failure
          logFailure plan.logger candidate.className failure
          return ({ report with
            presented := report.presented + 1
            failures := report.failures ++ [(candidate.className, failure)] }, none) :
          Work (Report × Option Target)) called := by
        rw [process, bind_of_ok resolves]
        exact Work.attempt_run invoked
      split
      next stops =>
        rw [if_pos stops] at start
        exact ⟨called, interim, .stopped start⟩
      next goes =>
        obtain ⟨after, done, logged⟩ : ∃ after, logFailure plan.logger candidate.className failure called =
            (.ok (), after) ∧ Logged called after := Log.logged_write interim.quiet _ _ _ _ _
        rw [if_neg goes] at start
        simp only at start
        rw [bind_of_ok done] at start
        exact ⟨after, interim.silent (logged.interim _), .failed (by simp) start⟩
  | ok answer =>
      obtain ⟨value, answered, read⟩ := exists_of_conclusion concluded
      rw [concluded] at invoked
      have start : process host plan context report candidate before = (do
          let target ← Work.ofOutcome (target.apply answer.content)
          if ← writeBack context.mode plan.logger target then
            return ({ report with
              presented := report.presented + 1, transformed := report.transformed + 1 }, some target)
          else return ({ report with
            presented := report.presented + 1, noop := report.noop + 1 }, some target) :
          Work (Report × Option Target)) called := by
        rw [process, bind_of_ok resolves]
        exact Work.attempt_run invoked
      have passes : verdict plan.failFast (respond target.className target.content) = .passes := by
        rw [answered, verdict, read]
      rw [passes]
      refine ⟨called, interim, .passed (settled_of_answer answered read) fun {changed after} written => ?_⟩
      simp only [Target.apply, fresh, Bool.false_eq_true, if_false, Work.ofOutcome, pure_bind] at start
      rw [bind_of_ok written] at start
      cases changed with
      | true =>
          refine ⟨_, ?_, start⟩
          rfl
      | false =>
          refine ⟨_, ?_, start⟩
          rfl

/-! ## Classes one after another -/

/-- Work over a list ends at the first item that stops it, or goes through, with what holds after each of
its steps, and with what holds after the last one. -/
theorem foldlM_verdicts {α ι : Type} {step : α → ι → Work α} {items : List ι} {verdicts : ι → Verdict}
    (holds : List ι → α → Workspace → Prop) (ends : List ι → Workspace → Prop)
    (goes : ∀ {past rest : List ι} {item : ι} {value : α} {state : Workspace},
      items = past ++ item :: rest → holds past value state → verdicts item ≠ .stops →
      ∃ next after, step value item state = (.ok next, after) ∧ holds (past ++ [item]) next after)
    (stops : ∀ {past rest : List ι} {item : ι} {value : α} {state : Workspace},
      items = past ++ item :: rest → holds past value state → verdicts item = .stops →
      ∃ failure after, step value item state = (.error failure, after) ∧ ends (past ++ [item]) after)
    {start : α} {before : Workspace} (first : holds [] start before) :
    (∃ past item rest, items = past ++ item :: rest ∧ (∀ item ∈ past, verdicts item ≠ .stops) ∧
        verdicts item = .stops ∧ ∃ failure after, items.foldlM step start before = (.error failure, after) ∧
          ends (past ++ [item]) after) ∨
      (∀ item ∈ items, verdicts item ≠ .stops) ∧
        ∃ value after, items.foldlM step start before = (.ok value, after) ∧ holds items value after := by
  have onward : ∀ (rest : List ι) {past : List ι} {start : α} {before : Workspace},
      items = past ++ rest → holds past start before →
      (∃ between item later, items = past ++ between ++ item :: later ∧
          (∀ item ∈ between, verdicts item ≠ .stops) ∧ verdicts item = .stops ∧
          ∃ failure after, rest.foldlM step start before = (.error failure, after) ∧
            ends (past ++ between ++ [item]) after) ∨
        (∀ item ∈ rest, verdicts item ≠ .stops) ∧
          ∃ value after, rest.foldlM step start before = (.ok value, after) ∧
            holds (past ++ rest) value after := by
    intro rest
    induction rest with
    | nil =>
        intro past start before _ held
        exact .inr ⟨nofun, start, before, rfl, (List.append_nil past).symm ▸ held⟩
    | cons item rest inductionHypothesis =>
        intro past start before whole held
        rw [List.foldlM_cons]
        by_cases halts : verdicts item = .stops
        · obtain ⟨failure, after, stopped, ended⟩ := stops whole held halts
          refine .inl ⟨[], item, rest, by simpa using whole, nofun, halts, failure, after,
            bind_of_error stopped, ?_⟩
          rwa [List.append_nil]
        · obtain ⟨next, middle, done, further⟩ := goes whole held halts
          rw [bind_of_ok done]
          rcases inductionHypothesis (by rw [whole, List.append_assoc]; rfl) further with
            ⟨between, stop, later, split, earlier, stopped⟩ | ⟨none, value, after, ended, last⟩
          · refine .inl ⟨item :: between, stop, later, ?_, List.forall_mem_cons.2 ⟨halts, earlier⟩, ?_⟩
            · rw [split, List.append_cons past item between]
            · rwa [List.append_cons past item between]
          · rw [List.append_assoc] at last
            exact .inr ⟨List.forall_mem_cons.2 ⟨halts, none⟩, value, after, ended, last⟩
  rcases onward items rfl first with ⟨past, item, rest, whole, stopped⟩ | ended
  · exact .inl ⟨past, item, rest, whole, stopped⟩
  · exact .inr ended

/-- How far a run has come that goes on: what its calls have printed, and whether one has failed. -/
structure Going (failFast : Bool) (respond : String → Bytes → Outcome Config.Value)
    (note : String → Bytes → String) (number : Nat) (printed : String) (calls : List (String × Bytes))
    (failures : List (String × Failure)) (workspace : Workspace) : Prop where
  prepared : Prepared number workspace
  printed : workspace.printed = printed ++ String.join (calls.map fun call => note call.1 call.2)
  failures : failures = [] ↔ ∀ call ∈ calls, verdict failFast (respond call.1 call.2) = .passes

namespace Going

variable {failFast : Bool} {number : Nat} {printed : String} {calls : List (String × Bytes)}
  {failures : List (String × Failure)} {before after : Workspace}

theorem start (prepared : Prepared number before) :
    Going failFast respond note number before.printed [] [] before :=
  ⟨prepared, String.append_empty.symm, iff_of_true rfl nofun⟩

theorem printed_call (going : Going failFast respond note number printed calls failures before)
    {className : String} {content : Bytes} (prints : after.printed = before.printed ++ note className content) :
    after.printed = printed ++
      String.join ((calls ++ [(className, content)]).map fun call => note call.1 call.2) := by
  rw [prints, going.printed, List.map_append, List.map_singleton, String.join_append, String.append_assoc]
  simp

/-- One more call. -/
theorem call (going : Going failFast respond note number printed calls failures before)
    {className : String} {content : Bytes} {later : List (String × Failure)}
    (prepared : Prepared number after) (prints : after.printed = before.printed ++ note className content)
    (ends : later = [] ↔ failures = [] ∧ verdict failFast (respond className content) = .passes) :
    Going failFast respond note number printed (calls ++ [(className, content)]) later after := by
  refine ⟨prepared, going.printed_call prints, ?_⟩
  · rw [ends, going.failures, List.forall_mem_append, List.forall_mem_singleton]

/-- Something else. -/
theorem other (going : Going failFast respond note number printed calls failures before)
    (prepared : Prepared number after) (prints : after.printed = before.printed) :
    Going failFast respond note number printed calls failures after :=
  ⟨prepared, prints.trans going.printed, going.failures⟩

end Going

/-- How work comes to its end that makes some calls: it stops at one of them, having made those before it,
or it makes all of them, and succeeds if they all pass. -/
inductive ComesTo {α : Type} (failFast : Bool) (respond : String → Bytes → Outcome Config.Value)
    (note : String → Bytes → String) (calls : List (String × Bytes)) (before after : Workspace) :
    Outcome α → Prop
  | stopped {past rest : List (String × Bytes)} {call : String × Bytes} {failure : Failure} :
      calls = past ++ call :: rest →
      (∀ call ∈ past, verdict failFast (respond call.1 call.2) ≠ .stops) →
      verdict failFast (respond call.1 call.2) = .stops → after.printed =
        before.printed ++ String.join ((past ++ [call]).map fun call => note call.1 call.2) →
      ComesTo failFast respond note calls before after (.error failure)
  | ended {outcome : Outcome α} :
      (∀ call ∈ calls, verdict failFast (respond call.1 call.2) ≠ .stops) →
      after.printed = before.printed ++ String.join (calls.map fun call => note call.1 call.2) →
      ((∃ value, outcome = .ok value) ↔
        ∀ call ∈ calls, verdict failFast (respond call.1 call.2) = .passes) →
      ComesTo failFast respond note calls before after outcome

namespace ComesTo

variable {α β : Type} {failFast : Bool} {calls : List (String × Bytes)} {before middle after : Workspace}
  {outcome : Outcome α}

/-- It succeeds if and only if all its calls pass. -/
theorem succeeds_iff (comes : ComesTo failFast respond note calls before after outcome) :
    (∃ value, outcome = .ok value) ↔
      ∀ call ∈ calls, verdict failFast (respond call.1 call.2) = .passes := by
  cases comes with
  | ended _ _ succeeds => exact succeeds
  | stopped whole _ stops _ =>
      constructor
      · rintro ⟨_, ⟨⟩⟩
      · intro all
        rw [all _ (by simp [whole])] at stops
        cases stops

/-- What is printed counts, and how it ends. -/
theorem congr {first last : Workspace} (comes : ComesTo failFast respond note calls first last outcome)
    (start : first.printed = before.printed) (finish : after.printed = last.printed) :
    ComesTo failFast respond note calls before after outcome := by
  cases comes with
  | stopped whole earlier stops printed =>
      exact .stopped whole earlier stops (by rw [finish, printed, start])
  | ended goes printed succeeds => exact .ended goes (by rw [finish, printed, start]) succeeds

/-- What follows, if it answers without a call, changes nothing about the end. -/
theorem bind {work : Work α} {next : α → Work β} {holds : Workspace → Prop}
    (comes : ComesTo failFast respond note calls before middle outcome)
    (run : work before = (outcome, middle))
    (goesOn : ∀ value, outcome = .ok value → ∃ result after, next value middle = (.ok result, after) ∧
      after.printed = middle.printed ∧ holds after) :
    ∃ ending after, (work >>= next) before = (ending, after) ∧
      ComesTo failFast respond note calls before after ending ∧
      ∀ result, ending = .ok result → holds after := by
  have ends := comes.succeeds_iff
  cases outcome with
  | error failure =>
      refine ⟨.error failure, middle, bind_of_error run, ?_, nofun⟩
      cases comes with
      | stopped whole earlier stops printed => exact .stopped whole earlier stops printed
      | ended goes printed _ =>
          refine .ended goes printed ⟨?_, fun all => ?_⟩
          · rintro ⟨_, ⟨⟩⟩
          · obtain ⟨_, failed⟩ := ends.2 all
            cases failed
  | ok value =>
      obtain ⟨result, after, done, same, held⟩ := goesOn value rfl
      refine ⟨.ok result, after, (bind_of_ok run).trans done, ?_, fun _ _ => held⟩
      cases comes with
      | ended goes printed _ =>
          exact .ended goes (same.trans printed) ⟨fun _ => ends.1 ⟨value, rfl⟩, fun _ => ⟨result, rfl⟩⟩

end ComesTo

/-! ## Opening a run -/

/-- A run whose classpath opens, whose filter compiles and whose transformer is usable does its work with
a transformer that is ready. -/
theorem inRun_run {α : Type} (usable : Transformer.Usable host plan.transformer) (mode : Mode)
    {elements : List Config.Value} (work : Context → Work α) {before opened : Workspace} {number : Nat}
    {filter : Pattern.PathFilter} (opens : openClasspath elements before = (.ok number, opened))
    (filters : Pattern.PathFilter.ofSetting plan.filter = .ok filter) (quiet : opened.LogsToNoFile) :
    ∃ context ready, context.mode = mode ∧ context.classpath = number ∧ context.filter = filter ∧
      Interim context.invoker "" opened ready ∧ Prepared context.invoker ready ∧
      inRun host plan mode elements work before =
        ((work context ready).1, ((Classpath.close number).run (work context ready).2).2) := by
  let added : Workspace := { opened with
    invokers := opened.invokers ++ [.new plan.transformer (some number)] }
  have fresh : added.invokers[opened.invokers.length]? = some (.new plan.transformer (some number)) := by
    simp [added]
  have quietAdded : added.LogsToNoFile := quiet
  obtain ⟨made, ready, prepares, interim, prepared⟩ := usable.prepare_run quietAdded fresh
  refine ⟨⟨mode, number, filter, opened.invokers.length⟩, ready, rfl, rfl, rfl, ⟨interim.quiet,
    interim.printed, interim.passes, interim.dated, interim.classpaths, fun _ => prepared⟩, prepared, ?_⟩
  rw [inRun, bind_of_ok opens]
  simp only [Work.ensuring, filters, Work.ofOutcome, pure_bind]
  have adds : Work.addInvoker (.new plan.transformer (some number)) opened =
      (.ok opened.invokers.length, added) := rfl
  rw [bind_of_ok adds, bind_of_ok prepares]
  rfl

theorem rootOf_of_isDirectory {path : Files.Path} {before : Workspace} (quiet : before.LogsToNoFile)
    (seen : before.files.isDirectory? path = .ok true) :
    ∃ after, Classpath.rootOf? path before = (.ok (some (.directory path)), after) ∧
      Logged before after := by
  obtain ⟨after, done, logged⟩ := Log.logged_write quiet before.logger .debug
    ("Adding classpath directory: " ++ path.toString) [] none
  refine ⟨after, ?_, logged⟩
  have asked : Work.ask (·.isDirectory? path) before = (.ok true, before) := Work.ask_of_ok seen
  have known : Log.globalLogger before = (.ok before.logger, before) := rfl
  rw [Classpath.rootOf?, bind_of_ok known, bind_of_ok asked]
  simp only [if_true]
  rw [Log.debug, bind_of_ok done]
  rfl

theorem rootOf_of_isArchiveFile {path : Files.Path} {before : Workspace} (quiet : before.LogsToNoFile)
    (bare : before.files.isDirectory? path = .ok false) (seen : before.files.isFile? path = .ok true)
    (packed : Classpath.isArchiveFile before.files path.toString = .ok true) :
    ∃ after, Classpath.rootOf? path before = (.ok (some (.archive path none)), after) ∧
      Logged before after := by
  obtain ⟨after, done, logged⟩ := Log.logged_write quiet before.logger .debug
    ("Adding classpath archive: " ++ path.toString) [] none
  refine ⟨after, ?_, logged⟩
  have askedDirectory : Work.ask (·.isDirectory? path) before = (.ok false, before) := Work.ask_of_ok bare
  have askedFile : Work.ask (·.isFile? path) before = (.ok true, before) := Work.ask_of_ok seen
  have known : Log.globalLogger before = (.ok before.logger, before) := rfl
  rw [Classpath.rootOf?, bind_of_ok known, bind_of_ok askedDirectory]
  simp only [Bool.false_eq_true, if_false]
  rw [bind_of_ok askedFile]
  simp only [if_true]
  rw [Work.files_bind, packed]
  simp only [Work.ofOutcome, pure_bind, if_true]
  rw [Log.debug, bind_of_ok done]
  rfl

/-- A classpath of one element. -/
theorem openClasspath_single {text : String} {root : Classpath.Root} {before named : Workspace}
    (names : Classpath.rootOf? (Files.Path.ofString text) before = (.ok (some root), named)) :
    openClasspath [.text text] before =
      (.ok named.classpaths.length,
        { named with classpaths := named.classpaths ++ [⟨[root], false⟩] }) := by
  simp only [openClasspath, elementPaths, Classpath.rootsOf, List.filterMapM_cons, List.filterMapM_nil,
    bind_assoc]
  rw [bind_of_ok names]
  rfl

end Run
end ClassLoom
