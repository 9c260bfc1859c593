import ClassLoom.Proofs.Answering
import ClassLoom.Proofs.Run.Course
import ClassLoom.Proofs.Run.Failing

namespace ClassLoom

/-!
# Classes that are presented

A run presents its classes one after another, each in the state that those before it have left.  What the
transformer makes of a class is told by that state, and a class is complained of if the transformer fails
on it there.

Of two runs that differ in nothing but what they do about a failure, one stops at the first class that is
complained of, and the other has done the same until then.  If it comes to its end, its list of failures
is that of all complaints.
-/

/-- The class that the failure of a call is about. -/
def Failure.className? : Failure → Option String
  | .transformerRaised _ className _ => some className
  | .transformerAnswered _ className _ => some className
  | _ => none

theorem Failure.className?_eq_none_iff {failure : Failure} :
    failure.className? = none ↔ Run.isTransformFailure failure = false := by
  cases failure with
  | transformerRaised transformer className cause => exact iff_of_false nofun nofun
  | transformerAnswered transformer className kind => exact iff_of_false nofun nofun
  | _ => exact iff_of_true rfl rfl

namespace Run

open Failure (Foreseen Impersonal)
open Files (FileTree Path)

/-- The plan, but that the run stops at the first class that fails. -/
def Plan.stopping (plan : Plan) : Plan := { plan with failFast := true }

/-- The plan, but that the run goes on after a class that fails. -/
def Plan.going (plan : Plan) : Plan := { plan with failFast := false }

/-- A class as a run presents it, in the state in which it does. -/
structure Presented where
  candidate : Candidate
  state : Workspace

/-- Resolve a candidate and hand it to the transformer. -/
def call (host : Host) (context : Context) (candidate : Candidate) : Work Transformer.Answer := do
  let target ← Resolver.resolve ⟨context.mode, some context.classpath⟩ candidate
  Transformer.Invoker.invoke host context.invoker target.className target.content

/-- The failure of the transformer on a class that is presented, with the name of the class. -/
def complaint (host : Host) (context : Context) (presented : Presented) : Option (String × Failure) :=
  match (call host context presented.candidate presented.state).1 with
  | .ok _ => none
  | .error failure =>
    if isTransformFailure failure then some (presented.candidate.className, failure) else none

variable {host : Host} {plan : Plan} {context : Context} {before after : Workspace}

/-- A call fails with the name of its class, or with a failure that is none of the class. -/
theorem className_of_invoke {number : Nat} {className : String} {content : Bytes} {failure : Failure}
    (run : Transformer.Invoker.invoke host number className content before = (.error failure, after))
    (personal : isTransformFailure failure = true) : failure.className? = some className := by
  have fails : FailsAs (fun failure => isTransformFailure failure = true →
      failure.className? = some className) (Transformer.Invoker.invoke host number className content) := by
    have innocent : ∀ failure : Failure, failure.Impersonal → isTransformFailure failure = true →
        failure.className? = some className := fun failure impersonal personal =>
      absurd (personal.symm.trans (isTransformFailure_of_impersonal impersonal)) nofun
    refine (((admits_impersonal host).prepare number).mono innocent).bind fun ready => ?_
    refine FailsAs.bind (FailsAs.get.bind fun _ => .pure _) fun invoker => ?_
    have calls : FailsAs (fun _ => True)
        (host.transform ready invoker.loader className content) := fun _ _ _ _ => trivial
    refine calls.attempt fun outcome _ => ?_
    cases outcome with
    | error failure =>
        simp only
        split
        · exact (FailsAs.modify _).bind fun _ => .throw fun _ => rfl
        next interrupted =>
          exact .throw (innocent failure (impersonal_of_interrupted (Bool.eq_false_iff.2 interrupted)))
    | ok value =>
        simp only
        split
        · exact (FailsAs.modify _).bind fun _ => .throw fun _ => rfl
        · exact (FailsAs.modify _).bind fun _ => .pure _
  exact fails run personal

theorem className_of_resolve {resolver : Resolver} {candidate : Candidate} {target : Target}
    (run : resolver.resolve candidate before = (.ok target, after)) :
    target.className = candidate.className := by
  rcases resolver with ⟨mode, classpath⟩
  cases mode with
  | inPlace =>
      obtain ⟨_, _, _, answer⟩ := bind_ok run
      exact Except.ok.inj (pure_ok answer).1 ▸ rfl
  | staged =>
      cases classpath with
      | none => cases (throw_error run).1
      | some number =>
          obtain ⟨_, _, _, answer⟩ := bind_ok run
          exact Except.ok.inj (pure_ok answer).1 ▸ rfl

/-! ## One class -/

/-- What there is to a call on a candidate: it is not resolved, or it is and the transformer is called. -/
theorem call_cases (host : Host) (context : Context) (candidate : Candidate) (before : Workspace) :
    (∃ failure after, failure.Impersonal ∧
      Resolver.resolve ⟨context.mode, some context.classpath⟩ candidate before = (.error failure, after) ∧
      complaint host context ⟨candidate, before⟩ = none) ∨
    ∃ target found outcome after,
      Resolver.resolve ⟨context.mode, some context.classpath⟩ candidate before = (.ok target, found) ∧
      Transformer.Invoker.invoke host context.invoker target.className target.content found =
        (outcome, after) ∧
      (call host context candidate before).1 = outcome := by
  rcases resolving : Resolver.resolve ⟨context.mode, some context.classpath⟩ candidate before with
    ⟨answer, found⟩
  cases answer with
  | error failure =>
      have impersonal := (failsAs_resolve _ candidate resolving).impersonal
      refine .inl ⟨failure, found, impersonal, rfl, ?_⟩
      have ended : (call host context candidate before).1 = .error failure := by
        rw [call, bind_of_error resolving]
      rw [complaint, ended]
      exact if_neg (Bool.eq_false_iff.1 (isTransformFailure_of_impersonal impersonal))
  | ok target =>
      rcases calling : Transformer.Invoker.invoke host context.invoker target.className target.content
        found with ⟨outcome, last⟩
      refine .inr ⟨target, found, outcome, last, rfl, calling, ?_⟩
      rw [call, bind_of_ok resolving, calling]

/-- A class of which there is no complaint is processed in the same way whether or not a run goes on after
failures, and it adds none to the report. -/
theorem process_of_uncomplained {candidate : Candidate}
    (uncomplained : complaint host context ⟨candidate, before⟩ = none) (report : Report) :
    process host plan.stopping context report candidate before =
        process host plan.going context report candidate before ∧
      ∀ next target last, process host plan.going context report candidate before =
        (.ok (next, target), last) → next.failures = report.failures := by
  rcases call_cases host context candidate before with
    ⟨failure, found, _, resolving, _⟩ | ⟨target, found, outcome, last, resolving, calling, called⟩
  · rw [process, process, bind_of_error resolving, bind_of_error resolving]
    exact ⟨rfl, fun _ _ _ run => nomatch run⟩
  · rw [process, process, bind_of_ok resolving, bind_of_ok resolving, Work.attempt_run calling,
      Work.attempt_run calling]
    cases outcome with
    | error failure =>
        have impersonal : isTransformFailure failure = false := by
          rw [complaint, called] at uncomplained
          simpa using uncomplained
        simp only [impersonal, Bool.not_false, Bool.true_or, if_true]
        exact ⟨rfl, fun _ _ _ run => nomatch run⟩
    | ok answer =>
        refine ⟨rfl, fun next made last run => ?_⟩
        obtain ⟨applied, _, _, writing⟩ := bind_ok run
        obtain ⟨changed, _, _, reported⟩ := bind_ok writing
        split at reported
        · obtain ⟨same, _⟩ := pure_ok reported
          exact (Prod.mk.inj (Except.ok.inj same)).1 ▸ rfl
        · obtain ⟨same, _⟩ := pure_ok reported
          exact (Prod.mk.inj (Except.ok.inj same)).1 ▸ rfl

/-- A class that is complained of ends a run that stops, and is remembered by one that goes on. -/
theorem process_of_complaint {candidate : Candidate} {className : String} {failure : Failure}
    (complained : complaint host context ⟨candidate, before⟩ = some (className, failure))
    (report : Report) :
    failure.className? = some className ∧ ∃ called logged,
      process host plan.stopping context report candidate before = (.error failure, called) ∧
      process host plan.going context report candidate before = (.ok ({ report with
        presented := report.presented + 1
        failures := report.failures ++ [(className, failure)] }, none), logged) := by
  rcases call_cases host context candidate before with
    ⟨_, _, _, _, none⟩ | ⟨target, found, outcome, called, resolving, calling, same⟩
  · rw [none] at complained
    cases complained
  · rw [complaint, same] at complained
    cases outcome with
    | ok answer => cases complained
    | error cause =>
        simp only at complained
        split at complained
        next personal =>
          obtain ⟨rfl, rfl⟩ := Prod.mk.inj (Option.some.inj complained)
          refine ⟨className_of_resolve resolving ▸ className_of_invoke calling personal, called, ?_⟩
          rw [process, process, bind_of_ok resolving, bind_of_ok resolving, Work.attempt_run calling,
            Work.attempt_run calling]
          simp only [personal, Bool.not_true, Bool.false_or]
          exact ⟨_, rfl, rfl⟩
        next impersonal => cases complained

/-- The complaint of a class, if there is one, is added to the report of a run that goes on. -/
theorem failures_of_process {report next : Report} {candidate : Candidate} {target : Option Target}
    (run : process host plan.going context report candidate before = (.ok (next, target), after)) :
    next.failures = report.failures ++ (complaint host context ⟨candidate, before⟩).toList := by
  cases complained : complaint host context ⟨candidate, before⟩ with
  | none =>
      rw [(process_of_uncomplained complained report).2 _ _ _ run]
      exact (List.append_nil _).symm
  | some complaint =>
      obtain ⟨_, _, _, _, went⟩ := process_of_complaint complained report
      rw [went] at run
      obtain ⟨same, _⟩ := Prod.mk.inj run
      obtain ⟨rfl, _⟩ := Prod.mk.inj (Except.ok.inj same)
      rfl

/-! ## Items one after another -/

section Items

variable {α ι : Type}

/-- The items that steps one after another come to, each in the state in which it is found, up to the
first step that fails. -/
def moments (step : α → ι → Work α) : List ι → α → Workspace → List (ι × Workspace)
  | [], _, _ => []
  | item :: rest, value, state =>
    (item, state) :: match step value item state with
      | (.ok next, after) => moments step rest next after
      | (.error _, _) => []

theorem moments_of_ok {step : α → ι → Work α} {item : ι} {value next : α}
    (done : step value item before = (.ok next, after)) (rest : List ι) :
    moments step (item :: rest) value before = (item, before) :: moments step rest next after := by
  rw [moments, done]

theorem moments_of_error {step : α → ι → Work α} {item : ι} {value : α} {failure : Failure}
    (failed : step value item before = (.error failure, after)) (rest : List ι) :
    moments step (item :: rest) value before = [(item, before)] := by
  rw [moments, failed]

/-- A way to stop at items that are complained of, and one to go on after them with the complaint in a
list.  Otherwise they are the same. -/
structure Parts (stopping going : α → ι → Work α) (listed : α → List (String × Failure))
    (complains : ι × Workspace → Option (String × Failure)) (holds : α → Prop) : Prop where
  same : ∀ {value : α} {item : ι} {state : Workspace}, holds value → complains (item, state) = none →
    stopping value item state = going value item state
  stops : ∀ {value : α} {item : ι} {state : Workspace} {className : String} {failure : Failure},
    holds value → complains (item, state) = some (className, failure) →
    failure.className? = some className ∧ ∃ after, stopping value item state = (.error failure, after)
  lists : ∀ {value next : α} {item : ι} {state after : Workspace}, holds value →
    going value item state = (.ok next, after) →
    holds next ∧ listed next = listed value ++ (complains (item, state)).toList

namespace Parts

variable {stopping going : α → ι → Work α} {listed : α → List (String × Failure)}
  {complains : ι × Workspace → Option (String × Failure)} {holds : α → Prop}

/-- Steps that go on come to a list of all complaints. -/
theorem listed_of_foldlM (parts : Parts stopping going listed complains holds) {items : List ι}
    {start final : α} (held : holds start)
    (run : items.foldlM going start before = (.ok final, after)) :
    listed final = listed start ++ (moments going items start before).filterMap complains := by
  induction items generalizing start before with
  | nil =>
      obtain rfl := Except.ok.inj (pure_ok run).1
      exact (List.append_nil _).symm
  | cons item rest inductionHypothesis =>
      rw [List.foldlM_cons] at run
      obtain ⟨next, middle, done, further⟩ := bind_ok run
      obtain ⟨stays, lists⟩ := parts.lists held done
      rw [inductionHypothesis stays further, lists, moments_of_ok done, List.append_assoc]
      cases complained : complains (item, before) with
      | none => rw [List.filterMap_cons_none complained, Option.toList_none, List.nil_append]
      | some complaint =>
          rw [List.filterMap_cons_some complained, Option.toList_some, List.singleton_append]

/-- Steps that stop and steps that go on are the same if nothing is complained of.  Otherwise they are the
same up to the first complaint, at which those that stop fail. -/
theorem compare (parts : Parts stopping going listed complains holds) (items : List ι) {start : α}
    (held : holds start) (before : Workspace) :
    items.foldlM stopping start before = items.foldlM going start before ∨
      ∃ earlier here later className failure after,
        moments stopping items start before = earlier ++ [here] ∧
        moments going items start before = earlier ++ here :: later ∧
        (∀ moment ∈ earlier, complains moment = none) ∧
        complains here = some (className, failure) ∧ failure.className? = some className ∧
        items.foldlM stopping start before = (.error failure, after) := by
  induction items generalizing start before with
  | nil => exact .inl rfl
  | cons item rest inductionHypothesis =>
      rw [List.foldlM_cons, List.foldlM_cons]
      cases complained : complains (item, before) with
      | some complaint =>
          obtain ⟨className, failure⟩ := complaint
          obtain ⟨about, after, stopped⟩ := parts.stops held complained
          refine .inr ⟨[], (item, before), (moments going (item :: rest) start before).tail, className,
            failure, after, moments_of_error stopped rest, ?_, List.forall_mem_nil _, complained, about,
            bind_of_error stopped⟩
          rw [moments, List.tail_cons, List.nil_append]
      | none =>
          have same := parts.same held complained
          rcases stage : going start item before with ⟨outcome, middle⟩
          cases outcome with
          | error failure =>
              rw [bind_of_error (same.trans stage), bind_of_error stage]
              exact .inl rfl
          | ok next =>
              rw [bind_of_ok (same.trans stage), bind_of_ok stage, moments_of_ok (same.trans stage),
                moments_of_ok stage]
              rcases inductionHypothesis (parts.lists held stage).1 middle with whole |
                ⟨earlier, here, later, className, failure, after, stopped, went, clear, further⟩
              · exact .inl whole
              · refine .inr ⟨(item, before) :: earlier, here, later, className, failure, after, ?_, ?_,
                  List.forall_mem_cons.2 ⟨complained, clear⟩, further⟩
                · rw [stopped, List.cons_append]
                · rw [went, List.cons_append]

end Parts

end Items

/-! ### Classes in a directory, and in an archive -/

/-- A candidate as it is presented, if the filter accepts it. -/
def presentedFile (context : Context) (moment : Candidate × Workspace) : Option Presented :=
  if context.filter.accepts moment.1.filePath.toString then some ⟨moment.1, moment.2⟩ else none

/-- An entry as it is presented, if it is a class that the filter accepts at its path. -/
def presentedEntry (context : Context) (rebuilder : Rebuild.Rebuilder) (moment : Zip.Member × Workspace) :
    Option Presented :=
  let name := moment.1.name
  if isManifestName name || !isClassName name then none
  else match (rebuilder.pathFor name moment.2).1 with
    | .ok path =>
      if context.filter.accepts path.toString then
        some ⟨⟨name, classOfResource name, path⟩, moment.2⟩
      else none
    | .error _ => none

theorem parts_visitCandidate (host : Host) (plan : Plan) (context : Context) :
    Parts (visitCandidate host plan.stopping context) (visitCandidate host plan.going context)
      Report.failures (fun moment => (presentedFile context moment).bind (complaint host context))
      fun _ => True where
  same {report candidate state} _ uncomplained := by
    unfold visitCandidate
    split
    next accepted =>
      rw [presentedFile, if_pos accepted] at uncomplained
      rw [run_bind, run_bind, (process_of_uncomplained uncomplained report).1]
    · rfl
  stops {report candidate state className failure} _ complained := by
    rw [presentedFile] at complained
    split at complained
    next accepted =>
      obtain ⟨about, after, _, stopped, _⟩ := process_of_complaint complained report
      refine ⟨about, after, ?_⟩
      rw [visitCandidate, if_pos accepted]
      exact bind_of_error stopped
    · cases complained
  lists {report next candidate state after} _ done := by
    refine ⟨trivial, ?_⟩
    unfold visitCandidate at done
    rw [presentedFile]
    split
    next accepted =>
      rw [if_pos accepted] at done
      obtain ⟨⟨made, target⟩, _, processed, answer⟩ := bind_ok done
      obtain rfl := Except.ok.inj (pure_ok answer).1
      exact failures_of_process processed
    next rejected =>
      rw [if_neg rejected] at done
      obtain rfl := Except.ok.inj (pure_ok done).1
      simp

/-- Where an entry is placed is the same for all rebuilders that have staged something of one. -/
theorem Remembers.pathFor {rebuilder next : Rebuild.Rebuilder} (remembers : Remembers rebuilder next)
    (name : String) : next.pathFor name = rebuilder.pathFor name := by
  obtain ⟨staged, rfl⟩ := remembers
  rfl

/-- A class whose path is found and accepted is presented. -/
theorem presentedEntry_of_pathFor {rebuilder : Rebuild.Rebuilder} {member : Zip.Member} {path : Path}
    {state : Workspace} (ordinary : isManifestName member.name = false)
    (placed : rebuilder.pathFor member.name state = (.ok path, state)) :
    presentedEntry context rebuilder (member, state) =
      if isClassName member.name && context.filter.accepts path.toString then
        some ⟨⟨member.name, classOfResource member.name, path⟩, state⟩ else none := by
  unfold presentedEntry
  simp only [ordinary, placed, Bool.false_or]
  cases isClassName member.name with
  | false => rfl
  | true => rfl

theorem isClassName_cases {name : String} (isClass : isClassName name = true) :
    isDirectoryName name = false ∧ checkName name = .ok () := by
  rw [isClassName, Bool.and_eq_true, Bool.not_eq_true'] at isClass
  refine ⟨isClass.1, ?_⟩
  rw [checkName, if_neg]
  intro empty
  rw [eq_of_beq empty] at isClass
  exact absurd isClass.2 (by decide)

/-- An entry that is presented is staged as a class. -/
theorem stageEntry_of_presented (host : Host) (plan : Plan) {rebuilder : Rebuild.Rebuilder}
    {member : Zip.Member} {state : Workspace} {presented : Presented}
    (shown : presentedEntry context rebuilder (member, state) = some presented)
    (opened : Classpath.OpenArchive) {staging : Staging} (remembers : Remembers rebuilder staging.rebuilder) :
    ∃ path, presented = ⟨⟨member.name, classOfResource member.name, path⟩, state⟩ ∧
      stageEntry host plan context opened staging member state =
        stageClass host plan context staging member path state := by
  unfold presentedEntry at shown
  simp only at shown
  split at shown
  · cases shown
  next plain =>
    rw [Bool.or_eq_true, not_or, Bool.not_eq_true, Bool.not_eq_true, Bool.not_eq_false'] at plain
    obtain ⟨ordinary, isClass⟩ := plain
    obtain ⟨leaf, named⟩ := isClassName_cases isClass
    rcases placing : rebuilder.pathFor member.name state with ⟨outcome, last⟩
    obtain rfl := Rebuild.pathFor_pure placing
    rw [placing] at shown
    cases outcome with
    | error failure => cases shown
    | ok path =>
        simp only at shown
        split at shown
        next accepted =>
          obtain rfl := Option.some.inj shown
          refine ⟨path, rfl, ?_⟩
          rw [stageEntry, if_neg (Bool.eq_false_iff.1 ordinary), named, Work.ofOutcome, pure_bind,
            if_neg (Bool.eq_false_iff.1 leaf), bind_of_ok (remembers.pathFor _ ▸ placing),
            if_pos (by rw [isClass, accepted]; rfl)]
        · cases shown

theorem parts_stageEntry (host : Host) (plan : Plan) (context : Context)
    (opened : Classpath.OpenArchive) (rebuilder : Rebuild.Rebuilder) :
    Parts (stageEntry host plan.stopping context opened) (stageEntry host plan.going context opened)
      (fun staging => staging.report.failures)
      (fun moment => (presentedEntry context rebuilder moment).bind (complaint host context))
      fun staging => Remembers rebuilder staging.rebuilder where
  same {staging member state} remembers uncomplained := by
    simp only [stageEntry]
    by_cases manifest : isManifestName member.name
    · rw [if_pos manifest, if_pos manifest]
    rw [if_neg manifest, if_neg manifest]
    rcases checking : Work.ofOutcome (checkName member.name) state with ⟨_ | allowed, last⟩
    · rw [bind_of_error checking, bind_of_error checking]
    rw [bind_of_ok checking, bind_of_ok checking]
    by_cases folder : isDirectoryName member.name
    · rw [if_pos folder, if_pos folder]
    rw [if_neg folder, if_neg folder]
    obtain ⟨rfl, -⟩ := Work.ofOutcome_cases checking
    rcases placing : staging.rebuilder.pathFor member.name last with ⟨_ | path, after⟩
    · rw [bind_of_error placing, bind_of_error placing]
    obtain rfl := Rebuild.pathFor_pure placing
    rw [bind_of_ok placing, bind_of_ok placing]
    rw [remembers.pathFor] at placing
    rw [presentedEntry_of_pathFor (Bool.eq_false_iff.2 manifest) placing] at uncomplained
    by_cases accepted : isClassName member.name && context.filter.accepts path.toString
    · rw [if_pos accepted] at uncomplained ⊢
      rw [if_pos accepted, stageClass, stageClass, run_bind, run_bind,
        (process_of_uncomplained uncomplained staging.report).1]
    · rw [if_neg accepted, if_neg accepted]
  stops {staging member state className failure} remembers complained := by
    obtain ⟨presented, shown, complained⟩ := Option.bind_eq_some_iff.1 complained
    obtain ⟨path, rfl, staged⟩ := stageEntry_of_presented host plan.stopping shown opened
      remembers
    obtain ⟨about, after, _, stopped, _⟩ := process_of_complaint complained staging.report
    refine ⟨about, after, ?_⟩
    rw [staged, stageClass]
    exact bind_of_error stopped
  lists {staging next member state after} remembers done := by
    have step := entryStaged_of_run done
    have further : Remembers rebuilder next.rebuilder := by
      obtain ⟨first, same⟩ := remembers
      obtain ⟨second, again⟩ := step.remembers
      exact ⟨second, by rw [again, same]⟩
    refine ⟨further, ?_⟩
    cases step with
    | manifest described _ =>
        rw [presentedEntry]
        simp [described]
    | directory _ folder _ =>
        have leafless : isClassName member.name = false := by simp [isClassName, folder]
        rw [presentedEntry]
        simp [leafless]
    | @accepted path _ _ ordinary _ accepted placed staged =>
        rw [remembers.pathFor] at placed
        rw [presentedEntry_of_pathFor ordinary placed, if_pos accepted]
        obtain ⟨report, target, processed, ends⟩ := stageClass_ok staged
        have same : next.report.failures = report.failures := by
          rcases ends with ⟨_, rfl⟩ | ⟨_, _, _, _, rfl⟩
          · rfl
          · rfl
        rw [same]
        exact failures_of_process processed
    | @copied path _ _ _ ordinary _ passed placed _ =>
        rw [remembers.pathFor] at placed
        rw [presentedEntry_of_pathFor ordinary placed, if_neg (Bool.eq_false_iff.1 passed),
          Report.failures_withCopy]
        exact (List.append_nil _).symm

end Run
end ClassLoom
