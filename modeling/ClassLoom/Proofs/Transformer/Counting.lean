import ClassLoom.Proofs.Answering
import ClassLoom.Proofs.Run.Failing

namespace ClassLoom
namespace Transformer

/-!
# What an invoker counts

An invoker is used step by step: its transformer is resolved, it is called on a class, it tells what it has
counted, and it begins to count anew.  A transformer may use the invoker that calls it, so there may be further
steps between the beginning of a call and its end.

A call that answers, or that fails as a failure of its transformer, is counted when it ends.  An interruption goes
through without being counted, and so does a call whose transformer cannot be resolved.  After every step, the
counts add up to the calls that have ended in one of the two ways since the counting began; and a transformer that
has been resolved is not resolved again.
-/

open Config (Value)

variable {host : Host} {number : Nat} {before middle after : Workspace}

/-! ## The use of an invoker -/

/-- What is seen of the use of an invoker. -/
inductive Event where
  /-- The transformer has been asked for. -/
  | prepared (outcome : Outcome Ready)
  /-- A call has failed before there was a transformer to be called. -/
  | refused (className : String) (given : Bytes) (outcome : Outcome Answer)
  /-- The transformer is called. -/
  | called (ready : Ready) (className : String) (given : Bytes)
  /-- A call has ended, after the transformer answered or failed. -/
  | ended (className : String) (given : Bytes) (answered : Outcome Value) (outcome : Outcome Answer)
  | told (statistics : Value)
  | reset

namespace Event

/-- The outcome of a call that ends. -/
def outcome? : Event → Option (Outcome Answer)
  | .refused _ _ outcome => some outcome
  | .ended _ _ _ outcome => some outcome
  | _ => none

/-- A call ends with an answer, or with a failure of the transformer. -/
def isCounted (event : Event) : Bool :=
  match event.outcome? with
  | some (.ok _) => true
  | some (.error failure) => Run.isTransformFailure failure
  | none => false

def isReset : Event → Bool
  | .reset => true
  | _ => false

/-- The transformer that an event shows to be resolved. -/
def ready? : Event → Option Ready
  | .prepared (.ok ready) => some ready
  | .called ready _ _ => some ready
  | _ => none

/-- A transformer is the one that is asked for, or called. -/
def IsServedBy (ready : Ready) : Event → Prop
  | .prepared outcome => outcome = .ok ready
  | .refused _ _ _ => False
  | .called other _ _ => other = ready
  | _ => True

/-- An answer has the octets that the transformer has answered, or no content if there are none. -/
def IsTruthful : Event → Prop
  | .ended _ _ answered (.ok answer) =>
    answer.content = none ∧ (answered = .ok .null ∨ answered = .ok (.octets [])) ∨
      ∃ content, content ≠ [] ∧ answer.content = some content ∧ answered = .ok (.octets content)
  | _ => True

/-- What is told is what an invoker has counted. -/
def TellsOf (invoker : Invoker) : Event → Prop
  | .told statistics => statistics = invoker.statistics
  | _ => True

/-- An event that counts nothing, and says nothing of answers and counts. -/
structure IsSilent (event : Event) : Prop where
  goesOn : event.isReset = false
  uncounted : event.isCounted = false
  truthful : event.IsTruthful
  tells : ∀ invoker, event.TellsOf invoker

end Event

/-- How many calls have ended with an answer, or with a failure of the transformer, since the last reset. -/
def callsSinceReset (events : List Event) : Nat :=
  (events.reverse.takeWhile fun event => !event.isReset).countP Event.isCounted

/-- An invoker is the same. -/
def SameInvoker (number : Nat) (before after : Workspace) : Prop :=
  after.invokers[number]? = before.invokers[number]?

/-- The making of transformers leaves an invoker alone. -/
def Host.Spares (host : Host) (number : Nat) : Prop :=
  ∀ procedure : Nat, Keeps (SameInvoker number) (host.construct procedure)

/-- The use of an invoker, with the workspace after each event.  What transformers do is any work that is such
a use again, and the rest of the workspace may change in any way between the events. -/
inductive Course (number : Nat) : Workspace → List (Event × Workspace) → Workspace → Prop where
  | elsewhere {before after : Workspace} (same : SameInvoker number before after) :
      Course number before [] after
  | append {before middle after : Workspace} {first second : List (Event × Workspace)}
      (one : Course number before first middle) (two : Course number middle second after) :
      Course number before (first ++ second) after
  | prepared {host : Host} {before after : Workspace} {outcome : Outcome Ready}
      (spares : Host.Spares host number) (run : Invoker.prepare host number before = (outcome, after)) :
      Course number before [(.prepared outcome, after)] after
  | refused {host : Host} {before middle after : Workspace} {failure : Failure} {className : String}
      {given : Bytes} {outcome : Outcome Answer} (spares : Host.Spares host number)
      (unready : Invoker.prepare host number before = (.error failure, middle))
      (run : Invoker.invoke host number className given before = (outcome, after)) :
      Course number before [(.refused className given outcome, after)] after
  | call {host : Host} {before middle called after : Workspace} {ready : Ready} {className : String}
      {given : Bytes} {answered : Outcome Value} {within : List (Event × Workspace)} {outcome : Outcome Answer}
      (spares : Host.Spares host number)
      (readies : Invoker.prepare host number before = (.ok ready, middle))
      (calls : host.transform ready (middle.invokers.getD number (.new none none)).loader className given middle =
        (answered, called))
      (uses : Course number middle within called)
      (run : Invoker.invoke host number className given before = (outcome, after)) :
      Course number before
        ((.called ready className given, middle) :: within ++ [(.ended className given answered outcome, after)])
        after
  | told {before after : Workspace} {statistics : Value}
      (run : (do return (← Work.invoker number).statistics : Work Value) before = (.ok statistics, after)) :
      Course number before [(.told statistics, after)] after
  | reset {before after : Workspace}
      (run : Work.changeInvoker number Invoker.reset before = (.ok (), after)) :
      Course number before [(.reset, after)] after

/-! ## Counting -/

theorem callsSinceReset_concat (past : List Event) (event : Event) :
    callsSinceReset (past ++ [event]) =
      if event.isReset then 0 else callsSinceReset past + if event.isCounted then 1 else 0 := by
  rw [callsSinceReset, List.reverse_append, List.reverse_singleton, List.singleton_append, List.takeWhile_cons]
  cases event.isReset with
  | true => rfl
  | false => exact List.countP_cons

/-- The state of an invoker after some events. -/
structure Invoker.Agrees (invoker : Invoker) (past : List Event) : Prop where
  balanced : invoker.invocations = invoker.transformed + invoker.noop + invoker.failed
  counted : invoker.invocations = callsSinceReset past
  resolved : ∀ event ∈ past, ∀ ready, event.ready? = some ready → invoker.transformer = some ready

/-- There is an invoker, and it agrees with the events so far. -/
def Accords (number : Nat) (past : List Event) (workspace : Workspace) : Prop :=
  ∃ invoker, workspace.invokers[number]? = some invoker ∧ invoker.Agrees past

namespace Invoker.Agrees

variable {invoker : Invoker} {past : List Event} {event : Event}

/-- What shows no other transformer and counts nothing may happen. -/
theorem step (agrees : invoker.Agrees past) (counting : event.isReset = false) (uncounted : event.isCounted = false)
    {transformer : Option Ready} (kept : ∀ ready, invoker.transformer = some ready → transformer = some ready)
    (shown : ∀ ready, event.ready? = some ready → transformer = some ready) :
    Invoker.Agrees { invoker with transformer := transformer } (past ++ [event]) where
  balanced := agrees.balanced
  counted := by
    rw [callsSinceReset_concat, counting, uncounted]
    exact agrees.counted
  resolved other member ready shows := by
    rcases List.mem_append.1 member with earlier | last
    · exact kept ready (agrees.resolved other earlier ready shows)
    · obtain rfl := List.mem_singleton.1 last
      exact shown ready shows

/-- A call that ends is counted as what it has come to. -/
theorem record (agrees : invoker.Agrees past) (upshot : Upshot) (counting : event.isReset = false)
    (counts : event.isCounted = true) (hidden : event.ready? = none) :
    (invoker.record upshot).Agrees (past ++ [event]) where
  balanced := by
    have balanced := agrees.balanced
    cases upshot <;> simp only [Invoker.record] <;> omega
  counted := by
    rw [callsSinceReset_concat, counting, counts, if_neg Bool.false_ne_true, if_pos rfl, ← agrees.counted]
    cases upshot <;> rfl
  resolved other member ready shows := by
    rw [record_transformer]
    rcases List.mem_append.1 member with earlier | last
    · exact agrees.resolved other earlier ready shows
    · rw [List.mem_singleton.1 last, hidden] at shows
      cases shows

theorem reset (agrees : invoker.Agrees past) : invoker.reset.Agrees (past ++ [.reset]) where
  balanced := rfl
  counted := (callsSinceReset_concat past .reset).symm
  resolved other member ready shows := by
    rcases List.mem_append.1 member with earlier | last
    · exact agrees.resolved other earlier ready shows
    · rw [List.mem_singleton.1 last] at shows
      cases shows

end Invoker.Agrees

/-! ## The steps -/

instance : Logging (SameInvoker number) where
  refl _ := rfl
  trans _ _ _ first second := second.trans first
  logged name level message context error before :=
    congrArg (·[number]?) (Log.write_objects name level message context error before).2.2.1

theorem getElem?_modify_self {invokers : List Invoker} {invoker : Invoker}
    (held : invokers[number]? = some invoker) (change : Invoker → Invoker) :
    (invokers.modify number change)[number]? = some (change invoker) := by
  rw [List.getElem?_modify_eq, held]
  rfl

/-- The transformer of an invoker is resolved if it is not yet, and kept. -/
theorem Invoker.prepare_cases {invoker : Invoker} {outcome : Outcome Ready} (spares : Host.Spares host number)
    (held : before.invokers[number]? = some invoker)
    (run : Invoker.prepare host number before = (outcome, after)) :
    (∃ ready, outcome = .ok ready ∧
        after.invokers[number]? = some { invoker with transformer := some ready } ∧
        ∀ other, invoker.transformer = some other → other = ready) ∨
      ∃ failure, outcome = .error failure ∧ invoker.transformer = none ∧
        after.invokers[number]? = some invoker := by
  rcases bind_cases run with ⟨_, asking, _⟩ | ⟨known, asked, asking, run⟩
  · cases asking
  obtain ⟨same, rfl⟩ := Prod.mk.inj asking
  obtain rfl : before.invokers.getD number (.new none none) = known := Except.ok.inj same
  rw [List.getD_eq_getElem?_getD, held, Option.getD_some] at run
  cases transformer : invoker.transformer with
  | some ready =>
      rw [transformer] at run
      obtain ⟨rfl, rfl⟩ := pure_ok run
      refine .inl ⟨ready, rfl, ?_, fun other same => (Option.some.inj same).symm⟩
      rw [held, ← transformer]
  | none =>
      rw [transformer] at run
      have resolving : Keeps (SameInvoker number) (resolve host invoker.spec) := keeps_resolve spares invoker.spec
      rcases bind_cases run with ⟨failure, failing, rfl⟩ | ⟨ready, resolved, resolves, run⟩
      · exact .inr ⟨failure, rfl, rfl, (resolving.run failing).trans held⟩
      have still : resolved.invokers[number]? = some invoker := (resolving.run resolves).trans held
      rcases bind_cases run with ⟨_, keeping, _⟩ | ⟨_, kept, keeping, run⟩
      · cases keeping
      obtain rfl := (Prod.mk.inj keeping).2
      rcases bind_cases run with ⟨_, naming, _⟩ | ⟨logger, named, naming, run⟩
      · cases naming
      obtain rfl := (Prod.mk.inj naming).2
      rcases bind_cases run with ⟨_, telling, _⟩ | ⟨_, told, telling, run⟩
      · cases Log.write_answers telling
      obtain ⟨rfl, rfl⟩ := pure_ok run
      refine .inl ⟨ready, rfl, ?_, nofun⟩
      have logging : Keeps (SameInvoker number) (Log.debug logger ("Using transformer " ++ ready.shown)) :=
        Log.keeps_debug _ _
      rw [logging.run telling]
      exact getElem?_modify_self still _

theorem Invoker.prepare_of_resolved {invoker : Invoker} {ready : Ready}
    (held : before.invokers[number]? = some invoker) (resolved : invoker.transformer = some ready) (host : Host) :
    Invoker.prepare host number before = (.ok ready, before) := by
  have found : Work.invoker number before = (.ok (before.invokers.getD number (.new none none)), before) := rfl
  rw [Invoker.prepare, bind_of_ok found, List.getD_eq_getElem?_getD, held, Option.getD_some, resolved]
  rfl

/-- A call is counted if and only if it ends with an answer or with a failure of the transformer. -/
theorem isCounted_ended (name className : String) (given : Bytes) (answered : Outcome Value) :
    (Event.ended className given answered (conclusion name className answered)).isCounted =
      (upshot? answered).isSome := by
  cases answered with
  | error failure =>
      rw [Event.isCounted, Event.outcome?, conclusion, upshot?]
      cases ordinary : failure.isOrdinary with
      | true => rfl
      | false => exact Run.isTransformFailure_of_impersonal (Run.impersonal_of_interrupted ordinary)
  | ok value =>
      rw [Event.isCounted, Event.outcome?, conclusion, upshot?]
      cases contentOf value with
      | error kind => rfl
      | ok content => rfl

theorem isTruthful_ended (name className : String) (given : Bytes) (answered : Outcome Value) :
    (Event.ended className given answered (conclusion name className answered)).IsTruthful := by
  cases concluded : conclusion name className answered with
  | error failure => trivial
  | ok answer =>
      obtain ⟨value, rfl, content⟩ := exists_of_conclusion concluded
      rw [Event.IsTruthful]
      cases read : answer.content with
      | none =>
          rw [read] at content
          exact .inl ⟨rfl, (contentOf_eq_none_iff.1 content).imp (congrArg _) (congrArg _)⟩
      | some octets =>
          rw [read] at content
          obtain ⟨rfl, nonempty⟩ := contentOf_eq_some content
          exact .inr ⟨octets, nonempty, rfl, rfl⟩

/-- After an event the counts add up to the calls that have ended since the last reset, and they are what is told;
an answer is that of the transformer; and a transformer that has been shown to be resolved is the one that is
asked for and called, and is still ready. -/
structure Accounted (number : Nat) (past : List Event) (event : Event) (workspace : Workspace) : Prop where
  counts : ∃ invoker, workspace.invokers[number]? = some invoker ∧
    invoker.invocations = invoker.transformed + invoker.noop + invoker.failed ∧
    invoker.invocations = callsSinceReset (past ++ [event]) ∧ event.TellsOf invoker
  truthful : event.IsTruthful
  served : ∀ earlier ∈ past, ∀ ready, earlier.ready? = some ready → event.IsServedBy ready
  kept : ∀ shown ∈ past ++ [event], ∀ ready, shown.ready? = some ready →
    ∀ host, Invoker.prepare host number workspace = (.ok ready, workspace)

/-- An event is accounted for, and the invoker agrees with the events up to it. -/
def Steps (number : Nat) (past : List Event) (event : Event) (workspace : Workspace) : Prop :=
  Accounted number past event workspace ∧ Accords number (past ++ [event]) workspace

namespace Accords

variable {past : List Event} {event : Event}

theorem of_same (accords : Accords number past before) (same : SameInvoker number before after) :
    Accords number past after := by
  obtain ⟨invoker, held, agrees⟩ := accords
  exact ⟨invoker, same.trans held, agrees⟩

theorem steps {invoker : Invoker} (held : after.invokers[number]? = some invoker)
    (agrees : invoker.Agrees (past ++ [event])) (truthful : event.IsTruthful)
    (served : ∀ earlier ∈ past, ∀ ready, earlier.ready? = some ready → event.IsServedBy ready)
    (tells : event.TellsOf invoker) : Steps number past event after := by
  have counts := And.intro agrees.balanced (And.intro agrees.counted tells)
  refine ⟨⟨⟨invoker, held, counts⟩, truthful, served, ?_⟩, invoker, held, agrees⟩
  intro shown member ready shows host
  exact Invoker.prepare_of_resolved held (agrees.resolved shown member ready shows) host

/-- What shows a transformer shows the one that has been resolved. -/
theorem prepare {ready : Ready} (accords : Accords number past before) (spares : Host.Spares host number)
    (run : Invoker.prepare host number before = (.ok ready, after)) (silent : event.IsSilent)
    (shows : event.ready? = some ready) (serves : event.IsServedBy ready) : Steps number past event after := by
  obtain ⟨invoker, held, agrees⟩ := accords
  rcases Invoker.prepare_cases spares held run with ⟨found, same, kept, unique⟩ | ⟨failure, same, _⟩
  · obtain rfl := Except.ok.inj same
    refine steps kept (agrees.step silent.goesOn silent.uncounted ?_ ?_) silent.truthful ?_ (silent.tells _)
    · intro other resolved
      rw [unique other resolved]
    · intro other shown
      rw [← shows]
      exact shown
    · intro earlier member other shown
      rw [unique other (agrees.resolved earlier member other shown)]
      exact serves
  · cases same

/-- Where a transformer cannot be resolved, none has been resolved before. -/
theorem refuse {failure : Failure} (accords : Accords number past before) (spares : Host.Spares host number)
    (run : Invoker.prepare host number before = (.error failure, after)) (silent : event.IsSilent)
    (hidden : event.ready? = none) : Steps number past event after := by
  obtain ⟨invoker, held, agrees⟩ := accords
  rcases Invoker.prepare_cases spares held run with ⟨_, same, _⟩ | ⟨_, _, unresolved, kept⟩
  · cases same
  · refine steps kept (agrees.step silent.goesOn silent.uncounted (fun _ resolved => resolved) ?_)
      silent.truthful ?_ (silent.tells _)
    · intro ready shown
      rw [hidden] at shown
      cases shown
    · intro earlier member ready shown
      rw [agrees.resolved earlier member ready shown] at unresolved
      cases unresolved

theorem prepared {outcome : Outcome Ready} (accords : Accords number past before)
    (spares : Host.Spares host number) (run : Invoker.prepare host number before = (outcome, after)) :
    Steps number past (.prepared outcome) after := by
  have silent : (Event.prepared outcome).IsSilent := ⟨rfl, rfl, trivial, fun _ => trivial⟩
  cases outcome with
  | ok ready => exact accords.prepare spares run silent rfl rfl
  | error failure => exact accords.refuse spares run silent rfl

theorem called {ready : Ready} (accords : Accords number past before) (spares : Host.Spares host number)
    (readies : Invoker.prepare host number before = (.ok ready, after)) (className : String) (given : Bytes) :
    Steps number past (.called ready className given) after :=
  accords.prepare spares readies ⟨rfl, rfl, trivial, fun _ => trivial⟩ rfl rfl

/-- A call whose transformer cannot be resolved does not fail as a transformer does. -/
theorem refused {failure : Failure} {className : String} {given : Bytes} {outcome : Outcome Answer}
    (accords : Accords number past before) (spares : Host.Spares host number)
    (unready : Invoker.prepare host number before = (.error failure, middle))
    (run : Invoker.invoke host number className given before = (outcome, after)) :
    Steps number past (.refused className given outcome) after := by
  have fails : Invoker.invoke host number className given before = (.error failure, middle) := by
    rw [Invoker.invoke, bind_of_error unready]
  obtain ⟨rfl, rfl⟩ := Prod.mk.inj (run.symm.trans fails)
  have impersonal : failure.Impersonal := (Run.admits_impersonal host).prepare number unready
  have uncounted : (Event.refused className given (.error failure)).isCounted = false :=
    Run.isTransformFailure_of_impersonal impersonal
  exact accords.refuse spares unready ⟨rfl, uncounted, trivial, fun _ => trivial⟩ rfl

/-- The end of a call is counted if it is an answer or a failure of the transformer. -/
theorem ended {called : Workspace} {ready : Ready} {className : String} {given : Bytes} {answered : Outcome Value}
    {outcome : Outcome Answer} (accords : Accords number past called)
    (readies : Invoker.prepare host number before = (.ok ready, middle))
    (calls : host.transform ready (middle.invokers.getD number (.new none none)).loader className given middle =
      (answered, called))
    (run : Invoker.invoke host number className given before = (outcome, after)) :
    Steps number past (.ended className given answered outcome) after := by
  obtain ⟨rfl, rfl⟩ := Prod.mk.inj (run.symm.trans (Invoker.invoke_eq readies calls))
  obtain ⟨invoker, held, agrees⟩ := accords
  have truthful := isTruthful_ended ready.name className given answered
  have counts := isCounted_ended ready.name className given answered
  cases same : upshot? answered with
  | none =>
      rw [same] at counts
      exact steps held (agrees.step rfl counts (fun _ resolved => resolved) nofun) truthful
        (fun _ _ _ _ => trivial) trivial
  | some upshot =>
      rw [same] at counts
      exact steps (getElem?_modify_self held _) (agrees.record upshot rfl counts rfl) truthful
        (fun _ _ _ _ => trivial) trivial

theorem told {statistics : Value} (accords : Accords number past before)
    (run : (do return (← Work.invoker number).statistics : Work Value) before = (.ok statistics, after)) :
    Steps number past (.told statistics) after := by
  obtain ⟨invoker, held, agrees⟩ := accords
  obtain ⟨same, rfl⟩ := Prod.mk.inj run
  have known : before.invokers.getD number (.new none none) = invoker := by
    rw [List.getD_eq_getElem?_getD, held, Option.getD_some]
  refine steps held (agrees.step rfl rfl (fun _ resolved => resolved) nofun) trivial (fun _ _ _ _ => trivial) ?_
  rw [← known]
  exact (Except.ok.inj same).symm

theorem reset (accords : Accords number past before)
    (run : Work.changeInvoker number Invoker.reset before = (.ok (), after)) :
    Steps number past .reset after := by
  obtain ⟨invoker, held, agrees⟩ := accords
  obtain rfl := (Prod.mk.inj run).2
  exact steps (getElem?_modify_self held _) agrees.reset trivial (fun _ _ _ _ => trivial) trivial

end Accords

/-! ## Whole courses -/

/-- Something holds of each event after those before it. -/
def Throughout (holds : List Event → Event → Workspace → Prop) :
    List Event → List (Event × Workspace) → Prop
  | _, [] => True
  | past, (event, workspace) :: rest =>
    holds past event workspace ∧ Throughout holds (past ++ [event]) rest

namespace Throughout

variable {holds : List Event → Event → Workspace → Prop} {past : List Event}

theorem append {first second : List (Event × Workspace)} (one : Throughout holds past first)
    (two : Throughout holds (past ++ first.map (·.1)) second) : Throughout holds past (first ++ second) := by
  induction first generalizing past with
  | nil => simpa using two
  | cons step rest inductionHypothesis =>
      obtain ⟨here, later⟩ := one
      refine ⟨here, inductionHypothesis later ?_⟩
      simpa using two

theorem of_split {front rest : List (Event × Workspace)} {event : Event} {workspace : Workspace}
    (throughout : Throughout holds past (front ++ (event, workspace) :: rest)) :
    holds (past ++ front.map (·.1)) event workspace := by
  induction front generalizing past with
  | nil => simpa using throughout.1
  | cons step front inductionHypothesis =>
      have later := inductionHypothesis throughout.2
      simpa using later

end Throughout

namespace Course

theorem single {past : List Event} {event : Event} (steps : Steps number past event after) :
    Throughout (Accounted number) past [(event, after)] ∧ Accords number (past ++ [event]) after :=
  ⟨⟨steps.1, trivial⟩, steps.2⟩

/-- Every step of a course is accounted for, and the invoker agrees with the events at its end. -/
theorem throughout {events : List (Event × Workspace)} (course : Course number before events after)
    {past : List Event} (accords : Accords number past before) :
    Throughout (Accounted number) past events ∧ Accords number (past ++ events.map (·.1)) after := by
  induction course generalizing past with
  | elsewhere same => exact ⟨trivial, by simpa using accords.of_same same⟩
  | append _ _ first second =>
      obtain ⟨one, agrees⟩ := first accords
      obtain ⟨two, last⟩ := second agrees
      exact ⟨one.append two, by simpa using last⟩
  | prepared spares run => exact single (accords.prepared spares run)
  | refused spares unready run => exact single (accords.refused spares unready run)
  | @call host before middle _ _ ready className given _ within _ spares readies calls _ run inside =>
      -- The steps within the call come after its beginning and before its end.
      have begins := accords.called spares readies className given
      obtain ⟨between, agrees⟩ := inside begins.2
      have ends := agrees.ended readies calls run
      refine ⟨Throughout.append ⟨begins.1, between⟩ ⟨?_, trivial⟩, ?_⟩
      · simpa using ends.1
      · simpa using ends.2
  | told run => exact single (accords.told run)
  | reset run => exact single (accords.reset run)

/-- A host whose transformers do the same work for every class. -/
def uniformHost (work : Bytes → Work Value) : Host := ⟨fun _ _ _ content => work content, fun _ => pure ()⟩

/-- A workspace with one invoker. -/
def workshop (invoker : Invoker) : Workspace := { (default : Workspace) with invokers := [invoker] }

def weaver : Ready := ⟨"FunctionTransformer", "weave", ⟨[], .nothing⟩⟩

/-- An invoker of the weaver after some calls. -/
def weaving (invocations transformed failed : Nat) : Invoker :=
  ⟨some (.ready weaver), none, some weaver, invocations, transformed, 0, failed⟩

/-- A transformer that fails. -/
def failing : Host := uniformHost fun _ => throw (.fault (.runtime "no"))

/-- A transformer that calls its invoker on another class, where it fails, and goes on. -/
def reentering : Host :=
  uniformHost fun content => do
    let _ ← Work.attempt (Invoker.invoke failing 0 "pkg.Inner" content)
    return .octets (content ++ [33])

/-- A transformer that is interrupted. -/
def interrupting : Host := uniformHost fun _ => throw .interrupted

theorem spares_uniformHost (work : Bytes → Work Value) : Host.Spares (uniformHost work) number :=
  fun _ => keeps_pure ()

/-- A call with a call inside that fails, and a call that is interrupted. -/
def nestedEvents : List (Event × Workspace) :=
  [(.called weaver "pkg.Outer" [1], workshop (weaving 0 0 0)),
   (.called weaver "pkg.Inner" [1], workshop (weaving 0 0 0)),
   (.ended "pkg.Inner" [1] (.error (.fault (.runtime "no")))
      (.error (.transformerRaised "weave" "pkg.Inner" (.fault (.runtime "no")))), workshop (weaving 1 0 1)),
   (.ended "pkg.Outer" [1] (.ok (.octets [1, 33])) (.ok ⟨"pkg.Outer", some [1, 33], "weave"⟩),
      workshop (weaving 2 1 1)),
   (.called weaver "pkg.Slow" [2], workshop (weaving 2 1 1)),
   (.ended "pkg.Slow" [2] (.error .interrupted) (.error .interrupted), workshop (weaving 2 1 1))]

theorem course_nestedEvents :
    Course 0 (workshop (.new (some (.ready weaver)) none)) nestedEvents (workshop (weaving 2 1 1)) := by
  have readies (host : Host) (invocations transformed failed : Nat) :
      Invoker.prepare host 0 (workshop (weaving invocations transformed failed)) =
        (.ok weaver, workshop (weaving invocations transformed failed)) := rfl
  have resolves : Invoker.prepare reentering 0 (workshop (.new (some (.ready weaver)) none)) =
      (.ok weaver, workshop (weaving 0 0 0)) := rfl
  have fails : Invoker.invoke failing 0 "pkg.Inner" [1] (workshop (weaving 0 0 0)) =
      (.error (.transformerRaised "weave" "pkg.Inner" (.fault (.runtime "no"))), workshop (weaving 1 0 1)) := rfl
  have answers : Invoker.invoke reentering 0 "pkg.Outer" [1] (workshop (.new (some (.ready weaver)) none)) =
      (.ok ⟨"pkg.Outer", some [1, 33], "weave"⟩, workshop (weaving 2 1 1)) := rfl
  have stops : Invoker.invoke interrupting 0 "pkg.Slow" [2] (workshop (weaving 2 1 1)) =
      (.error .interrupted, workshop (weaving 2 1 1)) := rfl
  have inner := call (spares_uniformHost _) (readies failing 0 0 0) rfl (.elsewhere rfl) fails
  have outer := call (spares_uniformHost _) resolves rfl inner answers
  have slow := call (spares_uniformHost _) (readies interrupting 2 1 1) rfl (.elsewhere rfl) stops
  exact outer.append slow

end Course

end Transformer
end ClassLoom
