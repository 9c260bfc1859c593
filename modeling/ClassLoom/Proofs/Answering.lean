import ClassLoom.Proofs.Frame

namespace ClassLoom

/-!
# Work that answers

To show that work does not fail, its steps are gone through one by one: each answers in the state in
which it is come to.  What the steps before it have done is known from what is said of each of them
when it answers, so nothing is said twice.

Most work leaves the objects of a run alone: the log contexts, the classpaths and the invokers.  So a
transformer that has been made is ready for every call.
-/

open Files (FileTree FileWork Path)

section Steps

variable {σ α β ι : Type} {before : σ}

/-- Work does not fail. -/
def Answers (work : ExceptT Failure (StateM σ) α) (before : σ) : Prop :=
  ∃ value after, work before = (.ok value, after)

theorem answers_pure (value : α) : Answers (pure value : ExceptT Failure (StateM σ) α) before :=
  ⟨value, before, rfl⟩

theorem bind_of_ok {work : ExceptT Failure (StateM σ) α} {next : α → ExceptT Failure (StateM σ) β}
    {value : α} {middle : σ} (done : work before = (.ok value, middle)) :
    (work >>= next) before = next value middle := by
  rw [run_bind, done]

theorem Answers.after {work : ExceptT Failure (StateM σ) α} {next : α → ExceptT Failure (StateM σ) β}
    {value : α} {middle : σ} (done : work before = (.ok value, middle))
    (further : Answers (next value) middle) : Answers (work >>= next) before := by
  obtain ⟨last, after, run⟩ := further
  exact ⟨last, after, (bind_of_ok done).trans run⟩

theorem bind_of_error {work : ExceptT Failure (StateM σ) α} {next : α → ExceptT Failure (StateM σ) β}
    {failure : Failure} {middle : σ} (failed : work before = (.error failure, middle)) :
    (work >>= next) before = (.error failure, middle) := by
  rw [run_bind, failed]

/-- Work over a list answers if every step does, and what holds after each step holds at the end. -/
theorem foldlM_run {step : α → ι → ExceptT Failure (StateM σ) α} {items : List ι}
    (holds : List ι → α → σ → Prop)
    (answers : ∀ {past rest : List ι} {item : ι} {value : α} {state : σ},
      items = past ++ item :: rest → holds past value state →
      ∃ next after, step value item state = (.ok next, after) ∧ holds (past ++ [item]) next after)
    {start : α} (first : holds [] start before) :
    ∃ value after, items.foldlM step start before = (.ok value, after) ∧ holds items value after := by
  have onward : ∀ (rest : List ι) {past : List ι} {start : α} {before : σ}, items = past ++ rest →
      holds past start before → ∃ value after,
        rest.foldlM step start before = (.ok value, after) ∧ holds (past ++ rest) value after := by
    intro rest
    induction rest with
    | nil =>
        intro past start before _ held
        exact ⟨start, before, rfl, (List.append_nil past).symm ▸ held⟩
    | cons item rest inductionHypothesis =>
        intro past start before whole held
        obtain ⟨next, middle, done, further⟩ := answers whole held
        obtain ⟨value, after, ended, last⟩ :=
          inductionHypothesis (by rw [whole, List.append_assoc]; rfl) further
        refine ⟨value, after, ?_, ?_⟩
        · rw [List.foldlM_cons, bind_of_ok done]
          exact ended
        · rwa [List.append_assoc] at last
  exact onward items rfl first

end Steps

/-! ## Work on the workspace -/

section Workspaces

variable {α β : Type} {before : Workspace}

theorem Work.files_run (before : Workspace) : Work.files before = (.ok before.files, before) := rfl

theorem Work.onFiles_of_run {work : FileWork α} {outcome : Outcome α} {files : FileTree}
    (run : work before.files = (outcome, files)) :
    Work.onFiles work before = (outcome, { before with files }) := by
  rw [Work.onFiles_run, run]

theorem Work.attempt_run {work : Work α} {next : Outcome α → Work β} {outcome : Outcome α}
    {after : Workspace} (run : work before = (outcome, after)) :
    (Work.attempt work >>= next) before = next outcome after := by
  rw [run_bind, Work.attempt, run]

theorem Log.inContext_run (context : Log.Context) {work : Work α} {outcome : Outcome α}
    {after : Workspace}
    (run : work { before with contexts := before.contexts ++ [context] } = (outcome, after)) :
    Log.inContext context work before =
      (outcome, { after with contexts := after.contexts.dropLast }) := by
  rw [Log.inContext, run_bind]
  change Work.ensuring work _ { before with contexts := before.contexts ++ [context] } = _
  rw [Work.ensuring, run]

end Workspaces

/-! ## The objects of a run -/

/-- The log contexts, the classpaths and the invokers are the same, and nothing has been printed. -/
structure SameObjects (before after : Workspace) : Prop where
  contexts : after.contexts = before.contexts
  classpaths : after.classpaths = before.classpaths
  invokers : after.invokers = before.invokers
  printed : after.printed = before.printed

instance : Logging SameObjects where
  refl _ := ⟨rfl, rfl, rfl, rfl⟩
  trans _ _ _ first second := ⟨second.contexts.trans first.contexts,
    second.classpaths.trans first.classpaths, second.invokers.trans first.invokers,
    second.printed.trans first.printed⟩
  logged name level message context error before := by
    obtain ⟨contexts, classpaths, invokers, printed⟩ :=
      Log.write_objects name level message context error before
    exact ⟨contexts, classpaths, invokers, printed⟩

theorem sameObjects_onFiles {α : Type} (work : FileWork α) : Keeps SameObjects (Work.onFiles work) :=
  fun _ => ⟨rfl, rfl, rfl, rfl⟩

theorem Log.sameObjects_write (name : String) (level : Log.Level) (message : String)
    (context : Log.Context) (error : Option String) :
    Keeps SameObjects (Log.write name level message context error) :=
  Logging.logged name level message context error

/-- Between two workspaces nothing has happened but that something has been logged. -/
structure Logged (before after : Workspace) : Prop where
  quiet : after.LogsToNoFile
  files : after.files = before.files
  objects : SameObjects before after

theorem Log.logged_write {before : Workspace} (quiet : before.LogsToNoFile) (name : String)
    (level : Log.Level) (message : String) (context : Log.Context) (error : Option String) :
    ∃ after, Log.write name level message context error before = (.ok (), after) ∧ Logged before after := by
  obtain ⟨files, _, quietAfter⟩ := Log.write_quiet quiet name level message context error
  exact ⟨_, rfl, quietAfter, files, Log.sameObjects_write name level message context error before⟩

namespace Logged

variable {before middle after : Workspace}

theorem refl (quiet : before.LogsToNoFile) : Logged before before :=
  ⟨quiet, rfl, refl_of SameObjects before⟩

theorem printed (logged : Logged before after) : after.printed = before.printed := logged.objects.printed

theorem trans (first : Logged before middle) (second : Logged middle after) : Logged before after where
  quiet := second.quiet
  files := second.files.trans first.files
  objects := trans_of SameObjects first.objects second.objects

end Logged

namespace Transformer

variable {host : Host} {number : Nat} {before after : Workspace}

/-- The transformer of an invoker has been made. -/
def Prepared (number : Nat) (workspace : Workspace) : Prop :=
  ∃ ready, (workspace.invokers.getD number (.new none none)).transformer = some ready

theorem Prepared.of_same (prepared : Prepared number before) (same : SameObjects before after) :
    Prepared number after := by
  unfold Prepared
  rw [same.invokers]
  exact prepared

theorem Prepared.change {other : Nat} (prepared : Prepared other before) {change : Invoker → Invoker}
    (same : ∀ invoker, (change invoker).transformer = invoker.transformer) :
    Prepared other { before with invokers := before.invokers.modify number change } := by
  obtain ⟨ready, made⟩ := prepared
  refine ⟨ready, ?_⟩
  change ((before.invokers.modify number change).getD other (.new none none)).transformer = some ready
  rw [List.getD_eq_getElem?_getD] at made ⊢
  rw [List.getElem?_modify]
  cases held : before.invokers[other]? with
  | none =>
      rw [held] at made
      cases made
  | some invoker =>
      rw [held] at made
      change (if number = other then change invoker else invoker).transformer = some ready
      split
      · exact (same invoker).trans made
      · exact made

/-- A transformer that is ready is not made again. -/
theorem Prepared.prepare_run (prepared : Prepared number before) (host : Host) :
    ∃ ready, Invoker.prepare host number before = (.ok ready, before) := by
  obtain ⟨ready, made⟩ := prepared
  refine ⟨ready, ?_⟩
  have found : Work.invoker number before = (.ok (before.invokers.getD number (.new none none)), before) := rfl
  rw [Invoker.prepare, bind_of_ok found, made]
  rfl

/-! ## What a call comes to -/

theorem contentOf_eq_none_iff {value : Config.Value} :
    contentOf value = .ok none ↔ value = .null ∨ value = .octets [] := by
  constructor
  · intro answered
    cases value with
    | null => exact .inl rfl
    | octets content =>
        cases content with
        | nil => exact .inr rfl
        | cons head tail => cases answered
    | _ => cases answered
  · rintro (rfl | rfl)
    · rfl
    · rfl

theorem contentOf_eq_some {value : Config.Value} {out : Bytes}
    (answered : contentOf value = .ok (some out)) : value = .octets out ∧ out ≠ [] := by
  cases value with
  | octets content =>
      cases content with
      | nil => cases answered
      | cons head tail =>
          cases answered
          exact ⟨rfl, List.cons_ne_nil head tail⟩
  | _ => cases answered

/-- What a call answers, if the transformer answers so. -/
def conclusion (name className : String) : Outcome Config.Value → Outcome Answer
  | .error failure =>
    .error (if failure.isOrdinary then .transformerRaised name className failure else failure)
  | .ok value =>
    match contentOf value with
    | .error kind => .error (.transformerAnswered name className kind)
    | .ok content => .ok ⟨className, content, name⟩

theorem exists_of_conclusion {name className : String} {response : Outcome Config.Value}
    {answer : Answer} (concluded : conclusion name className response = .ok answer) :
    ∃ value, response = .ok value ∧ contentOf value = .ok answer.content := by
  cases response with
  | error failure => cases concluded
  | ok value =>
      simp only [conclusion] at concluded
      cases read : contentOf value with
      | error kind =>
          rw [read] at concluded
          cases concluded
      | ok content =>
          rw [read] at concluded
          obtain rfl := Except.ok.inj concluded
          exact ⟨value, rfl, read⟩

/-- What a call counts as, if it is counted. -/
def upshot? : Outcome Config.Value → Option Upshot
  | .error failure => if failure.isOrdinary then some .failed else none
  | .ok value =>
    match contentOf value with
    | .error _ => some .failed
    | .ok content => some (if content.isNone then .noop else .transformed)

/-- A workspace where a call of an invoker has been counted, if it is. -/
def counted (number : Nat) (workspace : Workspace) : Option Upshot → Workspace
  | none => workspace
  | some upshot => { workspace with invokers := workspace.invokers.modify number (Invoker.record upshot) }

/-- A call is that of the transformer that is ready; it is counted last. -/
theorem Invoker.invoke_eq {ready : Ready} {middle called : Workspace} {className : String} {content : Bytes}
    {answered : Outcome Config.Value} (readies : Invoker.prepare host number before = (.ok ready, middle))
    (calls : host.transform ready (middle.invokers.getD number (.new none none)).loader className content middle =
      (answered, called)) :
    Invoker.invoke host number className content before =
      (conclusion ready.name className answered, counted number called (upshot? answered)) := by
  have knows : Work.invoker number middle = (.ok (middle.invokers.getD number (.new none none)), middle) := rfl
  rw [Invoker.invoke, bind_of_ok readies, bind_of_ok knows, Work.attempt_run calls]
  cases answered with
  | error failure =>
      simp only [conclusion, upshot?]
      split
      · rfl
      · rfl
  | ok value =>
      simp only [conclusion, upshot?]
      cases contentOf value with
      | error kind => rfl
      | ok content => rfl

theorem record_transformer (upshot : Upshot) (invoker : Invoker) :
    (invoker.record upshot).transformer = invoker.transformer := by
  cases upshot <;> rfl

theorem counted_eq (number : Nat) (workspace : Workspace) (upshot : Option Upshot) :
    ∃ change : Invoker → Invoker, (∀ invoker, (change invoker).transformer = invoker.transformer) ∧
      counted number workspace upshot = { workspace with invokers := workspace.invokers.modify number change } := by
  cases upshot with
  | none => exact ⟨id, fun _ => rfl, by rw [List.modify_id]; rfl⟩
  | some upshot => exact ⟨Invoker.record upshot, record_transformer upshot, rfl⟩

end Transformer

end ClassLoom
