import ClassLoom.Proofs.Work

namespace ClassLoom

/-!
# How work can fail

That the failures of some work are all of a kind is a matter of its steps: each fails in that way or
not at all, wherever it starts.

Most of what a run does can fail in the tool's own ways, or let a fault through that no function
catches: a refusal of the file system where it is only asked, a loop of links, an entry that cannot be
read for a reason that is not taken for damage or that has no name, a date that cannot be packed, a
pattern that repeats too often, or a path or a module that is none.
-/

open Files (FileTree FileWork FileError Path)

/-- Work whose failures are all of a kind. -/
def FailsAs {σ α : Type} (kind : Failure → Prop) (work : ExceptT Failure (StateM σ) α) : Prop :=
  ∀ ⦃before : σ⦄ ⦃failure : Failure⦄ ⦃after : σ⦄,
    work before = (.error failure, after) → kind failure

/-- An outcome that, if it is a failure, is one of a kind. -/
def Outcome.FailsAs {α : Type} (kind : Failure → Prop) (outcome : Outcome α) : Prop :=
  ∀ ⦃failure : Failure⦄, outcome = .error failure → kind failure

theorem Outcome.failsAs_ok {α : Type} {kind : Failure → Prop} (value : α) :
    Outcome.FailsAs kind (.ok value) := fun _ same => nomatch same

theorem Outcome.failsAs_error {α : Type} {kind : Failure → Prop} {failure : Failure}
    (allowed : kind failure) : Outcome.FailsAs kind (.error failure : Outcome α) := by
  rintro _ ⟨⟩
  exact allowed

theorem Outcome.FailsAs.mono {α : Type} {kind other : Failure → Prop} {outcome : Outcome α}
    (fails : outcome.FailsAs kind) (wider : ∀ failure, kind failure → other failure) :
    outcome.FailsAs other :=
  fun failure refused => wider failure (fails refused)

theorem Outcome.FailsAs.bind {α β : Type} {kind : Failure → Prop} {outcome : Outcome α}
    {next : α → Outcome β} (first : outcome.FailsAs kind)
    (second : ∀ value, (next value).FailsAs kind) : Outcome.FailsAs kind (outcome >>= next) := by
  cases outcome with
  | ok value => exact second value
  | error failure => exact Outcome.failsAs_error (first rfl)

theorem Outcome.FailsAs.map {α β : Type} {kind : Failure → Prop} {outcome : Outcome α}
    (fails : outcome.FailsAs kind) (change : α → β) : Outcome.FailsAs kind (outcome.map change) := by
  cases outcome with
  | ok value => exact Outcome.failsAs_ok (change value)
  | error failure => exact Outcome.failsAs_error (fails rfl)

/-- What is answered at the end has been answered step by step. -/
theorem Outcome.ok_of_bind {α β : Type} {outcome : Outcome α} {next : α → Outcome β} {value : β}
    (done : outcome >>= next = .ok value) :
    ∃ middle, outcome = .ok middle ∧ next middle = .ok value := by
  cases outcome with
  | ok middle => exact ⟨middle, rfl, done⟩
  | error failure => cases done

section Steps

variable {σ α β ι : Type} {kind other : Failure → Prop} {work : ExceptT Failure (StateM σ) α}

namespace FailsAs

theorem mono (fails : FailsAs kind work) (wider : ∀ failure, kind failure → other failure) :
    FailsAs other work :=
  fun _ failure _ run => wider failure (fails run)

theorem pure (value : α) : FailsAs kind (pure value : ExceptT Failure (StateM σ) α) :=
  fun _ _ _ run => nomatch (pure_ok run).1

theorem throw {failure : Failure} (allowed : kind failure) :
    FailsAs kind (throw failure : ExceptT Failure (StateM σ) α) := by
  intro _ _ _ run
  obtain rfl := Except.error.inj (throw_error run).1
  exact allowed

theorem get : FailsAs kind (get : ExceptT Failure (StateM σ) σ) := fun _ _ _ run => nomatch run

theorem set (state : σ) : FailsAs kind (set state : ExceptT Failure (StateM σ) PUnit) :=
  fun _ _ _ run => nomatch run

theorem modify (change : σ → σ) : FailsAs kind (modify change : ExceptT Failure (StateM σ) PUnit) :=
  fun _ _ _ run => nomatch run

theorem bind {next : α → ExceptT Failure (StateM σ) β} (first : FailsAs kind work)
    (second : ∀ value, FailsAs kind (next value)) : FailsAs kind (work >>= next) := by
  intro before failure after run
  rcases bind_cases run with ⟨cause, stopped, same⟩ | ⟨value, middle, _, further⟩
  · obtain rfl := Except.error.inj same
    exact first stopped
  · exact second value further

theorem foldlM {step : α → ι → ExceptT Failure (StateM σ) α}
    (steps : ∀ value item, FailsAs kind (step value item)) (items : List ι) (start : α) :
    FailsAs kind (items.foldlM step start) := by
  induction items generalizing start with
  | nil => exact pure start
  | cons item rest inductionHypothesis =>
      rw [List.foldlM_cons]
      exact (steps start item).bind inductionHypothesis

theorem filterMapM {step : ι → ExceptT Failure (StateM σ) (Option α)}
    (steps : ∀ item, FailsAs kind (step item)) (items : List ι) :
    FailsAs kind (items.filterMapM step) := by
  induction items with
  | nil => exact pure []
  | cons item rest inductionHypothesis =>
      rw [List.filterMapM_cons]
      refine (steps item).bind fun kept => ?_
      cases kept with
      | none => exact inductionHypothesis
      | some value => exact inductionHypothesis.bind fun values => pure (value :: values)

end FailsAs

end Steps

/-! ## Work on the workspace -/

section Workspaces

variable {α β : Type} {kind other : Failure → Prop} {work : Work α}

namespace FailsAs

theorem ofOutcome {outcome : Outcome α} (fails : outcome.FailsAs kind) :
    FailsAs kind (Work.ofOutcome outcome) := by
  intro _ _ _ run
  exact fails (Work.ofOutcome_cases run).2.symm

theorem onFiles {work : FileWork α} (fails : FailsAs kind work) : FailsAs kind (Work.onFiles work) := by
  intro _ _ _ run
  obtain ⟨_, done, _⟩ := Work.onFiles_cases run
  exact fails done

/-- What follows on an attempt has to reckon with its failure. -/
theorem attempt {next : Outcome α → Work β} (fails : FailsAs kind work)
    (further : ∀ outcome : Outcome α, outcome.FailsAs kind → FailsAs other (next outcome)) :
    FailsAs other (Work.attempt work >>= next) := by
  intro before failure after run
  obtain ⟨outcome, middle, done, ended⟩ := Work.attempt_bind run
  exact further outcome (fun cause same => fails (same ▸ done)) ended

theorem recast {change : Failure → Option Failure} (fails : FailsAs kind work)
    (changes : ∀ failure, kind failure → other ((change failure).getD failure)) :
    FailsAs other (Work.recast change work) := by
  intro _ _ _ run
  rcases Work.recast_cases run with ⟨_, _, ⟨⟩⟩ | ⟨failure, stopped, same⟩
  obtain rfl := Except.error.inj same
  exact changes failure (fails stopped)

theorem ensuring {finish : Workspace → Workspace} (fails : FailsAs kind work) :
    FailsAs kind (Work.ensuring work finish) := by
  intro _ _ _ run
  obtain ⟨_, stopped, _⟩ := Work.ensuring_cases run
  exact fails stopped

theorem inContext {context : Log.Context} (fails : FailsAs kind work) :
    FailsAs kind (Log.inContext context work) :=
  (modify _).bind fun _ => fails.ensuring

theorem files : FailsAs kind Work.files := fun _ _ _ run => nomatch run

theorem write (name : String) (level : Log.Level) (message : String) (context : Log.Context)
    (error : Option String) : FailsAs kind (Log.write name level message context error) :=
  modify _

end FailsAs

end Workspaces

/-! ## Failures that are foreseen -/

/-- A fault that no function catches. -/
inductive Fault.Escapes : Fault → Prop
  | file (error : FileError) : Escapes (.file error)
  | reading {error : Zip.ReadError} : (Fault.archive error).isSystem = false →
      (Fault.archive error).isDamage = false → Escapes (.archive error)
  | spanning : Escapes (.archive (.damaged .spansDisks))
  | noIndex : Escapes .noIndex
  | looping (text : String) : Escapes (.runtime text)
  | packing (text : String) : Escapes (.packing text)
  | wrongType (text : String) : Escapes (.wrongType text)
  | wrongValue (text : String) : Escapes (.wrongValue text)
  | outOfRange (text : String) : Escapes (.outOfRange text)

/-- A failure of a run that is none of its transformer: one of the tool's own, or a fault that nothing
catches. -/
inductive Failure.Foreseen : Failure → Prop
  | own {failure : Failure} {kind : ErrorKind} : failure.kind? = some kind → kind ≠ .transform →
      kind ≠ .transformationFailed → Foreseen failure
  | fault {fault : Fault} : fault.Escapes → Foreseen (.fault fault)

/-- A failure that says nothing about a class: it is neither that of a call nor the sum of those. -/
structure Failure.Impersonal (failure : Failure) : Prop where
  single : failure.kind? ≠ some .transform
  whole : failure.kind? ≠ some .transformationFailed

theorem Failure.Foreseen.impersonal {failure : Failure} (foreseen : failure.Foreseen) :
    failure.Impersonal := by
  cases foreseen with
  | own same single whole =>
      exact ⟨same ▸ fun held => single (Option.some.inj held),
        same ▸ fun held => whole (Option.some.inj held)⟩
  | fault escapes => exact ⟨nofun, nofun⟩

open Failure (Foreseen)

theorem foreseen_failureOf (action : FileAction) (error : FileError) :
    (FileWork.failureOf action error).Foreseen := by
  cases error with
  | system cause => exact .own rfl nofun nofun
  | embeddedNul => exact .fault (.file _)

namespace Files.FileWork


theorem failsAs_answer {α : Type} (action : FileAction) (outcome : Except FileError α) :
    FailsAs Foreseen (answer action outcome) := by
  cases outcome with
  | ok value => exact .pure value
  | error error => exact .throw (foreseen_failureOf action error)

theorem failsAs_change (action : FileAction) (operation : FileTree → Except FileError FileTree) :
    FailsAs Foreseen (change action operation) := by
  refine FailsAs.get.bind fun tree => ?_
  split
  · exact .set _
  · exact .throw (foreseen_failureOf action _)

theorem failsAs_reach (action : FileAction) (operation : FileTree → FileTree × Option FileError) :
    FailsAs Foreseen (reach action operation) := by
  refine FailsAs.get.bind fun tree => ?_
  rcases operation tree with ⟨reached, error⟩
  refine (FailsAs.set reached).bind fun _ => ?_
  cases error with
  | none => exact .pure ()
  | some error => exact .throw (foreseen_failureOf action error)

theorem failsAs_ask {α : Type} (question : FileTree → Except FileError α) :
    FailsAs Foreseen (ask question) := by
  refine FailsAs.get.bind fun tree => ?_
  split
  · exact .pure _
  · exact .throw (.fault (.file _))

theorem failsAs_load (path : String) : FailsAs Foreseen (load path) :=
  FailsAs.get.bind fun _ => failsAs_answer _ _

theorem failsAs_createDirectory (path : String) : FailsAs Foreseen (createDirectory path) :=
  failsAs_reach _ _

theorem failsAs_writeFile (path : String) (content : Bytes) :
    FailsAs Foreseen (writeFile path content) :=
  failsAs_change _ _

theorem failsAs_writeFileInParents (path : String) (content : Bytes) :
    FailsAs Foreseen (writeFileInParents path content) :=
  (failsAs_createDirectory _).bind fun _ => failsAs_writeFile path content

theorem failsAs_deleteTree (path : String) : FailsAs Foreseen (deleteTree path) := by
  have deletes (isDirectory isLink : Bool) : FailsAs Foreseen
      (if isDirectory && !isLink then
          reach (.delete path) fun tree => tree.removeDirectory (Path.ofString path).toString
        else change (.delete path) fun tree => tree.unlink (Path.ofString path).toString) := by
    split
    · exact failsAs_reach _ _
    · exact failsAs_change _ _
  have ends (present link : Bool) : FailsAs Foreseen (if present || link then do
      let isDirectory ← answer (.delete path) ((← get).isDirectory? (Path.ofString path))
      let isLink ← if isDirectory then answer (.delete path) ((← get).isLink? (Path.ofString path))
        else pure false
      if isDirectory && !isLink then
        reach (.delete path) fun tree => tree.removeDirectory (Path.ofString path).toString
      else change (.delete path) fun tree => tree.unlink (Path.ofString path).toString
      else pure ()) := by
    split
    · refine FailsAs.get.bind fun tree => (failsAs_answer _ _).bind fun isDirectory => ?_
      split
      · exact FailsAs.get.bind fun _ => (failsAs_answer _ _).bind (deletes isDirectory)
      · exact (FailsAs.pure false).bind (deletes isDirectory)
    · exact .pure ()
  refine (failsAs_ask _).bind fun present => ?_
  split
  · exact (FailsAs.pure false).bind (ends present)
  · exact (failsAs_ask _).bind (ends present)

theorem failsAs_renameFile (source target : String) : FailsAs Foreseen (renameFile source target) := by
  refine (failsAs_ask _).bind fun present => ?_
  split
  · exact (FailsAs.throw (.own rfl nofun nofun)).bind fun _ => failsAs_change _ _
  · exact failsAs_change _ _

theorem failsAs_touch (path : String) (moment : Option Moment) :
    FailsAs Foreseen (touch path moment) := by
  refine FailsAs.get.bind fun tree => ?_
  split
  · exact (FailsAs.set _).bind fun _ => .pure true
  · exact .pure false
  · exact .throw (.fault (.file _))

end Files.FileWork

theorem failsAs_ask {α : Type} (question : FileTree → Except FileError α) :
    FailsAs Foreseen (Work.ask question) :=
  (FileWork.failsAs_ask question).onFiles

end ClassLoom
