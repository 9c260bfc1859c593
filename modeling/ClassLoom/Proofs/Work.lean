import ClassLoom.Log.Writing
import Mathlib

namespace ClassLoom

/-!
# Reasoning about work

Work either answers or fails, and changes the state in both cases.  A successful run is taken apart
step by step: each step answered, in the state that the step before it left.

What holds whatever the outcome is a relation between the states before and after.  If the relation
is a preorder, work keeps it as soon as its steps do.
-/

open Files (FileTree FileWork)

theorem toOption_eq_some_iff {ε α : Type} {outcome : Except ε α} {value : α} :
    outcome.toOption = some value ↔ outcome = .ok value := by
  cases outcome <;> simp [Except.toOption]

section Steps

variable {σ α β : Type} {work : ExceptT Failure (StateM σ) α}
  {next : α → ExceptT Failure (StateM σ) β} {before after : σ}

theorem run_bind (work : ExceptT Failure (StateM σ) α) (next : α → ExceptT Failure (StateM σ) β)
    (before : σ) :
    (work >>= next) before =
      match work before with
      | (.ok value, middle) => next value middle
      | (.error failure, middle) => (.error failure, middle) := by
  simp only [bind, ExceptT.bind, ExceptT.mk, StateT.bind]
  rcases work before with ⟨outcome, middle⟩
  cases outcome with
  | ok value => rfl
  | error failure => rfl

/-- A run of two steps fails in the first, or goes on from where the first has answered. -/
theorem bind_cases {outcome : Except Failure β} (run : (work >>= next) before = (outcome, after)) :
    (∃ failure, work before = (.error failure, after) ∧ outcome = .error failure) ∨
      ∃ value middle, work before = (.ok value, middle) ∧ next value middle = (outcome, after) := by
  rw [run_bind] at run
  rcases stage : work before with ⟨result, middle⟩
  rw [stage] at run
  cases result with
  | ok value => exact .inr ⟨value, middle, rfl, run⟩
  | error failure =>
      obtain ⟨rfl, rfl⟩ := Prod.mk.inj run
      exact .inl ⟨failure, rfl, rfl⟩

theorem bind_ok {value : β} (run : (work >>= next) before = (.ok value, after)) :
    ∃ first middle, work before = (.ok first, middle) ∧ next first middle = (.ok value, after) := by
  rcases bind_cases run with ⟨failure, _, failed⟩ | answered
  · cases failed
  · exact answered

theorem pure_ok {value : α} {outcome : Except Failure α}
    (run : (pure value : ExceptT Failure (StateM σ) α) before = (outcome, after)) :
    outcome = .ok value ∧ after = before := by
  obtain ⟨rfl, rfl⟩ := Prod.mk.inj run
  exact ⟨rfl, rfl⟩

theorem throw_error {failure : Failure} {outcome : Except Failure α}
    (run : (throw failure : ExceptT Failure (StateM σ) α) before = (outcome, after)) :
    outcome = .error failure ∧ after = before := by
  obtain ⟨rfl, rfl⟩ := Prod.mk.inj run
  exact ⟨rfl, rfl⟩

theorem get_bind {next : σ → ExceptT Failure (StateM σ) α} :
    ((get : ExceptT Failure (StateM σ) σ) >>= next) before = next before before := rfl

end Steps

/-! ## Relations that work keeps -/

section Keeping

variable {σ α β : Type} {related : σ → σ → Prop}

/-- Work that relates every state to the one it leaves, whether it answers or fails. -/
def Keeps (related : σ → σ → Prop) (work : ExceptT Failure (StateM σ) α) : Prop :=
  ∀ before, related before (work before).2

theorem Keeps.run {work : ExceptT Failure (StateM σ) α} (keeps : Keeps related work)
    {before after : σ} {outcome : Except Failure α} (run : work before = (outcome, after)) :
    related before after := by
  have held := keeps before
  rw [run] at held
  exact held

theorem keeps_of_run {work : ExceptT Failure (StateM σ) α}
    (held : ∀ {before after outcome}, work before = (outcome, after) → related before after) :
    Keeps related work := fun _ => held rfl

variable [IsPreorder σ related]

theorem keeps_pure (value : α) : Keeps related (pure value : ExceptT Failure (StateM σ) α) :=
  fun before => refl_of related before

theorem keeps_throw (failure : Failure) :
    Keeps related (throw failure : ExceptT Failure (StateM σ) α) :=
  fun before => refl_of related before

theorem keeps_get : Keeps related (get : ExceptT Failure (StateM σ) σ) :=
  fun before => refl_of related before

theorem Keeps.bind {work : ExceptT Failure (StateM σ) α} {next : α → ExceptT Failure (StateM σ) β}
    (first : Keeps related work) (second : ∀ value, Keeps related (next value)) :
    Keeps related (work >>= next) := by
  intro before
  rw [run_bind]
  rcases stage : work before with ⟨outcome, middle⟩
  have start : related before middle := first.run stage
  cases outcome with
  | error failure => exact start
  | ok value => exact trans_of related start (second value middle)

/-- Work over a list keeps a relation if every step does, from the values that can be reached. -/
theorem keeps_foldlM_of {ι : Type} {step : α → ι → ExceptT Failure (StateM σ) α} {reached : α → Prop}
    (kept : ∀ {value : α} (item : ι), reached value → Keeps related (step value item))
    (stays : ∀ {value next : α} {item : ι} {before after : σ}, reached value →
      step value item before = (.ok next, after) → reached next)
    (items : List ι) {start : α} (first : reached start) : Keeps related (items.foldlM step start) := by
  induction items generalizing start with
  | nil => exact keeps_pure start
  | cons item rest inductionHypothesis =>
      rw [List.foldlM_cons]
      refine keeps_of_run fun run => ?_
      rcases bind_cases run with ⟨failure, failed, _⟩ | ⟨value, middle, done, further⟩
      · exact (kept item first).run failed
      · exact trans_of related ((kept item first).run done)
          ((inductionHypothesis (stays first done)).run further)

theorem keeps_foldlM {ι : Type} {step : α → ι → ExceptT Failure (StateM σ) α}
    (kept : ∀ (value : α) (item : ι), Keeps related (step value item)) (items : List ι) (start : α) :
    Keeps related (items.foldlM step start) := by
  exact @keeps_foldlM_of σ α related _ ι step (fun _ => True) (fun {value} item _ => kept value item)
    (fun {_ _ _ _ _} _ _ => trivial) items start trivial

end Keeping

/-- What holds of the items so far, of the value and of the state holds after a run over a list. -/
theorem foldlM_ok {σ α ι : Type} {step : α → ι → ExceptT Failure (StateM σ) α} {items : List ι}
    (holds : List ι → α → σ → Prop)
    (kept : ∀ {past rest : List ι} {value next : α} {item : ι} {before after : σ},
      items = past ++ item :: rest → holds past value before →
      step value item before = (.ok next, after) → holds (past ++ [item]) next after)
    {start value : α} {before after : σ}
    (first : holds [] start before) (run : items.foldlM step start before = (.ok value, after)) :
    holds items value after := by
  have onward : ∀ {rest past : List ι} {start : α} {before : σ}, items = past ++ rest →
      holds past start before → rest.foldlM step start before = (.ok value, after) →
      holds (past ++ rest) value after := by
    intro rest
    induction rest with
    | nil =>
        intro past start before _ held run
        obtain ⟨same, rfl⟩ := pure_ok run
        obtain rfl := Except.ok.inj same
        rw [List.append_nil]
        exact held
    | cons item rest inductionHypothesis =>
        intro past start before whole held run
        rw [List.foldlM_cons] at run
        obtain ⟨next, middle, done, further⟩ := bind_ok run
        have onward := inductionHypothesis (by rw [whole, List.append_assoc]; rfl)
          (kept whole held done) further
        rwa [List.append_assoc] at onward
  exact onward rfl first run

/-! ## Work on the workspace -/

namespace Work

variable {α : Type} {workspace after : Workspace}

theorem onFiles_run (work : FileWork α) (workspace : Workspace) :
    Work.onFiles work workspace =
      ((work workspace.files).1, { workspace with files := (work workspace.files).2 }) := rfl

theorem onFiles_cases {work : FileWork α} {outcome : Outcome α}
    (run : Work.onFiles work workspace = (outcome, after)) :
    ∃ files, work workspace.files = (outcome, files) ∧ after = { workspace with files } := by
  rw [onFiles_run] at run
  obtain ⟨rfl, rfl⟩ := Prod.mk.inj run
  exact ⟨_, rfl, rfl⟩

theorem ask_run (question : FileTree → Except Files.FileError α) (workspace : Workspace) :
    Work.ask question workspace = (match question workspace.files with
      | .ok value => .ok value
      | .error error => .error (.fault (.file error)), workspace) := by
  rw [Work.ask, Work.onFiles_run, FileWork.ask, get_bind]
  cases question workspace.files with
  | ok value => rfl
  | error error => rfl

theorem ask_cases {question : FileTree → Except Files.FileError α} {outcome : Outcome α}
    (run : Work.ask question workspace = (outcome, after)) :
    after = workspace ∧
      outcome = match question workspace.files with
        | .ok value => .ok value
        | .error error => .error (.fault (.file error)) := by
  obtain ⟨files, asked, rfl⟩ := onFiles_cases run
  rw [FileWork.ask, get_bind] at asked
  cases answer : question workspace.files with
  | ok value =>
      rw [answer] at asked
      obtain ⟨rfl, rfl⟩ := pure_ok asked
      exact ⟨rfl, rfl⟩
  | error error =>
      rw [answer] at asked
      obtain ⟨rfl, rfl⟩ := throw_error asked
      exact ⟨rfl, rfl⟩

theorem ask_ok {question : FileTree → Except Files.FileError α} {value : α}
    (run : Work.ask question workspace = (.ok value, after)) :
    after = workspace ∧ question workspace.files = .ok value := by
  obtain ⟨same, answered⟩ := ask_cases run
  refine ⟨same, ?_⟩
  cases asked : question workspace.files with
  | ok answer =>
      rw [asked] at answered
      rw [Except.ok.inj answered]
  | error error =>
      rw [asked] at answered
      cases answered

theorem ask_of_ok {question : FileTree → Except Files.FileError α} {value : α}
    (answered : question workspace.files = .ok value) :
    Work.ask question workspace = (.ok value, workspace) := by
  rw [Work.ask, onFiles_run, FileWork.ask, get_bind, answered]
  rfl

theorem files_bind {next : FileTree → Work α} :
    (Work.files >>= next) workspace = next workspace.files workspace := rfl

theorem ofOutcome_cases {value outcome : Outcome α}
    (run : Work.ofOutcome value workspace = (outcome, after)) :
    after = workspace ∧ outcome = value := by
  cases value with
  | ok value =>
      obtain ⟨rfl, rfl⟩ := pure_ok run
      exact ⟨rfl, rfl⟩
  | error failure =>
      obtain ⟨rfl, rfl⟩ := throw_error run
      exact ⟨rfl, rfl⟩

theorem keeps_ofOutcome_bind {β : Type} {related : Workspace → Workspace → Prop}
    [IsPreorder Workspace related] {outcome : Outcome α} {next : α → Work β}
    (kept : ∀ value, outcome = .ok value → Keeps related (next value)) :
    Keeps related (Work.ofOutcome outcome >>= next) := by
  cases outcome with
  | ok value => exact kept value rfl
  | error failure => exact keeps_throw failure

theorem ensuring_cases {work : Work α} {finish : Workspace → Workspace} {outcome : Outcome α}
    (run : Work.ensuring work finish workspace = (outcome, after)) :
    ∃ middle, work workspace = (outcome, middle) ∧ after = finish middle := by
  unfold Work.ensuring at run
  rcases stage : work workspace with ⟨result, middle⟩
  rw [stage] at run
  obtain ⟨rfl, rfl⟩ := Prod.mk.inj run
  exact ⟨middle, rfl, rfl⟩

theorem ensuring_congr {work other : Work α} {finish : Workspace → Workspace}
    (same : work workspace = other workspace) :
    Work.ensuring work finish workspace = Work.ensuring other finish workspace := by
  rw [Work.ensuring, Work.ensuring, same]

theorem attempt_cases {work : Work α} {outcome : Outcome (Outcome α)}
    (run : Work.attempt work workspace = (outcome, after)) :
    ∃ result, work workspace = (result, after) ∧ outcome = .ok result := by
  unfold Work.attempt at run
  rcases stage : work workspace with ⟨result, middle⟩
  rw [stage] at run
  obtain ⟨rfl, rfl⟩ := Prod.mk.inj run
  exact ⟨result, rfl, rfl⟩

/-- Work goes on after an attempt, whatever its outcome. -/
theorem attempt_bind {β : Type} {work : Work α} {next : Outcome α → Work β} {outcome : Outcome β}
    (run : (Work.attempt work >>= next) workspace = (outcome, after)) :
    ∃ result middle, work workspace = (result, middle) ∧ next result middle = (outcome, after) := by
  rcases bind_cases run with ⟨failure, attempted, _⟩ | ⟨result, middle, attempted, further⟩
  · obtain ⟨_, _, answered⟩ := attempt_cases attempted
    cases answered
  · obtain ⟨outcome, stage, answered⟩ := attempt_cases attempted
    obtain rfl := Except.ok.inj answered
    exact ⟨_, middle, stage, further⟩

theorem recast_cases {change : Failure → Option Failure} {work : Work α} {outcome : Outcome α}
    (run : Work.recast change work workspace = (outcome, after)) :
    (∃ value, work workspace = (.ok value, after) ∧ outcome = .ok value) ∨
      ∃ failure, work workspace = (.error failure, after) ∧
        outcome = .error ((change failure).getD failure) := by
  unfold Work.recast at run
  rcases stage : work workspace with ⟨result, middle⟩
  rw [stage] at run
  cases result with
  | ok value =>
      obtain ⟨rfl, rfl⟩ := Prod.mk.inj run
      exact .inl ⟨value, rfl, rfl⟩
  | error failure =>
      obtain ⟨rfl, rfl⟩ := Prod.mk.inj run
      exact .inr ⟨failure, rfl, rfl⟩

end Work
end ClassLoom
