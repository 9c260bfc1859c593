import ClassLoom.Proofs.Answering
import ClassLoom.Proofs.Run.Enumerating

namespace ClassLoom
namespace Run

/-!
# The course of a walk

What a walk does apart from its visits, it does to no effect: it lists directories and follows links.
So a walk whose visits leave the shape of the tree alone is told by that shape, links or no links:
there is a list of candidates which it visits one after another, and if no visit fails, it ends as it
would have ended without them, well or with a failure of its own.

This holds for every outcome.  A visit that fails ends the walk as a failure of the walk itself does,
and what would have come afterwards is left out.
-/

open Files (FileTree Path)
open Rebuild (under child_under)

variable {σ : Type} {tree : FileTree} {root : Path} {parts : List String} {before after : Workspace}

/-! ## Visits one after another -/

/-- A visit, unless something has ended the walk. -/
def visitOne (visit : σ → Candidate → Work σ) (progress : Progress σ) (candidate : Candidate) :
    Work (Progress σ) :=
  advance (fun result => do return (← visit result candidate, none)) progress

/-- Visits one after another, and an end. -/
def tour (visit : σ → Candidate → Work σ) (found : List Candidate) (ending : Option Failure)
    (progress : Progress σ) : Work (Progress σ) := do
  let last ← found.foldlM (visitOne visit) progress
  return (last.1, last.2.or ending)

theorem advance_run (step : σ → Work (Progress σ)) (result : σ) (before : Workspace) :
    advance step (result, none) before = match step result before with
      | (.ok progress, after) => (.ok progress, after)
      | (.error failure, after) => (.ok (result, some failure), after) := by
  simp only [advance]
  rw [run_bind, Work.attempt]
  rcases step result before with ⟨outcome, after⟩
  cases outcome with
  | ok progress => rfl
  | error failure => rfl

theorem advance_stopped (step : σ → Work (Progress σ)) (result : σ) (failure : Failure) :
    advance step (result, some failure) = pure (result, some failure) := rfl

section Tour

variable {visit : σ → Candidate → Work σ} {found more : List Candidate} {ending : Option Failure}
  {progress : Progress σ}

theorem tour_nil (visit : σ → Candidate → Work σ) (ending : Option Failure) (progress : Progress σ) :
    tour visit [] ending progress = pure (progress.1, progress.2.or ending) := rfl

theorem tour_cons (visit : σ → Candidate → Work σ) (candidate : Candidate) (rest : List Candidate)
    (ending : Option Failure) (progress : Progress σ) :
    tour visit (candidate :: rest) ending progress =
      visitOne visit progress candidate >>= tour visit rest ending := by
  rw [tour, List.foldlM_cons, bind_assoc]
  rfl

theorem tour_singleton (visit : σ → Candidate → Work σ) (candidate : Candidate) (progress : Progress σ) :
    tour visit [candidate] none progress = visitOne visit progress candidate := by
  have rest : tour visit [] none = pure := by
    funext last
    rw [tour_nil, Option.or_none]
  rw [tour_cons, rest, bind_pure]

/-- After a failure, nothing is visited. -/
theorem tour_stopped (visit : σ → Candidate → Work σ) (found : List Candidate)
    (ending : Option Failure) (result : σ) (failure : Failure) :
    tour visit found ending (result, some failure) = pure (result, some failure) := by
  induction found with
  | nil => rfl
  | cons candidate rest inductionHypothesis =>
      rw [tour_cons, visitOne, advance_stopped, pure_bind, inductionHypothesis]

/-- Visits that have no end of their own are followed by others. -/
theorem tour_append (visit : σ → Candidate → Work σ) (found more : List Candidate)
    (ending : Option Failure) (progress : Progress σ) :
    tour visit (found ++ more) ending progress =
      tour visit found none progress >>= tour visit more ending := by
  induction found generalizing progress with
  | nil =>
      rw [List.nil_append, tour_nil, Option.or_none, pure_bind]
  | cons candidate rest inductionHypothesis =>
      rw [List.cons_append, tour_cons, tour_cons, bind_assoc]
      exact bind_congr inductionHypothesis

/-- A tour answers, and where it has an end it is at an end. -/
theorem tour_run (visit : σ → Candidate → Work σ) (found : List Candidate) (ending : Option Failure)
    (progress : Progress σ) (before : Workspace) :
    ∃ last, (tour visit found ending progress before).1 = .ok last ∧
      (ending.isSome → last.2.isSome) := by
  induction found generalizing progress before with
  | nil =>
      refine ⟨(progress.1, progress.2.or ending), rfl, fun some => ?_⟩
      cases progress.2 with
      | none => exact some
      | some failure => rfl
  | cons candidate rest inductionHypothesis =>
      rcases progress with ⟨result, failure⟩
      cases failure with
      | some failure =>
          rw [tour_stopped]
          exact ⟨(result, some failure), rfl, fun _ => rfl⟩
      | none =>
          rw [tour_cons, run_bind, visitOne, advance_run]
          rcases (visit result candidate >>= fun next => pure (next, none) :
            Work (Progress σ)) before with ⟨outcome, middle⟩
          cases outcome with
          | ok next => exact inductionHypothesis next middle
          | error failure => exact inductionHypothesis (result, some failure) middle

theorem tour_step {result next : σ} {candidate : Candidate} {rest : List Candidate} {middle : Workspace}
    (done : visit result candidate before = (.ok next, middle)) :
    tour visit (candidate :: rest) ending (result, none) before =
      tour visit rest ending (next, none) middle := by
  rw [tour_cons, run_bind, visitOne, advance_run, run_bind, done]
  rfl

/-- Visits that all answer make a tour to its end. -/
theorem tour_of_ok {result final : σ} (run : found.foldlM visit result before = (.ok final, after)) :
    tour visit found ending (result, none) before = (.ok (final, ending), after) := by
  induction found generalizing result before with
  | nil =>
      obtain ⟨same, rfl⟩ := pure_ok run
      obtain rfl := Except.ok.inj same
      rfl
  | cons candidate rest inductionHypothesis =>
      rw [List.foldlM_cons] at run
      obtain ⟨next, middle, done, further⟩ := bind_ok run
      rw [tour_step done]
      exact inductionHypothesis further

/-- A visit that fails ends the tour. -/
theorem tour_of_error {result : σ} {failure : Failure}
    (run : found.foldlM visit result before = (.error failure, after)) :
    ∃ last, tour visit found ending (result, none) before = (.ok (last, some failure), after) := by
  induction found generalizing result before with
  | nil => cases (pure_ok run).1
  | cons candidate rest inductionHypothesis =>
      rw [List.foldlM_cons] at run
      rcases bind_cases run with ⟨_, failed, same⟩ | ⟨next, middle, done, further⟩
      · cases same
        refine ⟨result, ?_⟩
        rw [tour_cons, run_bind, visitOne, advance_run, run_bind, failed]
        exact congrArg (fun work : Work (Progress σ) => work after)
          (tour_stopped visit rest ending result failure)
      · rw [tour_step done]
        exact inductionHypothesis further

/-- A tour ends after some of its candidates, with what holds after these. -/
theorem tour_past (holds : List Candidate → Workspace → Prop)
    (kept : ∀ {past rest : List Candidate} {candidate : Candidate} (result : σ) {state : Workspace},
      found = past ++ candidate :: rest → holds past state →
      holds (past ++ [candidate]) (visit result candidate state).2)
    (first : holds [] before) :
    ∃ past, past <+: found ∧ holds past (tour visit found ending progress before).2 := by
  have onward : ∀ {rest past : List Candidate} {progress : Progress σ} {before : Workspace},
      found = past ++ rest → holds past before →
      ∃ visited, visited <+: found ∧ holds visited (tour visit rest ending progress before).2 := by
    intro rest
    induction rest with
    | nil =>
        intro past progress before whole held
        exact ⟨past, ⟨[], whole.symm⟩, held⟩
    | cons candidate rest inductionHypothesis =>
        intro past progress before whole held
        rcases progress with ⟨result, failure⟩
        cases failure with
        | some failure =>
            rw [tour_stopped]
            exact ⟨past, ⟨_, whole.symm⟩, held⟩
        | none =>
            have next := kept result whole held
            have whole : found = past ++ [candidate] ++ rest := by rw [whole, List.append_assoc]; rfl
            rw [tour_cons, run_bind, visitOne, advance_run, run_bind]
            rcases stage : visit result candidate before with ⟨outcome, middle⟩
            rw [stage] at next
            cases outcome with
            | ok value => exact inductionHypothesis whole next
            | error failure => exact inductionHypothesis whole next
  exact onward rfl first

/-- What every visit keeps is kept on a tour. -/
theorem tour_holds (holds : Workspace → Prop)
    (kept : ∀ candidate ∈ found, ∀ (result : σ) {state : Workspace}, holds state →
      holds (visit result candidate state).2)
    (held : holds before) : holds (tour visit found ending progress before).2 := by
  obtain ⟨_, _, holdsAfter⟩ := tour_past (fun _ => holds) (fun result state whole held =>
    kept _ (whole ▸ List.mem_append_right _ List.mem_cons_self) result held) held
  exact holdsAfter

/-- Visits that do the same in every state that is come to make the same tour. -/
theorem tour_congr {other : σ → Candidate → Work σ} (holds : List Candidate → Workspace → Prop)
    (kept : ∀ {past rest : List Candidate} {candidate : Candidate} (result : σ) {state : Workspace},
      found = past ++ candidate :: rest → holds past state →
      holds (past ++ [candidate]) (visit result candidate state).2)
    (same : ∀ {past rest : List Candidate} {candidate : Candidate} (result : σ) {state : Workspace},
      found = past ++ candidate :: rest → holds past state →
      other result candidate state = visit result candidate state)
    (first : holds [] before) :
    tour other found ending progress before = tour visit found ending progress before := by
  have onward : ∀ {rest past : List Candidate} {progress : Progress σ} {before : Workspace},
      found = past ++ rest → holds past before →
      tour other rest ending progress before = tour visit rest ending progress before := by
    intro rest
    induction rest with
    | nil => exact fun _ _ => rfl
    | cons candidate rest inductionHypothesis =>
        intro past progress before whole held
        rcases progress with ⟨result, failure⟩
        cases failure with
        | some failure => rw [tour_stopped, tour_stopped]
        | none =>
            have next := kept result whole held
            have step := same result whole held
            have whole : found = past ++ [candidate] ++ rest := by rw [whole, List.append_assoc]; rfl
            rw [tour_cons, tour_cons, run_bind, run_bind, visitOne, visitOne, advance_run, advance_run,
              run_bind, run_bind, step]
            rcases stage : visit result candidate before with ⟨outcome, middle⟩
            rw [stage] at next
            cases outcome with
            | ok value => exact inductionHypothesis whole next
            | error failure => exact inductionHypothesis whole next
  exact onward rfl first

end Tour

/-- Collecting candidates one after another comes to their list. -/
theorem collect_run (found past : List Candidate) (before : Workspace) :
    found.foldlM collectCandidate past before = (.ok (past ++ found), before) := by
  induction found generalizing past with
  | nil =>
      rw [List.append_nil]
      rfl
  | cons candidate rest inductionHypothesis =>
      have collects : collectCandidate past candidate before = (.ok (past ++ [candidate]), before) := rfl
      rw [List.foldlM_cons, bind_of_ok collects, inductionHypothesis, List.append_assoc]
      rfl

/-! ## What a walk meets -/

/-- A name, and the shape of what it is, listed in the directory some names below the root. -/
def IsListed (tree : FileTree) (root : Path) (parts : List String) (item : String × Files.Entry) :
    Prop :=
  ∃ place, tree.stat true (under root parts).toString = .ok (place, .directory) ∧
    item ∈ tree.shapes place

/-- Names below the root that lead a walk to a directory: none, or those of a listed directory in such a
directory. -/
inductive Enters (tree : FileTree) (root : Path) : List String → Prop
  | top : Enters tree root []
  | down {parts : List String} {name : String} {shape : Files.Entry} :
      Enters tree root parts → IsListed tree root parts (name, shape) →
      tree.listedAs FileTree.Entry.isDirectory (under root (parts ++ [name])).toString shape =
        .ok true →
      Enters tree root (parts ++ [name])

/-- A candidate for names that a walk comes to, the last of which is listed as that of a file. -/
inductive Meets (tree : FileTree) (root : Path) : List String → Candidate → Prop
  | file {parts : List String} {name : String} {shape : Files.Entry} {candidate : Candidate} :
      Enters tree root parts → IsListed tree root parts (name, shape) →
      tree.listedAs FileTree.Entry.isFile (under root (parts ++ [name])).toString shape = .ok true →
      Candidate.of? (under root (parts ++ [name])) (parts ++ [name]) = some candidate →
      Meets tree root (parts ++ [name]) candidate

/-- The failures of a walk itself: a directory cannot be listed, or a listed link cannot be followed.
The second is no failure to enumerate but a bare fault. -/
inductive Stops (tree : FileTree) (root : Path) : Failure → Prop
  | unlisted {parts : List String} {error : Files.FileError} :
      Enters tree root parts → tree.list (under root parts).toString = .error error →
      Stops tree root (.enumeration (.cannotList (under root parts).toString (.file error)))
  | unfollowed {parts : List String} {name target : String} {question : Files.Entry → Bool}
      {error : Files.FileError} :
      Enters tree root parts → IsListed tree root parts (name, .link target) →
      tree.listedAs question (under root (parts ++ [name])).toString (.link target) = .error error →
      Stops tree root (.fault (.file error))

theorem Meets.called {names : List String} {candidate : Candidate}
    (meets : Meets tree root names candidate) :
    Candidate.of? (under root names) names = some candidate := by
  cases meets with
  | file _ _ _ called => exact called

theorem Meets.filePath {names : List String} {candidate : Candidate}
    (meets : Meets tree root names candidate) : candidate.filePath = under root names :=
  filePath_of_of? meets.called

/-- Candidates that a walk meets at certain names, at different paths, and how it ends. -/
structure Lists (tree : FileTree) (root : Path) (spots : List String → Prop) (found : List Candidate)
    (ending : Option Failure) : Prop where
  once : (found.map Candidate.filePath).Nodup
  meets : ∀ candidate ∈ found, ∃ names, spots names ∧ Meets tree root names candidate
  stops : ∀ failure ∈ ending, Stops tree root failure

namespace Lists

variable {spots others : List String → Prop} {found further : List Candidate}
  {ending : Option Failure}

theorem nothing (stops : ∀ failure ∈ ending, Stops tree root failure) :
    Lists tree root spots [] ending := by
  refine ⟨List.nodup_nil, fun candidate member => ?_, stops⟩
  cases member

theorem mono (lists : Lists tree root spots found ending) (wider : ∀ names, spots names → others names) :
    Lists tree root others found ending := by
  refine ⟨lists.once, fun candidate member => ?_, lists.stops⟩
  obtain ⟨names, spot, meets⟩ := lists.meets candidate member
  exact ⟨names, wider names spot, meets⟩

theorem append (first : Lists tree root spots found none)
    (second : Lists tree root others further ending) (apart : ∀ names, spots names → ¬others names) :
    Lists tree root (fun names => spots names ∨ others names) (found ++ further) ending := by
  refine ⟨?_, fun candidate member => ?_, second.stops⟩
  · rw [List.map_append, List.nodup_append]
    refine ⟨first.once, second.once, ?_⟩
    intro path member twin twinMember same
    obtain ⟨candidate, memberFound, rfl⟩ := List.mem_map.1 member
    obtain ⟨other, memberFurther, rfl⟩ := List.mem_map.1 twinMember
    obtain ⟨names, spot, meets⟩ := first.meets candidate memberFound
    obtain ⟨otherNames, otherSpot, otherMeets⟩ := second.meets other memberFurther
    rw [meets.filePath, otherMeets.filePath] at same
    obtain rfl : names = otherNames := List.append_cancel_left (congrArg Path.parts same)
    exact apart names spot otherSpot
  · rcases List.mem_append.1 member with earlier | later
    · obtain ⟨names, spot, meets⟩ := first.meets candidate earlier
      exact ⟨names, .inl spot, meets⟩
    · obtain ⟨names, spot, meets⟩ := second.meets candidate later
      exact ⟨names, .inr spot, meets⟩

end Lists

/-! ## Walks as tours -/

/-- Visits that leave the shape of a tree alone, whatever their outcome. -/
structure Undisturbing (tree : FileTree) (root : Path) (visit : σ → Candidate → Work σ)
    (holds : Workspace → Prop) : Prop where
  sound : ∀ {workspace}, holds workspace → workspace.files.Sound
  shape : ∀ {workspace}, holds workspace → tree.SameShape workspace.files
  visit : ∀ {names candidate} (result : σ) {before}, Meets tree root names candidate → holds before →
    holds (visit result candidate before).2

/-- A part of a walk that is a tour, whatever the visits do, as long as they leave the shape of the tree
alone. -/
def Tours (tree : FileTree) (root : Path)
    (walking : ∀ {σ : Type}, (σ → Candidate → Work σ) → Progress σ → Work (Progress σ))
    (found : List Candidate) (ending : Option Failure) : Prop :=
  ∀ {σ : Type} {visit : σ → Candidate → Work σ} {holds : Workspace → Prop},
    Undisturbing tree root visit holds → ∀ (progress : Progress σ) {before : Workspace}, holds before →
      walking visit progress before = tour visit found ending progress before

/-- A tour keeps what its visits keep. -/
theorem Lists.holds {spots : List String → Prop} {found : List Candidate} {ending last : Option Failure}
    (lists : Lists tree root spots found ending) {visit : σ → Candidate → Work σ}
    {holds : Workspace → Prop} (undisturbing : Undisturbing tree root visit holds)
    {progress : Progress σ} (held : holds before) : holds (tour visit found last progress before).2 := by
  refine tour_holds holds (fun candidate member result state holdsState => ?_) held
  obtain ⟨names, _, meets⟩ := lists.meets candidate member
  exact undisturbing.visit result meets holdsState

/-- One tour after another: the second is left out if the first has an end. -/
theorem Tours.append {first second : ∀ {σ : Type}, (σ → Candidate → Work σ) → Progress σ →
      Work (Progress σ)} {spots others : List String → Prop} {found further : List Candidate}
    {ending last : Option Failure} (lists : Lists tree root spots found ending)
    (listsFurther : Lists tree root others further last) (apart : ∀ names, spots names → ¬others names)
    (tours : Tours tree root first found ending) (toursFurther : Tours tree root second further last) :
    ∃ all final, Lists tree root (fun names => spots names ∨ others names) all final ∧
      Tours tree root (fun visit progress => first visit progress >>= second visit) all final := by
  have whole : ∀ {σ : Type} {visit : σ → Candidate → Work σ} {holds : Workspace → Prop},
      Undisturbing tree root visit holds → ∀ (progress : Progress σ) {before : Workspace},
      holds before → (first visit progress >>= second visit) before =
        (tour visit found ending progress >>= tour visit further last) before := by
    intro σ visit holds undisturbing progress before held
    obtain ⟨next, answered, _⟩ := tour_run visit found ending progress before
    have holdsNext : holds (tour visit found ending progress before).2 := lists.holds undisturbing held
    have same : first visit progress before = tour visit found ending progress before :=
      tours undisturbing progress held
    rw [run_bind, run_bind, same]
    rcases stage : tour visit found ending progress before with ⟨outcome, middle⟩
    rw [stage] at answered holdsNext
    obtain rfl : outcome = .ok next := answered
    exact toursFurther undisturbing next holdsNext
  cases ending with
  | none =>
      refine ⟨found ++ further, last, lists.append listsFurther apart, ?_⟩
      intro σ visit holds undisturbing progress before held
      rw [tour_append]
      exact whole undisturbing progress held
  | some failure =>
      refine ⟨found, some failure, lists.mono fun names spot => .inl spot, ?_⟩
      intro σ visit holds undisturbing progress before held
      refine (whole undisturbing progress held).trans ?_
      rw [run_bind]
      obtain ⟨⟨result, stop⟩, answered, stopped⟩ := tour_run visit found (some failure) progress before
      rcases stage : tour visit found (some failure) progress before with ⟨outcome, middle⟩
      rw [stage] at answered
      obtain rfl : outcome = .ok (result, stop) := answered
      cases stop with
      | none => cases stopped rfl
      | some failure =>
          simp only [tour_stopped]
          rfl

/-- What a listed name is, in a tree. -/
def standing (tree : FileTree) (path : Path) (names : List String) (shape : Files.Entry) :
    Outcome Listed :=
  match tree.listedAs FileTree.Entry.isDirectory path.toString shape with
  | .error error => .error (.fault (.file error))
  | .ok true => .ok .directory
  | .ok false =>
    match tree.listedAs FileTree.Entry.isFile path.toString shape with
    | .error error => .error (.fault (.file error))
    | .ok true => .ok (((Candidate.of? path names).map Listed.candidate).getD .other)
    | .ok false => .ok .other

theorem classify_run {path : Path} {names : List String} {shape : Files.Entry}
    (same : tree.SameShape before.files) :
    classify path names shape before = (standing tree path names shape, before) := by
  have directory := same.listedAs FileTree.Entry.isDirectory
    (fun entry => by cases entry <;> rfl) path.toString shape
  have file := same.listedAs FileTree.Entry.isFile
    (fun entry => by cases entry <;> rfl) path.toString shape
  rw [classify, run_bind, Work.ask_run, directory, standing]
  cases tree.listedAs FileTree.Entry.isDirectory path.toString shape with
  | error error => rfl
  | ok isDirectory =>
      cases isDirectory with
      | true => rfl
      | false =>
          simp only [Bool.false_eq_true, if_false]
          rw [run_bind, Work.ask_run, file]
          cases tree.listedAs FileTree.Entry.isFile path.toString shape with
          | error error => rfl
          | ok isFile =>
              cases isFile with
              | true => rfl
              | false => rfl

theorem listedAs_error {question : Files.Entry → Bool} {path : String} {shape : Files.Entry}
    {error : Files.FileError} (refused : tree.listedAs question path shape = .error error) :
    ∃ target, shape = .link target := by
  cases shape with
  | file file => cases refused
  | directory => cases refused
  | link target => exact ⟨target, rfl⟩

/-- A listed name is a directory, a class file or neither; or it is a link that cannot be followed. -/
theorem standing_cases (tree : FileTree) (path : Path) (names : List String) (shape : Files.Entry) :
    (∃ error target question, standing tree path names shape = .error (.fault (.file error)) ∧
        shape = .link target ∧ tree.listedAs question path.toString shape = .error error) ∨
      (standing tree path names shape = .ok .directory ∧
        tree.listedAs FileTree.Entry.isDirectory path.toString shape = .ok true) ∨
      (∃ candidate, standing tree path names shape = .ok (.candidate candidate) ∧
        tree.listedAs FileTree.Entry.isFile path.toString shape = .ok true ∧
        Candidate.of? path names = some candidate) ∨
      standing tree path names shape = .ok .other := by
  unfold standing
  cases directory : tree.listedAs FileTree.Entry.isDirectory path.toString shape with
  | error error =>
      obtain ⟨target, link⟩ := listedAs_error directory
      exact .inl ⟨error, target, _, rfl, link, directory⟩
  | ok isDirectory =>
      cases isDirectory with
      | true => exact .inr (.inl ⟨rfl, rfl⟩)
      | false =>
          simp only
          cases file : tree.listedAs FileTree.Entry.isFile path.toString shape with
          | error error =>
              obtain ⟨target, link⟩ := listedAs_error file
              exact .inl ⟨error, target, _, rfl, link, file⟩
          | ok isFile =>
              cases isFile with
              | false => exact .inr (.inr (.inr rfl))
              | true =>
                  cases called : Candidate.of? path names with
                  | none => exact .inr (.inr (.inr rfl))
                  | some candidate => exact .inr (.inr (.inl ⟨candidate, rfl, rfl, rfl⟩))

section Walk

variable {depth : Nat} {name : String} {shape : Files.Entry}

/-- What a walk does that starts some names below the root. -/
def walking (depth : Nat) (root : Path) (parts : List String) {σ : Type}
    (visit : σ → Candidate → Work σ) (progress : Progress σ) : Work (Progress σ) :=
  advance (walk visit depth (under root parts) parts) progress

theorem visitName_run {visit : σ → Candidate → Work σ} {result : σ}
    (same : tree.SameShape before.files) :
    visitName visit depth (under root parts) parts (result, none) (name, shape) before =
      match standing tree (under root (parts ++ [name])) (parts ++ [name]) shape with
      | .error failure => (.ok (result, some failure), before)
      | .ok .directory => walking depth root (parts ++ [name]) visit (result, none) before
      | .ok (.candidate candidate) => visitOne visit (result, none) candidate before
      | .ok .other => (.ok (result, none), before) := by
  rw [visitName, advance_run, child_under, run_bind, classify_run same]
  cases standing tree (under root (parts ++ [name])) (parts ++ [name]) shape with
  | error failure => rfl
  | ok listed =>
      cases listed with
      | directory => exact (advance_run _ result before).symm
      | candidate candidate =>
          simp only
          rw [visitOne, advance_run]
      | other => rfl

/-- A listed name is a directory to walk through, a class to visit, nothing, or the end. -/
theorem tours_visitName (enters : Enters tree root parts)
    (listed : IsListed tree root parts (name, shape))
    (below : Enters tree root (parts ++ [name]) → ∃ found ending,
      Lists tree root (fun names => parts ++ [name] <+: names) found ending ∧
        Tours tree root (walking depth root (parts ++ [name])) found ending) :
    ∃ found ending, Lists tree root (fun names => parts ++ [name] <+: names) found ending ∧
      Tours tree root (fun visit progress =>
        visitName visit depth (under root parts) parts progress (name, shape)) found ending := by
  -- A stopped walk does nothing, whatever the name is.
  suffices started : ∃ found ending,
      Lists tree root (fun names => parts ++ [name] <+: names) found ending ∧
        ∀ {σ : Type} {visit : σ → Candidate → Work σ} {holds : Workspace → Prop},
          Undisturbing tree root visit holds → ∀ (result : σ) {before : Workspace}, holds before →
            visitName visit depth (under root parts) parts (result, none) (name, shape) before =
              tour visit found ending (result, none) before by
    obtain ⟨found, ending, lists, tours⟩ := started
    refine ⟨found, ending, lists, ?_⟩
    rintro σ visit holds undisturbing ⟨result, failure⟩ before held
    cases failure with
    | some failure =>
        rw [tour_stopped]
        rfl
    | none => exact tours undisturbing result held
  rcases standing_cases tree (under root (parts ++ [name])) (parts ++ [name]) shape with
    ⟨error, target, question, is, rfl, refused⟩ | ⟨is, isDirectory⟩ | ⟨candidate, is, isFile, called⟩ | is
  · refine ⟨[], some (.fault (.file error)), .nothing ?_, ?_⟩
    · rintro _ ⟨⟩
      exact .unfollowed enters listed refused
    · intro σ visit holds undisturbing result before held
      rw [visitName_run (undisturbing.shape held), is]
      rfl
  · obtain ⟨found, ending, lists, tours⟩ := below (.down enters listed isDirectory)
    refine ⟨found, ending, lists, ?_⟩
    intro σ visit holds undisturbing result before held
    rw [visitName_run (undisturbing.shape held), is]
    exact tours undisturbing (result, none) held
  · refine ⟨[candidate], none, ⟨List.nodup_singleton _, ?_, ?_⟩, ?_⟩
    · intro other member
      rw [List.mem_singleton.1 member]
      exact ⟨_, List.prefix_refl _, .file enters listed isFile called⟩
    · rintro _ ⟨⟩
    · intro σ visit holds undisturbing result before held
      rw [visitName_run (undisturbing.shape held), is, tour_singleton]
  · refine ⟨[], none, .nothing ?_, ?_⟩
    · rintro _ ⟨⟩
    · intro σ visit holds undisturbing result before held
      rw [visitName_run (undisturbing.shape held), is]
      rfl

/-- The names of a listing, one after another, up to the one at which the walk ends. -/
theorem tours_foldlM {items : List (String × Files.Entry)} (enters : Enters tree root parts)
    (below : ∀ name, Enters tree root (parts ++ [name]) → ∃ found ending,
      Lists tree root (fun names => parts ++ [name] <+: names) found ending ∧
        Tours tree root (walking depth root (parts ++ [name])) found ending)
    (once : (items.map Prod.fst).Nodup) (listed : ∀ item ∈ items, IsListed tree root parts item) :
    ∃ found ending,
      Lists tree root (fun names => ∃ name ∈ items.map Prod.fst, parts ++ [name] <+: names)
        found ending ∧
      Tours tree root (fun visit progress =>
        items.foldlM (visitName visit depth (under root parts) parts) progress) found ending := by
  induction items with
  | nil =>
      refine ⟨[], none, .nothing ?_, ?_⟩
      · rintro _ ⟨⟩
      · intro σ visit holds undisturbing progress before held
        rw [tour_nil, Option.or_none]
        rfl
  | cons item rest inductionHypothesis =>
      rcases item with ⟨name, shape⟩
      rw [List.map_cons, List.nodup_cons] at once
      obtain ⟨found, ending, lists, tours⟩ :=
        tours_visitName enters (listed _ List.mem_cons_self) (below name)
      obtain ⟨further, last, listsRest, toursRest⟩ :=
        inductionHypothesis once.2 fun item member => listed item (List.mem_cons_of_mem _ member)
      obtain ⟨all, final, listsAll, toursAll⟩ := tours.append lists listsRest (by
        rintro names start ⟨other, member, again⟩
        have same : parts ++ [name] = parts ++ [other] :=
          (List.prefix_of_prefix_length_le start again (by simp)).eq_of_length (by simp)
        obtain rfl : name = other := by simpa using same
        exact once.1 member) toursRest
      refine ⟨all, final, listsAll.mono ?_, ?_⟩
      · rintro names (start | ⟨other, member, start⟩)
        · exact ⟨name, List.mem_cons_self, start⟩
        · exact ⟨other, List.mem_cons_of_mem _ member, start⟩
      · intro σ visit holds undisturbing progress before held
        refine Eq.trans ?_ (toursAll undisturbing progress held)
        exact congrFun (List.foldlM_cons ..) before

theorem directory_of_list {raw : String} {entries : List (String × Files.Entry)}
    (listing : tree.list raw = .ok entries) :
    ∃ place, tree.stat true raw = .ok (place, .directory) := by
  unfold FileTree.list at listing
  split at listing
  next place seen => exact ⟨place, seen⟩
  · cases listing
  · cases listing

/-- A walk that starts in a directory is a tour of candidates below it. -/
theorem tours_walk (depth : Nat) (sound : tree.Sound) (enters : Enters tree root parts) :
    ∃ found ending, Lists tree root (fun names => parts <+: names) found ending ∧
      Tours tree root (walking depth root parts) found ending := by
  induction depth generalizing parts with
  | zero =>
      refine ⟨[], none, .nothing ?_, ?_⟩
      · rintro _ ⟨⟩
      · rintro σ visit holds undisturbing ⟨result, failure⟩ before held
        cases failure with
        | none => rfl
        | some failure => rfl
  | succ depth inductionHypothesis =>
      cases listing : tree.list (under root parts).toString with
      | error error =>
          refine ⟨[], some (.enumeration (.cannotList (under root parts).toString (.file error))),
            .nothing ?_, ?_⟩
          · rintro _ ⟨⟩
            exact .unlisted enters listing
          · rintro σ visit holds undisturbing ⟨result, failure⟩ before held
            cases failure with
            | some failure => rfl
            | none =>
                change advance (walk visit (depth + 1) _ _) (result, none) before = _
                rw [advance_run, walk_succ, run_bind, Run.listing, Work.files_bind,
                  (undisturbing.shape held).list_error listing]
                rfl
      | ok entries =>
          obtain ⟨place, seen⟩ := directory_of_list listing
          have listed : ∀ item ∈ tree.shapes place, IsListed tree root parts item :=
            fun item member => ⟨place, seen, member⟩
          obtain ⟨found, ending, lists, tours⟩ := tours_foldlM enters
            (fun name => inductionHypothesis) (FileTree.nodup_names sound place) listed
          refine ⟨found, ending, lists.mono ?_, ?_⟩
          · rintro names ⟨name, _, start⟩
            exact (List.prefix_append parts [name]).trans start
          · rintro σ visit holds undisturbing ⟨result, failure⟩ before held
            cases failure with
            | some failure =>
                rw [tour_stopped]
                rfl
            | none =>
                have shape := undisturbing.shape held
                obtain ⟨last, answered, _⟩ := tour_run visit found ending (result, none) before
                have same : (tree.shapes place).foldlM (visitName visit depth (under root parts) parts)
                    (result, none) before = tour visit found ending (result, none) before :=
                  tours undisturbing (result, none) held
                change advance (walk visit (depth + 1) _ _) (result, none) before = _
                rw [advance_run, walk_succ, run_bind, listing_of_stat (shape.stat_directory seen)]
                simp only
                rw [foldlM_shapes, shape.listed sound (undisturbing.sound held), same]
                rcases stage : tour visit found ending (result, none) before with ⟨outcome, after⟩
                rw [stage] at answered
                obtain rfl : outcome = .ok last := answered
                rfl

/-- The candidates that a walk through a tree visits, and how it ends, are those of the tree. -/
theorem tours_visitClasses (sound : tree.Sound) {top : Files.Location}
    (seen : tree.stat true root.toString = .ok (top, .directory)) :
    ∃ found ending, Lists tree root (fun _ => True) found ending ∧
      ∀ {σ : Type} {visit : σ → Candidate → Work σ} {holds : Workspace → Prop},
        Undisturbing tree root visit holds → ∀ (result : σ) {before : Workspace}, holds before →
          visitClasses visit root result before = tour visit found ending (result, none) before := by
  obtain ⟨found, ending, lists, tours⟩ :=
    tours_walk FileTree.pathLimit sound (.top : Enters tree root [])
  refine ⟨found, ending, lists.mono fun _ _ => trivial, ?_⟩
  intro σ visit holds undisturbing result before held
  have whole : under root [] = root := by simp [under]
  have asked : before.files.isDirectory? root = .ok true :=
    FileTree.test_of_stat ((undisturbing.shape held).stat_directory seen)
  refine Eq.trans ?_ (tours undisturbing (result, none) held)
  change _ = advance (walk visit FileTree.pathLimit (under root []) []) (result, none) before
  rw [visitClasses, advance_run, advance_run, run_bind, Work.ask_of_ok asked, whole]
  rfl

end Walk

/-! ## Walks without links -/

namespace DirectoryTree

variable {top : Files.Location} {names : List String} {name : String} {shape : Files.Entry}

/-- What is listed some names below the root is at the place of these names. -/
theorem held_of_isListed (directory : DirectoryTree tree root top)
    (above : tree.at? (top ++ parts) = some .directory) (listed : IsListed tree root parts (name, shape)) :
    ∃ entry, tree.at? (top ++ (parts ++ [name])) = some entry ∧ FileTree.Entry.shape entry = shape := by
  obtain ⟨place, seen, member⟩ := listed
  obtain ⟨rfl, _⟩ := (directory.stands (directory.named above)).of_stat directory.sound seen
  rw [← List.append_assoc]
  exact Option.map_eq_some_iff.1 ((FileTree.mem_shapes_iff directory.sound).1 member)

/-- A walk comes to places where directories are. -/
theorem held_of_enters (directory : DirectoryTree tree root top) (enters : Enters tree root parts) :
    tree.at? (top ++ parts) = some .directory := by
  induction enters with
  | top =>
      rw [List.append_nil]
      exact directory.stands_root.2
  | down _ listed isDirectory inductionHypothesis =>
      obtain ⟨entry, held, rfl⟩ := directory.held_of_isListed inductionHypothesis listed
      cases entry with
      | directory => exact held
      | file file => cases isDirectory
      | link target => exact absurd held (directory.plain (FileTree.isBelow_append top _))

/-- What a walk meets is a class file. -/
theorem isClassFile_of_meets (directory : DirectoryTree tree root top) {candidate : Candidate}
    (meets : Meets tree root names candidate) :
    ∃ file, IsClassFile tree root top names file candidate := by
  cases meets with
  | file enters listed isFile called =>
      obtain ⟨entry, held, rfl⟩ := directory.held_of_isListed (directory.held_of_enters enters) listed
      cases entry with
      | file file => exact ⟨file, held, called⟩
      | directory => cases isFile
      | link target => exact absurd held (directory.plain (FileTree.isBelow_append top _))

/-- Without links, a walk is ended by a directory that cannot be listed only. -/
theorem unlisted_of_stops (directory : DirectoryTree tree root top) {failure : Failure}
    (stops : Stops tree root failure) : ∃ parts error,
      tree.at? (top ++ parts) = some .directory ∧ tree.list (under root parts).toString = .error error ∧
        failure = .enumeration (.cannotList (under root parts).toString (.file error)) := by
  cases stops with
  | unlisted enters refused => exact ⟨_, _, directory.held_of_enters enters, refused, rfl⟩
  | unfollowed enters listed _ =>
      obtain ⟨entry, held, link⟩ := directory.held_of_isListed (directory.held_of_enters enters) listed
      cases entry with
      | link target => exact absurd held (directory.plain (FileTree.isBelow_append top _))
      | file file => cases link
      | directory => cases link

end DirectoryTree

end Run
end ClassLoom
