import ClassLoom.Proofs.Files.Guarded
import ClassLoom.Proofs.Files.Shapes
import ClassLoom.Proofs.Rebuild.Keys
import ClassLoom.Proofs.Work
import ClassLoom.Run.Enumeration

namespace ClassLoom
namespace Run

/-!
# What a walk visits

A walk lists each directory when it comes to it, after it has visited what was listed before.  Visits
that leave the shape of the tree alone do not change what is listed, so the walk visits the class
files that were there when it began, each once, one after another: it is a fold over the enumeration
of that tree.

The induction is on the depth of the walk, and for each directory on its listing.  The names of the
way down are carried along: what is found below a directory is told from what is found elsewhere by
how its names begin.
-/

open Files (FileTree Path IsName)
open Rebuild (under child_under)

variable {σ : Type} {tree : FileTree} {root : Path} {top : Files.Location} {names parts : List String}
  {before after : Workspace}

/-- A directory tree without links, and the directory in which relative paths start. -/
structure DirectoryTree (tree : FileTree) (root : Path) (top : Files.Location) : Prop where
  sound : tree.Sound
  started : tree.at? tree.start = some .directory
  proper : root.Proper
  found : tree.stat true root.toString = .ok (top, .directory)
  plain : ∀ {place : Files.Location} {target : String}, FileTree.isBelow place top = true →
    tree.at? place ≠ some (.link target)

/-- A class file some names below the root, as a candidate. -/
structure IsClassFile (tree : FileTree) (root : Path) (top : Files.Location) (names : List String)
    (file : Files.File) (candidate : Candidate) : Prop where
  held : tree.at? (top ++ names) = some (.file file)
  called : Candidate.of? (under root names) names = some candidate

/-! ## Where a walk is -/

namespace DirectoryTree

theorem base_alive (directory : DirectoryTree tree root top) (path : Path) :
    tree.at? (tree.base path) = some .directory := by
  unfold FileTree.base
  split
  · exact directory.started
  · rfl

theorem reaches (directory : DirectoryTree tree root top) : tree.Reaches root top :=
  ((FileTree.find_directory_iff directory.proper).1 (FileTree.stat_eq_ok_iff.1 directory.found).2).2

/-- The root stands for its place, where a directory is. -/
theorem stands_root (directory : DirectoryTree tree root top) :
    FileTree.Stands tree root top ∧ tree.at? top = some .directory := by
  obtain ⟨_, leads⟩ := directory.reaches
  have stands : FileTree.Stands tree root top :=
    ⟨directory.proper, directory.base_alive root, leads.settles⟩
  exact ⟨stands, (stands.of_stat directory.sound directory.found).2⟩

theorem named (directory : DirectoryTree tree root top) {entry : Files.Entry}
    (held : tree.at? (top ++ names) = some entry) : ∀ name ∈ names, IsName name :=
  fun name member => directory.sound.named held name (List.mem_append_right top member)

/-- Names below the root stand for the place that they name. -/
theorem stands (directory : DirectoryTree tree root top) (named : ∀ name ∈ names, IsName name) :
    FileTree.Stands tree (under root names) (top ++ names) := by
  have above := directory.stands_root.1
  refine ⟨⟨directory.proper.root, fun part member => ?_⟩, above.based, above.settles.append ?_⟩
  · rcases List.mem_append.1 member with upper | lower
    · exact directory.proper.parts part upper
    · exact (named part lower).1
  · refine .straight named fun front _ target => ?_
    exact directory.plain (FileTree.isBelow_append top front)

end DirectoryTree

/-! ## Enumerations -/

theorem filePath_of_of? {path : Path} {candidate : Candidate}
    (called : Candidate.of? path names = some candidate) : candidate.filePath = path := by
  unfold Candidate.of? at called
  simp only at called
  split at called
  · rw [← Option.some.inj called]
  · cases called

theorem IsClassFile.filePath {file : Files.File} {candidate : Candidate}
    (classFile : IsClassFile tree root top names file candidate) :
    candidate.filePath = under root names := filePath_of_of? classFile.called

/-- A class file is at one place. -/
theorem IsClassFile.unique {others : List String} {file twin : Files.File} {candidate : Candidate}
    (classFile : IsClassFile tree root top names file candidate)
    (again : IsClassFile tree root top others twin candidate) : names = others ∧ file = twin := by
  have same : under root names = under root others := classFile.filePath.symm.trans again.filePath
  obtain rfl : names = others := List.append_cancel_left (congrArg Path.parts same)
  have held := classFile.held.symm.trans again.held
  cases held
  exact ⟨rfl, rfl⟩

/-- There is one class file at a place. -/
theorem IsClassFile.candidate_unique {file twin : Files.File} {candidate other : Candidate}
    (classFile : IsClassFile tree root top names file candidate)
    (again : IsClassFile tree root top names twin other) : candidate = other :=
  Option.some.inj (classFile.called.symm.trans again.called)

/-- The class files at certain places below the root, each once. -/
structure Enumerates (tree : FileTree) (root : Path) (top : Files.Location)
    (spots : List String → Prop) (found : List Candidate) : Prop where
  once : found.Nodup
  mem : ∀ candidate, candidate ∈ found ↔
    ∃ names file, spots names ∧ IsClassFile tree root top names file candidate

namespace Enumerates

variable {spots others : List String → Prop} {found further : List Candidate}

theorem nothing (none : ∀ {names file candidate}, spots names →
    ¬IsClassFile tree root top names file candidate) : Enumerates tree root top spots [] := by
  refine ⟨List.nodup_nil, fun candidate => ?_⟩
  constructor
  · intro member
    cases member
  · rintro ⟨names, file, spot, classFile⟩
    exact absurd classFile (none spot)

theorem congr (enumerates : Enumerates tree root top spots found)
    (same : ∀ {names file candidate}, IsClassFile tree root top names file candidate →
      (spots names ↔ others names)) : Enumerates tree root top others found := by
  refine ⟨enumerates.once, fun candidate => (enumerates.mem candidate).trans ?_⟩
  constructor
  · rintro ⟨names, file, spot, classFile⟩
    exact ⟨names, file, (same classFile).1 spot, classFile⟩
  · rintro ⟨names, file, spot, classFile⟩
    exact ⟨names, file, (same classFile).2 spot, classFile⟩

theorem append (first : Enumerates tree root top spots found)
    (second : Enumerates tree root top others further)
    (apart : ∀ names, spots names → ¬others names) :
    Enumerates tree root top (fun names => spots names ∨ others names) (found ++ further) := by
  constructor
  · rw [List.nodup_append]
    refine ⟨first.once, second.once, fun candidate member twin twinMember => ?_⟩
    rintro rfl
    obtain ⟨names, file, spot, classFile⟩ := (first.mem candidate).1 member
    obtain ⟨twinNames, twinFile, twinSpot, again⟩ := (second.mem candidate).1 twinMember
    obtain ⟨rfl, _⟩ := classFile.unique again
    exact apart names spot twinSpot
  · intro candidate
    rw [List.mem_append, first.mem, second.mem]
    constructor
    · rintro (⟨names, file, spot, classFile⟩ | ⟨names, file, spot, classFile⟩)
      · exact ⟨names, file, .inl spot, classFile⟩
      · exact ⟨names, file, .inr spot, classFile⟩
    · rintro ⟨names, file, spot | spot, classFile⟩
      · exact .inl ⟨names, file, spot, classFile⟩
      · exact .inr ⟨names, file, spot, classFile⟩

end Enumerates

/-! ## Steps of a walk -/

/-- What the walk does with a name that is listed. -/
def visitName (visit : σ → Candidate → Work σ) (depth : Nat) (current : Path) (parts : List String)
    (progress : Progress σ) (item : String × Files.Entry) : Work (Progress σ) :=
  advance (fun result => do
    match ← classify (current.child item.1) (parts ++ [item.1]) item.2 with
    | .directory => walk visit depth (current.child item.1) (parts ++ [item.1]) result
    | .candidate candidate => return (← visit result candidate, none)
    | .other => return (result, none)) progress

theorem walk_succ (visit : σ → Candidate → Work σ) (depth : Nat) (current : Path)
    (parts : List String) (result : σ) :
    walk visit (depth + 1) current parts result =
      listing current >>= fun entries =>
        entries.foldlM (visitName visit depth current parts) (result, none) := rfl

theorem advance_ok {step : σ → Work (Progress σ)} {progress : Progress σ} {final : σ}
    (run : advance step progress before = (.ok (final, none), after)) :
    ∃ result, progress = (result, none) ∧ step result before = (.ok (final, none), after) := by
  rcases progress with ⟨result, failure⟩
  cases failure with
  | some failure => cases (pure_ok run).1
  | none =>
      obtain ⟨outcome, middle, stage, answered⟩ := Work.attempt_bind run
      cases outcome with
      | error failure => cases (pure_ok answered).1
      | ok progress =>
          obtain ⟨same, rfl⟩ := pure_ok answered
          obtain rfl := Except.ok.inj same
          exact ⟨result, rfl, stage⟩

theorem advance_of_ok {step : σ → Work (Progress σ)} {result : σ} {progress : Progress σ}
    (run : step result before = (.ok progress, after)) :
    advance step (result, none) before = (.ok progress, after) := by
  have attempted : Work.attempt (step result) before = (.ok (.ok progress), after) := by
    rw [Work.attempt, run]
  simp only [advance]
  rw [run_bind, attempted]
  rfl

theorem listing_ok {current : Path} {entries : List (String × Files.Entry)}
    (run : listing current before = (.ok entries, after)) :
    after = before ∧ ∃ place, before.files.stat true current.toString = .ok (place, .directory) ∧
      entries = FileTree.inOrder (before.files.children place) := by
  rw [listing, Work.files_bind] at run
  cases answered : before.files.list current.toString with
  | error error =>
      rw [answered] at run
      cases (throw_error run).1
  | ok listed =>
      rw [answered] at run
      obtain ⟨same, rfl⟩ := pure_ok run
      obtain rfl := Except.ok.inj same
      unfold FileTree.list at answered
      split at answered
      next place seen => exact ⟨rfl, place, seen, (Except.ok.inj answered).symm⟩
      · cases answered
      · cases answered

theorem listing_of_stat {current : Path} {place : Files.Location}
    (seen : before.files.stat true current.toString = .ok (place, .directory)) :
    listing current before =
      (.ok (FileTree.inOrder (before.files.children place)), before) := by
  rw [listing, Work.files_bind, FileTree.list, seen]
  rfl

/-- Of a listed file, the walk asks no more than that it is one. -/
theorem visitName_shape (visit : σ → Candidate → Work σ) (depth : Nat) (current : Path)
    (progress : Progress σ) (item : String × Files.Entry) :
    visitName visit depth current parts progress (Prod.map id FileTree.Entry.shape item) =
      visitName visit depth current parts progress item := by
  rcases item with ⟨name, entry⟩
  cases entry with
  | file file => rfl
  | directory => rfl
  | link target => rfl

theorem foldlM_shapes (visit : σ → Candidate → Work σ) (depth : Nat) (current : Path)
    (progress : Progress σ) (place : Files.Location) :
    (FileTree.inOrder (tree.children place)).foldlM (visitName visit depth current parts) progress =
      (tree.shapes place).foldlM (visitName visit depth current parts) progress := by
  rw [FileTree.shapes, List.foldlM_map]
  simp only [visitName_shape]

/-! ## Visits one after another -/

/-- Collect candidates. -/
def collectCandidate (found : List Candidate) (candidate : Candidate) : Work (List Candidate) :=
  return found ++ [candidate]

theorem candidates_eq (root : Path) : candidates root = visitClasses collectCandidate root [] := rfl

/-- Visits that leave the shape of a tree alone. -/
structure Stays (tree : FileTree) (root : Path) (top : Files.Location)
    (visit : σ → Candidate → Work σ) (holds : Workspace → Prop) : Prop where
  sound : ∀ {workspace}, holds workspace → workspace.files.Sound
  shape : ∀ {workspace}, holds workspace → tree.SameShape workspace.files
  visit : ∀ {names file candidate result next before after},
    IsClassFile tree root top names file candidate → holds before →
    visit result candidate before = (.ok next, after) → holds after

/-- What a walk comes to: a visit to each of the class files at certain places, which are those that
a walk without visits collects. -/
structure Visits (tree : FileTree) (root : Path) (top : Files.Location) (spots : List String → Prop)
    (visit : σ → Candidate → Work σ) (collect : List Candidate → Work (Progress (List Candidate)))
    (result final : σ) (before after : Workspace) (found : List Candidate) : Prop where
  classes : Enumerates tree root top spots found
  visited : found.foldlM visit result before = (.ok final, after)
  collected : ∀ (past : List Candidate) {workspace : Workspace}, workspace.files.Sound →
    tree.SameShape workspace.files → collect past workspace = (.ok (past ++ found, none), workspace)

/-- The way down to a class file goes through the listing of each directory. -/
theorem IsClassFile.exists_listed (sound : tree.Sound) {file : Files.File} {candidate : Candidate}
    (alive : tree.at? (top ++ parts) = some .directory)
    (classFile : IsClassFile tree root top names file candidate) (start : parts <+: names) :
    ∃ name ∈ (tree.shapes (top ++ parts)).map Prod.fst, parts ++ [name] <+: names := by
  apply sound.exists_listed classFile.held start
  rintro rfl
  cases alive.symm.trans classFile.held

/-- What is below a file's place is that file. -/
theorem IsClassFile.eq_of_prefix (sound : tree.Sound) {front : List String} {leaf file : Files.File}
    {candidate : Candidate} (held : tree.at? (top ++ front) = some (.file leaf))
    (classFile : IsClassFile tree root top names file candidate) (start : front <+: names) :
    names = front :=
  sound.eq_of_prefix held classFile.held start

section Walk

variable {visit : σ → Candidate → Work σ} {holds : Workspace → Prop} {depth : Nat}
  {result final : σ}

/-- What a walk comes to that starts some names below the root. -/
def WalksAt (tree : FileTree) (root : Path) (top : Files.Location) (visit : σ → Candidate → Work σ)
    (holds : Workspace → Prop) (depth : Nat) (parts : List String) : Prop :=
  ∀ {result final : σ} {before after : Workspace}, holds before →
    walk visit depth (under root parts) parts result before = (.ok (final, none), after) →
    holds after ∧ ∃ found, Visits tree root top (fun names => parts <+: names) visit
      (walk collectCandidate depth (under root parts) parts) result final before after found

theorem visitName_visits (directory : DirectoryTree tree root top)
    (stays : Stays tree root top visit holds) {name : String} {shape : Files.Entry}
    (below : tree.at? (top ++ (parts ++ [name])) = some .directory →
      WalksAt tree root top visit holds depth (parts ++ [name]))
    (held : (tree.at? (top ++ (parts ++ [name]))).map FileTree.Entry.shape = some shape)
    (healthy : holds before)
    (run : visitName visit depth (under root parts) parts (result, none) (name, shape) before =
      (.ok (final, none), after)) :
    holds after ∧ ∃ found, Visits tree root top (fun names => parts ++ [name] <+: names) visit
      (fun past => visitName collectCandidate depth (under root parts) parts (past, none) (name, shape))
      result final before after found := by
  obtain ⟨_, same, step⟩ := advance_ok run
  obtain rfl := (Prod.mk.inj same).1
  simp only [child_under] at step
  obtain ⟨entry, there, rfl⟩ := Option.map_eq_some_iff.1 held
  cases entry with
  | link target =>
      exact absurd there (directory.plain (FileTree.isBelow_append top _))
  | directory =>
      obtain ⟨holdsAfter, found, visits⟩ := below there healthy step
      refine ⟨holdsAfter, found, visits.classes, visits.visited, fun past workspace sound shape => ?_⟩
      refine advance_of_ok ?_
      simp only [child_under]
      exact visits.collected past sound shape
  | file file =>
      have classified : ∀ workspace, classify (under root (parts ++ [name])) (parts ++ [name])
          (FileTree.Entry.shape (.file file)) workspace =
          (.ok (((Candidate.of? (under root (parts ++ [name])) (parts ++ [name])).map
            Listed.candidate).getD .other), workspace) := fun _ => rfl
      have alone := fun {names twin candidate} start
          (classFile : IsClassFile tree root top names twin candidate) =>
        classFile.eq_of_prefix directory.sound there start
      rw [run_bind, classified] at step
      cases called : Candidate.of? (under root (parts ++ [name])) (parts ++ [name]) with
      | none =>
          rw [called] at step
          obtain ⟨same, rfl⟩ := pure_ok step
          obtain rfl := (Prod.mk.inj (Except.ok.inj same)).1
          refine ⟨healthy, [], ?_, rfl, fun past workspace _ _ => ?_⟩
          · refine .nothing fun start classFile => ?_
            obtain rfl := alone start classFile
            cases called.symm.trans classFile.called
          · refine advance_of_ok ?_
            simp only [child_under]
            rw [run_bind, classified, called, List.append_nil]
            rfl
      | some candidate =>
          rw [called] at step
          obtain ⟨next, middle, visited, answered⟩ := bind_ok step
          obtain ⟨same, rfl⟩ := pure_ok answered
          obtain rfl := (Prod.mk.inj (Except.ok.inj same)).1
          have classFile : IsClassFile tree root top (parts ++ [name]) file candidate := ⟨there, called⟩
          refine ⟨stays.visit classFile healthy visited, [candidate], ?_, ?_, fun past workspace _ _ => ?_⟩
          · refine ⟨List.nodup_singleton candidate, fun other => ?_⟩
            rw [List.mem_singleton]
            constructor
            · rintro rfl
              exact ⟨_, file, List.prefix_refl _, classFile⟩
            · rintro ⟨names, twin, start, again⟩
              obtain rfl := alone start again
              exact again.candidate_unique classFile
          · rw [List.foldlM_cons, run_bind, visited]
            rfl
          · refine advance_of_ok ?_
            simp only [child_under]
            rw [run_bind, classified, called]
            rfl

/-- A walk through a listing that ends well has begun well. -/
theorem started_of_foldlM {current : Path} {items : List (String × Files.Entry)} {progress : Progress σ}
    (run : items.foldlM (visitName visit depth current parts) progress before =
      (.ok (final, none), after)) : ∃ result, progress = (result, none) := by
  induction items generalizing progress before with
  | nil =>
      obtain ⟨same, _⟩ := pure_ok run
      exact ⟨final, (Except.ok.inj same).symm⟩
  | cons item rest inductionHypothesis =>
      rw [List.foldlM_cons] at run
      obtain ⟨next, middle, step, further⟩ := bind_ok run
      obtain ⟨_, rfl⟩ := inductionHypothesis further
      obtain ⟨result, started, _⟩ := advance_ok step
      exact ⟨result, started⟩

theorem foldlM_visits (directory : DirectoryTree tree root top)
    (stays : Stays tree root top visit holds) {items : List (String × Files.Entry)}
    (below : ∀ name, tree.at? (top ++ (parts ++ [name])) = some .directory →
      WalksAt tree root top visit holds depth (parts ++ [name]))
    (once : (items.map Prod.fst).Nodup)
    (held : ∀ item ∈ items, (tree.at? (top ++ (parts ++ [item.1]))).map FileTree.Entry.shape = some item.2)
    (healthy : holds before)
    (run : items.foldlM (visitName visit depth (under root parts) parts) (result, none) before =
      (.ok (final, none), after)) :
    holds after ∧ ∃ found, Visits tree root top
      (fun names => ∃ name ∈ items.map Prod.fst, parts ++ [name] <+: names) visit
      (fun past => items.foldlM (visitName collectCandidate depth (under root parts) parts) (past, none))
      result final before after found := by
  induction items generalizing result before with
  | nil =>
      obtain ⟨same, rfl⟩ := pure_ok run
      obtain rfl := (Prod.mk.inj (Except.ok.inj same)).1
      refine ⟨healthy, [], .nothing ?_, rfl, fun past workspace _ _ => ?_⟩
      · rintro names file candidate ⟨name, member, _⟩
        cases member
      · rw [List.append_nil]
        rfl
  | cons item rest inductionHypothesis =>
      rw [List.foldlM_cons] at run
      obtain ⟨next, middle, step, further⟩ := bind_ok run
      obtain ⟨result', rfl⟩ := started_of_foldlM further
      rw [List.map_cons, List.nodup_cons] at once
      obtain ⟨holdsMiddle, first, visits⟩ := visitName_visits directory stays (below item.1)
        (held item List.mem_cons_self) healthy step
      obtain ⟨holdsAfter, later, visitsLater⟩ := inductionHypothesis once.2
        (fun other member => held other (List.mem_cons_of_mem item member)) holdsMiddle further
      refine ⟨holdsAfter, first ++ later, ?_, ?_, fun past workspace sound shape => ?_⟩
      · refine (visits.classes.append visitsLater.classes ?_).congr fun _ => by simp
        rintro names start ⟨name, member, again⟩
        have same : parts ++ [item.1] = parts ++ [name] :=
          (List.prefix_of_prefix_length_le start again (by simp)).eq_of_length (by simp)
        obtain rfl : item.1 = name := by simpa using same
        exact once.1 member
      · rw [List.foldlM_append, run_bind, visits.visited]
        exact visitsLater.visited
      · rw [List.foldlM_cons, run_bind, visits.collected past sound shape]
        simp only
        rw [visitsLater.collected _ sound shape, List.append_assoc]

/-- A listing can only be had of a directory whose path is short enough, so a walk is never cut off
by its depth. -/
theorem deeper_of_stat {path : Path} (proper : path.Proper) {tree : FileTree}
    {found : Files.Location × Files.Entry} (seen : tree.stat true path.toString = .ok found)
    (deep : FileTree.pathLimit ≤ depth + 1 + path.parts.length) : 0 < depth := by
  obtain ⟨_, searched⟩ := FileTree.stat_eq_ok_iff.1 seen
  rw [FileTree.find_eq_search proper] at searched
  split at searched
  · cases searched
  next size =>
    have long := Path.two_mul_length_le proper
    have limit : FileTree.pathLimit = 4095 := rfl
    omega

/-- A walk that ends well has visited the class files below the directory in which it began. -/
theorem walksAt (directory : DirectoryTree tree root top) (stays : Stays tree root top visit holds)
    (deep : 0 < depth ∧ FileTree.pathLimit ≤ depth + (root.parts ++ parts).length)
    (alive : tree.at? (top ++ parts) = some .directory) :
    WalksAt tree root top visit holds depth parts := by
  induction depth generalizing parts with
  | zero => exact absurd deep.1 (Nat.lt_irrefl 0)
  | succ depth inductionHypothesis =>
      intro result final before after healthy run
      rw [walk_succ] at run
      obtain ⟨entries, middle, listed, further⟩ := bind_ok run
      obtain ⟨rfl, place, seen, rfl⟩ := listing_ok listed
      have named := directory.named alive
      have shape := stays.shape healthy
      have sound := stays.sound healthy
      have stands := directory.stands named
      obtain ⟨rfl, _⟩ := (stands.of_shape shape).of_stat sound seen
      have deeper := deeper_of_stat stands.proper seen
        (by simpa [under] using deep.2)
      rw [foldlM_shapes, shape.listed directory.sound sound] at further
      have below : ∀ name, tree.at? (top ++ (parts ++ [name])) = some .directory →
          WalksAt tree root top visit holds depth (parts ++ [name]) := by
        intro name there
        refine inductionHypothesis ⟨deeper, ?_⟩ there
        have longer := deep.2
        simp only [List.length_append, List.length_singleton] at longer ⊢
        omega
      obtain ⟨holdsAfter, found, visits⟩ := foldlM_visits directory stays below
        (FileTree.nodup_names directory.sound _)
        (fun item member => by
          rw [← List.append_assoc]
          exact (FileTree.mem_shapes_iff directory.sound).1 member) healthy further
      refine ⟨holdsAfter, found, ?_, visits.visited, fun past workspace soundHere shapeHere => ?_⟩
      · refine visits.classes.congr fun classFile => ?_
        constructor
        · rintro ⟨name, _, start⟩
          exact (List.prefix_append parts [name]).trans start
        · exact classFile.exists_listed directory.sound alive
      · rw [walk_succ, run_bind, listing_of_stat
          ((shape.symm.trans shapeHere).stat_directory seen)]
        simp only
        rw [foldlM_shapes, shapeHere.listed directory.sound soundHere]
        exact visits.collected past soundHere shapeHere

/-- A walk that ends well has visited every class file of the tree as it was when the walk began, one
after another. -/
theorem visitClasses_ok (directory : DirectoryTree tree root top)
    (stays : Stays tree root top visit holds) (healthy : holds before)
    (run : visitClasses visit root result before = (.ok (final, none), after)) :
    holds after ∧ ∃ found, Visits tree root top (fun _ => True) visit
      (visitClasses collectCandidate root) result final before after found := by
  obtain ⟨_, same, step⟩ := advance_ok run
  obtain rfl := (Prod.mk.inj same).1
  obtain ⟨isDirectory, started, asked, walking⟩ := bind_ok step
  obtain ⟨rfl, answered⟩ := Work.ask_ok asked
  have whole : under root [] = root := by simp [under]
  cases isDirectory with
  | false =>
      obtain ⟨_, _, refused, _⟩ := bind_ok walking
      cases (throw_error refused).1
  | true =>
      have further : walk visit FileTree.pathLimit (under root []) [] result started =
          (.ok (final, none), after) := by
        rw [whole]
        exact walking
      have deep : 0 < FileTree.pathLimit ∧
          FileTree.pathLimit ≤ FileTree.pathLimit + (root.parts ++ []).length :=
        ⟨by decide, by omega⟩
      obtain ⟨holdsAfter, found, visits⟩ := walksAt directory stays deep
        (by rw [List.append_nil]; exact directory.stands_root.2) healthy further
      refine ⟨holdsAfter, found, visits.classes.congr fun _ => by simp, visits.visited, ?_⟩
      intro past workspace sound shape
      refine advance_of_ok ?_
      have seen : workspace.files.isDirectory? root = .ok true :=
        FileTree.test_of_stat (shape.stat_directory directory.found)
      have asked : Work.ask (·.isDirectory? root) workspace = (.ok true, workspace) :=
        Work.ask_of_ok seen
      have collected := visits.collected past sound shape
      rw [whole] at collected
      rw [run_bind, asked]
      exact collected

end Walk

end Run
end ClassLoom
