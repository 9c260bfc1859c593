import ClassLoom.Files.Guarded
import ClassLoom.Proofs.Files.Changes
import ClassLoom.Proofs.Work

namespace ClassLoom
namespace Files

/-!
# What the tool's file operations do

Each guarded operation is described by the change that it makes, also when it fails half-way.  The
deletion of whatever is at a path is the one with most cases: it looks twice, through links and at
the link itself, and then removes one or the other.
-/

namespace FileTree

variable {tree : FileTree} {path : Path}

theorem test_eq_true {question : Entry → Bool} (answer : tree.test question path = .ok true) :
    ∃ place entry, tree.stat true path.toString = .ok (place, entry) ∧ question entry = true := by
  unfold test at answer
  split at answer
  next place entry found => exact ⟨place, entry, found, Except.ok.inj answer⟩
  next =>
    split at answer
    · simp at answer
    · simp at answer

theorem test_of_stat {question : Entry → Bool} {place : Location} {entry : Entry}
    (found : tree.stat true path.toString = .ok (place, entry)) :
    tree.test question path = .ok (question entry) := by
  rw [test, found]

theorem exists_of_stat {found : Location × Entry}
    (seen : tree.stat true path.toString = .ok found) : tree.exists? path = .ok true :=
  test_of_stat seen

theorem isLink_eq_true (answer : tree.isLink? path = .ok true) :
    ∃ place target, tree.stat false path.toString = .ok (place, .link target) := by
  unfold isLink? at answer
  split at answer
  next place entry found =>
    cases entry with
    | link target => exact ⟨place, target, found⟩
    | file file => simp [Entry.isLink] at answer
    | directory => simp [Entry.isLink] at answer
  next =>
    split at answer
    · simp at answer
    · simp at answer

theorem isLink_of_stat {place : Location} {entry : Entry}
    (found : tree.stat false path.toString = .ok (place, entry)) :
    tree.isLink? path = .ok (Entry.isLink entry) := by
  rw [isLink?, found]

/-- A search that ends at a missing name or for want of a directory on the way. -/
def Unfound (tree : FileTree) (follow : Bool) (raw : String) : Prop :=
  (∃ directory name, tree.find follow raw = .ok (.missing directory name)) ∨
    ∃ cause, IsAbsence cause ∧ tree.find follow raw = .error cause

theorem Unfound.stat {follow : Bool} {raw : String} (unfound : Unfound tree follow raw) :
    ∃ error, tree.stat follow raw = .error error ∧ saysAbsent error = true := by
  unfold FileTree.stat
  split
  · exact ⟨_, rfl, rfl⟩
  · rcases unfound with ⟨directory, name, missed⟩ | ⟨cause, absence, missed⟩
    · rw [missed]
      exact ⟨_, rfl, rfl⟩
    · rw [missed]
      refine ⟨_, rfl, ?_⟩
      rcases absence with rfl | rfl
      · rfl
      · rfl

theorem Unfound.test {question : Entry → Bool} (unfound : Unfound tree true path.toString) :
    tree.test question path = .ok false := by
  obtain ⟨error, refused, absent⟩ := unfound.stat
  rw [FileTree.test, refused]
  exact if_pos absent

theorem Unfound.isLink (unfound : Unfound tree false path.toString) : tree.isLink? path = .ok false := by
  obtain ⟨error, refused, absent⟩ := unfound.stat
  rw [isLink?, refused]
  exact if_pos absent

theorem Reaches.unfound {name : String} {directory : Location} (reaches : tree.Reaches path directory)
    (follow : Bool) (proper : path.Proper) (named : IsName name) (fits : Fits path name)
    (absent : tree.at? (directory ++ [name]) = none) :
    Unfound tree follow (path.child name).toString := by
  obtain ⟨left, found⟩ := reaches.find_eq follow proper named fits
  rw [absent] at found
  simp only at found
  split at found
  · exact .inl ⟨directory, name, found⟩
  · exact .inr ⟨.notFound, .inl rfl, found⟩

/-- Every refusal but that of a NUL comes from the system. -/
theorem stat_error {follow : Bool} {raw : String} {error : FileError} (clean : hasNul raw = false)
    (refused : tree.stat follow raw = .error error) : ∃ cause, error = .system cause := by
  unfold stat at refused
  rw [if_neg (by simp [clean])] at refused
  split at refused
  · simp at refused
  · exact ⟨_, (Except.error.inj refused).symm⟩
  · exact ⟨_, (Except.error.inj refused).symm⟩

theorem unlink_error {raw : String} {error : FileError} (clean : hasNul raw = false)
    (refused : tree.unlink raw = .error error) : ∃ cause, error = .system cause := by
  unfold unlink at refused
  split at refused
  · exact ⟨_, (Except.error.inj refused).symm⟩
  · simp at refused
  next error refusedStat =>
    obtain rfl := Except.error.inj refused
    exact stat_error clean refusedStat

theorem removeDirectory_error {raw : String} {error : FileError} (clean : hasNul raw = false)
    (refused : (tree.removeDirectory raw).2 = some error) : ∃ cause, error = .system cause := by
  unfold removeDirectory at refused
  split at refused
  · simp only at refused
    split at refused
    next stopped refusedStat =>
      obtain rfl := Option.some.inj refused
      exact stat_error clean refusedStat
    next =>
      split at refused
      · exact ⟨_, (Option.some.inj refused).symm⟩
      split at refused
      · exact ⟨_, (Option.some.inj refused).symm⟩
      split at refused
      · exact ⟨_, (Option.some.inj refused).symm⟩
      · simp at refused
  · exact ⟨_, (Option.some.inj refused).symm⟩
  next stopped refusedStat =>
    obtain rfl := Option.some.inj refused
    exact stat_error clean refusedStat

/-- Every refusal to rename, but that of a NUL, names both paths. -/
theorem rename_error {source target : String} {error : FileError}
    (clean : (hasNul source || hasNul target) = false)
    (refused : tree.rename source target = .error error) : ∃ cause, error = .system cause := by
  unfold rename at refused
  rw [if_neg (by simp [clean])] at refused
  simp only at refused
  repeat' split at refused
  all_goals first
    | exact ⟨_, (Except.error.inj refused).symm⟩
    | cases refused

theorem test_error {question : Entry → Bool} {error : FileError}
    (refused : tree.test question path = .error error) : ∃ cause, error = .system cause := by
  unfold test at refused
  split at refused
  · simp at refused
  next stopped refusedStat =>
    split at refused
    · simp at refused
    next loud =>
      obtain rfl := Except.error.inj refused
      cases stopped with
      | system cause => exact ⟨cause, rfl⟩
      | embeddedNul => simp [saysAbsent] at loud

theorem isLink_error {error : FileError} (refused : tree.isLink? path = .error error) :
    ∃ cause, error = .system cause := by
  unfold isLink? at refused
  split at refused
  · simp at refused
  next stopped refusedStat =>
    split at refused
    · simp at refused
    next loud =>
      obtain rfl := Except.error.inj refused
      cases stopped with
      | system cause => exact ⟨cause, rfl⟩
      | embeddedNul => simp [saysAbsent] at loud

end FileTree

namespace FileWork

variable {tree after : FileTree} {outcome : Outcome Unit} {action : FileAction} {path : Path}
  {name : String}

theorem change_cases {operation : FileTree → Except FileError FileTree}
    (run : change action operation tree = (outcome, after)) :
    outcome = .ok () ∧ operation tree = .ok after ∨
      after = tree ∧ ∃ error, operation tree = .error error ∧ outcome = .error (failureOf action error) := by
  rw [change, get_bind] at run
  cases answer : operation tree with
  | ok changed =>
      rw [answer] at run
      obtain ⟨rfl, rfl⟩ := Prod.mk.inj run
      exact .inl ⟨rfl, rfl⟩
  | error error =>
      rw [answer] at run
      obtain ⟨rfl, rfl⟩ := throw_error run
      exact .inr ⟨rfl, error, rfl, rfl⟩

theorem reach_cases {operation : FileTree → FileTree × Option FileError}
    (run : reach action operation tree = (outcome, after)) :
    outcome = .ok () ∧ operation tree = (after, none) ∨
      ∃ error, operation tree = (after, some error) ∧ outcome = .error (failureOf action error) := by
  rw [reach, get_bind] at run
  rcases answer : operation tree with ⟨reached, error⟩
  rw [answer] at run
  cases error with
  | none =>
      obtain ⟨rfl, rfl⟩ := Prod.mk.inj run
      exact .inl ⟨rfl, rfl⟩
  | some error =>
      obtain ⟨rfl, rfl⟩ := Prod.mk.inj run
      exact .inr ⟨error, rfl, rfl⟩

theorem ask_cases {α : Type} {question : FileTree → Except FileError α} {answer : Outcome α}
    (run : ask question tree = (answer, after)) :
    after = tree ∧
      answer = match question tree with
        | .ok value => .ok value
        | .error error => .error (.fault (.file error)) := by
  rw [ask, get_bind] at run
  cases asked : question tree with
  | ok value =>
      rw [asked] at run
      exact (pure_ok run).symm
  | error error =>
      rw [asked] at run
      exact (throw_error run).symm

theorem grown_of_createDirectory {raw : String} (run : createDirectory raw tree = (outcome, after)) :
    FileTree.Grown tree after := by
  have grown : FileTree.Grown tree
      (if FileTree.hasNul raw then (tree, some .embeddedNul)
        else tree.makeDirectories (raw.length + 1) raw : FileTree × Option FileError).1 := by
    split
    · exact .refl tree
    · exact FileTree.grown_makeDirectories _ tree raw
  rcases reach_cases run with ⟨_, made⟩ | ⟨error, made, _⟩
  · rw [made] at grown
    exact grown
  · rw [made] at grown
    exact grown

theorem stat_of_createDirectory (proper : path.Proper) (named : IsName name)
    (run : createDirectory (path.child name).toString tree = (.ok (), after)) :
    ∃ place, after.stat true (path.child name).toString = .ok (place, .directory) := by
  rcases reach_cases run with ⟨_, made⟩ | ⟨error, _, failed⟩
  · split at made
    · simp at made
    · exact FileTree.stat_of_makeDirectories proper named made
  · cases failed

theorem answer_cases {α : Type} {value : Except FileError α} {result : Outcome α}
    (run : answer action value tree = (result, after)) :
    after = tree ∧ ((∃ plain, value = .ok plain ∧ result = .ok plain) ∨
      ∃ error, value = .error error ∧ result = .error (failureOf action error)) := by
  cases value with
  | ok plain =>
      obtain ⟨rfl, rfl⟩ := pure_ok run
      exact ⟨rfl, .inl ⟨plain, rfl, rfl⟩⟩
  | error error =>
      obtain ⟨rfl, rfl⟩ := throw_error run
      exact ⟨rfl, .inr ⟨error, rfl, rfl⟩⟩

/-- A failure that says which file operation has failed. -/
def IsFileOperation (failure : Failure) : Prop := ∃ cause, failure = .fileOperation cause

/-- How the deletion of whatever is at a path ends: with nothing done, with a file or link removed,
or with a directory removed as far as it went. -/
inductive Deleted (tree : FileTree) (path : Path) : Outcome Unit → FileTree → Prop
  | nothing : tree.exists? path = .ok false → tree.isLink? path = .ok false →
      Deleted tree path (.ok ()) tree
  | unseen {error : FileError} {failure : Failure} : tree.exists? path = .error error →
      Deleted tree path (.error failure) tree
  | unseenLink {error : FileError} {failure : Failure} : tree.isLink? path = .error error →
      Deleted tree path (.error failure) tree
  | refused {failure : Failure} : IsFileOperation failure → Deleted tree path (.error failure) tree
  | unlinked {after : FileTree} : tree.unlink path.toString = .ok after →
      Deleted tree path (.ok ()) after
  | stopped {failure : Failure} {error : FileError} {after : FileTree} : IsFileOperation failure →
      tree.removeDirectory path.toString = (after, some error) →
      Deleted tree path (.error failure) after
  | removed {after : FileTree} : tree.removeDirectory path.toString = (after, none) →
      Deleted tree path (.ok ()) after

theorem isFileOperation_failureOf {error : FileError} (system : ∃ cause, error = .system cause) :
    IsFileOperation (failureOf action error) := by
  obtain ⟨cause, rfl⟩ := system
  exact ⟨_, rfl⟩

/-- What is deleted once it is known that something is there. -/
theorem deleted_of_present (clean : FileTree.hasNul path.toString = false)
    (run : (do
      let isDirectory ← answer action ((← get).isDirectory? path)
      let isLink ← if isDirectory then answer action ((← get).isLink? path) else pure false
      if isDirectory && !isLink then
        reach action fun tree => tree.removeDirectory path.toString
      else change action fun tree => tree.unlink path.toString : FileWork Unit) tree =
        (outcome, after)) : Deleted tree path outcome after := by
  rw [get_bind] at run
  rcases bind_cases run with ⟨failure, asked, rfl⟩ | ⟨isDirectory, middle, asked, run⟩
  · obtain ⟨rfl, ⟨_, _, answered⟩ | ⟨error, refused, failed⟩⟩ := answer_cases asked
    · cases answered
    · cases failed
      exact .refused (isFileOperation_failureOf (FileTree.test_error refused))
  obtain ⟨rfl, _⟩ := answer_cases asked
  have remove : ∀ {tree : FileTree}, (reach action fun tree => tree.removeDirectory path.toString) tree =
      (outcome, after) → Deleted tree path outcome after := by
    intro tree run
    rcases reach_cases run with ⟨rfl, removed⟩ | ⟨error, stopped, rfl⟩
    · exact .removed removed
    · refine .stopped (isFileOperation_failureOf ?_) stopped
      exact FileTree.removeDirectory_error clean (congrArg Prod.snd stopped)
  have unlink : ∀ {tree : FileTree}, (change action fun tree => tree.unlink path.toString) tree =
      (outcome, after) → Deleted tree path outcome after := by
    intro tree run
    rcases change_cases run with ⟨rfl, unlinked⟩ | ⟨rfl, error, refused, rfl⟩
    · exact .unlinked unlinked
    · exact .refused (isFileOperation_failureOf (FileTree.unlink_error clean refused))
  cases isDirectory with
  | false =>
      rcases bind_cases run with ⟨failure, answered, _⟩ | ⟨isLink, middle, answered, run⟩
      · cases (pure_ok answered).1
      · obtain ⟨_, rfl⟩ := pure_ok answered
        exact unlink run
  | true =>
      simp only [if_true, get_bind] at run
      rcases bind_cases run with ⟨failure, linked, rfl⟩ | ⟨isLink, middle, linked, run⟩
      · obtain ⟨rfl, ⟨_, _, answered⟩ | ⟨error, refused, failed⟩⟩ := answer_cases linked
        · cases answered
        · cases failed
          exact .refused (isFileOperation_failureOf (FileTree.isLink_error refused))
      · obtain ⟨rfl, _⟩ := answer_cases linked
        cases isLink with
        | false => exact remove run
        | true => exact unlink run

theorem deleted_of_deleteTree (proper : path.Proper)
    (run : deleteTree path.toString tree = (outcome, after)) : Deleted tree path outcome after := by
  unfold deleteTree at run
  rw [Path.ofString_toString proper] at run
  simp only at run
  rcases bind_cases run with ⟨failure, asked, rfl⟩ | ⟨present, middle, asked, run⟩
  · obtain ⟨rfl, answered⟩ := ask_cases asked
    split at answered
    · cases answered
    next error refused => exact .unseen refused
  obtain ⟨rfl, answered⟩ := ask_cases asked
  split at answered
  next value seen =>
    obtain rfl := Except.ok.inj answered
    cases present with
    | true =>
        obtain ⟨place, entry, found, _⟩ := FileTree.test_eq_true seen
        have clean := (FileTree.stat_eq_ok_iff.1 found).1
        rcases bind_cases run with ⟨failure, answered, _⟩ | ⟨link, middle, answered, run⟩
        · cases (pure_ok answered).1
        · obtain ⟨_, rfl⟩ := pure_ok answered
          exact deleted_of_present clean run
    | false =>
        rcases bind_cases run with ⟨failure, linked, rfl⟩ | ⟨link, middle, linked, run⟩
        · obtain ⟨rfl, answered⟩ := ask_cases linked
          split at answered
          · cases answered
          next error refused => exact .unseenLink refused
        · obtain ⟨rfl, answered⟩ := ask_cases linked
          split at answered
          next value sight =>
            obtain rfl := Except.ok.inj answered
            cases link with
            | false =>
                obtain ⟨rfl, rfl⟩ := pure_ok run
                exact .nothing seen sight
            | true =>
                obtain ⟨place, target, found⟩ := FileTree.isLink_eq_true sight
                exact deleted_of_present (FileTree.stat_eq_ok_iff.1 found).1 run
          · cases answered
  · cases answered

/-! ## Deleting at the end of a path -/

section Beside

variable {directory : Location}

/-- A deletion takes nothing but what is at or below the end of its path. -/
theorem Deleted.eroded (proper : path.Proper) (named : IsName name)
    (tracks : tree.Tracks path name directory) (deleted : Deleted tree (path.child name) outcome after) :
    FileTree.Eroded tree after (directory ++ [name]) := by
  have here : ∀ {place : Location} {entry : Entry},
      tree.find false (path.child name).toString = .ok (.found place entry) →
      place = directory ++ [name] := fun found => (tracks.found proper named found).1
  cases deleted with
  | nothing _ _ => exact .refl tree _
  | unseen _ => exact .refl tree _
  | unseenLink _ => exact .refl tree _
  | refused _ => exact .refl tree _
  | unlinked unlinked =>
      obtain ⟨place, entry, found, _, rfl⟩ := FileTree.drop_of_unlink unlinked
      exact here found ▸ FileTree.eroded_drop tree (FileTree.isBelow_refl _)
  | stopped _ stopped =>
      rcases FileTree.removeDirectory_cases tree (path.child name).toString with
        ⟨error, same⟩ | ⟨place, found, ⟨error, emptied⟩ | ⟨_, removed⟩⟩
      · obtain ⟨rfl, _⟩ := Prod.mk.inj (same.symm.trans stopped)
        exact .refl tree _
      · obtain ⟨rfl, _⟩ := Prod.mk.inj (emptied.symm.trans stopped)
        exact here found ▸ FileTree.eroded_emptied tree place
      · cases (Prod.mk.inj (removed.symm.trans stopped)).2
  | removed removed =>
      rcases FileTree.removeDirectory_cases tree (path.child name).toString with
        ⟨error, same⟩ | ⟨place, found, ⟨error, emptied⟩ | ⟨_, done⟩⟩
      · cases (Prod.mk.inj (same.symm.trans removed)).2
      · cases (Prod.mk.inj (emptied.symm.trans removed)).2
      · obtain ⟨rfl, _⟩ := Prod.mk.inj (done.symm.trans removed)
        rw [← here found]
        exact (FileTree.eroded_emptied tree place).trans
          (FileTree.eroded_drop _ (FileTree.isBelow_refl place))

/-- A tree in which everything at or below a place is gone, by way of one in which only the place
itself was left. -/
structure Swept (before middle after : FileTree) (top : Location) : Prop where
  inside : ∀ {place : Location}, FileTree.isBelow place top = true → place ≠ top →
    middle.at? place = none
  outside : ∀ {place : Location}, FileTree.isBelow place top = false →
    middle.at? place = before.at? place
  self : middle.at? top = before.at? top
  places : ∀ place, after.at? place =
    if FileTree.isBelow place top = true then none else before.at? place
  startMiddle : middle.start = before.start
  start : after.start = before.start
  sound : after.Sound

/-- A deletion that answers has found nothing, or has taken everything, and the path was still there
when only the place itself was left. -/
theorem Deleted.swept (sound : tree.Sound) (proper : path.Proper) (named : IsName name)
    (reaches : tree.Reaches path directory)
    (deleted : Deleted tree (path.child name) (.ok ()) after) :
    (after = tree ∧ tree.exists? (path.child name) = .ok false ∧
      tree.isLink? (path.child name) = .ok false) ∨
    ∃ middle, middle.Reaches path directory ∧ Swept tree middle after (directory ++ [name]) := by
  have here : ∀ {place : Location} {entry : Entry},
      tree.find false (path.child name).toString = .ok (.found place entry) →
      place = directory ++ [name] ∧ tree.at? (directory ++ [name]) = some entry :=
    fun found => FileTree.Tracks.found (.inl reaches) proper named found
  have notTop : ∀ {other : Location}, FileTree.isBelow other (directory ++ [name]) = true →
      other ≠ [] := by
    rintro other below rfl
    simpa using List.prefix_nil.1 (FileTree.isBelow_iff.1 below)
  cases deleted with
  | nothing absent noLink => exact .inl ⟨rfl, absent, noLink⟩
  | unlinked unlinked =>
      obtain ⟨place, entry, found, bare, rfl⟩ := FileTree.drop_of_unlink unlinked
      obtain ⟨rfl, held⟩ := here found
      refine .inr ⟨tree, reaches, ⟨fun below apart => ?_, fun _ => rfl, rfl, fun other => ?_, rfl, rfl,
        sound.drop _⟩⟩
      · exact sound.at?_below (by simpa [held] using bare) below apart
      · rw [FileTree.at?_drop]
        by_cases below : FileTree.isBelow other (directory ++ [name]) = true
        · rw [if_pos ⟨notTop below, below⟩, if_pos below]
        · rw [if_neg (fun both => below both.2), if_neg below]
  | removed removed =>
      rcases FileTree.removeDirectory_cases tree (path.child name).toString with
        ⟨error, same⟩ | ⟨place, found, ⟨error, emptied⟩ | ⟨⟨⟨again, entry⟩, seen⟩, done⟩⟩
      · cases (Prod.mk.inj (same.symm.trans removed)).2
      · cases (Prod.mk.inj (emptied.symm.trans removed)).2
      obtain ⟨rfl, _⟩ := Prod.mk.inj (done.symm.trans removed)
      obtain ⟨rfl, held⟩ := here found
      have worn := FileTree.eroded_emptied tree (directory ++ [name])
      have seenAgain := (FileTree.stat_eq_ok_iff.1 seen).2
      have survives : (tree.emptied (directory ++ [name])).Reaches path directory := by
        exact (reaches.narrowed worn.narrows worn.start proper named.1).reaches seenAgain
      refine .inr ⟨_, survives, ⟨fun below apart => ?_, fun outside => ?_, ?_, fun other => ?_,
        worn.start, worn.start, (worn.sound sound).drop _⟩⟩
      · rw [FileTree.at?_emptied sound, if_pos ⟨below, apart⟩]
      · rw [FileTree.at?_emptied sound, if_neg (fun both => by simp [outside] at both)]
      · rw [FileTree.at?_emptied sound, if_neg (fun both => both.2 rfl)]
      · rw [FileTree.at?_drop, FileTree.at?_emptied sound]
        by_cases below : FileTree.isBelow other (directory ++ [name]) = true
        · rw [if_pos ⟨notTop below, below⟩, if_pos below]
        · rw [if_neg (fun both => below both.2), if_neg (fun both => below both.1), if_neg below]

/-- What a path led through is the same, gone, or a file, however the swept tree has grown. -/
theorem Swept.narrows {middle swept : FileTree} {top : Location} (sweep : Swept tree middle swept top)
    (plain : ∀ target, tree.at? top ≠ some (.link target)) (grown : FileTree.Grown swept after) :
    FileTree.Narrows middle after := by
  intro place entry held leadsOn
  cases below : FileTree.isBelow place top with
  | false =>
      have kept : swept.at? place = some entry := by
        rw [sweep.places, if_neg (by simp [below]), ← sweep.outside below, held]
      exact .inl (grown.at?_of_some kept)
  | true =>
      by_cases self : place = top
      · subst self
        have gone : swept.at? place = none := by rw [sweep.places, if_pos below]
        rw [sweep.self] at held
        cases entry with
        | file file => simp [FileTree.Entry.isFile] at leadsOn
        | link target => exact absurd held (plain target)
        | directory =>
            rcases grown.places place with same | ⟨_, made⟩
            · exact .inr (.inl (same.trans gone))
            · exact .inl made
      · exact absurd held (by simp [sweep.inside below self])

end Beside

theorem renameFile_cases {source target : String} (run : renameFile source target tree = (outcome, after)) :
    (outcome = .ok () ∧ tree.exists? (Path.ofString target) = .ok false ∧
      tree.rename source target = .ok after) ∨
    (after = tree ∧ ∃ failure, outcome = .error failure ∧
      (IsFileOperation failure ∨ (∃ error, tree.exists? (Path.ofString target) = .error error) ∨
        (FileTree.hasNul source || FileTree.hasNul target) = true)) := by
  unfold renameFile at run
  simp only at run
  rcases bind_cases run with ⟨failure, asked, rfl⟩ | ⟨present, middle, asked, run⟩
  · obtain ⟨rfl, answered⟩ := ask_cases asked
    split at answered
    · cases answered
    next error refused => exact .inr ⟨rfl, failure, rfl, .inr (.inl ⟨error, refused⟩)⟩
  · obtain ⟨rfl, answered⟩ := ask_cases asked
    split at answered
    next value seen =>
      obtain rfl := Except.ok.inj answered
      cases present with
      | true =>
          obtain ⟨rfl, rfl⟩ := throw_error run
          exact .inr ⟨rfl, _, rfl, .inl ⟨_, rfl⟩⟩
      | false =>
          rcases change_cases run with ⟨rfl, renamed⟩ | ⟨rfl, error, refused, rfl⟩
          · exact .inl ⟨rfl, seen, renamed⟩
          · refine .inr ⟨rfl, _, rfl, ?_⟩
            cases nul : FileTree.hasNul source || FileTree.hasNul target with
            | true => exact .inr (.inr rfl)
            | false =>
                exact .inl (isFileOperation_failureOf (FileTree.rename_error nul refused))
    · cases answered

end FileWork
end Files
end ClassLoom
