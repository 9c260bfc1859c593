import ClassLoom.Proofs.Rebuild.Failing
import ClassLoom.Proofs.Rebuild.Putting

namespace ClassLoom
namespace Rebuild

/-!
# Entries staged one after the other

A call that stages an entry may fail, and the rebuilder then goes on as it was, but not the staging
directory: a file is opened and filled before its key is compared with those of the entries before.  So a
call disturbs what has been staged where its path leads to the same place, whether or not it is accepted,
and nothing else: directories may be new, and every file at another place stays as it is.

Where a path leads is decided by links and by `..` segments.  Without either, it leads to the place that it
spells, and calls with other names leave an entry alone.
-/

open Files (FileTree FileWork Path IsName)

variable {rebuilder recorded final : Rebuilder} {region place spot : Files.Location}
  {before after : Workspace} {content : Bytes}

/-- A call that stages an entry: a directory, or a file that is copied from an opened archive. -/
inductive Call where
  | directory (member : Zip.Member)
  | copy (file : Nat) (member : Zip.Member)

namespace Call

/-- The entry that is staged. -/
def member : Call → Zip.Member
  | directory member => member
  | copy _ member => member

def isDirectory : Call → Bool
  | directory _ => true
  | copy _ _ => false

/-- The names on the way from the staging directory to the entry. -/
def names (call : Call) : List String := nameParts call.member.name

/-- The key under which the entry is remembered. -/
def key (call : Call) : String := keyOf call.member.name call.isDirectory

/-- Stage the entry. -/
def perform (rebuilder : Rebuilder) : Call → Work Rebuilder
  | directory member => do return (← rebuilder.stageDirectory member).2
  | copy file member => do return (← rebuilder.stageCopy file member).2

/-- Stage the entry, or go on without it. -/
def attempt (rebuilder : Rebuilder) (call : Call) : Work Rebuilder := do
  match ← Work.attempt (call.perform rebuilder) with
  | .ok recorded => return recorded
  | .error _ => return rebuilder

end Call

variable {call : Call} {calls : List Call}

/-! ## One call -/

theorem adds_of_record {member : Zip.Member} {isDirectory : Bool}
    (run : rebuilder.record member isDirectory false = .ok recorded) :
    rebuilder.staged.lookup (keyOf member.name isDirectory) = none ∧
      Adds rebuilder recorded member isDirectory := by
  obtain ⟨fresh, rfl⟩ := record_ok run
  exact ⟨fresh, rfl, rfl, rfl⟩

/-- A call that is accepted adds its entry, which none before has the key of. -/
theorem adds_of_perform (run : call.perform rebuilder before = (.ok recorded, after)) :
    rebuilder.staged.lookup call.key = none ∧ Adds rebuilder recorded call.member call.isDirectory := by
  cases call with
  | directory member =>
      obtain ⟨⟨path, next⟩, _, staging, answer⟩ := bind_ok run
      obtain rfl := Except.ok.inj (pure_ok answer).1
      exact adds_of_record (stageDirectory_ok staging).2.2
  | copy file member =>
      obtain ⟨⟨path, next⟩, _, staging, answer⟩ := bind_ok run
      obtain rfl := Except.ok.inj (pure_ok answer).1
      exact adds_of_record (stageCopy_ok staging).2.2

theorem Adds.rooted {member : Zip.Member} {isDirectory : Bool}
    (adds : Adds rebuilder recorded member isDirectory) (rooted : Rooted rebuilder region) :
    Rooted recorded region := ⟨adds.root.trans rooted.root, rooted.named⟩

theorem keeps_perform (rooted : Rooted rebuilder region) (call : Call) :
    Keeps (Follows (Within region)) (call.perform rebuilder) := by
  cases call with
  | directory member => exact (keeps_stageDirectory rebuilder member).bind fun _ => keeps_pure _
  | copy file member => exact (keeps_stageCopy rooted file member).bind fun _ => keeps_pure _

/-- What is left of a copied entry is one file, where its path leads. -/
theorem copyEntry_cases {path : Path} (sound : before.files.Sound) (proper : path.Proper)
    (nonempty : path.parts ≠ [])
    (settles : FileTree.Settles before.files (before.files.base path) path.parts place) {file : Nat}
    {member : Zip.Member} {outcome : Outcome (Option Fault)}
    (run : Rebuilder.copyEntry file member path.toString before = (outcome, after)) :
    after = before ∨ ∃ content, FileTree.Written before.files after.files place content := by
  obtain ⟨stop, rfl, copies⟩ := Rebuilder.copies_of_copyEntry run
  cases copies with
  | unread _ => exact .inl rfl
  | refused _ => exact .inl rfl
  | emptied _ cleared _ _ => exact .inr ⟨_, written_of_settles settles sound proper nonempty cleared⟩
  | @filled _ _ _ emptied _ _ cleared full _ =>
      have first := written_of_settles settles sound proper nonempty cleared
      have from_ : emptied.base path = before.files.base path := by
        rw [FileTree.base, FileTree.base, first.start]
      have again := settles.congr fun {_ _} => first.at?_iff rfl
      exact .inr ⟨_, first.again (written_of_settles (from_.symm ▸ again) (first.sound sound) proper
        nonempty full)⟩

/-- Files and directories that staging an entry leaves, if its path settles where it does. -/
def Stages (tree after : FileTree) (target : Files.Location) : Prop :=
  ∃ middle, FileTree.Grown tree middle ∧ (after = middle ∨ ∃ place content,
    FileTree.Settles tree [] target place ∧ FileTree.Written middle after place content)

theorem Stages.of_grown {tree after : FileTree} {target : Files.Location}
    (grown : FileTree.Grown tree after) : Stages tree after target := ⟨after, grown, .inl rfl⟩

theorem grown_of_creating {raw : String} {outcome : Outcome Unit}
    (run : Work.onFiles (FileWork.createDirectory raw) before = (outcome, after)) :
    FileTree.Grown before.files after.files := by
  obtain ⟨files, making, rfl⟩ := Work.onFiles_cases run
  exact FileWork.grown_of_createDirectory making

theorem healthy_of_creating (healthy : before.Healthy) {raw : String} {outcome : Outcome Unit}
    (run : Work.onFiles (FileWork.createDirectory raw) before = (outcome, after)) : after.Healthy := by
  have grown := grown_of_creating run
  obtain ⟨files, _, rfl⟩ := Work.onFiles_cases run
  exact ⟨grown.sound healthy.files, healthy.quiet⟩

theorem eq_of_ofOutcome {α β : Type} {value : Outcome α} {answer : α → β} {outcome : Outcome β}
    (run : (Work.ofOutcome value >>= fun recorded => pure (answer recorded)) before = (outcome, after)) :
    after = before := by
  rcases bind_cases run with ⟨_, remembered, _⟩ | ⟨_, last, remembered, answered⟩
  · exact (Work.ofOutcome_cases remembered).1
  · exact (pure_ok answered).2.trans (Work.ofOutcome_cases remembered).1

theorem stages_of_stageDirectory {member : Zip.Member} {target : Files.Location}
    {outcome : Outcome (Path × Rebuilder)}
    (run : rebuilder.stageDirectory member before = (outcome, after)) :
    Stages before.files after.files target := by
  rcases bind_cases run with ⟨_, placed, _⟩ | ⟨path, middle, placed, making⟩
  · obtain rfl := pathFor_pure placed
    exact .of_grown (.refl _)
  obtain rfl := pathFor_pure placed
  rcases bind_cases making with ⟨_, made, _⟩ | ⟨_, middle, made, recording⟩
  · exact .of_grown (grown_of_creating made)
  · rw [eq_of_ofOutcome recording]
    exact .of_grown (grown_of_creating made)

theorem stages_of_stageCopy (rooted : Rooted rebuilder region) (healthy : before.Healthy) {file : Nat}
    {member : Zip.Member} {outcome : Outcome (Path × Rebuilder)}
    (run : rebuilder.stageCopy file member before = (outcome, after)) :
    Stages before.files after.files (region ++ nameParts member.name) := by
  rcases bind_cases run with ⟨_, placed, _⟩ | ⟨path, middle, placed, making⟩
  · obtain rfl := pathFor_pure placed
    exact .of_grown (.refl _)
  obtain ⟨rfl, filled, rfl, _, place, settles, _⟩ := pathFor_ok rooted placed
  have parts := descend_nameParts region member.name
  rcases bind_cases making with ⟨_, made, _⟩ | ⟨_, made, making, copying⟩
  · exact .of_grown (grown_of_creating made)
  have grown := grown_of_creating making
  rcases bind_cases copying with ⟨_, copied, _⟩ | ⟨stop, last, copied, recording⟩
  · exact absurd copied (Rebuilder.copyEntry_ne_error _ _ _)
  have same : after = last := by
    cases stop with
    | some cause =>
        simp only at recording
        split at recording
        · exact (throw_error recording).2
        · exact (throw_error recording).2
    | none => exact eq_of_ofOutcome recording
  rw [same]
  -- The directories on the way are no links, and do not change where the path leads.
  have within : Within region middle.files made.files := .of_grown grown
  have there := settles.congr within.link_iff
  have based : made.files.base ((FileTree.pathOf region).descend (nameParts member.name)) =
      middle.files.base ((FileTree.pathOf region).descend (nameParts member.name)) := by
    rw [FileTree.base, FileTree.base, grown.start]
  rw [← based] at there
  rcases copyEntry_cases (grown.sound healthy.files) (rooted.proper member.name) (by simp [parts, filled])
    there copied with rfl | ⟨content, written⟩
  · exact .of_grown grown
  · refine ⟨made.files, grown, .inr ⟨place, content, ?_, written⟩⟩
    rw [parts] at settles
    exact settles

/-- A call makes directories, and at most one file, where the path of its entry leads. -/
theorem stages_of_perform (rooted : Rooted rebuilder region) (healthy : before.Healthy)
    {outcome : Outcome Rebuilder} (run : call.perform rebuilder before = (outcome, after)) :
    Stages before.files after.files (region ++ call.names) := by
  cases call with
  | directory member =>
      rcases bind_cases run with ⟨_, staging, _⟩ | ⟨_, middle, staging, answer⟩
      · exact stages_of_stageDirectory staging
      · obtain ⟨_, rfl⟩ := pure_ok answer
        exact stages_of_stageDirectory staging
  | copy file member =>
      rcases bind_cases run with ⟨_, staging, _⟩ | ⟨_, middle, staging, answer⟩
      · exact stages_of_stageCopy rooted healthy staging
      · obtain ⟨_, rfl⟩ := pure_ok answer
        exact stages_of_stageCopy rooted healthy staging

/-- Where its path does not lead, a call leaves every file as it is, and makes none. -/
theorem Stages.file_iff {tree after : FileTree} {target : Files.Location} (stages : Stages tree after target)
    (elsewhere : ¬FileTree.Settles tree [] target spot) {file : Files.File} :
    tree.at? spot = some (.file file) ↔ after.at? spot = some (.file file) := by
  obtain ⟨middle, grown, changed⟩ := stages
  have made : tree.at? spot = some (.file file) ↔ middle.at? spot = some (.file file) :=
    ⟨grown.at?_of_some, fun held => grown.at?_of_not_directory held nofun⟩
  rcases changed with rfl | ⟨place, content, settles, written⟩
  · exact made
  · have away : spot ≠ place := by
      rintro rfl
      exact elsewhere settles
    rw [made, written.at?_of_ne away]

/-! ## Calls one after the other -/

theorem attempt_cases {outcome : Outcome Rebuilder}
    (run : call.attempt rebuilder before = (outcome, after)) :
    ∃ next, outcome = .ok next ∧ (call.perform rebuilder before = (.ok next, after) ∨
      next = rebuilder ∧ ∃ failure, call.perform rebuilder before = (.error failure, after)) := by
  obtain ⟨result, middle, performed, ending⟩ := Work.attempt_bind run
  cases result with
  | ok recorded =>
      obtain ⟨rfl, rfl⟩ := pure_ok ending
      exact ⟨_, rfl, .inl performed⟩
  | error failure =>
      obtain ⟨rfl, rfl⟩ := pure_ok ending
      exact ⟨_, rfl, .inr ⟨rfl, failure, performed⟩⟩

theorem attempts_answer (calls : List Call) (rebuilder : Rebuilder) (before : Workspace) :
    Answers (calls.foldlM Call.attempt rebuilder) before := by
  have each : ∀ {past rest : List Call} {call : Call} {value : Rebuilder} {state : Workspace},
      calls = past ++ call :: rest → True → ∃ next after,
        call.attempt value state = (.ok next, after) ∧ True := by
    intro _ _ call value state _ _
    rcases stage : call.attempt value state with ⟨outcome, last⟩
    obtain ⟨next, rfl, _⟩ := attempt_cases stage
    exact ⟨next, last, rfl, trivial⟩
  obtain ⟨final, after, run, _⟩ := foldlM_run (fun _ _ _ => True) each trivial
  exact ⟨final, after, run⟩

/-- What calls keep, accepted or not: what is remembered, links, directories, and every file to which none of
their paths leads. -/
structure Retained (region : Files.Location) (calls : List Call) (rebuilder final : Rebuilder)
    (before after : Workspace) : Prop where
  rooted : Rooted final region
  healthy : after.Healthy
  within : Within region before.files after.files
  remembered : rebuilder.staged <+: final.staged
  files : ∀ {spot : Files.Location} {file : Files.File},
    (∀ call ∈ calls, ¬FileTree.Settles before.files [] (region ++ call.names) spot) →
    (before.files.at? spot = some (.file file) ↔ after.files.at? spot = some (.file file))

/-- One call more keeps as much. -/
theorem Retained.attempt {middle : Workspace} {next : Rebuilder}
    (retained : Retained region calls rebuilder recorded before middle)
    (run : call.attempt recorded middle = (.ok next, after)) :
    Retained region (calls ++ [call]) rebuilder next before after := by
  obtain ⟨outcome, performed, remembered, rooted⟩ : ∃ outcome, call.perform recorded middle = (outcome, after) ∧
      recorded.staged <+: next.staged ∧ Rooted next region := by
    obtain ⟨_, same, performed | ⟨rfl, failure, performed⟩⟩ := attempt_cases run
    · obtain rfl := Except.ok.inj same
      have adds := (adds_of_perform performed).2
      exact ⟨_, performed, ⟨_, adds.staged.symm⟩, adds.rooted retained.rooted⟩
    · obtain rfl := Except.ok.inj same
      exact ⟨_, performed, List.prefix_refl _, retained.rooted⟩
  obtain ⟨healthy, within⟩ := (keeps_perform retained.rooted call).run performed retained.healthy
  refine ⟨rooted, healthy, trans_of (Within region) retained.within within,
    retained.remembered.trans remembered, fun {spot file} elsewhere => ?_⟩
  have earlier : before.files.at? spot = some (.file file) ↔ middle.files.at? spot = some (.file file) :=
    retained.files fun other among => elsewhere other (List.mem_append_left _ among)
  refine earlier.trans ((stages_of_perform retained.rooted retained.healthy performed).file_iff fun settles => ?_)
  exact elsewhere call (by simp) (settles.congr retained.within.link_iff.symm)

theorem retained_of_attempts (rooted : Rooted rebuilder region) (healthy : before.Healthy)
    (run : calls.foldlM Call.attempt rebuilder before = (.ok final, after)) :
    Retained region calls rebuilder final before after :=
  foldlM_ok (fun past value state => Retained region past rebuilder value before state)
    (fun _ retained step => retained.attempt step)
    ⟨rooted, healthy, refl_of (Within region) _, List.prefix_refl _, fun _ => Iff.rfl⟩ run

/-! ## Entries that are named without going up -/

section Named

variable {tree : FileTree} {names : List String} {old : Files.File} {member : Zip.Member}

/-- Below a directory without links, names lead to the place that they spell and to no other. -/
theorem settles_names_iff (sound : tree.Sound) (clear : Clear tree region)
    (named : ∀ name ∈ names, IsName name) :
    FileTree.Settles tree [] (region ++ names) spot ↔ spot = region ++ names := by
  have top : tree.base (under (FileTree.pathOf region) names) = [] := if_neg (by decide : ¬"/" = "")
  have settles := settles_under sound clear named
  rw [top] at settles
  refine ⟨fun other => other.unique settles, ?_⟩
  rintro rfl
  exact settles

/-- An entry that has been copied is remembered and has its content for as long as the calls that follow
are for other names. -/
theorem copied_retained (rooted : Rooted rebuilder region) (healthy : before.Healthy)
    (clear : Clear before.files region) (held : before.files.at? place = some (.file old))
    (named : ∀ part ∈ nameParts member.name, IsName part) {middle : Workspace}
    (staged : (Call.copy old.id member).perform rebuilder before = (.ok recorded, middle))
    (others : ∀ call ∈ calls, (∀ part ∈ call.names, IsName part) ∧ call.names ≠ nameParts member.name)
    (run : calls.foldlM Call.attempt recorded middle = (.ok final, after)) :
    ∃ file, after.files.at? (region ++ nameParts member.name) = some (.file file) ∧
      member.read old.content = .ok file.content ∧
      (keyOf member.name false, ⟨member.name, false, some member.stamp, member.attributes, false⟩) ∈
        final.staged := by
  have adds := (adds_of_perform staged).2
  obtain ⟨healthyMiddle, within⟩ := (keeps_perform rooted _).run staged healthy
  obtain ⟨⟨path, next⟩, _, staging, answer⟩ := bind_ok staged
  obtain rfl := (pure_ok answer).2
  obtain ⟨placed, ⟨made, makes, copies⟩, _⟩ := stageCopy_ok staging
  obtain ⟨_, filled, rfl, _, _⟩ := pathFor_ok rooted placed
  rw [descend_eq_under] at makes copies
  have grown := grown_of_creating makes
  have healthyMade := healthy_of_creating healthy makes
  obtain ⟨content, read, lays⟩ := copyEntry_ok healthyMade (clear.within (@Within.of_grown region _ _ grown))
    filled named copies
  rw [healthyMade.files.contentOf_eq (grown.at?_of_some held), Option.getD_some] at read
  obtain ⟨file, there, rfl⟩ := lays.here
  have retained := retained_of_attempts (adds.rooted rooted) healthyMiddle run
  refine ⟨file, (retained.files fun call among settles => ?_).1 there, read, retained.remembered.subset ?_⟩
  · obtain ⟨plain, apart⟩ := others call among
    have same := (settles_names_iff healthyMiddle.files (clear.within within) plain).1 settles
    exact apart (List.append_cancel_left same).symm
  · rw [adds.staged]
    exact List.mem_append_right _ List.mem_cons_self

/-- An entry that is refused because its key is taken has been written in the place of the other. -/
theorem overwritten_of_collision (rooted : Rooted rebuilder region) (linkless : before.files.Linkless)
    (takes : Takes before.files region (nameParts member.name) false) {previous : StagedEntry}
    (taken : rebuilder.staged.lookup (keyOf member.name false) = some previous)
    (held : before.files.at? place = some (.file old)) (read : member.read old.content = .ok content) :
    ∃ files file, rebuilder.stageCopy old.id member before = (.error (.enumeration (.collision previous.name
        member.name (keyOf member.name false))), { before with files }) ∧
      files.at? (region ++ nameParts member.name) = some (.file file) ∧ file.content = content := by
  obtain ⟨files, stages, fills⟩ := stageCopy_eq rooted linkless takes held read
  obtain ⟨file, there, whole, _⟩ := fills.filled
  refine ⟨files, file, ?_, there, whole⟩
  rw [stages, Rebuilder.record]
  simp only [taken]
  rfl

end Named

end Rebuild
end ClassLoom
