import ClassLoom.Proofs.Run.InPlace

namespace ClassLoom
namespace Run

/-!
# What a run over a directory leads to

The walk through the directory is a walk through the directory as it was when the run began.  When a
class is reached, nothing has been written to it yet: every class is handed over once, with the content
that it had at the beginning, and what is different at the end is the output for that content.

What holds of the classes so far is carried from one class to the next, as long as none has failed, and
holds of all of them at the end.
-/

open Files (FileTree Path)

variable {host : Host} {plan : Plan} {context : Context} {before after : Workspace}
  {respond : String → Bytes → Outcome Config.Value} {note : String → Bytes → String}

/-! ## All classes -/

/-- An output that a run is to write: that for the content of a class file whose path the filter
accepts, unless it is empty. -/
structure Due (respond : String → Bytes → Outcome Config.Value) (filter : Pattern.PathFilter)
    (tree : FileTree) (root : Path) (top : Files.Location) (names : List String)
    (candidate : Candidate) (out : Bytes) : Prop where
  exists_file : ∃ file, IsClassFile tree root top names file candidate ∧
    respond candidate.className file.content = .ok (.octets out)
  accepted : filter.accepts candidate.filePath.toString = true
  nonempty : out ≠ []

/-- A call on a candidate, with the name and the content of the class in a tree. -/
def IsCall (tree : FileTree) (root : Path) (top : Files.Location) (candidate : Candidate)
    (call : String × Bytes) : Prop :=
  ∃ names file, IsClassFile tree root top names file candidate ∧
    call = (candidate.className, file.content)

/-- How far a run has come that has visited some of the candidates: what is due for them is written,
nothing else is, and the transformer has been called on each that the filter accepts. -/
structure Progressed (respond : String → Bytes → Outcome Config.Value)
    (note : String → Bytes → String) (filter : Pattern.PathFilter) (tree : FileTree) (root : Path)
    (top : Files.Location) (printed : String) (past : List Candidate) (workspace : Workspace) : Prop where
  written : ∀ {names candidate out}, candidate ∈ past →
    Due respond filter tree root top names candidate out →
    ∃ file : Files.File, workspace.files.at? (top ++ names) = some (.file file) ∧ file.content = out ∧
      tree.clock ≤ file.modified ∧ file.modified ≤ workspace.files.clock
  kept : ∀ {place}, (∀ {names candidate out}, candidate ∈ past →
      Due respond filter tree root top names candidate out → place ≠ top ++ names) →
    workspace.files.at? place = tree.at? place
  called : ∃ calls, List.Forall₂ (IsCall tree root top)
      (past.filter fun candidate => filter.accepts candidate.filePath.toString) calls ∧
    workspace.printed = printed ++ String.join (calls.map fun call => note call.1 call.2)
  clock : tree.clock ≤ workspace.files.clock

namespace Progressed

variable {filter : Pattern.PathFilter} {tree : FileTree} {root : Path} {top : Files.Location}
  {printed : String} {past : List Candidate} {names : List String} {candidate : Candidate}

/-- A class that has not been visited is as it was. -/
theorem held_of_fresh (progressed : Progressed respond note filter tree root top printed past before)
    (fresh : candidate ∉ past) {file : Files.File}
    (classFile : IsClassFile tree root top names file candidate) :
    before.files.at? (top ++ names) = some (.file file) := by
  rw [progressed.kept, classFile.held]
  intro others other out member due same
  obtain ⟨twin, twinFile, _⟩ := due.exists_file
  obtain rfl := List.append_cancel_left same
  obtain rfl := classFile.candidate_unique twinFile
  exact fresh member

/-- A class for which nothing is due is visited without a change. -/
theorem leave (progressed : Progressed respond note filter tree root top printed past before)
    (idle : ∀ {names out}, ¬Due respond filter tree root top names candidate out)
    (same : ∀ place, after.files.at? place = before.files.at? place)
    (later : before.files.clock ≤ after.files.clock)
    (called : ∃ calls, List.Forall₂ (IsCall tree root top)
        ((past ++ [candidate]).filter fun candidate => filter.accepts candidate.filePath.toString)
        calls ∧
      after.printed = printed ++ String.join (calls.map fun call => note call.1 call.2)) :
    Progressed respond note filter tree root top printed (past ++ [candidate]) after := by
  refine ⟨?_, ?_, called, progressed.clock.trans later⟩
  · intro names other out member due
    rcases List.mem_append.1 member with earlier | last
    · obtain ⟨file, held, content, earliest, latest⟩ := progressed.written earlier due
      exact ⟨file, (same _).trans held, content, earliest, latest.trans later⟩
    · rw [List.mem_singleton.1 last] at due
      exact absurd due idle
  · intro place undue
    rw [same]
    exact progressed.kept fun member => undue (List.mem_append_left _ member)

/-- A class for which something is due is overwritten. -/
theorem overwrite (progressed : Progressed respond note filter tree root top printed past before)
    (fresh : candidate ∉ past) {out : Bytes}
    (due : Due respond filter tree root top names candidate out)
    (overwritten : Overwritten before.files after.files (top ++ names) out)
    (called : ∃ calls, List.Forall₂ (IsCall tree root top)
        ((past ++ [candidate]).filter fun candidate => filter.accepts candidate.filePath.toString)
        calls ∧
      after.printed = printed ++ String.join (calls.map fun call => note call.1 call.2)) :
    Progressed respond note filter tree root top printed (past ++ [candidate]) after := by
  obtain ⟨file, classFile, responded⟩ := due.exists_file
  refine ⟨?_, ?_, called, progressed.clock.trans overwritten.clock⟩
  · intro others other otherOut member otherDue
    obtain ⟨twin, twinFile, twinResponded⟩ := otherDue.exists_file
    rcases List.mem_append.1 member with earlier | last
    · have apart : top ++ others ≠ top ++ names := by
        intro same
        obtain rfl := List.append_cancel_left same
        obtain rfl := classFile.candidate_unique twinFile
        exact fresh earlier
      obtain ⟨new, held, content, earliest, latest⟩ := progressed.written earlier otherDue
      exact ⟨new, (overwritten.at?_of_ne apart).trans held, content, earliest,
        latest.trans overwritten.clock⟩
    · obtain rfl := List.mem_singleton.1 last
      obtain ⟨rfl, rfl⟩ := classFile.unique twinFile
      obtain rfl : out = otherOut := by
        have answered := responded.symm.trans twinResponded
        cases answered
        rfl
      obtain ⟨new, content, earliest, latest, places⟩ := overwritten.places
      exact ⟨new, by rw [places, if_pos rfl], content, progressed.clock.trans earliest, latest⟩
  · intro place undue
    rw [overwritten.at?_of_ne (undue (List.mem_append_right _ List.mem_cons_self) due)]
    exact progressed.kept fun member => undue (List.mem_append_left _ member)

/-- One more call. -/
theorem call (progressed : Progressed respond note filter tree root top printed past before)
    (accepted : filter.accepts candidate.filePath.toString = true) {file : Files.File}
    (classFile : IsClassFile tree root top names file candidate)
    (answered : after.printed = before.printed ++ note candidate.className file.content) :
    ∃ calls, List.Forall₂ (IsCall tree root top)
        ((past ++ [candidate]).filter fun candidate => filter.accepts candidate.filePath.toString)
        calls ∧
      after.printed = printed ++ String.join (calls.map fun call => note call.1 call.2) := by
  obtain ⟨calls, matching, told⟩ := progressed.called
  refine ⟨calls ++ [(candidate.className, file.content)], ?_, ?_⟩
  · have last : IsCall tree root top candidate (candidate.className, file.content) :=
      ⟨names, file, classFile, rfl⟩
    rw [List.filter_append, List.filter_singleton, accepted]
    exact List.rel_append matching (.cons last .nil)
  · rw [answered, told, List.map_append, String.join_append, String.append_assoc]
    simp

theorem step (progressed : Progressed respond note filter tree root top printed past before)
    (quiet : before.LogsToNoFile) (fresh : candidate ∉ past) {file : Files.File}
    (classFile : IsClassFile tree root top names file candidate) {report next : Report}
    (visited : Visited respond note filter candidate (top ++ names) file report next before after)
    (failures : next.failures = []) :
    Progressed respond note filter tree root top printed (past ++ [candidate]) after := by
  cases visited with
  | rejected rejected _ same =>
      subst same
      refine progressed.leave (fun due => ?_) (fun _ => rfl) le_rfl ?_
      · rw [due.accepted] at rejected
        cases rejected
      · rw [List.filter_append, List.filter_singleton, rejected]
        simpa using progressed.called
  | accepted accepted handled =>
      cases handled with
      | failed failed _ => exact absurd failures failed
      | unchanged _ nothing printed =>
          obtain ⟨_, answered, passes⟩ := printed quiet
          refine progressed.leave (fun due => ?_) passes.at? passes.clock
            (progressed.call accepted classFile answered)
          obtain ⟨twin, twinFile, responded⟩ := due.exists_file
          obtain ⟨rfl, rfl⟩ := classFile.unique twinFile
          exact nothing _ due.nonempty responded
      | changed _ responded nonempty _ answered overwritten =>
          exact progressed.overwrite fresh ⟨⟨file, classFile, responded⟩, accepted, nonempty⟩ overwritten
            (progressed.call accepted classFile answered)

theorem of_prints (progressed : Progressed respond note filter tree root top printed past before)
    (quiet : before.LogsToNoFile) (waits : Prints "" before after) :
    Progressed respond note filter tree root top printed past after := by
  obtain ⟨_, told, passes⟩ := waits quiet
  rw [String.append_empty] at told
  refine ⟨fun member due => ?_, fun undue => ?_, ?_, progressed.clock.trans passes.clock⟩
  · obtain ⟨file, held, content, earliest, latest⟩ := progressed.written member due
    exact ⟨file, (passes.at? _).trans held, content, earliest, latest.trans passes.clock⟩
  · exact (passes.at? _).trans (progressed.kept undue)
  · rw [told]
    exact progressed.called

end Progressed

section Run

variable {tree : FileTree} {root : Path} {top : Files.Location} {names : List String}
  {file : Files.File} {candidate : Candidate}

theorem Visited.failures {filter : Pattern.PathFilter} {place : Files.Location} {report next : Report}
    (visited : Visited respond note filter candidate place file report next before after)
    (none : next.failures = []) : report.failures = [] := by
  cases visited with
  | rejected _ same _ => exact same ▸ none
  | accepted _ handled =>
      cases handled with
      | failed failed _ => exact absurd none failed
      | unchanged same _ _ => exact same ▸ none
      | changed same _ _ _ _ _ => exact same ▸ none

/-- Visits to all class files, one after another, come to what is due for all of them. -/
theorem progressed_of_foldlM (computes : host.Computes respond note)
    (inPlace : context.mode = .inPlace) (directory : DirectoryTree tree root top)
    {found : List Candidate} (enumerates : Enumerates tree root top (fun _ => True) found)
    (quiet : before.LogsToNoFile) (passes : tree.TimePasses before.files) {report final : Report}
    (run : found.foldlM (visitCandidate host plan context) report before = (.ok final, after)) :
    Steady tree after ∧ (final.failures = [] →
      Progressed respond note context.filter tree root top before.printed found after) := by
  refine foldlM_ok (fun past (report : Report) state => Steady tree state ∧ (report.failures = [] →
    Progressed respond note context.filter tree root top before.printed past state)) ?_ ?_ run
  · intro past rest value next candidate state last whole held step
    obtain ⟨names, file, _, classFile⟩ := (enumerates.mem candidate).1 (by simp [whole])
    have fresh : candidate ∉ past := by
      have once := enumerates.once
      rw [whole, List.nodup_append] at once
      exact fun member => once.2.2 candidate member candidate List.mem_cons_self rfl
    obtain ⟨found, there⟩ := held.1.shape.exists_file classFile.held
    have visited := visited_of_visitCandidate computes inPlace directory held.1 classFile there step
    refine ⟨visited.steady held.1 there, fun none => ?_⟩
    -- No class has failed before, so this one still has its first content.
    have progressed := held.2 (visited.failures none)
    have first := progressed.held_of_fresh fresh classFile
    exact progressed.step held.1.healthy.quiet fresh classFile
      (visited_of_visitCandidate computes inPlace directory held.1 classFile first step) none
  · refine ⟨⟨passes.shape, passes.sound directory.sound, quiet⟩, fun _ => ?_⟩
    refine ⟨fun member => ?_, fun _ => passes.at? _, ⟨[], .nil, ?_⟩, passes.clock⟩
    · cases member
    · simp

end Run

theorem check_eq_ok_iff {report : Report} : report.check = .ok () ↔ report.failures = [] := by
  unfold Report.check
  split
  next none => exact iff_of_true rfl (List.isEmpty_iff.1 none)
  next some => exact iff_of_false nofun fun none => some (List.isEmpty_iff.2 none)

/-- A run over a directory that succeeds has waited, visited all classes without a failure, and waited
again. -/
theorem visitClasses_of_transformDirectory (computes : host.Computes respond note)
    {value : Config.Value} {elements : List Config.Value} {report : Report}
    (run : transformDirectory host plan value elements before = (.ok report, after)) :
    ∃ context ready final visited, context.mode = .inPlace ∧
      Pattern.PathFilter.ofSetting plan.filter = .ok context.filter ∧ Prints "" before ready ∧
      visitClasses (visitCandidate host plan context) (Path.ofString value.plain)
        (.start .inPlace value.plain) ready = (.ok (final, none), visited) ∧
      final.failures = [] ∧ Prints "" visited after := by
  unfold transformDirectory at run
  rw [Work.files_bind] at run
  obtain ⟨_, checked, checking, entering⟩ := bind_ok run
  obtain ⟨rfl, _⟩ := Work.ofOutcome_cases checking
  obtain ⟨last, course, rfl⟩ := Log.inContext_cases entering
  obtain ⟨context, opened, made, ready, ended, inPlace, opening, filterOk, _, preparing, working, rfl⟩ :=
    inRun_ok course
  obtain ⟨⟨final, failure⟩, visited, visiting, working⟩ := bind_ok working
  have entered : Prints "" checked { checked with
      contexts := checked.contexts ++ [logContext .inPlace value.plain] } := Bookkeeping.same rfl rfl rfl
  have added : Prints "" opened { opened with
      invokers := opened.invokers ++ [.new plan.transformer (some context.classpath)] } :=
    Bookkeeping.same rfl rfl rfl
  have waits : Prints "" checked ready :=
    trans_of (Prints "") (trans_of (Prints "") entered ((keeps_openClasspath elements).run opening))
      (trans_of (Prints "") added
        ((Transformer.Invoker.keeps_prepare computes.construct _).run preparing))
  cases failure with
  | some failure =>
      obtain ⟨_, _, thrown, _⟩ := bind_ok working
      cases (throw_error thrown).1
  | none =>
      obtain ⟨_, counted, counting, checking⟩ := bind_ok working
      obtain ⟨_, told, agreeing, reporting⟩ := bind_ok checking
      obtain ⟨rfl, agreed⟩ := Work.ofOutcome_cases agreeing
      have statistics : Prints "" visited told :=
        ((Work.keeps_invoker _).bind fun _ => Log.keeps_debug _ _).run counting
      have logged : Prints "" told ended :=
        ((Log.keeps_info _ _).bind fun _ => keeps_pure _).run reporting
      refine ⟨context, ready, final, visited, inPlace, filterOk, waits, visiting,
        check_eq_ok_iff.1 agreed.symm, ?_⟩
      exact trans_of (Prints "") (trans_of (Prints "") statistics logged) (Bookkeeping.same rfl rfl rfl)

/-- A directory with a class, another file, and a class in a directory below. -/
def classTree : FileTree :=
  let top : FileTree := ⟨[], [], 0, [], 1000000000000000000⟩
  let directories := (top.put ["w"] .directory).put ["w", "p"] .directory
  let withFile := fun (tree : FileTree) (place : Files.Location) (content : Bytes) =>
    { tree.put place (.file ⟨tree.nextId, content, tree.clock⟩) with nextId := tree.nextId + 1 }
  withFile (withFile (withFile directories ["w", "A.class"] [1]) ["w", "n.txt"] [2])
    ["w", "p", "B.class"] [3]

theorem sound_classTree : classTree.Sound := by
  have top : ((⟨[], [], 0, [], 1000000000000000000⟩ : FileTree).put ([] ++ ["w"]) .directory).Sound :=
    (FileTree.Sound.bare _).put_directory rfl (by decide)
  have below := @FileTree.Sound.put_directory _ ["w"] "p" top (by decide) (by decide)
  have first := @FileTree.Sound.put_newFile _ ["w"] "A.class" below (by decide) (by decide)
    (by decide) [1] 1000000000000000000
  have second := @FileTree.Sound.put_newFile _ ["w"] "n.txt" first (by decide) (by decide)
    (by decide) [2] 1000000000000000000
  exact @FileTree.Sound.put_newFile _ ["w", "p"] "B.class" second (by decide) (by decide)
    (by decide) [3] 1000000000000000000

/-- A transformer that marks the class `A` and notes every call. -/
def markingHost : Host :=
  ⟨fun _ _ className content workspace =>
    (.ok (if className = "A" then .octets (content ++ [9]) else .null),
      { workspace with printed := workspace.printed ++ (className ++ ";") }),
    fun _ => return ()⟩

theorem markingHost_computes : markingHost.Computes
    (fun className content => .ok (if className = "A" then .octets (content ++ [9]) else .null))
    fun className _ => className ++ ";" :=
  ⟨fun _ _ _ _ _ => rfl, fun _ _ _ _ workspace quiet => ⟨quiet, rfl, .refl workspace.files⟩,
    fun _ workspace => refl_of (Prints "") workspace⟩

/-- A plan for the classes whose paths hold a slash before a capital. -/
def capitalPlan : Plan :=
  ⟨some (.ready ⟨"T", "T", ⟨[], .nothing⟩⟩), .text "/[A-Z]", true, .reuse, false, "classweaver"⟩

theorem directoryTree_classTree : DirectoryTree classTree (Path.ofString "w") ["w"] := by
  refine ⟨sound_classTree, rfl, Path.ofString_proper "w", by decide +kernel, ?_⟩
  intro place target _
  exact sound_classTree.unlinked (by decide) place target

end Run
end ClassLoom
