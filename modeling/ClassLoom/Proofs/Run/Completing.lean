import ClassLoom.Proofs.Files.Granting
import ClassLoom.Proofs.Run.Untouched
import ClassLoom.Proofs.Run.Verdicts

namespace ClassLoom
namespace Run

/-!
# How a run over a directory ends

In a directory without links, with room in its paths for what the file system allows, nothing but the
transformer can fail a run: every directory is listed, every class file is read, and what is written back
goes where a file is.  So the run ends as the calls on its class files decide.
-/

open Files (FileTree FileWork Path)
open Rebuild (under)
open Transformer (Prepared)

variable {host : Host} {plan : Plan} {context : Context} {before after : Workspace}
  {respond : String → Bytes → Outcome Config.Value} {note : String → Bytes → String}
  {tree other : FileTree} {root : Path} {top : Files.Location} {names : List String} {file : Files.File}
  {candidate : Candidate}

/-! ## Directories with room -/

/-- Whatever is below a directory can be asked for by its path, and by its path from the top. -/
def Roomy (tree : FileTree) (root : Path) (top : Files.Location) : Prop :=
  ∀ {names : List String} {entry : Files.Entry}, tree.at? (top ++ names) = some entry →
    FileTree.Askable (tree.absolute (under root names))

theorem absolute_of_start (same : other.start = tree.start) (path : Path) :
    other.absolute path = tree.absolute path := by
  rw [FileTree.absolute, FileTree.absolute, same]

theorem Roomy.of_shape (roomy : Roomy tree root top) (same : tree.SameShape other) :
    Roomy other root top := by
  intro names entry held
  obtain ⟨twin, held, _⟩ := Option.map_eq_some_iff.1 ((same.places _).symm.trans (by rw [held]; rfl))
  rw [absolute_of_start same.start]
  exact roomy held

namespace DirectoryTree

theorem of_shape (directory : DirectoryTree tree root top) (same : tree.SameShape other)
    (sound : other.Sound) : DirectoryTree other root top where
  sound := sound
  started := by rw [same.start]; exact same.at?_of_not_file directory.started rfl
  proper := directory.proper
  found := same.stat_directory directory.found
  plain below linked := directory.plain below (same.symm.at?_of_not_file linked rfl)

theorem reaches_absolute (directory : DirectoryTree tree root top) (roomy : Roomy tree root top) :
    tree.Reaches (tree.absolute root) top ∧ (tree.absolute root).Proper := by
  obtain ⟨stands, alive⟩ := directory.stands_root
  have askable : FileTree.Askable (tree.absolute (under root [])) :=
    roomy (by rw [List.append_nil]; exact alive)
  rw [FileTree.absolute_under] at askable
  exact ⟨directory.reaches.absolute directory.sound directory.started fun part member =>
    askable.short part (List.mem_append_left _ member),
    (stands.absolute directory.sound directory.started).proper⟩

/-- What is below the root is found by its path, and by its path from the top. -/
theorem stat_under (directory : DirectoryTree tree root top) (roomy : Roomy tree root top)
    {entry : Files.Entry} (held : tree.at? (top ++ names) = some entry) :
    tree.stat true (under root names).toString = .ok (top ++ names, entry) ∧
      tree.stat true (tree.absolute (under root names)).toString = .ok (top ++ names, entry) := by
  obtain ⟨_, alive⟩ := directory.stands_root
  have plain : FileTree.Entry.isLink entry = false := by
    cases entry with
    | link target => exact absurd held (directory.plain (FileTree.isBelow_append top names))
    | file file => rfl
    | directory => rfl
  have askable := roomy held
  obtain ⟨reaches, proper⟩ := directory.reaches_absolute roomy
  refine ⟨directory.reaches.stat_under directory.sound alive directory.proper askable.of_absolute held
    plain, ?_⟩
  rw [FileTree.absolute_under] at askable ⊢
  exact reaches.stat_under directory.sound alive proper askable held plain

/-- A file below the root can be written by its path from the top. -/
theorem exists_write (directory : DirectoryTree tree root top) (roomy : Roomy tree root top)
    (held : tree.at? (top ++ names) = some (.file file)) (content : Bytes) :
    ∃ after, tree.write (tree.absolute (under root names)).toString content = .ok after := by
  obtain ⟨_, alive⟩ := directory.stands_root
  have nonempty : names ≠ [] := by
    rintro rfl
    rw [List.append_nil, alive] at held
    cases held
  obtain ⟨reaches, proper⟩ := directory.reaches_absolute roomy
  have askable := roomy held
  have above : tree.at? (top ++ names.dropLast) = some .directory := by
    refine directory.sound.alive_of_prefix held (List.dropLast_prefix names) fun same => ?_
    have shorter := congrArg List.length same
    rw [List.length_dropLast] at shorter
    have filled := List.length_pos_iff.2 nonempty
    omega
  rw [FileTree.absolute_under] at askable ⊢
  obtain ⟨after, done, _⟩ := reaches.exists_write_under directory.sound proper nonempty
    (directory.named held) askable above (.inr ⟨file, held⟩) content
  exact ⟨after, done⟩

end DirectoryTree

/-! ## Tours that are not cut short -/

/-- In a directory with room, the visits to all class files are not cut short but by a visit. -/
theorem exists_tour (directory : DirectoryTree tree root top) (roomy : Roomy tree root top) :
    ∃ found, Enumerates tree root top (fun _ => True) found ∧
      ∀ {σ : Type} {visit : σ → Candidate → Work σ} {holds : Workspace → Prop},
        Undisturbing tree root visit holds → ∀ (result : σ) {before : Workspace}, holds before →
          visitClasses visit root result before = tour visit found none (result, none) before := by
  obtain ⟨found, ending, lists, tours⟩ := tours_visitClasses directory.sound directory.found
  obtain rfl : ending = none := by
    cases ending with
    | none => rfl
    | some failure =>
        obtain ⟨parts, error, alive, refused, _⟩ := directory.unlisted_of_stops (lists.stops failure rfl)
        rw [FileTree.list_of_stat (directory.stat_under roomy alive).1] at refused
        cases refused
  refine ⟨found, ?_, tours⟩
  -- What a walk collects is at once what it tours and what there is.
  let start : Workspace := { (default : Workspace) with files := tree }
  have quietly : ∀ {result next : List Candidate} {candidate : Candidate} {before after : Workspace},
      collectCandidate result candidate before = (.ok next, after) → after = before :=
    fun run => (pure_ok run).2
  have collected : visitClasses collectCandidate root [] start = (.ok (found, none), start) := by
    have undisturbing : Undisturbing tree root collectCandidate fun workspace => workspace.files = tree :=
      ⟨fun held => held ▸ directory.sound, fun held => held ▸ .refl _, fun _ _ _ held => held⟩
    rw [tours undisturbing [] rfl]
    exact tour_of_ok (collect_run found [] start)
  have disturbs : ∀ {workspace : Workspace}, workspace.files = tree → workspace.files.Sound :=
    fun held => held ▸ directory.sound
  obtain ⟨_, others, visits⟩ := visitClasses_ok directory
    ⟨disturbs, fun held => held ▸ .refl _, fun _ held run => (quietly run) ▸ held⟩ rfl collected
  have same := (collect_run others [] start).symm.trans visits.visited
  obtain rfl : others = found := Except.ok.inj (Prod.mk.inj same).1
  exact visits.classes

/-! ## Visits -/

/-- The content of a candidate in a tree. -/
def contentIn (tree : FileTree) (candidate : Candidate) : Bytes :=
  (tree.read candidate.filePath.toString).toOption.getD []

theorem load_run (directory : DirectoryTree before.files root top) (roomy : Roomy before.files root top)
    (classFile : IsClassFile before.files root top names file candidate) :
    before.files.read candidate.filePath.toString = .ok file.content := by
  rw [classFile.filePath]
  exact FileTree.read_of_stat (directory.stat_under roomy classFile.held).1

theorem sameObjects_writeBack (mode : Mode) (logger : String) (target : Target) :
    Keeps SameObjects (writeBack mode logger target) := by
  refine Keeps.bind (Work.keeps_files) fun tree => ?_
  split
  · exact (Log.sameObjects_write _ _ _ _ _).bind fun _ => keeps_pure _
  · refine (Log.sameObjects_write _ _ _ _ _).bind fun _ => (sameObjects_onFiles _).bind fun _ => ?_
    refine (sameObjects_onFiles _).bind fun done => ?_
    cases done with
    | true => exact keeps_pure _
    | false => exact (Log.sameObjects_write _ _ _ _ _).bind fun _ => keeps_pure _
  · exact (sameObjects_onFiles _).bind fun _ => keeps_pure _
  · exact (Log.sameObjects_write _ _ _ _ _).bind fun _ => (sameObjects_onFiles _).bind fun _ => keeps_pure _

theorem answers_writeBack (directory : DirectoryTree before.files root top)
    (roomy : Roomy before.files root top) (quiet : before.LogsToNoFile)
    (held : before.files.at? (top ++ names) = some (.file file)) (target : Target)
    (path : target.writePath = under root names) (logger : String) :
    Answers (writeBack .inPlace logger target) before := by
  obtain ⟨stands, _⟩ := directory.stands_root
  have place : FileTree.Stands before.files (under root names) (top ++ names) :=
    directory.stands (directory.named held)
  rw [writeBack, path]
  refine .after (Work.files_run before) ?_
  cases target.isNoop with
  | true =>
      obtain ⟨logged, done, _⟩ := Log.logged_write quiet logger .debug
        ("No changes for " ++ target.className ++ ", leaving " ++ (under root names).toString) [] none
      exact .after done (answers_pure false)
  | false =>
      obtain ⟨told, telling, said⟩ := Log.logged_write quiet logger .info ("writing transformation changes ["
        ++ (before.files.absolute (under root names)).toString ++ "]") [] none
      obtain ⟨files, written⟩ := directory.exists_write roomy held (target.transformed.getD [])
      have changed := (place.absolute directory.sound directory.started).written directory.sound written
      obtain ⟨_, places⟩ := changed.places
      obtain ⟨twin, seen, same⟩ := (FileTree.SameShape.of_file held places changed.start).stat_ok
        (directory.stat_under roomy held).2
      obtain ⟨copy, rfl⟩ : ∃ copy, twin = .file copy := by
        cases twin with
        | file copy => exact ⟨copy, rfl⟩
        | directory => cases same
        | link target => cases same
      obtain ⟨last, touched⟩ := FileTree.exists_setModified files.clock seen
      refine .after telling (.after (Work.onFiles_of_run (FileWork.change_of_ok ?_)) (.after
        (Work.onFiles_of_run (FileWork.touch_of_ok touched)) (answers_pure true)))
      rw [said.files]
      exact written

/-- A visit to a class file stops at the call, or it prints what the call prints, and the report has no
failure afterwards if it had none and the call passes. -/
theorem visit_run (calculates : host.Calculates respond note) (plan : Plan) (inPlace : context.mode = .inPlace)
    (accepted : context.filter.accepts candidate.filePath.toString = true)
    (directory : DirectoryTree before.files root top) (roomy : Roomy before.files root top)
    (classFile : IsClassFile before.files root top names file candidate)
    (prepared : Prepared context.invoker before) (quiet : before.LogsToNoFile) (report : Report)
    {fate : Verdict} (decided : verdict plan.failFast (respond candidate.className file.content) = fate) :
    (fate = .stops ∧ ∃ failure after,
        visitCandidate host plan context report candidate before = (.error failure, after) ∧
          after.printed = before.printed ++ note candidate.className file.content) ∨
      (fate ≠ .stops ∧ ∃ next after,
        visitCandidate host plan context report candidate before = (.ok next, after) ∧
          after.printed = before.printed ++ note candidate.className file.content ∧
          Prepared context.invoker after ∧
          (next.failures = [] ↔ report.failures = [] ∧ fate = .passes)) := by
  let target : Target :=
    .new candidate.className ⟨candidate.filePath.toString, none⟩ candidate.filePath file.content
  have resolves : Resolver.resolve ⟨context.mode, some context.classpath⟩ candidate before =
      (.ok target, before) := by
    have loads : FileWork.load candidate.filePath.toString before.files =
        (.ok file.content, before.files) := by
      rw [FileWork.load, get_bind, load_run directory roomy classFile]
      rfl
    rw [inPlace]
    exact bind_of_ok (Work.onFiles_of_run loads)
  obtain ⟨called, interim, processes⟩ :=
    process_run calculates plan report prepared quiet resolves rfl
  have visits : visitCandidate host plan context report candidate =
      process host plan context report candidate >>= fun result => return result.1 := by
    rw [visitCandidate, if_pos accepted]
  change Processes host plan context report candidate target _ before called
    (verdict plan.failFast (respond candidate.className file.content)) at processes
  rw [visits]
  rw [decided] at processes
  cases processes with
  | stopped stops => exact .inl ⟨rfl, _, called, bind_of_error stops, interim.printed⟩
  | failed failures goes =>
      exact .inr ⟨by decide, _, called, bind_of_ok goes, interim.printed, interim.prepared prepared,
        fun none => absurd none failures, fun both => absurd both.2 (by decide)⟩
  | passed _ goes =>
      have held : called.files.at? (top ++ names) = some (.file file) :=
        (interim.at? _).trans classFile.held
      have directoryCalled := directory.of_shape interim.passes.shape (interim.passes.sound directory.sound)
      have path : candidate.filePath = under root names := classFile.filePath
      obtain ⟨changed, after, written⟩ := answers_writeBack directoryCalled
        (roomy.of_shape interim.passes.shape) interim.quiet held
        { target with transformed := substance _, applied := true } path plan.logger
      have place : FileTree.Stands called.files candidate.filePath (top ++ names) :=
        path ▸ directoryCalled.stands (directoryCalled.named held)
      obtain ⟨_, printed, _⟩ := overwritten_of_writeBack held place directoryCalled.sound
        directoryCalled.started interim.quiet written
      obtain ⟨next, failures, done⟩ := goes (inPlace ▸ written)
      refine .inr ⟨by decide, next, after, bind_of_ok done, printed.trans interim.printed,
        (interim.prepared prepared).of_same ((sameObjects_writeBack _ _ _).run written), ?_⟩
      rw [failures]
      exact ⟨fun none => ⟨none, rfl⟩, fun both => both.1⟩

/-! ## The whole run -/

theorem statistics_run (plan : Plan) (context : Context) (quiet : before.LogsToNoFile) :
    ∃ after, logStatistics plan context before = (.ok (), after) ∧ Logged before after := by
  obtain ⟨after, done, logged⟩ := Log.logged_write quiet plan.logger .debug ("Transformer statistics: " ++
    (before.invokers.getD context.invoker (.new none none)).statistics.quoted) [] none
  exact ⟨after, done, logged⟩

/-- A run over a directory that has visited its classes succeeds if none has failed. -/
theorem closing_run (plan : Plan) (context : Context) (quiet : before.LogsToNoFile) (report : Report) :
    ∃ outcome after, (do
        logStatistics plan context
        Work.ofOutcome report.check
        logReport plan report
        return report : Work Report) before = (outcome, after) ∧ after.printed = before.printed ∧
      ((∃ report, outcome = .ok report) ↔ report.failures = []) := by
  obtain ⟨told, telling, said⟩ := statistics_run plan context quiet
  rw [bind_of_ok telling]
  cases checked : report.check with
  | error failure =>
      refine ⟨.error failure, told, rfl, said.printed, ?_⟩
      rw [← check_eq_ok_iff, checked]
      exact ⟨nofun, nofun⟩
  | ok nothing =>
      obtain ⟨last, reported, logged⟩ := Log.logged_write said.quiet plan.logger .info
        ("Transformed classes: " ++ report.summary.quoted) [] none
      have agrees : Work.ofOutcome (.ok nothing) told = (.ok (), told) := rfl
      refine ⟨.ok report, last, ?_, logged.printed.trans said.printed, ?_⟩
      · rw [bind_of_ok agrees, logReport, Log.info, bind_of_ok reported]
        rfl
      · exact ⟨fun _ => check_eq_ok_iff.1 checked, fun _ => ⟨report, rfl⟩⟩

/-- The call on a candidate. -/
def callOn (tree : FileTree) (candidate : Candidate) : String × Bytes :=
  (candidate.className, contentIn tree candidate)

/-- How the call on a candidate ends for the run. -/
def fateOf (plan : Plan) (respond : String → Bytes → Outcome Config.Value) (tree : FileTree)
    (candidate : Candidate) : Verdict :=
  verdict plan.failFast (respond candidate.className (contentIn tree candidate))

theorem contentIn_eq (directory : DirectoryTree tree root top) (roomy : Roomy tree root top)
    (classFile : IsClassFile tree root top names file candidate) :
    contentIn tree candidate = file.content := by
  rw [contentIn, classFile.filePath,
    FileTree.read_of_stat (directory.stat_under roomy classFile.held).1]
  rfl

/-- Visits to all class files, one after another, stop at the first call that stops, or go through. -/
theorem visits_run (calculates : host.Calculates respond note) (plan : Plan) (inPlace : context.mode = .inPlace)
    (accepts : ∀ path, context.filter.accepts path = true) (directory : DirectoryTree tree root top)
    (roomy : Roomy tree root top) {found : List Candidate}
    (enumerates : Enumerates tree root top (fun _ => True) found) {report : Report}
    (first : Spared tree root top [] before) (prepared : Prepared context.invoker before)
    (none : report.failures = []) :
    (∃ past candidate rest, found = past ++ candidate :: rest ∧
        (∀ candidate ∈ past, fateOf plan respond tree candidate ≠ .stops) ∧
        fateOf plan respond tree candidate = .stops ∧ ∃ failure after,
          found.foldlM (visitCandidate host plan context) report before = (.error failure, after) ∧
            after.printed = before.printed ++ String.join
              (((past ++ [candidate]).map (callOn tree)).map fun call => note call.1 call.2)) ∨
      (∀ candidate ∈ found, fateOf plan respond tree candidate ≠ .stops) ∧ ∃ final after,
        found.foldlM (visitCandidate host plan context) report before = (.ok final, after) ∧
          Spared tree root top found after ∧ Going plan.failFast respond note context.invoker
            before.printed (found.map (callOn tree)) final.failures after := by
  have visit : ∀ {past rest : List Candidate} {candidate : Candidate} {value : Report} {state : Workspace},
      found = past ++ candidate :: rest → Spared tree root top past state ∧
        Going plan.failFast respond note context.invoker before.printed (past.map (callOn tree))
          value.failures state →
      ∃ names file, IsClassFile state.files root top names file candidate ∧
        IsClassFile tree root top names file candidate ∧ contentIn tree candidate = file.content := by
    intro past rest candidate value state whole held
    obtain ⟨names, file, _, classFile⟩ := (enumerates.mem candidate).1 (by simp [whole])
    have fresh : candidate ∉ past := by
      have once := enumerates.once
      rw [whole, List.nodup_append] at once
      exact fun member => once.2.2 candidate member candidate List.mem_cons_self rfl
    exact ⟨names, file, ⟨held.1.held fresh classFile, classFile.called⟩, classFile,
      contentIn_eq directory roomy classFile⟩
  refine foldlM_verdicts (fun past (value : Report) state => Spared tree root top past state ∧
    Going plan.failFast respond note context.invoker before.printed (past.map (callOn tree))
      value.failures state)
    (fun past state => state.printed = before.printed ++
      String.join ((past.map (callOn tree)).map fun call => note call.1 call.2))
    ?_ ?_ ⟨first, by rw [none]; exact .start prepared⟩
  · intro past rest candidate value state whole held goes
    obtain ⟨names, file, there, classFile, content⟩ := visit whole held
    rw [fateOf, content] at goes
    have steady := held.1.steady
    rcases visit_run calculates plan inPlace (accepts _)
        (directory.of_shape steady.shape steady.healthy.files) (roomy.of_shape steady.shape) there
        held.2.prepared steady.healthy.quiet value rfl with
      ⟨stops, _⟩ | ⟨_, next, after, run, prints, ready, ends⟩
    · exact absurd stops goes
    · refine ⟨next, after, run, ?_, ?_⟩
      · have spared : Spared tree root top (past ++ [candidate])
            (visitCandidate host plan context value candidate state).2 :=
          held.1.visit calculates.leavesFiles inPlace directory classFile value
        rwa [run] at spared
      · rw [List.map_append, List.map_singleton, callOn, content]
        exact held.2.call ready prints ends
  · intro past rest candidate value state whole held stops
    obtain ⟨names, file, there, _, content⟩ := visit whole held
    rw [fateOf, content] at stops
    have steady := held.1.steady
    rcases visit_run calculates plan inPlace (accepts _)
        (directory.of_shape steady.shape steady.healthy.files) (roomy.of_shape steady.shape) there
        held.2.prepared steady.healthy.quiet value stops with
      ⟨_, failure, after, run, prints⟩ | ⟨goes, _⟩
    · refine ⟨failure, after, run, ?_⟩
      rw [List.map_append, List.map_singleton, callOn, content]
      exact (held.2.printed_call prints)
    · exact absurd rfl goes

theorem checkDirectory_run {value : Config.Value} (shaped : Config.checkPath (.text value.plain) = .ok ())
    (directory : DirectoryTree tree (Path.ofString value.plain) top) :
    checkDirectory tree (.text value.plain) = .ok () := by
  have isThere : tree.exists? (Path.ofString value.plain) = .ok true :=
    FileTree.exists_of_stat directory.found
  have isDirectory : tree.isDirectory? (Path.ofString value.plain) = .ok true :=
    FileTree.test_of_stat directory.found
  have plain : (Config.Value.text value.plain).plain = value.plain := rfl
  simp only [checkDirectory, shaped, plain, isThere, isDirectory, asked]
  rfl

theorem visitAll_run (calculates : host.Calculates respond note) (plan : Plan) (inPlace : context.mode = .inPlace)
    (accepts : ∀ path, context.filter.accepts path = true) {artifact : String}
    (directory : DirectoryTree tree (Path.ofString artifact) top)
    (roomy : Roomy tree (Path.ofString artifact) top) (prepared : Prepared context.invoker before)
    (first : Spared tree (Path.ofString artifact) top [] before) :
    ∃ found, Enumerates tree (Path.ofString artifact) top (fun _ => True) found ∧
      ∃ outcome after, visitAll host plan artifact context before = (outcome, after) ∧
        ComesTo plan.failFast respond note (found.map (callOn tree)) before after outcome := by
  obtain ⟨found, enumerates, tours⟩ := exists_tour directory roomy
  refine ⟨found, enumerates, ?_⟩
  have undisturbing : Undisturbing tree (Path.ofString artifact) (visitCandidate host plan context)
      (Steady tree) := undisturbing_visitCandidate calculates.leavesFiles inPlace directory
  have toured := tours undisturbing (.start .inPlace artifact) first.steady
  have none : (Report.start .inPlace artifact).failures = [] := rfl
  rcases visits_run calculates plan inPlace accepts directory roomy enumerates first prepared none with
    ⟨past, candidate, rest, whole, earlier, stops, failure, after, run, printed⟩ |
      ⟨goes, final, visited, run, spared, going⟩
  · obtain ⟨last, ended⟩ := tour_of_error run
    have split : found.map (callOn tree) =
        past.map (callOn tree) ++ callOn tree candidate :: rest.map (callOn tree) := by
      rw [whole, List.map_append, List.map_cons]
    rw [List.map_append, List.map_singleton] at printed
    refine ⟨.error failure, after, ?_, .stopped split (List.forall_mem_map.2 earlier) stops printed⟩
    rw [visitAll, bind_of_ok (toured.trans ended)]
    rfl
  · obtain ⟨outcome, after, closed, printed, succeeds⟩ :=
      closing_run plan context spared.steady.healthy.quiet final
    refine ⟨outcome, after, ?_, .ended (List.forall_mem_map.2 goes) (printed.trans going.printed)
      (succeeds.trans going.failures)⟩
    rw [visitAll, bind_of_ok (toured.trans (tour_of_ok run))]
    exact closed

/-- A run over a directory ends as the calls on its class files decide. -/
theorem comesTo_of_transformDirectory (calculates : host.Calculates respond note)
    (usable : Transformer.Usable host plan.transformer)
    (everything : Pattern.PathFilter.ofSetting plan.filter = .ok .everything) {value : Config.Value}
    (shaped : Config.checkPath (.text value.plain) = .ok ())
    (directory : DirectoryTree before.files (Path.ofString value.plain) top)
    (roomy : Roomy before.files (Path.ofString value.plain) top) (quiet : before.LogsToNoFile)
    {outcome : Outcome Report}
    (run : transformDirectory host plan value [.text value.plain] before = (outcome, after)) :
    ∃ found, Enumerates before.files (Path.ofString value.plain) top (fun _ => True) found ∧
      ComesTo plan.failFast respond note (found.map (callOn before.files)) before after outcome := by
  let entered : Workspace := { before with
    contexts := before.contexts ++ [logContext .inPlace value.plain] }
  have quietEntered : entered.LogsToNoFile := quiet
  have seen : entered.files.isDirectory? (Path.ofString value.plain) = .ok true :=
    FileTree.test_of_stat directory.found
  obtain ⟨named, naming, said⟩ := rootOf_of_isDirectory quietEntered seen
  obtain ⟨context, ready, inPlace, _, filter, interim, prepared, runs⟩ := inRun_run usable .inPlace
    (visitAll host plan value.plain) (openClasspath_single naming) everything said.quiet
  have sameFiles : named.files.TimePasses ready.files := interim.passes
  rw [said.files] at sameFiles
  have spared : Spared before.files (Path.ofString value.plain) top [] ready :=
    .start ⟨sameFiles.sound directory.sound, interim.quiet⟩ ⟨sameFiles.at?, sameFiles.shape.start⟩
  obtain ⟨found, enumerates, ended, last, visited, comes⟩ :=
    visitAll_run calculates plan inPlace (fun _ => by rw [filter]; rfl) directory roomy prepared spared
  refine ⟨found, enumerates, ?_⟩
  rw [visited] at runs
  have entering := Log.inContext_run (logContext .inPlace value.plain) runs
  have checks : Work.ofOutcome (checkDirectory before.files (.text value.plain)) before =
      (.ok (), before) := by
    rw [checkDirectory_run shaped directory]
    rfl
  rw [transformDirectory_eq, Work.files_bind, bind_of_ok checks, entering] at run
  obtain ⟨rfl, rfl⟩ := Prod.mk.inj run
  have printed : ready.printed = named.printed ++ "" := interim.printed
  exact comes.congr (by rw [printed, String.append_empty, said.printed]) rfl

end Run
end ClassLoom
