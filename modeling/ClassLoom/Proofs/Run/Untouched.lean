import ClassLoom.Proofs.Run.Directory
import ClassLoom.Proofs.Run.Touring

namespace ClassLoom
namespace Run

/-!
# What a run over a directory leaves alone

Whether a class is visited is decided by the names that lead to it, joined by dots.  So a file is left
alone if its own name does not have the ending of a class, but for one case: below the root, a file that
is called by the ending without its dot joins with the directory that it is in.

A visit changes the file of its candidate at most, whatever it comes to, and reads nothing else.  So all
other files stay as they are however the run ends, and the transformer is called on nothing but class
files, each with the content that it had when the run began.
-/

open Files (FileTree FileWork Path)
open Rebuild (under)

variable {host : Host} {plan : Plan} {context : Context} {before after : Workspace}
  {tree other : FileTree} {path : Path} {place : Files.Location}

/-! ## Changes of one file -/

/-- A tree in which at most the file at a place is another. -/
structure Amends (place : Files.Location) (before after : FileTree) : Prop where
  shape : before.SameShape after
  elsewhere : ∀ {other : Files.Location}, other ≠ place → after.at? other = before.at? other

instance : Frame (Amends place) where
  refl tree := ⟨.refl tree, fun _ => rfl⟩
  trans _ _ _ first second := ⟨first.shape.trans second.shape,
    fun apart => (second.elsewhere apart).trans (first.elsewhere apart)⟩
  clock _ _ := ⟨⟨fun _ => rfl, rfl⟩, fun _ => rfl⟩

/-- A path that stands for the place of a file. -/
structure Addresses (tree : FileTree) (path : Path) (place : Files.Location) : Prop where
  stands : tree.Stands path place
  exists_file : ∃ file, tree.at? place = some (.file file)
  started : tree.at? tree.start = some .directory

namespace Addresses

theorem of_shape (addresses : Addresses tree path place) (same : tree.SameShape other) :
    Addresses other path place := by
  obtain ⟨file, held⟩ := addresses.exists_file
  refine ⟨addresses.stands.of_shape same, same.exists_file held, ?_⟩
  rw [same.start]
  exact same.at?_of_not_file addresses.started rfl

theorem absolute (addresses : Addresses tree path place) (sound : tree.Sound) :
    Addresses tree (tree.absolute path) place :=
  ⟨addresses.stands.absolute sound addresses.started, addresses.exists_file, addresses.started⟩

end Addresses

/-- What happens between two workspaces changes the file at most for which a path stands. -/
def AmendsAt (path : Path) (place : Files.Location) (before after : Workspace) : Prop :=
  Addresses before.files path place → Follows (Amends place) before after

instance : IsPreorder Workspace (AmendsAt path place) where
  refl workspace _ := refl_of (Follows (Amends place)) workspace
  trans _ _ _ first second addresses healthy := by
    obtain ⟨healthyMiddle, one⟩ := first addresses healthy
    obtain ⟨healthyLast, two⟩ := second (addresses.of_shape one.shape) healthyMiddle
    exact ⟨healthyLast, trans_of (Amends place) one two⟩

theorem keeps_amendsAt {α : Type} {work : Work α} (kept : Keeps (Follows (Amends place)) work) :
    Keeps (AmendsAt path place) work :=
  fun before _ => kept before

theorem keeps_writeFile (content : Bytes) :
    Keeps (AmendsAt path place) (Work.onFiles (FileWork.writeFile path.toString content)) := by
  refine keeps_of_run fun run => ?_
  intro addresses healthy
  obtain ⟨files, writing, rfl⟩ := Work.onFiles_cases run
  rcases FileWork.change_cases writing with ⟨_, done⟩ | ⟨rfl, _⟩
  · have written := addresses.stands.written healthy.files done
    obtain ⟨file, held⟩ := addresses.exists_file
    obtain ⟨_, places⟩ := written.places
    refine ⟨⟨written.sound healthy.files, healthy.quiet⟩, .of_file held places written.start, ?_⟩
    intro elsewhere apart
    rw [places, if_neg apart]
  · exact ⟨healthy, refl_of (Amends place) _⟩

theorem keeps_touch (moment : Option Files.Moment) :
    Keeps (AmendsAt path place) (Work.onFiles (FileWork.touch path.toString moment)) := by
  refine keeps_of_run fun {before after outcome} run => ?_
  intro addresses healthy
  obtain ⟨files, touching, rfl⟩ := Work.onFiles_cases run
  rw [FileWork.touch, get_bind] at touching
  cases timed : before.files.setModified path.toString (moment.getD before.files.clock) with
  | error error =>
      rw [timed] at touching
      cases error with
      | embeddedNul =>
          obtain ⟨_, rfl⟩ := throw_error touching
          exact ⟨healthy, refl_of (Amends place) _⟩
      | system cause =>
          obtain ⟨_, rfl⟩ := pure_ok touching
          exact ⟨healthy, refl_of (Amends place) _⟩
  | ok next =>
      rw [timed] at touching
      obtain rfl : next = files := (Prod.mk.inj touching).2
      unfold FileTree.setModified at timed
      split at timed
      next there file seen =>
        obtain rfl := Except.ok.inj timed
        obtain ⟨rfl, held⟩ := addresses.stands.of_stat healthy.files seen
        have nonempty : there ≠ [] := by
          rintro rfl
          cases held
        refine ⟨⟨healthy.files.put_file held _ _, healthy.quiet⟩,
          .of_file held (FileTree.at?_put nonempty _) rfl, ?_⟩
        intro elsewhere apart
        rw [FileTree.at?_put nonempty, if_neg apart]
      next =>
        obtain rfl := Except.ok.inj timed
        exact ⟨healthy, refl_of (Amends place) _⟩
      next => cases timed

/-- Writing back in place changes the file that is written back to. -/
theorem keeps_writeBack_inPlace (logger : String) {target : Target} (same : target.writePath = path) :
    Keeps (AmendsAt path place) (writeBack .inPlace logger target) := by
  subst same
  refine keeps_of_run fun {before after outcome} run => ?_
  intro addresses healthy
  rw [writeBack, Work.files_bind] at run
  cases idle : target.isNoop with
  | true =>
      rw [idle] at run
      have waits : Keeps (Follows (Amends place)) (do
          Log.debug logger
            ("No changes for " ++ target.className ++ ", leaving " ++ target.writePath.toString)
          return false : Work Bool) := (Log.keeps_debug _ _).bind fun _ => keeps_pure _
      exact waits.run run healthy
  | false =>
      rw [idle] at run
      have absolute := addresses.absolute healthy.files
      generalize before.files.absolute target.writePath = written at absolute run
      have writes : Keeps (AmendsAt written place) (do
          Log.info logger ("writing transformation changes [" ++ written.toString ++ "]")
          Work.onFiles (FileWork.writeFile written.toString (target.transformed.getD []))
          if !(← Work.onFiles (FileWork.touch written.toString none)) then
            Log.info logger
              ("Unable to manually update class file timestamp [" ++ written.toString ++ "]")
          return true : Work Bool) := by
        refine (keeps_amendsAt (Log.keeps_info _ _)).bind fun _ => ?_
        refine (keeps_writeFile _).bind fun _ => (keeps_touch none).bind fun done => ?_
        cases done with
        | true => exact keeps_pure _
        | false => exact (keeps_amendsAt (Log.keeps_info _ _)).bind fun _ => keeps_pure _
      exact writes.run run absolute healthy

theorem keeps_load {related : FileTree → FileTree → Prop} [IsPreorder FileTree related] (raw : String) :
    Keeps (Follows related) (Work.onFiles (FileWork.load raw)) := by
  refine Work.keeps_onFiles (keeps_of_run fun {before after outcome} run => ?_)
  intro sound
  rw [FileWork.load, get_bind] at run
  obtain ⟨rfl, _⟩ := FileWork.answer_cases run
  exact ⟨sound, refl_of related _⟩

/-- Whatever the processing of a class in place comes to, it changes the file of the class at most. -/
theorem keeps_process_inPlace (leaves : host.LeavesFiles) (inPlace : context.mode = .inPlace)
    (report : Report) (candidate : Candidate) :
    Keeps (AmendsAt candidate.filePath place) (process host plan context report candidate) := by
  refine keeps_of_run fun {before after outcome} run => ?_
  intro addresses healthy
  unfold process at run
  rw [inPlace] at run
  rcases bind_cases run with ⟨_, refused, _⟩ | ⟨target, loaded, resolved, further⟩
  · have reads : Keeps (Follows (Amends place))
        (Resolver.resolve ⟨.inPlace, some context.classpath⟩ candidate) :=
      (keeps_load _).bind fun _ => keeps_pure _
    exact reads.run refused healthy
  obtain ⟨file, held⟩ := addresses.exists_file
  obtain ⟨rfl, rfl⟩ := resolve_inPlace addresses.stands healthy.files held resolved
  have calls : Keeps (AmendsAt candidate.filePath place) (Work.attempt
      (Transformer.Invoker.invoke host context.invoker candidate.className file.content)) :=
    Work.keeps_attempt (keeps_amendsAt (Transformer.Invoker.keeps_invoke leaves _ _ _))
  refine (calls.bind fun result => ?_).run further addresses healthy
  cases result with
  | error failure =>
      simp only
      split
      · exact keeps_throw _
      · exact (keeps_amendsAt (Log.keeps_exception _ _ _ _ _ _)).bind fun _ => keeps_pure _
  | ok answer =>
      refine Work.keeps_ofOutcome_bind fun target applied => ?_
      obtain rfl := apply_ok applied
      refine Keeps.bind ?_ fun changed => ?_
      · exact keeps_writeBack_inPlace plan.logger rfl
      · cases changed with
        | true => exact keeps_pure _
        | false => exact keeps_pure _

theorem keeps_visitCandidate (leaves : host.LeavesFiles) (inPlace : context.mode = .inPlace)
    (report : Report) (candidate : Candidate) :
    Keeps (AmendsAt candidate.filePath place) (visitCandidate host plan context report candidate) := by
  unfold visitCandidate
  split
  · exact (keeps_process_inPlace leaves inPlace report candidate).bind fun _ => keeps_pure _
  · exact keeps_pure _

/-! ## Visits to class files -/

section Visits

variable {root : Path} {top : Files.Location} {names : List String} {file : Files.File}
  {candidate : Candidate} {visited : List Candidate}

theorem Steady.addresses (directory : DirectoryTree tree root top) (steady : Steady tree before)
    (classFile : IsClassFile tree root top names file candidate) :
    Addresses before.files candidate.filePath (top ++ names) := by
  have stands := (directory.stands (directory.named classFile.held)).of_shape steady.shape
  rw [← classFile.filePath] at stands
  refine ⟨stands, steady.shape.exists_file classFile.held, ?_⟩
  rw [steady.shape.start]
  exact steady.shape.at?_of_not_file directory.started rfl

/-- A visit to a class file changes that file at most. -/
theorem Steady.visit (plan : Plan) (leaves : host.LeavesFiles) (inPlace : context.mode = .inPlace)
    (directory : DirectoryTree tree root top) (steady : Steady tree before)
    (classFile : IsClassFile tree root top names file candidate) (report : Report) :
    let after := (visitCandidate host plan context report candidate before).2
    Steady tree after ∧ Amends (top ++ names) before.files after.files := by
  have visits : Keeps (AmendsAt candidate.filePath (top ++ names))
      (visitCandidate host plan context report candidate) :=
    keeps_visitCandidate leaves inPlace report candidate
  obtain ⟨healthy, amends⟩ := visits before (steady.addresses directory classFile) steady.healthy
  exact ⟨⟨steady.shape.trans amends.shape, healthy⟩, amends⟩

theorem undisturbing_visitCandidate (leaves : host.LeavesFiles) (inPlace : context.mode = .inPlace)
    (directory : DirectoryTree tree root top) :
    Undisturbing tree root (visitCandidate host plan context) (Steady tree) := by
  refine ⟨fun steady => steady.healthy.files, fun steady => steady.shape, ?_⟩
  intro names candidate report before meets steady
  obtain ⟨file, classFile⟩ := directory.isClassFile_of_meets meets
  exact (steady.visit plan leaves inPlace directory classFile report).1

/-- What happens between two workspaces is nothing to the files of a tree that are no class files. -/
def Spares (tree : FileTree) (root : Path) (top : Files.Location) (before after : Workspace) : Prop :=
  Steady tree before → Steady tree after ∧
    ∀ place, (∀ names file candidate, IsClassFile tree root top names file candidate →
      place ≠ top ++ names) → after.files.at? place = before.files.at? place

theorem spares_of_follows (follows : Follows FileTree.Alike before after) :
    Spares tree root top before after := by
  intro steady
  obtain ⟨healthy, alike⟩ := follows steady.healthy
  exact ⟨⟨steady.shape.trans alike.shape, healthy⟩, fun place _ => alike.places place⟩

instance : Bookkeeping (Spares tree root top) where
  refl workspace := spares_of_follows (refl_of (Follows FileTree.Alike) workspace)
  trans _ _ _ first second steady := by
    obtain ⟨steadyMiddle, one⟩ := first steady
    obtain ⟨steadyLast, two⟩ := second steadyMiddle
    exact ⟨steadyLast, fun place apart => (two place apart).trans (one place apart)⟩
  same files loggers printed := spares_of_follows (Bookkeeping.same files loggers printed)
  logged name level message context error before :=
    spares_of_follows (Logging.logged name level message context error before)

theorem keeps_visitClasses (leaves : host.LeavesFiles) (inPlace : context.mode = .inPlace)
    (directory : DirectoryTree tree root top) (report : Report) :
    Keeps (Spares tree root top) (visitClasses (visitCandidate host plan context) root report) := by
  intro before steady
  obtain ⟨found, ending, lists, tours⟩ := tours_visitClasses directory.sound directory.found
  rw [tours (undisturbing_visitCandidate leaves inPlace directory) report steady]
  refine tour_holds (fun state => Steady tree state ∧ ∀ place, (∀ names file candidate,
      IsClassFile tree root top names file candidate → place ≠ top ++ names) →
    state.files.at? place = before.files.at? place)
    (fun candidate member result state held => ?_) ⟨steady, fun _ _ => rfl⟩
  obtain ⟨steadyState, same⟩ := held
  obtain ⟨names, _, meets⟩ := lists.meets candidate member
  obtain ⟨file, classFile⟩ := directory.isClassFile_of_meets meets
  obtain ⟨steadyNext, amends⟩ :=
    steadyState.visit plan leaves inPlace directory classFile result
  exact ⟨steadyNext, fun place apart =>
    (amends.elsewhere (apart names file candidate classFile)).trans (same place apart)⟩

/-- What a run over a directory does when its transformer is ready. -/
def visitAll (host : Host) (plan : Plan) (artifact : String) (context : Context) : Work Report := do
  let (report, failure) ←
    visitClasses (visitCandidate host plan context) (Path.ofString artifact) (.start .inPlace artifact)
  match failure with
  | some failure => throw failure
  | none => pure ()
  logStatistics plan context
  Work.ofOutcome report.check
  logReport plan report
  return report

theorem transformDirectory_eq (host : Host) (plan : Plan) (value : Config.Value)
    (elements : List Config.Value) :
    transformDirectory host plan value elements = (do
      Work.ofOutcome (checkDirectory (← Work.files) (.text value.plain))
      Log.inContext (logContext .inPlace value.plain)
        (inRun host plan .inPlace elements (visitAll host plan value.plain))) := rfl

/-- However a run over a directory ends, files that are no class files are as they were. -/
theorem keeps_transformDirectory (leaves : host.LeavesFiles) {value : Config.Value}
    (directory : DirectoryTree tree (Path.ofString value.plain) top) (elements : List Config.Value) :
    Keeps (Spares tree (Path.ofString value.plain) top)
      (transformDirectory host plan value elements) := by
  refine Work.keeps_files.bind fun _ => (Work.keeps_ofOutcome _).bind fun _ => ?_
  refine Log.keeps_inContext _ (keeps_inRun_of
    (fun procedure workspace => spares_of_follows (Transformer.keeps_construct leaves procedure workspace))
    .inPlace elements fun context inPlace => ?_)
  refine (keeps_visitClasses leaves inPlace directory _).bind fun progress => ?_
  rcases progress with ⟨report, failure⟩
  have ends : Keeps (Spares tree (Path.ofString value.plain) top) (do
      logStatistics plan context
      Work.ofOutcome report.check
      logReport plan report
      return report : Work Report) :=
    ((Work.keeps_invoker _).bind fun _ => Log.keeps_debug _ _).bind fun _ =>
      (Work.keeps_ofOutcome _).bind fun _ => (Log.keeps_info _ _).bind fun _ => keeps_pure _
  cases failure with
  | some failure => exact (keeps_throw failure).bind fun _ => ends
  | none => exact ends

end Visits

/-! ## Calls -/

/-- Two hosts that make the same of some calls. -/
structure Agree (calls : String → Bytes → Prop) (host twin : Host) : Prop where
  construct : twin.construct = host.construct
  transform : ∀ (ready : Transformer.Ready) (loader : Option Nat) {className : String} {content : Bytes},
    calls className content →
    twin.transform ready loader className content = host.transform ready loader className content

namespace Agree

variable {calls : String → Bytes → Prop} {twin : Host}

theorem prepare (agree : Agree calls host twin) (number : Nat) :
    Transformer.Invoker.prepare twin number = Transformer.Invoker.prepare host number := by
  have instantiate : Transformer.instantiate twin = Transformer.instantiate host := by
    unfold Transformer.instantiate
    rw [agree.construct]
  have resolve : Transformer.resolve twin = Transformer.resolve host := by
    unfold Transformer.resolve
    rw [instantiate]
  rw [Transformer.Invoker.prepare, Transformer.Invoker.prepare, resolve]

theorem invoke (agree : Agree calls host twin) (number : Nat) {className : String} {content : Bytes}
    (call : calls className content) :
    Transformer.Invoker.invoke twin number className content =
      Transformer.Invoker.invoke host number className content := by
  rw [Transformer.Invoker.invoke, Transformer.Invoker.invoke, agree.prepare]
  simp only [agree.transform _ _ call]

end Agree

/-! ## Class files are handed over as they were -/

section Calls

variable {twin : Host} {calls : String → Bytes → Prop} {root : Path} {top : Files.Location}
  {names : List String} {file : Files.File} {candidate : Candidate} {visited : List Candidate}

/-- The files of a tree after visits to some candidates: those of others are as they were. -/
structure Spared (tree : FileTree) (root : Path) (top : Files.Location) (visited : List Candidate)
    (workspace : Workspace) : Prop where
  steady : Steady tree workspace
  kept : ∀ {place : Files.Location}, (∀ names file, ∀ candidate ∈ visited,
      IsClassFile tree root top names file candidate → place ≠ top ++ names) →
    workspace.files.at? place = tree.at? place

namespace Spared

theorem start (healthy : before.Healthy) (alike : tree.Alike before.files) :
    Spared tree root top [] before :=
  ⟨⟨alike.shape, healthy⟩, fun _ => alike.places _⟩

theorem visit (leaves : host.LeavesFiles) (inPlace : context.mode = .inPlace)
    (directory : DirectoryTree tree root top) (spared : Spared tree root top visited before)
    (classFile : IsClassFile tree root top names file candidate) (report : Report) :
    Spared tree root top (visited ++ [candidate])
      (visitCandidate host plan context report candidate before).2 := by
  obtain ⟨steady, amends⟩ :=
    spared.steady.visit plan leaves inPlace directory classFile report
  refine ⟨steady, fun apart => ?_⟩
  rw [amends.elsewhere (apart names file candidate (List.mem_append_right _ List.mem_cons_self) classFile)]
  exact spared.kept fun others twin other member =>
    apart others twin other (List.mem_append_left _ member)

/-- A class that has not been visited has the content that it had. -/
theorem held (spared : Spared tree root top visited before) (fresh : candidate ∉ visited)
    (classFile : IsClassFile tree root top names file candidate) :
    before.files.at? (top ++ names) = some (.file file) := by
  rw [spared.kept, classFile.held]
  intro others twin other member otherFile same
  obtain rfl := List.append_cancel_left same
  obtain rfl := classFile.candidate_unique otherFile
  exact fresh member

end Spared

/-- A class that has the content that it had is a call for that content. -/
theorem visitCandidate_congr (agree : Agree calls host twin) (inPlace : context.mode = .inPlace)
    (directory : DirectoryTree tree root top) (steady : Steady tree before)
    (classFile : IsClassFile tree root top names file candidate)
    (held : before.files.at? (top ++ names) = some (.file file))
    (call : calls candidate.className file.content) (report : Report) :
    visitCandidate twin plan context report candidate before =
      visitCandidate host plan context report candidate before := by
  have addresses := steady.addresses directory classFile
  have processed : process twin plan context report candidate before =
      process host plan context report candidate before := by
    unfold process
    rw [inPlace, run_bind, run_bind]
    rcases resolved : Resolver.resolve ⟨.inPlace, some context.classpath⟩ candidate before with
      ⟨outcome, middle⟩
    cases outcome with
    | error failure => rfl
    | ok target =>
        obtain ⟨rfl, rfl⟩ := resolve_inPlace addresses.stands steady.healthy.files held resolved
        simp only [Target.new, agree.invoke _ call]
  unfold visitCandidate
  split
  · rw [run_bind, run_bind, processed]
  · rfl

theorem visitClasses_congr (leaves : host.LeavesFiles) (twinLeaves : twin.LeavesFiles)
    (agree : Agree calls host twin) (inPlace : context.mode = .inPlace)
    (directory : DirectoryTree tree root top)
    (complete : ∀ {names file candidate}, IsClassFile tree root top names file candidate →
      calls candidate.className file.content)
    (spared : Spared tree root top [] before) (report : Report) :
    visitClasses (visitCandidate twin plan context) root report before =
      visitClasses (visitCandidate host plan context) root report before := by
  obtain ⟨found, ending, lists, tours⟩ := tours_visitClasses directory.sound directory.found
  rw [tours (undisturbing_visitCandidate leaves inPlace directory) report spared.steady,
    tours (undisturbing_visitCandidate twinLeaves inPlace directory) report spared.steady]
  have classFile : ∀ {past rest candidate}, found = past ++ candidate :: rest →
      ∃ names file, IsClassFile tree root top names file candidate := by
    intro past rest candidate whole
    obtain ⟨names, _, meets⟩ := lists.meets candidate (by simp [whole])
    exact ⟨names, directory.isClassFile_of_meets meets⟩
  refine tour_congr (Spared tree root top) ?_ ?_ spared
  · intro past rest candidate result state whole held
    obtain ⟨names, file, isFile⟩ := classFile whole
    exact held.visit leaves inPlace directory isFile result
  · intro past rest candidate result state whole held
    obtain ⟨names, file, isFile⟩ := classFile whole
    have fresh : candidate ∉ past := by
      have once := lists.once
      rw [whole, List.map_append, List.map_cons, List.nodup_append] at once
      exact fun member =>
        once.2.2 _ (List.mem_map_of_mem member) candidate.filePath List.mem_cons_self rfl
    exact visitCandidate_congr agree inPlace directory held.steady isFile (held.held fresh isFile)
      (complete isFile) result

theorem inRun_congr {α : Type} (agree : Agree calls host twin) {mode : Mode}
    {elements : List Config.Value} {work other : Context → Work α}
    (same : ∀ {context : Context} {opened ready : Workspace} {made : Transformer.Ready},
      context.mode = mode → openClasspath elements before = (.ok context.classpath, opened) →
      Transformer.Invoker.prepare host context.invoker { opened with
          invokers := opened.invokers ++ [.new plan.transformer (some context.classpath)] } =
        (.ok made, ready) → other context ready = work context ready) :
    inRun twin plan mode elements other before = inRun host plan mode elements work before := by
  unfold inRun
  rw [run_bind, run_bind]
  rcases opening : openClasspath elements before with ⟨outcome, opened⟩
  cases outcome with
  | error failure => rfl
  | ok classpath =>
      have course : ∀ number, (Transformer.Invoker.prepare twin opened.invokers.length >>= fun _ =>
            other ⟨mode, classpath, number, opened.invokers.length⟩) { opened with
              invokers := opened.invokers ++ [.new plan.transformer (some classpath)] } =
          (Transformer.Invoker.prepare host opened.invokers.length >>= fun _ =>
            work ⟨mode, classpath, number, opened.invokers.length⟩) { opened with
              invokers := opened.invokers ++ [.new plan.transformer (some classpath)] } := by
        intro filter
        rw [agree.prepare, run_bind, run_bind]
        rcases preparing : Transformer.Invoker.prepare host opened.invokers.length { opened with
            invokers := opened.invokers ++ [.new plan.transformer (some classpath)] } with ⟨made, ready⟩
        cases made with
        | error failure => rfl
        | ok made => exact same rfl opening preparing
      refine Work.ensuring_congr ?_
      rw [run_bind, run_bind]
      cases Pattern.PathFilter.ofSetting plan.filter with
      | error failure => rfl
      | ok filter => exact course filter

theorem transformDirectory_congr (leaves : host.LeavesFiles) (twinLeaves : twin.LeavesFiles)
    (agree : Agree calls host twin) {value : Config.Value}
    (directory : DirectoryTree before.files (Path.ofString value.plain) top)
    (quiet : before.LogsToNoFile)
    (complete : ∀ {names file candidate},
      IsClassFile before.files (Path.ofString value.plain) top names file candidate →
      calls candidate.className file.content) (elements : List Config.Value) :
    transformDirectory twin plan value elements before =
      transformDirectory host plan value elements before := by
  unfold transformDirectory
  rw [Work.files_bind, Work.files_bind, run_bind, run_bind]
  cases checkDirectory before.files (.text value.plain) with
  | error failure => rfl
  | ok checked =>
      refine Log.inContext_congr (inRun_congr agree ?_)
      intro context opened ready made inPlace opening preparing
      have entered : Follows FileTree.Alike before { before with
          contexts := before.contexts ++ [logContext .inPlace value.plain] } :=
        Bookkeeping.same rfl rfl rfl
      have added : Follows FileTree.Alike opened { opened with
          invokers := opened.invokers ++ [.new plan.transformer (some context.classpath)] } :=
        Bookkeeping.same rfl rfl rfl
      have opens := trans_of (Follows FileTree.Alike) entered
        ((keeps_openClasspath elements).run opening)
      have prepares := trans_of (Follows FileTree.Alike) added
        ((Transformer.Invoker.keeps_prepare (Transformer.keeps_construct leaves) _).run preparing)
      obtain ⟨healthy, alike⟩ :=
        trans_of (Follows FileTree.Alike) opens prepares ⟨directory.sound, quiet⟩
      rw [run_bind, run_bind, visitClasses_congr leaves twinLeaves agree inPlace directory complete
        (.start healthy alike)]

end Calls

/-! ## Names of class files -/

/-- The name of a class file has the ending of a class, or it is that ending without its dot, in a
directory below the root. -/
theorem ending_of_called {path : Path} {front : List String} {name : String} {candidate : Candidate}
    (called : Candidate.of? path (front ++ [name]) = some candidate) :
    classSuffix <:+ name.toList ∨ name = "class" ∧ front ≠ [] := by
  unfold Candidate.of? at called
  simp only at called
  split at called
  case isFalse => cases called
  next ending =>
    have ending : classSuffix <:+ (Text.joined "." (front ++ [name])).toList :=
      List.isSuffixOf_iff_suffix.1 ending
    by_cases alone : front = []
    · subst alone
      left
      simpa [Text.joined] using ending
    have joined : (Text.joined "." (front ++ [name])).toList =
        (Text.joined "." front).toList ++ '.' :: name.toList := by
      rw [Text.joined, String.intercalate_append_of_ne_nil alone (List.cons_ne_nil _ _)]
      simp [Text.joined]
    rw [joined] at ending
    have own : name.toList <:+ (Text.joined "." front).toList ++ '.' :: name.toList :=
      ⟨(Text.joined "." front).toList ++ ['.'], by simp⟩
    have dotted : '.' :: name.toList <:+ (Text.joined "." front).toList ++ '.' :: name.toList :=
      List.suffix_append _ _
    by_cases long : classSuffix.length ≤ name.toList.length
    · exact .inl (List.suffix_of_suffix_length_le ending own long)
    · -- The dot before the name is within the ending, which begins with its only dot.
      right
      have within : '.' :: name.toList <:+ classSuffix :=
        List.suffix_of_suffix_length_le dotted ending (by rw [List.length_cons]; omega)
      obtain ⟨rest, whole⟩ := within
      refine ⟨?_, alone⟩
      cases rest with
      | nil =>
          have letters : name.toList = "class".toList := (List.cons.inj whole).2
          exact String.toList_inj.1 letters
      | cons first rest =>
          have member : '.' ∈ "class".toList := by
            have tail : rest ++ '.' :: name.toList = "class".toList := (List.cons.inj whole).2
            rw [← tail]
            exact List.mem_append_right _ List.mem_cons_self
          exact absurd member (by decide)

/-! ## The whole run -/

section Run

variable {value : Config.Value} {elements : List Config.Value} {top above : Files.Location}
  {name : String} {file : Files.File} {outcome : Outcome Report}

/-- A call for a class file that is not at a place, with the content that it has in a tree. -/
def IsCallElsewhere (tree : FileTree) (root : Path) (top place : Files.Location) (className : String)
    (content : Bytes) : Prop :=
  ∃ names file candidate, IsClassFile tree root top names file candidate ∧ place ≠ top ++ names ∧
    className = candidate.className ∧ content = file.content

end Run

/-! ### Two files that are changed -/

/-- A directory with a file that is called by the ending of a class without its dot, two directories
down, and another file. -/
def dottedTree : FileTree :=
  let top : FileTree := ⟨[], [], 0, [], 1000000000000000000⟩
  let directories := (top.put ["w"] .directory).put ["w", "A"] .directory
  let withFile := fun (tree : FileTree) (place : Files.Location) (content : Bytes) =>
    { tree.put place (.file ⟨tree.nextId, content, tree.clock⟩) with nextId := tree.nextId + 1 }
  withFile (withFile directories ["w", "A", "class"] [1]) ["w", "n.txt"] [2]

theorem sound_dottedTree : dottedTree.Sound := by
  have top : ((⟨[], [], 0, [], 1000000000000000000⟩ : FileTree).put ([] ++ ["w"]) .directory).Sound :=
    (FileTree.Sound.bare _).put_directory rfl (by decide)
  have below := @FileTree.Sound.put_directory _ ["w"] "A" top (by decide) (by decide)
  have first := @FileTree.Sound.put_newFile _ ["w", "A"] "class" below (by decide) (by decide)
    (by decide) [1] 1000000000000000000
  exact @FileTree.Sound.put_newFile _ ["w"] "n.txt" first (by decide) (by decide)
    (by decide) [2] 1000000000000000000

theorem directoryTree_dottedTree : DirectoryTree dottedTree (Path.ofString "w") ["w"] := by
  refine ⟨sound_dottedTree, rfl, Path.ofString_proper "w", by decide +kernel, ?_⟩
  intro place target _
  exact sound_dottedTree.unlinked (by decide) place target

theorem markingHost_leavesFiles : markingHost.LeavesFiles :=
  ⟨fun _ _ _ _ workspace => ⟨⟨workspace.files.clock, rfl⟩, fun quiet => quiet⟩,
    fun _ workspace => ⟨⟨workspace.files.clock, rfl⟩, fun quiet => quiet⟩⟩

/-- The marking transformer, but that it fails on the content of the other file. -/
def pickyHost : Host :=
  ⟨fun ready loader className content workspace =>
    if content = [2] then (.error (.fault (.wrongValue className)), workspace)
    else markingHost.transform ready loader className content workspace,
    markingHost.construct⟩

theorem pickyHost_leavesFiles : pickyHost.LeavesFiles := by
  refine ⟨fun ready loader className content workspace => ?_, markingHost_leavesFiles.construct⟩
  by_cases other : content = [2]
  · simp only [pickyHost, if_pos other]
    exact ⟨⟨workspace.files.clock, rfl⟩, fun quiet => quiet⟩
  · simp only [pickyHost, if_neg other]
    exact markingHost_leavesFiles.transform ready loader className content workspace

/-- A workspace that logs to a file, which is one of those in the directory. -/
def loggingWorkspace : Workspace :=
  { (default : Workspace) with
    files := dottedTree
    loggers := [⟨"classweaver", .debug, [.file ⟨"w/n.txt", 1, 0, 0⟩]⟩] }

end Run
end ClassLoom
