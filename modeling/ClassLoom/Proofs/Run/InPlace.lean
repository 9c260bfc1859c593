import ClassLoom.Proofs.Answering
import ClassLoom.Proofs.Calling
import ClassLoom.Proofs.Run.Enumerating
import ClassLoom.Proofs.Run.Staging
import ClassLoom.Run.Directory

namespace ClassLoom
namespace Run

/-!
# Visiting a class where it is

In place, a class is read from its file, handed to the transformer, and written back to that file.
The path is relative for the reading and written from the top for the writing, and stands for the same
place both times.  So a visit changes the content and the time of one file at most, and nothing that a
look-up goes by: the walk that visits classes is not disturbed by its visits.
-/

open Files (FileTree FileWork Path)

variable {host : Host} {plan : Plan} {context : Context} {before after : Workspace}
  {respond : String → Bytes → Outcome Config.Value} {note : String → Bytes → String}

/-! ## Writing back -/

/-- A tree with a file of some content at a place where a file was, written between then and now. -/
structure Overwritten (before after : FileTree) (place : Files.Location) (content : Bytes) : Prop where
  places : ∃ file : Files.File, file.content = content ∧ before.clock ≤ file.modified ∧
    file.modified ≤ after.clock ∧
    ∀ other, after.at? other = if other = place then some (.file file) else before.at? other
  start : after.start = before.start
  clock : before.clock ≤ after.clock
  sound : before.Sound → after.Sound

theorem overwritten_of_written {first middle last final : FileTree} {place : Files.Location}
    {content : Bytes} (waits : first.TimePasses middle)
    (written : FileTree.Written middle last place content) (waitsAgain : last.TimePasses final) :
    Overwritten first final place content := by
  obtain ⟨moment, later, rfl⟩ := waits
  obtain ⟨latest, much, rfl⟩ := waitsAgain
  obtain ⟨id, places⟩ := written.places
  have clock := written.clock
  have much : moment ≤ latest := le_of_eq_of_le clock.symm much
  exact ⟨⟨⟨id, content, moment⟩, rfl, later, much, places⟩, written.start, later.trans much,
    fun sound => (written.sound (sound.clock moment)).clock latest⟩

theorem Overwritten.at?_of_ne {tree other : FileTree} {place elsewhere : Files.Location}
    {content : Bytes} (overwritten : Overwritten tree other place content) (apart : elsewhere ≠ place) :
    other.at? elsewhere = tree.at? elsewhere := by
  obtain ⟨_, _, _, _, places⟩ := overwritten.places
  rw [places, if_neg apart]

theorem Overwritten.after_wait {tree middle other : FileTree} {place : Files.Location}
    {content : Bytes} (overwritten : Overwritten middle other place content)
    (waits : tree.TimePasses middle) : Overwritten tree other place content := by
  obtain ⟨moment, later, rfl⟩ := waits
  obtain ⟨file, same, earliest, latest, places⟩ := overwritten.places
  exact ⟨⟨file, same, later.trans earliest, latest, places⟩, overwritten.start,
    later.trans overwritten.clock, fun sound => overwritten.sound (sound.clock moment)⟩

theorem Overwritten.shape {tree other : FileTree} {place : Files.Location} {content : Bytes}
    {file : Files.File} (overwritten : Overwritten tree other place content)
    (held : tree.at? place = some (.file file)) : FileTree.SameShape tree other := by
  obtain ⟨_, _, _, _, places⟩ := overwritten.places
  exact .of_file held places overwritten.start

/-- A file that has just been written stays as it is when it is touched. -/
theorem written_of_touch {path : Path} {place : Files.Location} {content : Bytes} {done : Bool}
    {tree middle last : FileTree} (written : FileTree.Written tree middle place content)
    (stands : FileTree.Stands middle path place) (sound : middle.Sound)
    (run : FileWork.touch path.toString none middle = (.ok done, last)) :
    FileTree.Written tree last place content := by
  rw [FileWork.touch, get_bind, Option.getD_none] at run
  unfold FileTree.setModified at run
  cases seen : middle.stat true path.toString with
  | error error =>
      rw [seen] at run
      cases error with
      | embeddedNul => cases (throw_error run).1
      | system cause =>
          obtain ⟨_, rfl⟩ := pure_ok run
          exact written
  | ok found =>
      rcases found with ⟨there, entry⟩
      rw [seen] at run
      obtain ⟨rfl, held⟩ := stands.of_stat sound seen
      cases entry with
      | directory =>
          obtain ⟨_, rfl⟩ := Prod.mk.inj run
          exact written
      | link target =>
          obtain ⟨_, rfl⟩ := Prod.mk.inj run
          exact written
      | file file =>
          obtain ⟨_, rfl⟩ := Prod.mk.inj run
          obtain ⟨id, places⟩ := written.places
          have same : file = ⟨id, content, tree.clock⟩ := by
            rw [places, if_pos rfl] at held
            cases held
            rfl
          have nonempty : there ≠ [] := by
            rintro rfl
            cases held
          refine ⟨⟨id, fun other => ?_⟩, written.bare, written.start, written.clock, written.removed,
            fun _ => sound.put_file held file.content middle.clock⟩
          rw [FileTree.at?_put nonempty, places, same, written.clock]
          split
          · rfl
          · rfl

/-- In place, a class is written to the place for which its path stands, or there is nothing to
write. -/
theorem overwritten_of_writeBack {target : Target} {place : Files.Location} {file : Files.File} {logger : String}
    {changed : Bool} (held : before.files.at? place = some (.file file))
    (stands : FileTree.Stands before.files target.writePath place) (sound : before.files.Sound)
    (started : before.files.at? before.files.start = some .directory) (quiet : before.LogsToNoFile)
    (run : writeBack .inPlace logger target before = (.ok changed, after)) :
    after.LogsToNoFile ∧ after.printed = before.printed ∧
      (substance target.transformed = none ∧ before.files.TimePasses after.files ∨
        substance target.transformed ≠ none ∧
          Overwritten before.files after.files place (target.transformed.getD [])) := by
  rw [writeBack, Work.files_bind] at run
  have absolute := stands.absolute sound started
  cases idle : target.isNoop with
  | true =>
      rw [idle] at run
      have waits : Prints "" before after :=
        ((Log.keeps_debug _ _).bind fun _ => keeps_pure _).run run
      obtain ⟨quietAfter, printed, passes⟩ := waits quiet
      rw [String.append_empty] at printed
      exact ⟨quietAfter, printed, .inl ⟨Option.isNone_iff_eq_none.1 idle, passes⟩⟩
  | false =>
      rw [idle] at run
      obtain ⟨_, told, telling, run⟩ := bind_ok run
      obtain ⟨_, wrote, writing, run⟩ := bind_ok run
      obtain ⟨done, touched, touching, run⟩ := bind_ok run
      have waits : Prints "" before told := (Log.keeps_info _ _).run telling
      obtain ⟨quietTold, printedTold, passesTold⟩ := waits quiet
      obtain ⟨files, written, rfl⟩ := Work.onFiles_cases writing
      obtain ⟨_, written⟩ | ⟨_, error, _, failed⟩ := FileWork.change_cases written
      case inr => cases failed
      obtain ⟨filesTouched, touched, rfl⟩ := Work.onFiles_cases touching
      have soundTold := passesTold.sound sound
      have absoluteTold := absolute.of_shape passesTold.shape
      have written := absoluteTold.written soundTold written
      have heldTold := (passesTold.at? place).trans held
      obtain ⟨_, places⟩ := written.places
      have touched := written_of_touch written
        (absoluteTold.of_shape (.of_file heldTold places written.start)) (written.sound soundTold) touched
      have waits : Prints "" { told with files := filesTouched } after := by
        refine Keeps.run ?_ run
        split
        · exact (Log.keeps_info _ _).bind fun _ => keeps_pure _
        · exact keeps_pure _
      obtain ⟨quietAfter, printed, passes⟩ := waits quietTold
      rw [String.append_empty] at printed printedTold
      refine ⟨quietAfter, printed.trans printedTold, .inr ⟨?_, overwritten_of_written passesTold touched passes⟩⟩
      intro none
      rw [Target.isNoop, none] at idle
      cases idle

/-! ## One class -/

theorem load_ok {raw : String} {content : Bytes} {tree last : FileTree}
    (run : FileWork.load raw tree = (.ok content, last)) :
    last = tree ∧ ∃ place file, tree.stat true raw = .ok (place, .file file) ∧ file.content = content := by
  rw [FileWork.load, get_bind] at run
  obtain ⟨rfl, ⟨plain, answered, same⟩ | ⟨_, _, failed⟩⟩ := FileWork.answer_cases run
  case inr => cases failed
  obtain rfl := Except.ok.inj same
  refine ⟨rfl, ?_⟩
  unfold FileTree.read FileTree.openFile at answered
  split at answered
  next place file seen => exact ⟨place, file, seen, Except.ok.inj answered⟩
  next => cases answered
  next => cases answered

/-- In place, a class is resolved to the content of its file. -/
theorem resolve_inPlace {classpath : Option Nat} {candidate : Candidate} {target : Target}
    {place : Files.Location} {file : Files.File}
    (stands : FileTree.Stands before.files candidate.filePath place) (sound : before.files.Sound)
    (held : before.files.at? place = some (.file file))
    (run : Resolver.resolve ⟨.inPlace, classpath⟩ candidate before = (.ok target, after)) :
    after = before ∧ target =
      .new candidate.className ⟨candidate.filePath.toString, none⟩ candidate.filePath file.content := by
  obtain ⟨content, middle, loading, made⟩ := bind_ok run
  obtain ⟨same, rfl⟩ := pure_ok made
  obtain rfl := Except.ok.inj same
  obtain ⟨files, loaded, rfl⟩ := Work.onFiles_cases loading
  obtain ⟨rfl, there, found, seen, rfl⟩ := load_ok loaded
  obtain ⟨rfl, again⟩ := stands.of_stat sound seen
  rw [held] at again
  cases again
  exact ⟨rfl, rfl⟩

/-- What the processing of a class comes to, if the run goes on: its transformation has failed, or it
is left alone, or it is written back. -/
inductive Handled (respond : String → Bytes → Outcome Config.Value) (note : String → Bytes → String)
    (className : String) (place : Files.Location) (file : Files.File) (report next : Report)
    (before after : Workspace) : Prop
  | failed {text : String} : next.failures ≠ [] → Prints text before after →
      Handled respond note className place file report next before after
  | unchanged : next.failures = report.failures →
      (∀ out, out ≠ [] → respond className file.content ≠ .ok (.octets out)) →
      Prints (note className file.content) before after →
      Handled respond note className place file report next before after
  | changed {out : Bytes} : next.failures = report.failures →
      respond className file.content = .ok (.octets out) → out ≠ [] → after.LogsToNoFile →
      after.printed = before.printed ++ note className file.content →
      Overwritten before.files after.files place out →
      Handled respond note className place file report next before after

theorem handled_of_process (computes : host.Computes respond note) (inPlace : context.mode = .inPlace)
    {candidate : Candidate} {place : Files.Location} {file : Files.File}
    (stands : FileTree.Stands before.files candidate.filePath place) (sound : before.files.Sound)
    (held : before.files.at? place = some (.file file))
    (started : before.files.at? before.files.start = some .directory) (quiet : before.LogsToNoFile)
    {report next : Report} {target : Option Target}
    (run : process host plan context report candidate before = (.ok (next, target), after)) :
    Handled respond note candidate.className place file report next before after := by
  unfold process at run
  rw [inPlace] at run
  obtain ⟨_, _, resolved, run⟩ := bind_ok run
  obtain ⟨rfl, rfl⟩ := resolve_inPlace stands sound held resolved
  obtain ⟨outcome, called, invoked, run⟩ := Work.attempt_bind run
  simp only [Target.new] at invoked
  obtain ⟨failure, text, rfl, printed⟩ | ⟨value, answer, rfl, responded, answered, printed⟩ :=
    Transformer.Invoker.invoke_cases computes invoked
  · simp only at run
    split at run
    · cases (throw_error run).1
    · obtain ⟨_, logged, logging, counted⟩ := bind_ok run
      obtain ⟨same, rfl⟩ := pure_ok counted
      obtain ⟨rfl, _⟩ := Prod.mk.inj (Except.ok.inj same)
      have waits : Prints "" called after := (Log.keeps_exception _ _ _ _ _ _).run logging
      exact .failed (by simp) (printed.trans waits)
  · obtain ⟨quietCalled, printedCalled, passes⟩ := printed quiet
    simp only at run
    obtain ⟨applied, _, applying, run⟩ := bind_ok run
    obtain ⟨rfl, taken⟩ := Work.ofOutcome_cases applying
    obtain rfl := apply_ok taken.symm
    obtain ⟨changed, wrote, writing, run⟩ := bind_ok run
    have done : next.failures = report.failures ∧ wrote = after := by
      cases changed with
      | true =>
          obtain ⟨same, rfl⟩ := pure_ok run
          obtain ⟨rfl, _⟩ := Prod.mk.inj (Except.ok.inj same)
          exact ⟨rfl, rfl⟩
      | false =>
          obtain ⟨same, rfl⟩ := pure_ok run
          obtain ⟨rfl, _⟩ := Prod.mk.inj (Except.ok.inj same)
          exact ⟨rfl, rfl⟩
    obtain ⟨failures, rfl⟩ := done
    have startedCalled := passes.shape.at?_of_not_file started rfl
    rw [← passes.shape.start] at startedCalled
    obtain ⟨quietAfter, printedAfter, ending⟩ := overwritten_of_writeBack ((passes.at? place).trans held)
      (stands.of_shape passes.shape) (passes.sound sound) startedCalled quietCalled writing
    rw [printedCalled] at printedAfter
    simp only at ending
    cases content : answer.content with
    | none =>
        rw [content] at answered ending
        rcases ending with ⟨_, later⟩ | ⟨something, _⟩
        · refine .unchanged failures (fun out nonempty => ?_) fun _ =>
            ⟨quietAfter, printedAfter, passes.trans later⟩
          rw [responded]
          rintro ⟨⟩
          rcases Transformer.contentOf_eq_none_iff.1 answered with null | empty
          · cases null
          · exact nonempty (Config.Value.octets.inj empty)
        · exact absurd rfl something
    | some out =>
        rw [content] at answered ending
        obtain ⟨rfl, nonempty⟩ := Transformer.contentOf_eq_some answered
        have kept : substance (some out) = some out := by
          cases out with
          | nil => exact absurd rfl nonempty
          | cons head tail => rfl
        rw [kept, kept] at ending
        rcases ending with ⟨nothing, _⟩ | ⟨_, overwritten⟩
        · cases nothing
        · exact .changed failures responded nonempty quietAfter printedAfter
            (overwritten.after_wait passes)

/-- What a visit to a class comes to, if the run goes on. -/
inductive Visited (respond : String → Bytes → Outcome Config.Value) (note : String → Bytes → String)
    (filter : Pattern.PathFilter) (candidate : Candidate) (place : Files.Location) (file : Files.File)
    (report next : Report) (before after : Workspace) : Prop
  | rejected : filter.accepts candidate.filePath.toString = false → next.failures = report.failures →
      after = before →
      Visited respond note filter candidate place file report next before after
  | accepted : filter.accepts candidate.filePath.toString = true →
      Handled respond note candidate.className place file report next before after →
      Visited respond note filter candidate place file report next before after

/-- A workspace whose files are those of a tree, but for the contents. -/
structure Steady (tree : FileTree) (workspace : Workspace) : Prop where
  shape : tree.SameShape workspace.files
  healthy : workspace.Healthy

section Visits

variable {tree : FileTree} {root : Path} {top : Files.Location} {names : List String}
  {file : Files.File} {candidate : Candidate} {report next : Report}

theorem visited_of_visitCandidate (computes : host.Computes respond note) (inPlace : context.mode = .inPlace)
    (directory : DirectoryTree tree root top) (steady : Steady tree before)
    (classFile : IsClassFile tree root top names file candidate) {found : Files.File}
    (held : before.files.at? (top ++ names) = some (.file found))
    (run : visitCandidate host plan context report candidate before = (.ok next, after)) :
    Visited respond note context.filter candidate (top ++ names) found report next before after := by
  unfold visitCandidate at run
  split at run
  next accepted =>
    obtain ⟨⟨processed, target⟩, middle, processing, answer⟩ := bind_ok run
    obtain ⟨same, rfl⟩ := pure_ok answer
    obtain rfl := Except.ok.inj same
    have stands := (directory.stands (directory.named classFile.held)).of_shape steady.shape
    rw [← classFile.filePath] at stands
    have started := steady.shape.at?_of_not_file directory.started rfl
    rw [← steady.shape.start] at started
    exact .accepted accepted (handled_of_process computes inPlace stands steady.healthy.files held started
      steady.healthy.quiet processing)
  next rejected =>
    obtain ⟨same, rfl⟩ := pure_ok run
    obtain rfl := Except.ok.inj same
    exact .rejected (by simpa using rejected) rfl rfl

theorem Steady.of_prints {text : String} (steady : Steady tree before)
    (printed : Prints text before after) : Steady tree after := by
  obtain ⟨quiet, _, passes⟩ := printed steady.healthy.quiet
  exact ⟨steady.shape.trans passes.shape, passes.sound steady.healthy.files, quiet⟩

theorem Visited.steady {filter : Pattern.PathFilter} {place : Files.Location}
    (visited : Visited respond note filter candidate place file report next before after)
    (steady : Steady tree before) (held : before.files.at? place = some (.file file)) :
    Steady tree after := by
  cases visited with
  | rejected _ _ same => exact same ▸ steady
  | accepted _ handled =>
      cases handled with
      | failed _ printed => exact steady.of_prints printed
      | unchanged _ _ printed => exact steady.of_prints printed
      | changed _ _ _ quiet _ overwritten =>
          exact ⟨steady.shape.trans (overwritten.shape held), overwritten.sound steady.healthy.files,
            quiet⟩

theorem stays (computes : host.Computes respond note) (inPlace : context.mode = .inPlace)
    (directory : DirectoryTree tree root top) :
    Stays tree root top (visitCandidate host plan context) (Steady tree) := by
  refine ⟨fun steady => steady.healthy.files, fun steady => steady.shape, ?_⟩
  intro names file candidate result next before after classFile steady run
  obtain ⟨found, held⟩ := steady.shape.exists_file classFile.held
  exact (visited_of_visitCandidate computes inPlace directory steady classFile held run).steady steady held

end Visits

end Run
end ClassLoom
