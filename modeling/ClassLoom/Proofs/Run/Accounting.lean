import ClassLoom.Proofs.Run.Parting
import ClassLoom.Proofs.Run.Rebuilding

namespace ClassLoom
namespace Run

/-!
# The accounts of a run

A report counts what becomes of classes and entries.  Every class that is handed to the transformer is
changed, left as it is, or fails, and is counted as one of these.  In a run over a directory every other
candidate is rejected by the filter.  In a run over an archive every entry but the manifest is a directory,
a copy or a class that has been handed over, and each that has not failed has been staged once, so the
records of the new archive are as many.
-/

open Files (FileTree Path)
open Rebuild (Rebuilder Manifest)

variable {host : Host} {plan : Plan} {context : Context} {before after : Workspace}

/-! ## One class -/

/-- Every class that has been presented has been changed, or left as it is, or has failed. -/
def Report.Balances (report : Report) : Prop :=
  report.presented = report.transformed + report.noop + report.failures.length

theorem writeBack_answer {mode : Mode} {logger : String} {target : Target} {changed : Bool}
    (run : writeBack mode logger target before = (.ok changed, after)) :
    changed = !target.isNoop := by
  unfold writeBack at run
  rw [Work.files_bind] at run
  cases noop : target.isNoop with
  | true =>
      rw [noop] at run
      cases mode with
      | inPlace =>
          obtain ⟨_, _, _, answer⟩ := bind_ok run
          exact Except.ok.inj (pure_ok answer).1
      | staged =>
          obtain ⟨_, _, _, answer⟩ := bind_ok run
          exact Except.ok.inj (pure_ok answer).1
  | false =>
      rw [noop] at run
      cases mode with
      | inPlace =>
          obtain ⟨_, _, _, further⟩ := bind_ok run
          obtain ⟨_, _, _, further⟩ := bind_ok further
          obtain ⟨touched, _, _, ending⟩ := bind_ok further
          cases touched with
          | true => exact Except.ok.inj (pure_ok ending).1
          | false =>
              obtain ⟨_, _, _, answer⟩ := bind_ok ending
              exact Except.ok.inj (pure_ok answer).1
      | staged =>
          obtain ⟨_, _, _, further⟩ := bind_ok run
          obtain ⟨_, _, _, answer⟩ := bind_ok further
          exact Except.ok.inj (pure_ok answer).1

/-- What becomes of a candidate. -/
inductive Fate where
  | rejected | changed | unchanged | failed
  deriving DecidableEq

/-- How a class is counted that is handed to the transformer, by what becomes of it. -/
inductive Counted (plan : Plan) (context : Context) (report : Report) (after : Workspace) :
    Fate → Report → Option Target → Prop
  | changed {target : Target} {called : Workspace} : target.isNoop = false →
      writeBack context.mode plan.logger target called = (.ok true, after) →
      Counted plan context report after .changed
        { report with
          presented := report.presented + 1
          transformed := report.transformed + 1 } (some target)
  | unchanged {target : Target} {called : Workspace} : target.isNoop = true →
      writeBack context.mode plan.logger target called = (.ok false, after) →
      Counted plan context report after .unchanged
        { report with presented := report.presented + 1, noop := report.noop + 1 } (some target)
  | failed {className : String} {failure : Failure} :
      Counted plan context report after .failed
        { report with
          presented := report.presented + 1
          failures := report.failures ++ [(className, failure)] } none

theorem counted_of_process {report next : Report} {candidate : Candidate} {target : Option Target}
    (run : process host plan context report candidate before = (.ok (next, target), after)) :
    ∃ fate, Counted plan context report after fate next target := by
  unfold process at run
  obtain ⟨resolved, found, _, further⟩ := bind_ok run
  obtain ⟨outcome, called, _, ending⟩ := Work.attempt_bind further
  cases outcome with
  | error failure =>
      simp only at ending
      split at ending
      · obtain ⟨_, _, refused, _⟩ := bind_ok ending
        cases (throw_error refused).1
      · obtain ⟨_, _, _, answer⟩ := bind_ok ending
        obtain ⟨same, rfl⟩ := pure_ok answer
        obtain ⟨rfl, rfl⟩ := Prod.mk.inj (Except.ok.inj same)
        exact ⟨.failed, .failed⟩
  | ok answer =>
      simp only at ending
      obtain ⟨applied, _, _, writing⟩ := bind_ok ending
      obtain ⟨changed, wrote, written, counting⟩ := bind_ok writing
      have answered := writeBack_answer written
      cases changed with
      | true =>
          obtain ⟨same, rfl⟩ := pure_ok counting
          obtain ⟨rfl, rfl⟩ := Prod.mk.inj (Except.ok.inj same)
          exact ⟨.changed, .changed (by simpa using answered) written⟩
      | false =>
          obtain ⟨same, rfl⟩ := pure_ok counting
          obtain ⟨rfl, rfl⟩ := Prod.mk.inj (Except.ok.inj same)
          exact ⟨.unchanged, .unchanged (by simpa using answered) written⟩

theorem Counted.balances {report next : Report} {fate : Fate} {target : Option Target}
    (counted : Counted plan context report after fate next target) (balances : report.Balances) :
    next.Balances := by
  unfold Report.Balances at balances ⊢
  cases counted with
  | changed _ _ => simp only; omega
  | unchanged _ _ => simp only; omega
  | failed =>
      simp only [List.length_append, List.length_singleton]
      omega

/-! ## Runs over an archive -/

/-- A class that the filter rejects, by its path in the staging directory. -/
def isRejected (filter : Pattern.PathFilter) (root : Path) (member : Zip.Member) : Bool :=
  !isManifestName member.name && isClassName member.name &&
    !filter.accepts (root.descend (nameParts member.name)).toString

/-- The accounts of a staging that has come past some entries. -/
structure Balanced (context : Context) (root : Path) (past : List Zip.Member) (staging : Staging) :
    Prop where
  rooted : staging.rebuilder.root = some root
  presented : staging.report.Balances
  entries : staging.report.directories + staging.report.copied + staging.report.presented =
    past.countP fun member => !isManifestName member.name
  staged : staging.rebuilder.staged.length + staging.report.failures.length =
    past.countP fun member => !isManifestName member.name
  filtered : staging.report.filtered = past.countP (isRejected context.filter root)
  copied : staging.report.filtered ≤ staging.report.copied
  transformed : staging.report.transformed =
    staging.rebuilder.staged.countP fun item => item.2.transformed
  manifest : staging.manifest.isSome = past.any fun member => isManifestName member.name

theorem pathFor_descend {rebuilder : Rebuilder} {name : String} {path : Path}
    (run : rebuilder.pathFor name before = (.ok path, after)) :
    ∃ root, rebuilder.root = some root ∧ path = root.descend (nameParts name) := by
  unfold Rebuilder.pathFor at run
  cases held : rebuilder.root with
  | none =>
      rw [held] at run
      cases (throw_error run).1
  | some root =>
      rw [held] at run
      simp only at run
      split at run
      · cases (throw_error run).1
      split at run
      · cases (throw_error run).1
      rw [Work.files_bind] at run
      cases settled : before.files.resolve? (root.descend (nameParts name)) with
      | none =>
          rw [settled] at run
          cases (throw_error run).1
      | some place =>
          rw [settled] at run
          simp only at run
          split at run
          · exact ⟨root, rfl, Except.ok.inj (pure_ok run).1⟩
          · cases (throw_error run).1

namespace Balanced

variable {root : Path} {past : List Zip.Member} {staging next : Staging} {member : Zip.Member}
  {opened : Classpath.OpenArchive}

/-- One more entry is remembered, and counted as one that has been staged. -/
theorem recorded (balanced : Balanced context root past staging)
    (ordinary : isManifestName member.name = false) {isDirectory transformed : Bool}
    {recorded : Rebuilder} (done : staging.rebuilder.record member isDirectory transformed = .ok recorded)
    {report : Report} (presented : report.Balances)
    (entries : report.directories + report.copied + report.presented =
      staging.report.directories + staging.report.copied + staging.report.presented + 1)
    (failures : report.failures = staging.report.failures)
    (filtered : report.filtered =
      staging.report.filtered + if isRejected context.filter root member then 1 else 0)
    (copied : report.filtered ≤ report.copied)
    (changed : report.transformed = staging.report.transformed + if transformed then 1 else 0) :
    Balanced context root (past ++ [member]) { staging with report, rebuilder := recorded } := by
  obtain ⟨_, rfl⟩ := Rebuild.record_ok done
  exact
    { rooted := balanced.rooted
      presented, copied
      entries := by simp [entries, balanced.entries, ordinary]
      staged := by
        simp only [List.length_append, List.length_singleton, failures, List.countP_append,
          List.countP_singleton, ordinary, Bool.not_false, if_true, ← balanced.staged]
        omega
      filtered := by simp [filtered, balanced.filtered, List.countP_singleton]
      transformed := by simp [changed, balanced.transformed, List.countP_singleton]
      manifest := by simpa [ordinary] using balanced.manifest }

/-- One more entry is staged, and the accounts still balance. -/
theorem step (balanced : Balanced context root past staging)
    (run : stageEntry host plan context opened staging member before = (.ok next, after)) :
    Balanced context root (past ++ [member]) next := by
  have presented := balanced.presented
  have fewer := balanced.copied
  cases entryStaged_of_run run with
  | manifest described _ =>
      exact
        { rooted := balanced.rooted
          presented, copied := fewer
          entries := by simpa [described] using balanced.entries
          staged := by simpa [described] using balanced.staged
          filtered := by simpa [isRejected, described] using balanced.filtered
          transformed := balanced.transformed
          manifest := by simp [described] }
  | directory ordinary folder stages =>
      have passes : isRejected context.filter root member = false := by
        simp [isRejected, isClassName, folder]
      refine balanced.recorded ordinary (Rebuild.stageDirectory_ok stages).2.2 presented ?_ rfl ?_ fewer rfl
      · simp only
        omega
      · simp [passes]
  | copied ordinary leaf passed placed stages =>
      obtain ⟨_, held, rfl⟩ := pathFor_descend placed
      obtain rfl := Option.some.inj (balanced.rooted.symm.trans held)
      have done := (Rebuild.stageCopy_ok stages).2.2
      -- A class that is copied is counted twice, as a copy and as one that has been rejected.
      by_cases isClass : isClassName member.name = true
      · have rejects : isRejected context.filter root member = true := by
          rw [isClass, Bool.true_and] at passed
          simp [isRejected, ordinary, isClass, passed]
        refine balanced.recorded ordinary done ?_ ?_ (Report.failures_withCopy _ _) ?_ ?_ ?_
        all_goals simp only [Report.withCopy, if_pos isClass, rejects, if_true, Report.Balances]
        · exact presented
        · omega
        · omega
        · simp
      · have passes : isRejected context.filter root member = false := by simp [isRejected, isClass]
        refine balanced.recorded ordinary done ?_ ?_ (Report.failures_withCopy _ _) ?_ ?_ ?_
        all_goals simp only [Report.withCopy, if_neg isClass, passes, Report.Balances]
        · exact presented
        · omega
        · simp
        · omega
        · simp
  | accepted ordinary leaf taken placed stages =>
      obtain ⟨_, held, rfl⟩ := pathFor_descend placed
      obtain rfl := Option.some.inj (balanced.rooted.symm.trans held)
      have passes : isRejected context.filter root member = false := by
        rw [Bool.and_eq_true] at taken
        simp [isRejected, taken.2]
      obtain ⟨report, target, processed, ending⟩ := stageClass_ok stages
      obtain ⟨fate, counted⟩ := counted_of_process processed
      have balances := counted.balances presented
      rcases ending with ⟨rfl, rfl⟩ | ⟨made, recorded, rfl, done, rfl⟩
      · cases counted with
        | failed =>
            exact
              { rooted := balanced.rooted
                presented := balances, copied := fewer
                entries := by simp [ordinary, ← balanced.entries]; omega
                staged := by simp [ordinary, ← balanced.staged]; omega
                filtered := by simp [passes, balanced.filtered]
                transformed := balanced.transformed
                manifest := by simpa [ordinary] using balanced.manifest }
      · cases counted with
        | changed content _ =>
            refine balanced.recorded ordinary done balances ?_ rfl ?_ fewer ?_
            · simp only
              omega
            · simp [passes]
            · simp [content]
        | unchanged content _ =>
            refine balanced.recorded ordinary done balances ?_ rfl ?_ fewer ?_
            · simp only
              omega
            · simp [passes]
            · simp [content]

/-- The accounts of a whole staging balance. -/
theorem course {first : Staging} {start : Workspace} {visits : List Visit}
    (fresh : Balanced context root [] first)
    (course : Course host plan context opened first start visits staging after) :
    Balanced context root (visits.map Visit.member) staging := by
  induction course with
  | nothing => exact fresh
  | visit _ run inductionHypothesis =>
      rw [List.map_append]
      exact inductionHypothesis.step run

end Balanced

/-! ### A run that succeeds -/

/-- The records of the new archive. -/
def Stages.records (stages : Stages) : List Zip.Record :=
  (stages.staging.manifest.map Manifest.record).toList ++ stages.written.map Prod.snd

/-- The report of a run over an archive that succeeds, compared with the archive that there was, with what
has been staged, and with the new archive. -/
structure Accounts (stages : Stages) (staging : Path) (report : Report) : Prop where
  clean : report.failures = []
  presented : report.presented = report.transformed + report.noop
  records : stages.records.length =
    (if stages.opened.archive.members.any fun member => isManifestName member.name then 1 else 0) +
      report.directories + report.copied + report.presented
  filtered : report.filtered =
    stages.opened.archive.members.countP (isRejected stages.context.filter staging)
  copied : report.filtered ≤ report.copied
  transformed : report.transformed =
    stages.staging.rebuilder.staged.countP fun item => item.2.transformed

namespace GoesThrough

variable {artifact : Path} {elements : List Config.Value} {directory : Files.Location}
  {old : Files.File} {report : Report} {stages : Stages}
  (through : GoesThrough host plan artifact elements directory old before after report stages)

include through

theorem balanced : Balanced stages.context (FileTree.pathOf (directory ++ [artifact.name ++ ".tmp"]))
    stages.opened.archive.members stages.staging := by
  rw [← through.members]
  refine Balanced.course ?_ through.course
  rw [through.ready.made.shape]
  exact ⟨rfl, rfl, rfl, rfl, rfl, le_refl 0, rfl, rfl⟩

theorem accounts (leaves : host.LeavesFiles) :
    Accounts stages (FileTree.pathOf (directory ++ [artifact.name ++ ".tmp"])) report := by
  have balanced := through.balanced
  have clean := through.clean
  have presented := balanced.presented
  have staged := balanced.staged
  have entries := balanced.entries
  unfold Report.Balances at presented
  rw [clean, List.length_nil, Nat.add_zero] at presented staged
  -- Each staged entry has been written once.
  have once : stages.written.length = stages.staging.rebuilder.staged.length := by
    have same := (Rebuild.keys_perm (through.underway leaves).once through.finds.1
      through.complete).length_eq
    rwa [List.length_map, List.length_map] at same
  have kept : (stages.staging.manifest.map Manifest.record).toList.length =
      if stages.opened.archive.members.any fun member => isManifestName member.name then 1 else 0 := by
    rw [← balanced.manifest]
    cases stages.staging.manifest with
    | none => rfl
    | some manifest => rfl
  rw [through.report]
  refine ⟨clean, presented, ?_, balanced.filtered, balanced.copied, balanced.transformed⟩
  rw [Stages.records, List.length_append, List.length_map, kept, once, staged, ← entries]
  simp only
  omega

end GoesThrough

/-- The accounts of a run over an archive that succeeds balance, in a tree without links: the new archive
has as many records as the report says. -/
theorem accounts_of_transformJar (leaves : host.LeavesFiles) (sound : before.files.Sound)
    (quiet : before.LogsToNoFile) (linkless : before.files.Linkless) {jar : Config.Value}
    {elements : List Config.Value} {report : Report}
    (run : transformJar host plan jar elements before = (.ok report, after)) :
    let artifact := Path.ofString jar.plain
    ∃ directory old last stages,
      GoesThrough host plan artifact elements directory old { before with
        contexts := before.contexts ++ [logContext .staged artifact.toString] } last report stages ∧
      after.files = last.files ∧
      Accounts stages (FileTree.pathOf (directory ++ [artifact.name ++ ".tmp"])) report := by
  intro artifact
  have proper := Path.ofString_proper jar.plain
  rcases rebuildJar_of_transformJar run with ⟨_, _, failed⟩ | ⟨place, old, last, seen, course, rfl⟩
  · cases failed
  obtain ⟨nonempty, named, directory, reaches, rfl, held⟩ := linkless.reaches_of_stat sound proper seen
  have healthy : Workspace.Healthy { before with contexts := before.contexts ++
      [logContext .staged (Path.ofString jar.plain).toString] } := ⟨sound, quiet⟩
  obtain ⟨stages, through⟩ :=
    stages_of_rebuildJar leaves healthy linkless proper nonempty named reaches held course
  exact ⟨directory, old, last, stages, through, rfl, through.accounts leaves⟩

/-! ## Runs over a directory -/

section Walking

variable {σ : Type} {visit : σ → Candidate → Work σ} {result final : σ} {depth : Nat} {current root : Path}
  {parts : List String}

/-- A visit that also notes the candidate. -/
def noting (visit : σ → Candidate → Work σ) (progress : σ × List Candidate) (candidate : Candidate) :
    Work (σ × List Candidate) := do
  return (← visit progress.1 candidate, progress.2 ++ [candidate])

/-- What a walk comes to that ends well: visits to candidates one after another, which are those that the
walk notes.  A visit may change what is met later. -/
structure Met (visit : σ → Candidate → Work σ)
    (walking : σ × List Candidate → Work (Progress (σ × List Candidate))) (result final : σ)
    (before after : Workspace) (found : List Candidate) : Prop where
  visited : found.foldlM visit result before = (.ok final, after)
  noted : ∀ past, walking (result, past) before = (.ok ((final, past ++ found), none), after)

/-- Every walk of a depth that ends well comes to visits. -/
def MetBelow (visit : σ → Candidate → Work σ) (depth : Nat) : Prop :=
  ∀ {path : Path} {parts : List String} {result final : σ} {before after : Workspace},
    walk visit depth path parts result before = (.ok (final, none), after) →
    ∃ found, Met visit (walk (noting visit) depth path parts) result final before after found

theorem met_visitName {item : String × Files.Entry} (below : MetBelow visit depth)
    (run : visitName visit depth current parts (result, none) item before = (.ok (final, none), after)) :
    ∃ found, Met visit (fun result => visitName (noting visit) depth current parts (result, none) item)
      result final before after found := by
  obtain ⟨_, same, step⟩ := advance_ok run
  obtain rfl := (Prod.mk.inj same).1
  obtain ⟨kind, middle, classified, visiting⟩ := bind_ok step
  obtain rfl : before = middle :=
    congrArg Prod.snd ((classify_run (FileTree.SameShape.refl _)).symm.trans classified)
  cases kind with
  | directory =>
      obtain ⟨found, met⟩ := below visiting
      refine ⟨found, met.visited, fun past => advance_of_ok ?_⟩
      rw [bind_of_ok classified]
      exact met.noted past
  | candidate candidate =>
      obtain ⟨next, last, visited, answered⟩ := bind_ok visiting
      obtain ⟨same, rfl⟩ := pure_ok answered
      obtain rfl := (Prod.mk.inj (Except.ok.inj same)).1
      refine ⟨[candidate], ?_, fun past => advance_of_ok ?_⟩
      · rw [List.foldlM_cons, bind_of_ok visited]
        rfl
      · have noted : noting visit (result, past) candidate before =
            (.ok (final, past ++ [candidate]), after) := bind_of_ok visited
        rw [bind_of_ok classified]
        exact bind_of_ok noted
  | other =>
      obtain ⟨same, rfl⟩ := pure_ok visiting
      obtain rfl := (Prod.mk.inj (Except.ok.inj same)).1
      refine ⟨[], rfl, fun past => advance_of_ok ?_⟩
      rw [bind_of_ok classified, List.append_nil]
      rfl

theorem met_foldlM {items : List (String × Files.Entry)} (below : MetBelow visit depth)
    (run : items.foldlM (visitName visit depth current parts) (result, none) before =
      (.ok (final, none), after)) :
    ∃ found, Met visit
      (fun result => items.foldlM (visitName (noting visit) depth current parts) (result, none))
      result final before after found := by
  induction items generalizing result before with
  | nil =>
      obtain ⟨same, rfl⟩ := pure_ok run
      obtain rfl := (Prod.mk.inj (Except.ok.inj same)).1
      refine ⟨[], rfl, fun past => ?_⟩
      rw [List.append_nil]
      rfl
  | cons item rest inductionHypothesis =>
      rw [List.foldlM_cons] at run
      obtain ⟨next, middle, step, further⟩ := bind_ok run
      obtain ⟨_, rfl⟩ := started_of_foldlM further
      obtain ⟨first, met⟩ := met_visitName below step
      obtain ⟨later, metLater⟩ := inductionHypothesis further
      refine ⟨first ++ later, ?_, fun past => ?_⟩
      · rw [List.foldlM_append, bind_of_ok met.visited]
        exact metLater.visited
      · rw [List.foldlM_cons, bind_of_ok (met.noted past), ← List.append_assoc]
        exact metLater.noted (past ++ first)

theorem metBelow (visit : σ → Candidate → Work σ) (depth : Nat) : MetBelow visit depth := by
  intro path parts result final before after run
  induction depth generalizing path parts result final before after with
  | zero =>
      obtain ⟨same, rfl⟩ := pure_ok run
      obtain rfl := (Prod.mk.inj (Except.ok.inj same)).1
      refine ⟨[], rfl, fun past => ?_⟩
      rw [List.append_nil]
      rfl
  | succ depth inductionHypothesis =>
      rw [walk_succ] at run
      obtain ⟨entries, middle, listed, further⟩ := bind_ok run
      obtain ⟨rfl, _⟩ := listing_ok listed
      obtain ⟨found, met⟩ := met_foldlM inductionHypothesis further
      refine ⟨found, met.visited, fun past => ?_⟩
      rw [walk_succ, bind_of_ok listed]
      exact met.noted past

/-- A walk through a directory that ends well has visited the candidates that it has met, whatever the
visits have done to what it met later. -/
theorem met_visitClasses
    (run : visitClasses visit root result before = (.ok (final, none), after)) :
    ∃ found, Met visit (visitClasses (noting visit) root) result final before after found := by
  obtain ⟨_, same, step⟩ := advance_ok run
  obtain rfl := (Prod.mk.inj same).1
  obtain ⟨isDirectory, middle, asked, walking⟩ := bind_ok step
  cases isDirectory with
  | false =>
      obtain ⟨_, _, refused, _⟩ := bind_ok walking
      cases (throw_error refused).1
  | true =>
      obtain ⟨rfl, _⟩ := Work.ask_ok asked
      obtain ⟨found, met⟩ := metBelow visit _ walking
      refine ⟨found, met.visited, fun past => advance_of_ok ?_⟩
      rw [bind_of_ok asked]
      exact met.noted past

end Walking

/-- What becomes of candidates that are visited one after another. -/
inductive Tallied (host : Host) (plan : Plan) (context : Context) :
    List Candidate → Report → Workspace → List Fate → Report → Workspace → Prop
  | nothing {report : Report} {state : Workspace} :
      Tallied host plan context [] report state [] report state
  | rejected {candidate : Candidate} {rest : List Candidate} {report final : Report}
      {before after : Workspace} {fates : List Fate} :
      context.filter.accepts candidate.filePath.toString = false →
      Tallied host plan context rest { report with filtered := report.filtered + 1 } before fates
        final after →
      Tallied host plan context (candidate :: rest) report before (.rejected :: fates) final after
  | handed {candidate : Candidate} {rest : List Candidate} {report next final : Report}
      {before middle after : Workspace} {target : Option Target} {fate : Fate} {fates : List Fate} :
      context.filter.accepts candidate.filePath.toString = true →
      process host plan context report candidate before = (.ok (next, target), middle) →
      Counted plan context report middle fate next target →
      Tallied host plan context rest next middle fates final after →
      Tallied host plan context (candidate :: rest) report before (fate :: fates) final after

theorem tallied_of_foldlM {found : List Candidate} {report final : Report}
    (run : found.foldlM (visitCandidate host plan context) report before = (.ok final, after)) :
    ∃ fates, Tallied host plan context found report before fates final after := by
  induction found generalizing report before with
  | nil =>
      obtain ⟨same, rfl⟩ := pure_ok run
      obtain rfl := Except.ok.inj same
      exact ⟨[], .nothing⟩
  | cons candidate rest inductionHypothesis =>
      rw [List.foldlM_cons] at run
      obtain ⟨next, middle, visited, further⟩ := bind_ok run
      obtain ⟨fates, tallied⟩ := inductionHypothesis further
      unfold visitCandidate at visited
      split at visited
      next accepted =>
        obtain ⟨⟨made, target⟩, last, processed, answered⟩ := bind_ok visited
        obtain ⟨same, rfl⟩ := pure_ok answered
        obtain rfl := Except.ok.inj same
        obtain ⟨fate, counted⟩ := counted_of_process processed
        exact ⟨fate :: fates, .handed accepted processed counted tallied⟩
      next rejected =>
        obtain ⟨same, rfl⟩ := pure_ok visited
        obtain rfl := Except.ok.inj same
        exact ⟨.rejected :: fates, .rejected (Bool.not_eq_true _ ▸ rejected) tallied⟩

namespace Tallied

variable {found : List Candidate} {fates : List Fate} {report final : Report}

theorem balances (tallied : Tallied host plan context found report before fates final after)
    (balances : report.Balances) : final.Balances := by
  induction tallied with
  | nothing => exact balances
  | rejected _ _ inductionHypothesis => exact inductionHypothesis balances
  | handed _ _ counted _ inductionHypothesis => exact inductionHypothesis (counted.balances balances)

/-- Every candidate is handed to the transformer or rejected. -/
theorem candidates (tallied : Tallied host plan context found report before fates final after) :
    final.presented + final.filtered = report.presented + report.filtered + found.length := by
  induction tallied with
  | nothing => rfl
  | rejected _ _ inductionHypothesis =>
      rw [inductionHypothesis, List.length_cons]
      simp only
      omega
  | handed _ _ counted _ inductionHypothesis =>
      rw [inductionHypothesis, List.length_cons]
      cases counted with
      | _ => simp only; omega

/-- The classes that count as transformed are those that have been written. -/
theorem transformed (tallied : Tallied host plan context found report before fates final after) :
    final.transformed = report.transformed + fates.count .changed := by
  induction tallied with
  | nothing => rfl
  | rejected _ _ inductionHypothesis => simpa using inductionHypothesis
  | handed _ _ counted _ inductionHypothesis =>
      rw [inductionHypothesis, List.count_cons]
      cases counted with
      | changed _ _ => simp only [beq_self_eq_true, if_true]; omega
      | unchanged _ _ => rfl
      | failed => rfl

end Tallied

/-- The accounts of a run over a directory that succeeds balance, whatever the transformer does. -/
theorem accounts_of_transformDirectory {value : Config.Value} {elements : List Config.Value}
    {report : Report}
    (run : transformDirectory host plan value elements before = (.ok report, after)) :
    ∃ context ready visited found fates,
      visitClasses (noting (visitCandidate host plan context)) (Path.ofString value.plain)
        (.start .inPlace value.plain, []) ready = (.ok ((report, found), none), visited) ∧
      Tallied host plan context found (.start .inPlace value.plain) ready fates report visited ∧
      report.failures = [] ∧
      report.presented = report.transformed + report.noop ∧
      report.presented + report.filtered = found.length ∧
      report.transformed = fates.count .changed := by
  unfold transformDirectory at run
  rw [Work.files_bind] at run
  obtain ⟨_, checked, _, entering⟩ := bind_ok run
  obtain ⟨last, course, rfl⟩ := Log.inContext_cases entering
  obtain ⟨context, _, _, ready, _, _, _, _, _, _, within, _⟩ := inRun_ok course
  obtain ⟨⟨final, failure⟩, visited, visiting, working⟩ := bind_ok within
  cases failure with
  | some failure =>
      obtain ⟨_, _, thrown, _⟩ := bind_ok working
      cases (throw_error thrown).1
  | none =>
      obtain ⟨_, _, _, checking⟩ := bind_ok working
      obtain ⟨_, _, agreeing, reporting⟩ := bind_ok checking
      obtain ⟨_, _, _, answered⟩ := bind_ok reporting
      obtain rfl := Except.ok.inj (pure_ok answered).1
      have clean := check_eq_ok_iff.1 (Work.ofOutcome_cases agreeing).2.symm
      obtain ⟨found, met⟩ := met_visitClasses visiting
      obtain ⟨fates, tallied⟩ := tallied_of_foldlM met.visited
      have balances : report.Balances := tallied.balances rfl
      unfold Report.Balances at balances
      rw [clean, List.length_nil, Nat.add_zero] at balances
      refine ⟨context, ready, visited, found, fates, met.noted [], tallied, clean, balances, ?_, ?_⟩
      · simpa [Report.start] using tallied.candidates
      · simpa [Report.start] using tallied.transformed

end Run
end ClassLoom
