import ClassLoom.Proofs.Rebuild.AllOrNothing
import ClassLoom.Proofs.Rebuild.Putting
import ClassLoom.Proofs.Run.Bundling
import ClassLoom.Proofs.Run.Idling

namespace ClassLoom

/-!
# Storing the files of a directory

An archive that has for its entries the files below a directory is staged without a failure but that of a
call: what is in the staging directory is what is below the directory, so that there is always room for
the next entry, and every class is found in its own entry.  Each entry that goes through is stored as its
call has left it, and once all are, the new archive can be written.
-/

/-- Time does not matter for where something can be put. -/
theorem Rebuild.Takes.passes {tree later : Files.FileTree} {region : Files.Location} {names : List String}
    {isDirectory : Bool} (takes : Rebuild.Takes tree region names isDirectory)
    (passes : tree.TimePasses later) : Rebuild.Takes later region names isDirectory := by
  obtain ⟨moment, _, rfl⟩ := passes
  exact takes.clock

namespace Run

open Files (FileTree FileWork IsName IsSegment Path)
open Files.FileTree (Askable)
open Rebuild (Agrees Clear Fills Rebuilder Rooted StagedEntry Takes under)
open Transformer (Prepared)

variable {host : Host} {plan : Plan} {context : Context} {respond : String → Bytes → Outcome Config.Value}
  {note : String → Bytes → String} {artifact : Path} {opened : Classpath.OpenArchive}
  {region place top : Files.Location} {origin tree : FileTree} {old : Files.File} {bytes content : Bytes}
  {names : List String} {before after : Workspace}

theorem writeBack_run (takes : Takes before.files region names false) (quiet : before.LogsToNoFile)
    (logger : String) (target : Target) (path : target.writePath = under (FileTree.pathOf region) names) :
    ∃ changed told files, writeBack .staged logger target before = (.ok changed, { told with files }) ∧
      Logged before told ∧
      Fills before.files files region names ((substance target.transformed).getD target.content) := by
  cases noop : target.isNoop with
  | true =>
      obtain ⟨files, writes, fills⟩ := takes.writeFileInParents_run target.content
      have nothing : substance target.transformed = none := Option.isNone_iff_eq_none.1 noop
      rw [← path] at writes
      refine ⟨false, before, files, ?_, .refl quiet, ?_⟩
      · rw [writeBack, Work.files_bind, noop]
        simp only
        rw [bind_of_ok (Work.onFiles_of_run writes)]
        rfl
      · rwa [nothing]
  | false =>
      obtain ⟨told, telling, said⟩ := Log.logged_write quiet logger .info
        ("writing transformation changes [" ++ (before.files.absolute target.writePath).toString ++ "]") [] none
      obtain ⟨files, writes, fills⟩ := takes.writeFileInParents_run (target.transformed.getD [])
      have some : (substance target.transformed).getD target.content = target.transformed.getD [] := by
        cases answer : target.transformed with
        | none => rw [Target.isNoop, answer] at noop; cases noop
        | some out =>
            cases out with
            | nil => rw [Target.isNoop, answer] at noop; cases noop
            | cons first rest => rfl
      rw [← path, ← said.files] at writes
      refine ⟨true, told, files, ?_, said, some ▸ fills⟩
      rw [writeBack, Work.files_bind, noop]
      simp only
      rw [Log.info, bind_of_ok telling, bind_of_ok (Work.onFiles_of_run writes)]
      rfl

/-! ## Classes -/

section Classes

variable {staging : Staging} {member : Zip.Member} {path : Path} {report : Report} {failure : Failure}

/-- A call that stops the run stops the staging of the class. -/
theorem stageClass_of_stopped (stops : process host plan context staging.report
      ⟨member.name, classOfResource member.name, path⟩ before = (.error failure, after)) :
    stageClass host plan context staging member path before = (.error failure, after) :=
  bind_of_error stops

/-- A class whose call has failed is not remembered. -/
theorem stageClass_of_failed (goes : process host plan context staging.report
      ⟨member.name, classOfResource member.name, path⟩ before = (.ok (report, none), after)) :
    stageClass host plan context staging member path before = (.ok { staging with report }, after) :=
  bind_of_ok goes

/-- A class that has been written is remembered. -/
theorem stageClass_of_passed {target : Target} {rebuilder : Rebuilder}
    (processed : process host plan context staging.report
      ⟨member.name, classOfResource member.name, path⟩ before = (.ok (report, some target), after))
    (recorded : staging.rebuilder.record member false (!target.isNoop) = .ok rebuilder) :
    stageClass host plan context staging member path before =
      (.ok { staging with report, rebuilder }, after) := by
  rw [stageClass, bind_of_ok processed]
  simp only
  rw [recorded]
  rfl

end Classes

/-- While time passes, and a transformer is called, nothing changes that entries are told by. -/
theorem Attends.interim {text : String} (reopens : Reopens artifact opened region origin)
    (attends : Attends context artifact opened region origin before)
    (interim : Interim context.invoker text before after) :
    Attends context artifact opened region origin after := by
  have healthy := interim.healthy attends.healthy
  have within : Within region origin after.files := by
    obtain ⟨moment, _, same⟩ := interim.passes
    rw [same]
    exact trans_of (Within region) attends.within (Frame.clock before.files moment)
  exact ⟨healthy, within, attends.fronted.of_same interim.classpaths (reopens healthy.files within),
    interim.prepared attends.prepared⟩

/-! ## Entries -/

/-- What becomes of an entry: a class is settled by its call. -/
def outputFor (respond : String → Bytes → Outcome Config.Value) (bytes : Bytes) (member : Zip.Member) :
    Bytes :=
  if isClassName member.name then settled respond (classOfResource member.name) (contentFrom bytes member)
  else contentFrom bytes member

/-- How the staging of an entry ends for a run. -/
def fateFor (failFast : Bool) (respond : String → Bytes → Outcome Config.Value) (bytes : Bytes)
    (member : Zip.Member) : Verdict :=
  if isClassName member.name then
    verdict failFast (respond (classOfResource member.name) (contentFrom bytes member))
  else .passes

/-- An entry is in the staging directory, and remembered under its name. -/
structure Stored (respond : String → Bytes → Outcome Config.Value) (bytes : Bytes) (region : Files.Location)
    (files : FileTree) (member : Zip.Member) (item : String × StagedEntry) : Prop where
  key : item.1 = member.name
  name : item.2.name = member.name
  held : ∃ file, files.at? (region ++ nameParts member.name) = some (.file file) ∧
    file.content = outputFor respond bytes member ∧ (item.2.stamp = none → Rebuild.Dated file.modified)

/-- A staging directory with room for the files of a directory, and their archive in front of a classpath. -/
structure Depot (context : Context) (artifact : Path) (opened : Classpath.OpenArchive)
    (region place : Files.Location) (origin : FileTree) (old : Files.File) (tree : FileTree)
    (top : Files.Location) : Prop where
  mode : context.mode = .staged
  filter : ∀ path, context.filter.accepts path = true
  bundles : Bundles tree top opened.archive old.content
  common : AllCommon tree top
  reopens : Reopens artifact opened region origin
  same : opened.file = old.id
  held : origin.at? place = some (.file old)
  outside : FileTree.isBelow place region = false
  linkless : origin.Linkless
  alive : origin.at? region = some .directory
  below : region ≠ []
  room : ∀ {names : List String} {entry : Files.Entry}, tree.at? (top ++ names) = some entry →
    Askable (under (FileTree.pathOf region) names)

/-- How far the staging of the files has come that goes on. -/
structure Storing (failFast : Bool) (respond : String → Bytes → Outcome Config.Value)
    (note : String → Bytes → String) (context : Context) (artifact : Path) (opened : Classpath.OpenArchive)
    (region : Files.Location) (origin : FileTree) (bytes : Bytes) (tree : FileTree) (top : Files.Location)
    (first : Rebuilder) (printed : String) (past : List Zip.Member) (staging : Staging) (state : Workspace) :
    Prop where
  attends : Attends context artifact opened region origin state
  remembers : Remembers first staging.rebuilder
  manifest : staging.manifest = none
  agrees : Agrees state.files region tree top
  dated : Rebuild.Dated state.files.clock
  stored : List.Forall₂ (Stored respond bytes region state.files)
    (past.filter fun member => fateFor failFast respond bytes member = .passes) staging.rebuilder.staged
  going : Going failFast respond note context.invoker printed (callsFor bytes past) staging.report.failures
    state

section Entries

variable {first : Rebuilder} {printed : String} {past rest : List Zip.Member} {staging : Staging}
  {state : Workspace} {member : Zip.Member} {file : Files.File}
  (depot : Depot context artifact opened region place origin old tree top) (rooted : Rooted first region)
  (storing : Storing plan.failFast respond note context artifact opened region origin old.content tree top
    first printed past staging state)
  (whole : opened.archive.members = past ++ member :: rest)
  (entry : IsEntry tree top old.content names file member)

namespace Storing

include depot storing

theorem linkless : state.files.Linkless :=
  fun spot target held => depot.linkless spot target (storing.attends.within.links held)

theorem clear : Clear state.files region :=
  ⟨storing.attends.within.carries depot.alive rfl, fun _ => storing.linkless depot _ _⟩

include entry in
theorem takes : Takes state.files region (nameParts member.name) false := by
  have held := entry.held
  rw [← depot.bundles.nameParts_eq entry] at held
  exact Agrees.takes storing.agrees storing.attends.healthy.files (storing.clear depot) depot.below
    depot.bundles.sound
    (by rw [depot.bundles.nameParts_eq entry]; exact depot.bundles.names_ne_nil entry.held)
    (depot.room held) ⟨_, held, rfl⟩

/-- The archive is as it was. -/
theorem held : state.files.at? place = some (.file old) :=
  (storing.attends.within.files depot.outside).1 depot.held

include whole entry

/-- Nothing has been staged under the name. -/
theorem fresh : staging.rebuilder.staged.lookup (Rebuild.keyOf member.name false) = none := by
  rw [depot.bundles.keyOf_eq entry, List.lookup_eq_none_iff]
  intro item among
  obtain ⟨other, listed, stored⟩ := Rebuild.exists_of_forall₂ (List.Forall₂.flip storing.stored) among
  rw [bne_iff_ne, stored.key]
  exact fun same => depot.bundles.apart whole (List.mem_filter.1 listed).1 (congrArg nameParts same.symm)

end Storing

/-- What is stored is what is at its place. -/
theorem Stored.of_at? {tree other : FileTree} {item : String × StagedEntry}
    (stored : Stored respond bytes region tree member item)
    (kept : ∀ {file : Files.File}, tree.at? (region ++ nameParts member.name) = some (.file file) →
      other.at? (region ++ nameParts member.name) = some (.file file)) :
    Stored respond bytes region other member item := by
  obtain ⟨file, held, rest⟩ := stored.held
  exact ⟨stored.key, stored.name, file, kept held, rest⟩

theorem callsFor_append (bytes : Bytes) (first second : List Zip.Member) :
    callsFor bytes (first ++ second) = callsFor bytes first ++ callsFor bytes second := by
  rw [callsFor, List.filter_append, List.map_append]
  rfl

theorem callsFor_cons (bytes : Bytes) (member : Zip.Member) (rest : List Zip.Member) :
    callsFor bytes (member :: rest) = if isClassName member.name then
      (classOfResource member.name, contentFrom bytes member) :: callsFor bytes rest
    else callsFor bytes rest := by
  rw [callsFor, List.filter_cons]
  split
  · rfl
  · rfl

section Steps

variable {middle after : Workspace} {next : Staging} {transformed : Bool}

namespace Storing

include depot storing whole entry

/-- One more entry has been stored, while time has passed. -/
theorem add (passes : state.files.TimePasses middle.files) (dated : Rebuild.Dated middle.files.clock)
    (fills : Fills middle.files after.files region (nameParts member.name)
      (outputFor respond old.content member))
    (goesOn : fateFor plan.failFast respond old.content member = .passes)
    (attends : Attends context artifact opened region origin after) (manifest : next.manifest = none)
    (recorded : staging.rebuilder.record member false transformed = .ok next.rebuilder)
    (going : Going plan.failFast respond note context.invoker printed (callsFor old.content (past ++ [member]))
      next.report.failures after) :
    Storing plan.failFast respond note context artifact opened region origin old.content tree top first
      printed (past ++ [member]) next after := by
  have names := depot.bundles.nameParts_eq entry
  have takes := (storing.takes depot entry).passes passes
  have agrees : Agrees middle.files region tree top := fun found =>
    storing.agrees ((passes.at? _).symm.trans found)
  have held : Rebuild.Holds tree (top ++ nameParts member.name) false := ⟨_, names ▸ entry.held, rfl⟩
  rw [Rebuild.record_of_fresh (storing.fresh depot whole entry)] at recorded
  have remembered := Except.ok.inj recorded
  refine ⟨attends, ?_, manifest, agrees.puts depot.bundles.sound held fills.puts, fills.clock ▸ dated, ?_,
    going⟩
  · obtain ⟨staged, same⟩ := storing.remembers
    exact ⟨_, by rw [← remembered, same]⟩
  · have filtered : (past ++ [member]).filter (fun member =>
        fateFor plan.failFast respond old.content member = .passes) = past.filter (fun member =>
        fateFor plan.failFast respond old.content member = .passes) ++ [member] := by
      rw [List.filter_append, List.filter_singleton, goesOn]
      rfl
    rw [filtered, ← remembered]
    refine List.rel_append ?_ (.cons ?_ .nil)
    · refine ((List.forall₂_and_left _ _).2
        ⟨fun _ among => (List.mem_filter.1 among).1, storing.stored⟩).imp ?_
      rintro other item ⟨earlier, stored⟩
      exact stored.of_at? fun kept =>
        takes.kept_of_fills fills (depot.bundles.apart whole earlier) ((passes.at? _).trans kept)
    · obtain ⟨file, there, content, modified⟩ := fills.filled
      exact ⟨depot.bundles.keyOf_eq entry, rfl, file, there, content, fun _ => modified ▸ dated⟩

omit entry whole in
include rooted in
/-- What has been staged has left everything else as it was. -/
theorem attends_after (leaves : host.LeavesFiles) {outcome : Outcome Staging}
    (attendsCalled : Attends context artifact opened region origin middle)
    (run : stageEntry host plan context opened staging member state = (outcome, after))
    (same : SameObjects middle after) : Attends context artifact opened region origin after := by
  obtain ⟨healthy, step⟩ := (keeps_stageEntry leaves depot.mode opened (storing.remembers.rooted rooted)
    member).run run storing.attends.healthy
  exact attendsCalled.of_same depot.reopens healthy (trans_of (Within region) storing.attends.within step) same

omit whole in
include rooted in
/-- The path of an entry in the staging directory. -/
theorem pathFor_run : staging.rebuilder.pathFor member.name state =
    (.ok (under (FileTree.pathOf region) (nameParts member.name)), state) :=
  Rebuild.pathFor_run (storing.remembers.rooted rooted) (storing.linkless depot) (storing.takes depot entry)

include rooted

omit whole in
/-- An entry is staged as a class or copied. -/
theorem stageEntry_eq (host : Host) (plan : Plan) :
    stageEntry host plan context opened staging member state = (if isClassName member.name then
        stageClass host plan context staging member (under (FileTree.pathOf region) (nameParts member.name))
      else do
        let (_, rebuilder) ← staging.rebuilder.stageCopy opened.file member
        return { staging with
          report := { staging.report with copied := staging.report.copied + 1 }
          rebuilder }) state := by
  have ordinary : isManifestName member.name = false := by
    rw [entry.name]
    exact (depot.common entry.held).ordinary
  have leaf : isDirectoryName member.name = false ∧ checkName member.name = .ok () := by
    rw [entry.name]
    exact leaf_of_names (depot.bundles.names_ne_nil entry.held) (depot.bundles.segments entry.held)
  rw [stageEntry, if_neg (Bool.eq_false_iff.1 ordinary), leaf.2, Work.ofOutcome, pure_bind,
    if_neg (Bool.eq_false_iff.1 leaf.1), bind_of_ok (storing.pathFor_run depot rooted entry)]
  cases isClassName member.name with
  | true => simp only [depot.filter, Bool.and_self, if_true]
  | false => simp only [Bool.false_and, Bool.false_eq_true, if_false]

/-- An entry that is no class is copied. -/
theorem copies (leaves : host.LeavesFiles) (plain : isClassName member.name = false) :
    ∃ next after, stageEntry host plan context opened staging member state = (.ok next, after) ∧
      Storing plan.failFast respond note context artifact opened region origin old.content tree top first
        printed (past ++ [member]) next after := by
  have output : outputFor respond old.content member = file.content := by
    rw [outputFor, if_neg (Bool.eq_false_iff.1 plain), entry.content]
  obtain ⟨files, copied, fills⟩ := Rebuild.stageCopy_eq
    (storing.remembers.rooted rooted) (storing.linkless depot) (storing.takes depot entry)
    (storing.held depot) entry.read
  obtain ⟨recorded, records⟩ : ∃ recorded, staging.rebuilder.record member false false = .ok recorded :=
    ⟨_, Rebuild.record_of_fresh (storing.fresh depot whole entry) false⟩
  rw [records, ← depot.same] at copied
  have run : stageEntry host plan context opened staging member state =
      (.ok { staging with
        report := { staging.report with copied := staging.report.copied + 1 }
        rebuilder := recorded }, { state with files }) := by
    rw [storing.stageEntry_eq depot rooted entry, if_neg (Bool.eq_false_iff.1 plain), bind_of_ok copied]
    rfl
  have same : SameObjects state { state with files } := ⟨rfl, rfl, rfl, rfl⟩
  refine ⟨_, _, run, storing.add depot whole entry (.refl _) storing.dated (output ▸ fills) ?_
    (storing.attends_after depot rooted leaves storing.attends run same) storing.manifest records ?_⟩
  · rw [fateFor, if_neg (Bool.eq_false_iff.1 plain)]
  · rw [callsFor_append, callsFor_cons, if_neg (Bool.eq_false_iff.1 plain)]
    rw [show callsFor old.content [] = [] from rfl, List.append_nil]
    exact storing.going.other (storing.going.prepared.of_same same) rfl

omit rooted in
/-- A class is found in its own entry. -/
theorem resolves (isClass : isClassName member.name = true) :
    ∃ location resolved, Resolver.resolve ⟨context.mode, some context.classpath⟩
        ⟨member.name, classOfResource member.name, under (FileTree.pathOf region) (nameParts member.name)⟩
        state = (.ok (.new (classOfResource member.name) location
          (under (FileTree.pathOf region) (nameParts member.name)) file.content), resolved) ∧
      resolved.files = state.files ∧ resolved.printed = state.printed ∧
      Attends context artifact opened region origin resolved := by
  let className := classOfResource member.name
  have found : opened.archive.find? (resourceOfClass className) = some member := by
    have spelled := (depot.common entry.held).spelled (depot.bundles.names_ne_nil entry.held)
      (depot.bundles.segments entry.held) (entry.name ▸ isClass)
    rw [← entry.name] at spelled
    rw [spelled]
    exact depot.bundles.find?_eq depot.common (whole ▸ List.mem_append_right past List.mem_cons_self)
  have read : opened.read state.files member = .ok file.content := by
    rw [Classpath.OpenArchive.read, depot.same, storing.attends.healthy.files.contentOf_eq (storing.held depot),
      Option.getD_some, entry.read]
  obtain ⟨classpaths, resolves, fronted⟩ := storing.attends.fronted.resolve_run found read
  refine ⟨⟨artifact.toString, some (resourceOfClass className)⟩, { state with classpaths }, ?_, rfl, rfl,
    ⟨storing.attends.healthy.files, storing.attends.healthy.quiet⟩, storing.attends.within, fronted,
    storing.attends.prepared⟩
  rw [depot.mode]
  exact bind_of_ok resolves

omit depot rooted whole entry in
/-- An entry whose call fails is not stored. -/
theorem skip (passes : state.files.TimePasses after.files) (dated : Rebuild.Dated after.files.clock)
    (fails : fateFor plan.failFast respond old.content member = .fails)
    (attends : Attends context artifact opened region origin after) (manifest : next.manifest = none)
    (same : next.rebuilder = staging.rebuilder)
    (going : Going plan.failFast respond note context.invoker printed (callsFor old.content (past ++ [member]))
      next.report.failures after) :
    Storing plan.failFast respond note context artifact opened region origin old.content tree top first
      printed (past ++ [member]) next after := by
  have filtered : (past ++ [member]).filter (fun member =>
      fateFor plan.failFast respond old.content member = .passes) = past.filter (fun member =>
      fateFor plan.failFast respond old.content member = .passes) := by
    rw [List.filter_append, List.filter_singleton, fails]
    exact List.append_nil _
  refine ⟨attends, same ▸ storing.remembers, manifest,
    fun found => storing.agrees ((passes.at? _).symm.trans found), dated, ?_, going⟩
  rw [filtered, same]
  exact storing.stored.imp fun _ _ stored => stored.of_at? fun held => (passes.at? _).trans held

/-- The call on an entry that is a class stops the run, or the class is stored unless the call fails. -/
theorem calls (calculates : host.Calculates respond note) (isClass : isClassName member.name = true) :
    (fateFor plan.failFast respond old.content member = .stops ∧ ∃ failure after,
        stageEntry host plan context opened staging member state = (.error failure, after) ∧
          after.printed = printed ++ String.join
            ((callsFor old.content (past ++ [member])).map fun call => note call.1 call.2)) ∨
      fateFor plan.failFast respond old.content member ≠ .stops ∧ ∃ next after,
        stageEntry host plan context opened staging member state = (.ok next, after) ∧
          Storing plan.failFast respond note context artifact opened region origin old.content tree top first
            printed (past ++ [member]) next after := by
  obtain ⟨location, resolved, seeks, sameFiles, samePrinted, attendsResolved⟩ :=
    storing.resolves depot whole entry isClass
  obtain ⟨called, interim, processes⟩ := process_run calculates plan staging.report
    attendsResolved.prepared attendsResolved.healthy.quiet seeks rfl
  have attendsCalled := attendsResolved.interim depot.reopens interim
  have prints : called.printed = state.printed ++ note (classOfResource member.name) file.content := by
    rw [← samePrinted]
    exact interim.printed
  have passes : state.files.TimePasses called.files := sameFiles ▸ interim.passes
  have dated : Rebuild.Dated called.files.clock := interim.dated (sameFiles ▸ storing.dated)
  have more : callsFor old.content (past ++ [member]) =
      callsFor old.content past ++ [(classOfResource member.name, file.content)] := by
    rw [callsFor_append, callsFor_cons, if_pos isClass, entry.content]
    rfl
  have fate : verdict plan.failFast (respond (classOfResource member.name) file.content) =
      fateFor plan.failFast respond old.content member := by
    rw [fateFor, if_pos isClass, entry.content]
  have run := storing.stageEntry_eq depot rooted entry host plan
  rw [if_pos isClass] at run
  change Processes host plan context staging.report _ _ _ state called
    (verdict plan.failFast (respond (classOfResource member.name) file.content)) at processes
  rw [fate] at processes
  rw [run]
  cases ended : fateFor plan.failFast respond old.content member with
  | stops =>
      rw [ended] at processes
      cases processes with
      | stopped stops =>
          refine .inl ⟨rfl, _, called, stageClass_of_stopped stops, ?_⟩
          rw [more]
          exact storing.going.printed_call prints
  | fails =>
      rw [ended] at processes
      cases processes with
      | failed failures goes =>
          refine .inr ⟨by decide, _, called, stageClass_of_failed goes,
            storing.skip passes dated ended attendsCalled storing.manifest rfl ?_⟩
          rw [more]
          refine storing.going.call attendsCalled.prepared prints (iff_of_false failures ?_)
          rw [fate, ended]
          rintro ⟨_, ⟨⟩⟩
  | passes =>
      rw [ended] at processes
      cases processes with
      | @passed answer settles goes =>
          let made : Target := { Target.new (classOfResource member.name) location
            (under (FileTree.pathOf region) (nameParts member.name)) file.content with
              transformed := substance answer, applied := true }
          have takes := (storing.takes depot entry).passes passes
          obtain ⟨changed, told, files, writes, logged, fills⟩ :=
            writeBack_run takes attendsCalled.healthy.quiet plan.logger made rfl
          obtain ⟨report, failures, processed⟩ := goes (depot.mode ▸ writes)
          obtain ⟨recorded, records⟩ : ∃ recorded,
              staging.rebuilder.record member false (!made.isNoop) = .ok recorded :=
            ⟨_, Rebuild.record_of_fresh (storing.fresh depot whole entry) _⟩
          have staged := stageClass_of_passed processed records
          have same : SameObjects called { told with files } := ⟨logged.objects.contexts,
            logged.objects.classpaths, logged.objects.invokers, logged.objects.printed⟩
          have written : (substance made.transformed).getD made.content =
              outputFor respond old.content member := by
            rw [outputFor, if_pos isClass, entry.content, substance_substance]
            exact settles
          have attends := storing.attends_after depot rooted calculates.leavesFiles attendsCalled
            (run.trans staged) same
          refine .inr ⟨by decide, _, _, staged, storing.add depot whole entry passes dated (written ▸ fills)
            ended attends storing.manifest records ?_⟩
          rw [more]
          refine storing.going.call attends.prepared (logged.printed.trans prints) ?_
          rw [failures, fate, ended]
          exact (and_iff_left rfl).symm

end Storing
end Steps

/-! ## All entries -/

/-- A call is one on an entry. -/
theorem exists_of_mem_callsFor {members : List Zip.Member} {call : String × Bytes}
    (among : call ∈ callsFor bytes members) :
    ∃ member ∈ members, ∀ failFast, fateFor failFast respond bytes member =
      verdict failFast (respond call.1 call.2) := by
  obtain ⟨member, listed, rfl⟩ := List.mem_map.1 among
  obtain ⟨among, isClass⟩ := List.mem_filter.1 listed
  exact ⟨member, among, fun failFast => if_pos isClass⟩

/-- The staging of all entries stops at the call that stops the run, or it goes through. -/
theorem storing_run (calculates : host.Calculates respond note)
    (depot : Depot context artifact opened region place origin old tree top) (rooted : Rooted first region)
    (start : Storing plan.failFast respond note context artifact opened region origin old.content tree top
      first printed [] staging state) :
    (∃ past call rest failure after, callsFor old.content opened.archive.members = past ++ call :: rest ∧
        (∀ call ∈ past, verdict plan.failFast (respond call.1 call.2) ≠ .stops) ∧
        verdict plan.failFast (respond call.1 call.2) = .stops ∧
        opened.archive.members.foldlM (stageEntry host plan context opened) staging state =
          (.error failure, after) ∧ after.printed = printed ++
            String.join ((past ++ [call]).map fun call => note call.1 call.2)) ∨
      (∀ call ∈ callsFor old.content opened.archive.members,
          verdict plan.failFast (respond call.1 call.2) ≠ .stops) ∧ ∃ final after,
        opened.archive.members.foldlM (stageEntry host plan context opened) staging state =
            (.ok final, after) ∧
          Storing plan.failFast respond note context artifact opened region origin old.content tree top first
            printed opened.archive.members final after := by
  have step : ∀ {past rest : List Zip.Member} {member : Zip.Member} {value : Staging} {state : Workspace},
      opened.archive.members = past ++ member :: rest →
      Storing plan.failFast respond note context artifact opened region origin old.content tree top first
        printed past value state →
      (fateFor plan.failFast respond old.content member = .stops ∧ ∃ failure after,
        stageEntry host plan context opened value member state = (.error failure, after) ∧
          after.printed = printed ++ String.join
            ((callsFor old.content (past ++ [member])).map fun call => note call.1 call.2)) ∨
      fateFor plan.failFast respond old.content member ≠ .stops ∧ ∃ next after,
        stageEntry host plan context opened value member state = (.ok next, after) ∧
          Storing plan.failFast respond note context artifact opened region origin old.content tree top first
            printed (past ++ [member]) next after := by
    intro past rest member value state whole storing
    obtain ⟨names, file, entry⟩ :=
      depot.bundles.unpacked member (whole ▸ List.mem_append_right past List.mem_cons_self)
    cases isClass : isClassName member.name with
    | true => exact storing.calls depot rooted whole entry calculates isClass
    | false =>
        refine .inr ⟨?_, storing.copies depot rooted whole entry calculates.leavesFiles isClass⟩
        rw [fateFor, if_neg (Bool.eq_false_iff.1 isClass)]
        decide
  rcases @foldlM_verdicts _ _ _ _ (fateFor plan.failFast respond old.content)
    (fun past value state => Storing plan.failFast respond note context artifact opened region origin
      old.content tree top first printed past value state)
    (fun past state => state.printed = printed ++
      String.join ((callsFor old.content past).map fun call => note call.1 call.2))
    (fun whole storing goes => (step whole storing).elim (fun stops => absurd stops.1 goes) And.right)
    (fun whole storing stops => (step whole storing).elim And.right fun goes => absurd stops goes.1)
    _ _ start with ⟨past, member, rest, whole, earlier, stops, failure, after, run, prints⟩ |
      ⟨goes, final, after, run, storing⟩
  · have isClass : isClassName member.name = true := by
      by_contra plain
      rw [fateFor, if_neg plain] at stops
      cases stops
    refine .inl ⟨callsFor old.content past, (classOfResource member.name, contentFrom old.content member),
      callsFor old.content rest, failure, after, ?_, fun call among => ?_, ?_, run, ?_⟩
    · rw [whole, callsFor_append, callsFor_cons, if_pos isClass]
    · obtain ⟨member, listed, same⟩ := @exists_of_mem_callsFor respond _ _ _ among
      exact same plan.failFast ▸ earlier member listed
    · rwa [fateFor, if_pos isClass] at stops
    · rwa [callsFor_append, callsFor_cons, if_pos isClass] at prints
  · refine .inr ⟨fun call among => ?_, final, after, run, storing⟩
    obtain ⟨member, listed, same⟩ := @exists_of_mem_callsFor respond _ _ _ among
    exact same plan.failFast ▸ goes member listed

/-! ## What has been stored -/

/-- A file that has its date, or that takes one that it can have, comes to a record. -/
theorem exists_fileRecord {staged : StagedEntry} {file : Files.File}
    (dated : staged.stamp = none → Rebuild.Dated file.modified) :
    ∃ stamp, staged.fileRecord file = .ok (.ofContent staged.name stamp Zip.methodDeflated
      (Rebuild.attributesOr staged.attributes Rebuild.fileAttributes) file.content) := by
  cases known : staged.stamp with
  | some stamp =>
      refine ⟨stamp, ?_⟩
      rw [StagedEntry.fileRecord, known]
      rfl
  | none =>
      obtain ⟨stamp, stamped⟩ := dated known
      refine ⟨stamp, ?_⟩
      rw [StagedEntry.fileRecord, known]
      simp only [stamped]
      rfl

namespace Storing

variable {final : Staging} {after : Workspace} {isDirectory : Bool} {staged : StagedEntry}
  (stored : Storing plan.failFast respond note context artifact opened region origin old.content tree top
    first printed opened.archive.members final after)
  (clean : final.report.failures = [])

include depot stored clean

omit depot in
/-- If no call has failed, all entries are stored. -/
theorem all : List.Forall₂ (Stored respond old.content region after.files) opened.archive.members
    final.rebuilder.staged := by
  have passes := stored.going.failures.1 clean
  have every : opened.archive.members.filter (fun member =>
      fateFor plan.failFast respond old.content member = .passes) = opened.archive.members := by
    refine List.filter_eq_self.2 fun member among => decide_eq_true ?_
    by_cases isClass : isClassName member.name = true
    · have called : (classOfResource member.name, contentFrom old.content member) ∈
          callsFor old.content opened.archive.members :=
        List.mem_map_of_mem (List.mem_filter.2 ⟨among, isClass⟩)
      rw [fateFor, if_pos isClass]
      exact passes (classOfResource member.name, contentFrom old.content member) called
    · rw [fateFor, if_neg isClass]
  have held := stored.stored
  rwa [every] at held

/-- What is remembered has the key of a file. -/
theorem exists_stored (known : final.rebuilder.staged.lookup (Rebuild.keyAt names isDirectory) = some staged) :
    isDirectory = false ∧ ∃ spot file member, member ∈ opened.archive.members ∧
      IsEntry tree top old.content spot file member ∧
      Rebuild.keyAt names false = Rebuild.keyAt spot false ∧
      Stored respond old.content region after.files member (Rebuild.keyAt names isDirectory, staged) := by
  obtain ⟨member, among, held⟩ :=
    Rebuild.exists_of_forall₂ (List.Forall₂.flip (stored.all clean)) (Rebuild.mem_of_lookup known)
  obtain ⟨spot, file, entry⟩ := depot.bundles.unpacked member among
  have spelled : Rebuild.keyAt names isDirectory = "/".intercalate spot := held.key.trans entry.name
  have bare : Rebuild.keyAt spot false = "/".intercalate spot := String.append_empty
  cases isDirectory with
  | false => exact ⟨rfl, spot, file, member, among, entry, spelled.trans bare.symm, held⟩
  | true =>
      have plain := (leaf_of_names (depot.bundles.names_ne_nil entry.held)
        (depot.bundles.segments entry.held)).1
      rw [← spelled, isDirectoryName, Bool.eq_false_iff, ne_eq, Path.endsWith_slash_iff] at plain
      exact absurd ⟨("/".intercalate names).toList, by rw [Rebuild.keyAt, String.toList_append]; rfl⟩ plain

/-- A file that is remembered under its key is that of an entry. -/
theorem stored_at {there : Files.File} (held : after.files.at? (region ++ names) = some (.file there))
    (known : final.rebuilder.staged.lookup (Rebuild.keyAt names false) = some staged) :
    ∃ file member, member ∈ opened.archive.members ∧ IsEntry tree top old.content names file member ∧
      staged.name = member.name ∧ there.content = outputFor respond old.content member ∧
      (staged.stamp = none → Rebuild.Dated there.modified) := by
  obtain ⟨_, spot, file, member, among, entry, key, stored_⟩ := stored.exists_stored depot clean known
  have clear := stored.clear depot
  have nonempty : names ≠ [] := by
    rintro rfl
    rw [List.append_nil, clear.alive] at held
    cases held
  have segments : ∀ name ∈ names, IsSegment name := fun name listed =>
    (stored.attends.healthy.files.named held name (List.mem_append_right region listed)).1
  obtain ⟨rfl, _⟩ := Rebuild.keyAt_injective nonempty (depot.bundles.names_ne_nil entry.held) segments
    (depot.bundles.segments entry.held) key
  obtain ⟨other, same, content, dated⟩ := stored_.held
  rw [depot.bundles.nameParts_eq entry, held] at same
  obtain rfl := Files.Entry.file.inj (Option.some.inj same)
  exact ⟨file, member, among, entry, stored_.name, content, dated⟩

/-- The staging directory has everything that is to be written. -/
theorem furnished : Rebuild.Furnished final.rebuilder after.files region where
  sound := stored.attends.healthy.files
  clear := stored.clear depot
  askable := by
    have ground : tree.at? (top ++ []) = some .directory := by rw [List.append_nil, depot.bundles.alive]
    simpa [under] using depot.room ground
  passable _ held := by
    obtain ⟨entry, found, _⟩ := stored.agrees held
    exact .inl (depot.room found)
  held key among := by
    obtain ⟨item, listed, rfl⟩ := List.mem_map.1 among
    obtain ⟨member, listed, held⟩ := Rebuild.exists_of_forall₂ (List.Forall₂.flip (stored.all clean)) listed
    obtain ⟨names, file, entry⟩ := depot.bundles.unpacked member listed
    obtain ⟨there, found, _⟩ := held.held
    rw [depot.bundles.nameParts_eq entry] at found
    refine ⟨names, false, ?_, depot.bundles.names_ne_nil entry.held, depot.room entry.held, _, found, rfl⟩
    rw [held.key, entry.name]
    exact String.append_empty.symm
  fileRecord held known := by
    obtain ⟨_, _, _, _, _, _, dated⟩ := stored.stored_at depot clean held known
    obtain ⟨_, made⟩ := exists_fileRecord dated
    exact ⟨_, made⟩
  directoryRecord known := by
    obtain ⟨folder, _⟩ := stored.exists_stored depot clean known
    cases folder

end Storing

end Entries
end Run
end ClassLoom
