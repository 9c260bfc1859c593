import ClassLoom.Classpath.Lookup
import ClassLoom.Proofs.Files.Soundness
import ClassLoom.Proofs.Work
import ClassLoom.Transformer.Invocation

namespace ClassLoom

/-!
# What work leaves alone

Most work does nothing to the file tree: it logs, looks classes up, and calls transformers.  That a
transformer leaves the files alone is an assumption on the host; that logging does is one on the
loggers, none of which may have a file among its handlers.

A frame is a relation between file trees that allows for nothing having happened, for one thing after
another, and for the passing of time.  Everything here keeps every frame.
-/

open Files (FileTree FileWork Path)

variable {α β : Type}

/-- No logger writes to a file. -/
def Workspace.LogsToNoFile (workspace : Workspace) : Prop :=
  ∀ logger ∈ workspace.loggers, ∀ handler ∈ logger.handlers, ∀ log : Log.LogFile,
    handler ≠ .file log

/-- A workspace whose file tree is one, and whose log goes elsewhere. -/
structure Workspace.Healthy (workspace : Workspace) : Prop where
  files : workspace.files.Sound
  quiet : workspace.LogsToNoFile

/-- What happens between two workspaces happens between healthy ones, and is of a kind. -/
def Follows (related : FileTree → FileTree → Prop) (before after : Workspace) : Prop :=
  before.Healthy → after.Healthy ∧ related before.files after.files

/-- A kind of change that may be nothing, that may go on, and that is not about time. -/
class Frame (related : FileTree → FileTree → Prop) : Prop extends IsPreorder FileTree related where
  clock : ∀ (tree : FileTree) (moment : Files.Moment), related tree { tree with clock := moment }

/-- Trees with the same in every place. -/
structure Files.FileTree.Alike (before after : FileTree) : Prop where
  places : ∀ place, after.at? place = before.at? place
  start : after.start = before.start

instance : Frame FileTree.Alike where
  refl _ := ⟨fun _ => rfl, rfl⟩
  trans _ _ _ first second := ⟨fun place => (second.places place).trans (first.places place),
    second.start.trans first.start⟩
  clock _ _ := ⟨fun _ => rfl, rfl⟩

/-- The tool's part of a transformer is to look at classes only: it may take time, and it opens no log
file. -/
structure Host.LeavesFiles (host : Host) : Prop where
  transform : ∀ (ready : Transformer.Ready) (loader : Option Nat) (className : String)
    (content : Bytes) (workspace : Workspace),
    let after := (host.transform ready loader className content workspace).2
    (∃ moment, after.files = { workspace.files with clock := moment }) ∧
      (workspace.LogsToNoFile → after.LogsToNoFile)
  construct : ∀ (procedure : Nat) (workspace : Workspace),
    let after := (host.construct procedure workspace).2
    (∃ moment, after.files = { workspace.files with clock := moment }) ∧
      (workspace.LogsToNoFile → after.LogsToNoFile)

theorem Files.FileTree.Sound.clock {tree : FileTree} (sound : tree.Sound) (moment : Files.Moment) :
    ({ tree with clock := moment } : FileTree).Sound :=
  ⟨sound.once, sound.placed, sound.named, sound.rooted, sound.alone, sound.numbered, sound.gone,
    sound.start⟩

/-- Work that keeps equality leaves the files alone. -/
theorem Keeps.still {work : Work α} (kept : Keeps (Follows Eq) work) {before after : Workspace}
    {outcome : Outcome α} (healthy : before.Healthy) (run : work before = (outcome, after)) :
    after.Healthy ∧ after.files = before.files :=
  (kept.run run healthy).imp_right Eq.symm

section Files

variable {related : FileTree → FileTree → Prop}

theorem Work.keeps_onFiles {work : FileWork α}
    (kept : Keeps (fun before after => before.Sound → after.Sound ∧ related before after) work) :
    Keeps (Follows related) (Work.onFiles work) := by
  intro workspace healthy
  obtain ⟨sound, change⟩ := kept workspace.files healthy.files
  exact ⟨⟨sound, healthy.quiet⟩, change⟩

variable [IsPreorder FileTree related]

instance : IsPreorder Workspace (Follows related) where
  refl workspace healthy := ⟨healthy, refl_of related workspace.files⟩
  trans first middle last one two healthy := by
    obtain ⟨healthyMiddle, start⟩ := one healthy
    obtain ⟨healthyLast, further⟩ := two healthyMiddle
    exact ⟨healthyLast, trans_of related start further⟩

/-- A workspace with the same files and the same loggers is as good as the one before. -/
theorem follows_of_same {before after : Workspace} (files : after.files = before.files)
    (loggers : after.loggers = before.loggers) : Follows related before after := by
  intro healthy
  refine ⟨⟨files ▸ healthy.files, ?_⟩, files ▸ refl_of related before.files⟩
  unfold Workspace.LogsToNoFile
  rw [loggers]
  exact healthy.quiet

end Files

/-! ## Relations that allow for bookkeeping -/

/-- Classpaths are made and asked: none is lost, and none that has been closed is open again. -/
def Classpath.Onward (before after : List Classpath.Context) : Prop :=
  ∀ (number : Nat) (context : Classpath.Context), before[number]? = some context →
    ∃ later, after[number]? = some later ∧ (context.closed = true → later.closed = true)

/-- A relation that allows for logging. -/
class Logging (related : Workspace → Workspace → Prop) : Prop extends
    IsPreorder Workspace related where
  logged : ∀ (name : String) (level : Log.Level) (message : String) (context : Log.Context)
    (error : Option String), Keeps related (Log.write name level message context error)

/-- A relation that allows for logging, and for the use of classpaths, invokers and the like. -/
class Housekeeping (related : Workspace → Workspace → Prop) : Prop extends Logging related where
  kept : ∀ {before after : Workspace}, after.files = before.files → after.loggers = before.loggers →
    after.printed = before.printed → after.contexts = before.contexts →
    Classpath.Onward before.classpaths after.classpaths → related before after

/-- A relation that allows for logging, and for any change that is none of the files, of the loggers
and of what is printed. -/
class Bookkeeping (related : Workspace → Workspace → Prop) : Prop extends Logging related where
  same : ∀ {before after : Workspace}, after.files = before.files → after.loggers = before.loggers →
    after.printed = before.printed → related before after

instance {related : Workspace → Workspace → Prop} [Bookkeeping related] : Housekeeping related where
  kept files loggers printed _ _ := Bookkeeping.same files loggers printed

namespace Classpath.Onward

variable {contexts : List Classpath.Context}

theorem refl (contexts : List Classpath.Context) : Onward contexts contexts :=
  fun _ context held => ⟨context, held, id⟩

theorem trans {first middle last : List Classpath.Context} (one : Onward first middle)
    (two : Onward middle last) : Onward first last := by
  intro number context held
  obtain ⟨between, heldBetween, closes⟩ := one number context held
  obtain ⟨later, heldLater, closesLater⟩ := two number between heldBetween
  exact ⟨later, heldLater, fun closed => closesLater (closes closed)⟩

theorem append (contexts : List Classpath.Context) (context : Classpath.Context) :
    Onward contexts (contexts ++ [context]) := by
  intro number old held
  exact ⟨old, List.getElem?_append_left (List.getElem?_eq_some_iff.1 held).1 ▸ held, id⟩

/-- A classpath may be changed in any way that does not open it. -/
theorem modify {change : Classpath.Context → Classpath.Context}
    (closes : ∀ context : Classpath.Context, context.closed = true → (change context).closed = true)
    (contexts : List Classpath.Context) (number : Nat) :
    Onward contexts (contexts.modify number change) := by
  intro other context held
  rw [List.getElem?_modify, held]
  by_cases same : number = other
  · exact ⟨change context, by simp [same], closes context⟩
  · exact ⟨context, by simp [same], id⟩

theorem set {number : Nat} {context replaced : Classpath.Context}
    (here : contexts.getD number ⟨[], true⟩ = context)
    (closes : context.closed = true → replaced.closed = true) :
    Onward contexts (contexts.set number replaced) := by
  intro other old held
  rw [List.getElem?_set]
  by_cases same : number = other
  · subst same
    have found : context = old := by
      rw [← here, List.getD_eq_getElem?_getD, held, Option.getD_some]
    refine ⟨replaced, ?_, fun closed => closes (found ▸ closed)⟩
    rw [if_pos rfl, if_pos (List.getElem?_eq_some_iff.1 held).1]
  · exact ⟨old, by rw [if_neg same]; exact held, id⟩

end Classpath.Onward

section Relations

variable {related : Workspace → Workspace → Prop}

namespace Work

theorem keeps_attempt {work : Work α} (kept : Keeps related work) :
    Keeps related (Work.attempt work) := by
  refine keeps_of_run fun run => ?_
  obtain ⟨result, stage, _⟩ := attempt_cases run
  exact kept.run stage

theorem keeps_recast {change : Failure → Option Failure} {work : Work α}
    (kept : Keeps related work) : Keeps related (Work.recast change work) := by
  refine keeps_of_run fun run => ?_
  rcases recast_cases run with ⟨_, stage, _⟩ | ⟨_, stage, _⟩
  · exact kept.run stage
  · exact kept.run stage

section Looking

variable [IsPreorder Workspace related]

theorem keeps_ofOutcome (outcome : Outcome α) : Keeps related (Work.ofOutcome outcome) := by
  cases outcome with
  | ok value => exact keeps_pure value
  | error failure => exact keeps_throw failure

theorem keeps_ask (question : FileTree → Except Files.FileError α) :
    Keeps related (Work.ask question) := by
  refine keeps_of_run fun run => ?_
  obtain ⟨rfl, _⟩ := ask_cases run
  exact refl_of related _

theorem keeps_files : Keeps related Work.files := keeps_get.bind fun _ => keeps_pure _

theorem keeps_classpath (number : Nat) : Keeps related (Work.classpath number) :=
  keeps_get.bind fun _ => keeps_pure _

theorem keeps_invoker (number : Nat) : Keeps related (Work.invoker number) :=
  keeps_get.bind fun _ => keeps_pure _

end Looking

end Work

theorem keeps_modify {change : Workspace → Workspace}
    (kept : ∀ workspace, related workspace (change workspace)) :
    Keeps related (modify change : Work Unit) :=
  fun workspace => kept workspace

namespace Work

theorem keeps_ensuring [IsPreorder Workspace related] {work : Work α}
    {finish : Workspace → Workspace} (kept : Keeps related work)
    (last : ∀ workspace, related workspace (finish workspace)) :
    Keeps related (Work.ensuring work finish) := by
  refine keeps_of_run fun run => ?_
  obtain ⟨middle, stage, rfl⟩ := ensuring_cases run
  exact trans_of related (kept.run stage) (last middle)

variable [Housekeeping related]

theorem keeps_addClasspath (context : Classpath.Context) :
    Keeps related (Work.addClasspath context) :=
  fun workspace => Housekeeping.kept rfl rfl rfl rfl (.append workspace.classpaths context)

theorem keeps_changeInvoker (number : Nat) (change : Transformer.Invoker → Transformer.Invoker) :
    Keeps related (Work.changeInvoker number change) :=
  keeps_modify fun workspace => Housekeeping.kept rfl rfl rfl rfl (.refl workspace.classpaths)

theorem keeps_addInvoker (invoker : Transformer.Invoker) :
    Keeps related (Work.addInvoker invoker) :=
  fun workspace => Housekeeping.kept rfl rfl rfl rfl (.refl workspace.classpaths)

end Work

end Relations

/-! ## Logging -/

namespace Log

/-- Handlers that are no files do nothing to the files, and stay what they are. -/
theorem takeAll_quiet (record : Record) (workspace : Workspace) {handlers : List Handler}
    (quiet : ∀ handler ∈ handlers, ∀ log, handler ≠ Handler.file log) :
    (takeAll record handlers workspace).1.files = workspace.files ∧
      (takeAll record handlers workspace).1.loggers = workspace.loggers ∧
      (takeAll record handlers workspace).1.printed = workspace.printed ∧
      (takeAll record handlers workspace).2 = handlers := by
  induction handlers generalizing workspace with
  | nil => exact ⟨rfl, rfl, rfl, rfl⟩
  | cons handler rest inductionHypothesis =>
      have restQuiet : ∀ handler ∈ rest, ∀ log, handler ≠ Handler.file log :=
        fun handler member => quiet handler (List.mem_cons_of_mem _ member)
      unfold takeAll
      cases handler with
      | listener =>
          obtain ⟨files, loggers, printed, same⟩ :=
            inductionHypothesis (Handler.take record .listener workspace).1 restQuiet
          exact ⟨files, loggers, printed, congrArg _ same⟩
      | console =>
          obtain ⟨files, loggers, printed, same⟩ :=
            inductionHypothesis (Handler.take record .console workspace).1 restQuiet
          exact ⟨files, loggers, printed, congrArg _ same⟩
      | file log => exact absurd rfl (quiet _ List.mem_cons_self log)

theorem install_quiet {logger : Logger} {workspace : Workspace} (healthy : workspace.LogsToNoFile)
    (quiet : ∀ handler ∈ logger.handlers, ∀ log, handler ≠ Handler.file log) :
    (install logger workspace).LogsToNoFile := by
  intro other member
  unfold install at member
  simp only at member
  split at member
  · obtain ⟨old, listed, rfl⟩ := List.mem_map.1 member
    split
    · exact quiet
    · exact healthy old listed
  · rcases List.mem_append.1 member with listed | last
    · exact healthy other listed
    · exact List.mem_singleton.1 last ▸ quiet

/-- Logging changes neither the files nor what is printed, unless a logger writes to a file. -/
theorem write_quiet {before : Workspace} (quiet : before.LogsToNoFile) (name : String) (level : Level)
    (message : String) (context : Context) (error : Option String) :
    (write name level message context error before).2.files = before.files ∧
      (write name level message context error before).2.printed = before.printed ∧
      (write name level message context error before).2.LogsToNoFile := by
  unfold write
  simp only [modify, modifyGet, MonadStateOf.modifyGet, monadLift, MonadLift.monadLift, ExceptT.lift,
    ExceptT.mk, StateT.modifyGet, Functor.map, StateT.map]
  split
  next => exact ⟨rfl, rfl, quiet⟩
  next logger found =>
    split
    next =>
      have handlersQuiet := quiet logger (List.mem_of_find?_eq_some found)
      generalize withContext message ((Context.ofLayers before.contexts).update context) = text
      obtain ⟨files, loggers, printed, same⟩ :=
        takeAll_quiet ⟨name, level, text, error⟩ before handlersQuiet
      rcases taken : takeAll ⟨name, level, text, error⟩ logger.handlers before with ⟨after, handlers⟩
      rw [taken] at files loggers printed same
      simp only at files loggers printed same
      have still : after.LogsToNoFile := by
        unfold Workspace.LogsToNoFile
        rw [loggers]
        exact quiet
      exact ⟨files, printed, install_quiet still (same ▸ handlersQuiet)⟩
    next => exact ⟨rfl, rfl, quiet⟩

theorem takeAll_objects (record : Record) (handlers : List Handler) (workspace : Workspace) :
    (takeAll record handlers workspace).1.contexts = workspace.contexts ∧
      (takeAll record handlers workspace).1.classpaths = workspace.classpaths ∧
      (takeAll record handlers workspace).1.invokers = workspace.invokers ∧
      (takeAll record handlers workspace).1.printed = workspace.printed := by
  induction handlers generalizing workspace with
  | nil => exact ⟨rfl, rfl, rfl, rfl⟩
  | cons handler rest inductionHypothesis =>
      unfold takeAll
      cases handler <;> exact inductionHypothesis _

/-- Logging changes neither the log contexts, nor a classpath, nor an invoker, nor what is printed. -/
theorem write_objects (name : String) (level : Level) (message : String) (context : Context)
    (error : Option String) (before : Workspace) :
    (write name level message context error before).2.contexts = before.contexts ∧
      (write name level message context error before).2.classpaths = before.classpaths ∧
      (write name level message context error before).2.invokers = before.invokers ∧
      (write name level message context error before).2.printed = before.printed := by
  unfold write
  simp only [modify, modifyGet, MonadStateOf.modifyGet, monadLift, MonadLift.monadLift, ExceptT.lift,
    ExceptT.mk, StateT.modifyGet, Functor.map, StateT.map]
  split
  next => exact ⟨rfl, rfl, rfl, rfl⟩
  next logger found =>
    split
    next => exact takeAll_objects _ logger.handlers before
    next => exact ⟨rfl, rfl, rfl, rfl⟩

instance {related : FileTree → FileTree → Prop} [IsPreorder FileTree related] :
    Bookkeeping (Follows related) where
  same files loggers _ := follows_of_same files loggers
  logged name level message context error := by
    intro before healthy
    obtain ⟨files, _, quiet⟩ := write_quiet healthy.quiet name level message context error
    exact ⟨⟨files ▸ healthy.files, quiet⟩, files ▸ refl_of related before.files⟩

/-- Logging does not fail. -/
theorem write_answers {name message : String} {level : Level} {context : Context}
    {error : Option String} {before after : Workspace} {outcome : Outcome Unit}
    (run : write name level message context error before = (outcome, after)) : outcome = .ok () :=
  (congrArg Prod.fst run).symm

section Writing

variable {related : Workspace → Workspace → Prop} [Logging related]

theorem keeps_debug (name message : String) : Keeps related (debug name message) :=
  Logging.logged name .debug message [] none

theorem keeps_info (name message : String) : Keeps related (info name message) :=
  Logging.logged name .info message [] none

theorem keeps_warning (name message : String) : Keeps related (warning name message) :=
  Logging.logged name .warning message [] none

theorem keeps_globalLogger : Keeps related globalLogger :=
  keeps_get.bind fun _ => keeps_pure _

theorem keeps_exception (name message kind text : String) (description : String)
    (context : Context) :
    Keeps related (exception name message kind text description context) :=
  Logging.logged name .error message _ _

theorem inContext_cases {context : Context} {work : Work α} {before after : Workspace}
    {outcome : Outcome α} (run : inContext context work before = (outcome, after)) :
    ∃ last, work { before with contexts := before.contexts ++ [context] } = (outcome, last) ∧
      after = { last with contexts := last.contexts.dropLast } := by
  rcases bind_cases run with ⟨_, entered, _⟩ | ⟨_, _, entered, course⟩
  · cases entered
  · obtain rfl := (Prod.mk.inj entered).2
    exact Work.ensuring_cases course

theorem inContext_congr {context : Context} {work other : Work α} {before : Workspace}
    (same : work { before with contexts := before.contexts ++ [context] } =
      other { before with contexts := before.contexts ++ [context] }) :
    inContext context work before = inContext context other before := by
  rw [inContext, inContext, run_bind, run_bind]
  exact Work.ensuring_congr same

theorem keeps_inContext {related : Workspace → Workspace → Prop} [Bookkeeping related]
    (context : Context) {work : Work α} (kept : Keeps related work) :
    Keeps related (inContext context work) := by
  refine Keeps.bind ?_ fun _ => Work.keeps_ensuring kept fun _ => Bookkeeping.same rfl rfl rfl
  exact keeps_modify fun _ => Bookkeeping.same rfl rfl rfl

end Writing

end Log

/-! ## Looking classes up -/

namespace Classpath

section Making

variable {related : Workspace → Workspace → Prop} [Logging related]

theorem keeps_filterMapM {ι : Type} {step : ι → Work (Option α)}
    (kept : ∀ item, Keeps related (step item)) (items : List ι) :
    Keeps related (items.filterMapM step) := by
  suffices loop : ∀ found, Keeps related (List.filterMapM.loop step items found) from loop []
  induction items with
  | nil => exact fun found => keeps_pure found.reverse
  | cons item rest inductionHypothesis =>
      intro found
      refine (kept item).bind fun answer => ?_
      cases answer with
      | none => exact inductionHypothesis found
      | some value => exact inductionHypothesis (value :: found)

theorem keeps_rootOf (path : Path) : Keeps related (rootOf? path) := by
  refine Log.keeps_globalLogger.bind fun logger => ?_
  refine (Work.keeps_ask _).bind fun isDirectory => ?_
  split
  · exact (Log.keeps_debug _ _).bind fun _ => keeps_pure _
  refine (Work.keeps_ask _).bind fun isFile => ?_
  split
  · refine Work.keeps_files.bind fun tree => (Work.keeps_ofOutcome _).bind fun isArchive => ?_
    split
    · exact (Log.keeps_debug _ _).bind fun _ => keeps_pure _
    · exact (Log.keeps_warning _ _).bind fun _ => keeps_pure _
  · exact (Log.keeps_warning _ _).bind fun _ => keeps_pure _

theorem keeps_rootsOf (elements : List String) : Keeps related (rootsOf elements) :=
  keeps_filterMapM (fun _ => keeps_rootOf _) elements

end Making

variable {related : Workspace → Workspace → Prop} [Housekeeping related]

/-- An element that is asked may be opened, but the classpath is as closed as before. -/
theorem keeps_askRoot (number position : Nat) (question : FileTree → Root → Outcome α) :
    Keeps related (askRoot number position question) := by
  refine keeps_of_run fun {before after outcome} run => ?_
  rcases bind_cases run with ⟨_, asked, _⟩ | ⟨context, reached, asked, found⟩
  · cases asked
  obtain ⟨known, rfl⟩ := Prod.mk.inj asked
  cases held : context.roots[position]? with
  | none =>
      simp only [held] at found
      exact (pure_ok found).2 ▸ refl_of related before
  | some root =>
      simp only [held] at found
      rw [Work.files_bind] at found
      rcases bind_cases found with ⟨_, refused, _⟩ | ⟨opened, current, opens, keeping⟩
      · exact (Work.ofOutcome_cases refused).1 ▸ refl_of related before
      obtain ⟨rfl, _⟩ := Work.ofOutcome_cases opens
      rcases bind_cases keeping with ⟨_, replaced, _⟩ | ⟨_, middle, replaced, asking⟩
      · cases replaced
      have moved : related current middle :=
        (Prod.mk.inj replaced).2 ▸
          Housekeeping.kept rfl rfl rfl rfl (.set (Except.ok.inj known) id)
      refine trans_of related moved (Keeps.run ?_ asking)
      exact Work.keeps_files.bind fun _ => (Work.keeps_ofOutcome _).bind fun _ => keeps_pure _

theorem keeps_checkOpen (number : Nat) : Keeps related (checkOpen number) := by
  refine (Work.keeps_classpath number).bind fun context => ?_
  split
  · exact keeps_throw _
  · exact keeps_pure _

theorem keeps_findFrom (number : Nat) (resource : String) (left position : Nat) :
    Keeps related (findFrom number resource left position) := by
  induction left generalizing position with
  | zero => exact keeps_pure none
  | succ left inductionHypothesis =>
      refine (keeps_askRoot number position _).bind fun answer => ?_
      split
      · exact keeps_pure _
      · exact inductionHypothesis (position + 1)

theorem keeps_contains (number : Nat) (className : String) :
    Keeps related (contains number className) := by
  refine Keeps.bind ?_ fun _ => keeps_pure _
  exact (keeps_checkOpen number).bind fun _ => (Work.keeps_classpath number).bind fun _ =>
    (keeps_findFrom number _ _ _).bind fun _ => keeps_pure _

theorem keeps_resolve (number : Nat) (className : String) :
    Keeps related (resolve number className) := by
  refine (keeps_checkOpen number).bind fun _ => (Work.keeps_classpath number).bind fun context => ?_
  refine (keeps_findFrom number _ _ _).bind fun found => ?_
  split
  · exact keeps_throw _
  · refine (keeps_askRoot number _ _).bind fun content => ?_
    split
    · exact keeps_pure _
    · exact keeps_throw _

end Classpath

/-! ## Calling transformers -/

namespace Transformer

variable {host : Host}

section Making

variable {related : Workspace → Workspace → Prop} [IsPreorder Workspace related]

theorem keeps_instantiate (made : ∀ procedure, Keeps related (host.construct procedure))
    (plugin : Plugin) (name : Option String) : Keeps related (instantiate host plugin name) := by
  unfold instantiate
  split
  next procedure complaint instance_ _ =>
    refine (Work.keeps_recast ?_).bind fun _ => Work.keeps_ofOutcome _
    cases procedure with
    | none =>
        split
        · exact keeps_throw _
        · exact keeps_pure _
    | some procedure =>
        refine (made procedure).bind fun _ => ?_
        split
        · exact keeps_throw _
        · exact keeps_pure _
  next => exact Work.keeps_ofOutcome _

theorem keeps_resolve (made : ∀ procedure, Keeps related (host.construct procedure))
    (spec : Option Plugin) : Keeps related (resolve host spec) := by
  unfold resolve
  split
  · exact keeps_throw _
  · exact keeps_pure _
  · exact keeps_throw _
  · exact keeps_get.bind fun _ => (Work.keeps_ofOutcome _).bind fun _ =>
      keeps_instantiate made _ _
  · exact keeps_instantiate made _ _

end Making

section Calling

variable {related : Workspace → Workspace → Prop} [Housekeeping related]

theorem Invoker.keeps_prepare (made : ∀ procedure, Keeps related (host.construct procedure))
    (number : Nat) : Keeps related (Invoker.prepare host number) := by
  refine (Work.keeps_invoker number).bind fun invoker => ?_
  split
  · exact keeps_pure _
  · exact (keeps_resolve made _).bind fun _ => (Work.keeps_changeInvoker number _).bind fun _ =>
      Log.keeps_globalLogger.bind fun _ => (Log.keeps_debug _ _).bind fun _ => keeps_pure _

/-- A call keeps what the making of transformers and the transformers keep. -/
theorem Invoker.keeps_invoke_of (made : ∀ procedure, Keeps related (host.construct procedure))
    (called : ∀ ready loader className content,
      Keeps related (host.transform ready loader className content))
    (number : Nat) (className : String) (content : Bytes) :
    Keeps related (Invoker.invoke host number className content) := by
  refine (Invoker.keeps_prepare made number).bind fun ready => ?_
  refine (Work.keeps_invoker number).bind fun invoker => ?_
  refine (Work.keeps_attempt (called ready _ className content)).bind fun outcome => ?_
  split
  · split
    · exact (Work.keeps_changeInvoker number _).bind fun _ => keeps_throw _
    · exact keeps_throw _
  · split
    · exact (Work.keeps_changeInvoker number _).bind fun _ => keeps_throw _
    · exact (Work.keeps_changeInvoker number _).bind fun _ => keeps_pure _

end Calling

variable {related : FileTree → FileTree → Prop} [Frame related]

/-- What a host does to a workspace is no more than time passing. -/
theorem follows_of_clock {before after : Workspace}
    (still : (∃ moment, after.files = { before.files with clock := moment }) ∧
      (before.LogsToNoFile → after.LogsToNoFile)) : Follows related before after := by
  obtain ⟨⟨moment, files⟩, quiet⟩ := still
  intro healthy
  exact ⟨⟨files ▸ healthy.files.clock moment, quiet healthy.quiet⟩,
    files ▸ Frame.clock before.files moment⟩

theorem keeps_construct (leaves : host.LeavesFiles) (procedure : Nat) :
    Keeps (Follows related) (host.construct procedure) :=
  fun workspace => follows_of_clock (leaves.construct procedure workspace)

theorem Invoker.keeps_invoke (leaves : host.LeavesFiles) (number : Nat) (className : String)
    (content : Bytes) : Keeps (Follows related) (Invoker.invoke host number className content) :=
  Invoker.keeps_invoke_of (keeps_construct leaves) (fun ready _ className content workspace =>
    follows_of_clock (leaves.transform ready _ className content workspace)) number className content

end Transformer

end ClassLoom
