import ClassLoom.Classpath.Lookup
import ClassLoom.Proofs.Work

namespace ClassLoom
namespace Classpath

/-!
# The first element of a classpath

The elements are asked in their order, so that an archive that stands first answers for every resource
that it holds, whatever stands behind it.  It answers with the last entry of that name, read from the
file that was opened.
-/

open Files (Path)

variable {number : Nat} {path : Path} {opened : OpenArchive} {rest : List Root} {before after : Workspace}

/-- An open classpath begins with an archive, which is open, or which opens when it is asked. -/
structure Fronted (number : Nat) (path : Path) (opened : OpenArchive) (rest : List Root)
    (state : Workspace) : Prop where
  opens : openArchive state.files path = .ok opened
  front : ∃ handle, state.classpaths[number]? = some ⟨.archive path handle :: rest, false⟩ ∧
    ∀ held ∈ handle, held = opened

theorem opened_front {handle : Option OpenArchive} (opens : openArchive before.files path = .ok opened)
    (same : ∀ held ∈ handle, held = opened) :
    (Root.archive path handle).opened before.files = .ok (.archive path (some opened)) := by
  cases handle with
  | none => simp only [Root.opened, opens]
  | some held => rw [same held rfl, Root.opened]; simp

/-- What is read from an archive that is open is what its last entry of that name holds. -/
theorem read_front {tree : Files.FileTree} {entry : String} {member : Zip.Member} {content : Bytes}
    (found : opened.archive.find? entry = some member)
    (read : Root.read tree ⟨path.toString, some entry⟩ (.archive path (some opened)) = .ok content) :
    opened.read tree member = .ok content := by
  have entryRead : Root.readEntry tree opened (some entry) = opened.read tree member := by
    rw [Root.readEntry, found]
  rw [Root.read, entryRead] at read
  split at read
  next _ answer =>
    rw [answer, Except.ok.inj read]
  next => cases read
  next =>
    split at read
    · cases read
    · cases read

theorem classpath_run {context : Context} (known : before.classpaths[number]? = some context) :
    Work.classpath number before = (.ok context, before) := by
  change (Except.ok (before.classpaths.getD number ⟨[], true⟩), before) = _
  rw [List.getD_eq_getElem?_getD, known, Option.getD_some]

/-- Asking an element opens it, and changes nothing else. -/
theorem askRoot_run {α : Type} {context : Context} {position : Nat} {root : Root}
    (known : before.classpaths[number]? = some context) (there : context.roots[position]? = some root)
    (question : Files.FileTree → Root → Outcome α) :
    Classpath.askRoot number position question before = match root.opened before.files with
      | .error failure => (.error failure, before)
      | .ok opened => ((question before.files opened).map some, { before with
          classpaths := before.classpaths.set number
            { context with roots := context.roots.set position opened } }) := by
  rw [Classpath.askRoot, run_bind, classpath_run known]
  simp only [there]
  rw [Work.files_bind]
  cases root.opened before.files with
  | error failure => rfl
  | ok opened =>
      simp only
      change (Work.ofOutcome (question before.files opened) >>= fun answer => pure (some answer)) _ = _
      cases answered : question before.files opened with
      | ok answer => rfl
      | error failure => rfl

/-- Asking the first element opens it, and changes nothing else. -/
theorem Fronted.askRoot {α : Type} (fronted : Fronted number path opened rest before)
    (question : Files.FileTree → Root → Outcome α) :
    ∃ classpaths, Classpath.askRoot number 0 question before =
        ((question before.files (.archive path (some opened))).map some, { before with classpaths }) ∧
      Fronted number path opened rest { before with classpaths } := by
  obtain ⟨handle, known, same⟩ := fronted.front
  have inside : number < before.classpaths.length := (List.getElem?_eq_some_iff.1 known).1
  let asked : Context := ⟨.archive path (some opened) :: rest, false⟩
  refine ⟨before.classpaths.set number asked, ?_, fronted.opens, some opened,
    List.getElem?_set_self inside, ?_⟩
  · rw [askRoot_run known List.getElem?_cons_zero question, opened_front fronted.opens same]
    rfl
  · rintro held ⟨⟩
    rfl

/-- Where the first element holds the resource of a class, the class is what is read there. -/
theorem Fronted.resolve_eq (fronted : Fronted number path opened rest before) {className : String}
    {member : Zip.Member} (found : opened.archive.find? (resourceOfClass className) = some member) :
    ∃ classpaths, Classpath.resolve number className before =
        ((Root.read before.files ⟨path.toString, some (resourceOfClass className)⟩
            (.archive path (some opened))).map fun content =>
          ⟨className, content, ⟨path.toString, some (resourceOfClass className)⟩⟩,
        { before with classpaths }) ∧
      Fronted number path opened rest { before with classpaths } := by
  obtain ⟨handle, known, _⟩ := fronted.front
  have count : (Root.archive path handle :: rest).length = rest.length + 1 := rfl
  obtain ⟨asked, asking, frontedAsked⟩ :=
    fronted.askRoot fun tree root => root.find? tree (resourceOfClass className)
  have place : Root.find? before.files (resourceOfClass className) (.archive path (some opened)) =
      .ok (some ⟨path.toString, some (resourceOfClass className)⟩) := by
    rw [Root.find?, found, Option.map_some]
  obtain ⟨last, reading, frontedLast⟩ :=
    frontedAsked.askRoot fun tree root =>
      root.read tree ⟨path.toString, some (resourceOfClass className)⟩
  rw [place] at asking
  have located : findFrom number (resourceOfClass className) (rest.length + 1) 0 before =
      (.ok (some (0, ⟨path.toString, some (resourceOfClass className)⟩)),
        { before with classpaths := asked }) := by
    rw [findFrom, run_bind, asking]
    rfl
  have opens : checkOpen number before = (.ok (), before) := by
    rw [checkOpen, run_bind, classpath_run known]
    rfl
  refine ⟨last, ?_, frontedLast⟩
  rw [Classpath.resolve, run_bind, opens]
  simp only
  rw [run_bind, classpath_run known]
  simp only [count]
  rw [run_bind, located]
  simp only
  rw [run_bind, reading]
  cases Root.read before.files ⟨path.toString, some (resourceOfClass className)⟩
      (.archive path (some opened)) with
  | error failure => rfl
  | ok content => rfl

/-- Where the first element holds the resource of a class, the class is what its last entry of that name
holds. -/
theorem Fronted.resolve (fronted : Fronted number path opened rest before) {className : String}
    {member : Zip.Member} (found : opened.archive.find? (resourceOfClass className) = some member)
    {source : Source} {after : Workspace}
    (run : Classpath.resolve number className before = (.ok source, after)) :
    opened.read before.files member = .ok source.content ∧ source.className = className ∧
      source.location = ⟨path.toString, some (resourceOfClass className)⟩ ∧
      after.files = before.files ∧ Fronted number path opened rest after := by
  obtain ⟨classpaths, resolves, frontedAfter⟩ := fronted.resolve_eq found
  rw [resolves] at run
  cases answer : Root.read before.files ⟨path.toString, some (resourceOfClass className)⟩
      (.archive path (some opened)) with
  | error failure =>
      rw [answer] at run
      cases run
  | ok content =>
      rw [answer] at run
      obtain ⟨same, rfl⟩ := Prod.mk.inj run
      obtain rfl := Except.ok.inj same
      exact ⟨read_front found answer, rfl, rfl, rfl, frontedAfter⟩

/-- The class is found if the entry can be read. -/
theorem Fronted.resolve_run (fronted : Fronted number path opened rest before) {className : String}
    {member : Zip.Member} (found : opened.archive.find? (resourceOfClass className) = some member)
    {content : Bytes} (read : opened.read before.files member = .ok content) :
    ∃ classpaths, Classpath.resolve number className before =
        (.ok ⟨className, content, ⟨path.toString, some (resourceOfClass className)⟩⟩,
          { before with classpaths }) ∧
      Fronted number path opened rest { before with classpaths } := by
  obtain ⟨classpaths, resolves, frontedAfter⟩ := fronted.resolve_eq found
  refine ⟨classpaths, ?_, frontedAfter⟩
  have entryRead : Root.readEntry before.files opened (some (resourceOfClass className)) = .ok content := by
    rw [Root.readEntry, found]
    exact read
  rw [resolves, Root.read, entryRead]
  rfl

/-- Where nothing stands behind the first element, a class that is found is found there. -/
theorem Fronted.exists_found (fronted : Fronted number path opened [] before) {className : String}
    {source : Source} {after : Workspace}
    (run : Classpath.resolve number className before = (.ok source, after)) :
    ∃ member, opened.archive.find? (resourceOfClass className) = some member := by
  cases search : opened.archive.find? (resourceOfClass className) with
  | some member => exact ⟨member, rfl⟩
  | none =>
      obtain ⟨handle, known, _⟩ := fronted.front
      obtain ⟨asked, asking, _⟩ :=
        fronted.askRoot fun tree root => root.find? tree (resourceOfClass className)
      have place : Root.find? before.files (resourceOfClass className) (.archive path (some opened)) =
          .ok none := by
        rw [Root.find?, search, Option.map_none]
      rw [place] at asking
      have missed : findFrom number (resourceOfClass className) 1 0 before =
          (.ok none, { before with classpaths := asked }) := by
        rw [findFrom, run_bind, asking]
        rfl
      have opens : checkOpen number before = (.ok (), before) := by
        rw [checkOpen, run_bind, classpath_run known]
        rfl
      rw [Classpath.resolve, run_bind, opens] at run
      simp only at run
      rw [run_bind, classpath_run known] at run
      simp only [List.length_singleton] at run
      rw [run_bind, missed] at run
      cases run

/-- An element of a classpath is as it was, or its archive has been opened. -/
def Opening (tree : Files.FileTree) (root later : Root) : Prop :=
  later = root ∨ root.opened tree = .ok later

/-- Of the classpaths, nothing has changed but that archives have been opened. -/
def Opens (before after : Workspace) : Prop :=
  ∀ {number : Nat} {context : Context}, before.classpaths[number]? = some context →
    ∃ roots, after.classpaths[number]? = some ⟨roots, context.closed⟩ ∧
      List.Forall₂ (Opening before.files) context.roots roots

theorem Fronted.of_same (fronted : Fronted number path opened rest before)
    (same : after.classpaths = before.classpaths) (opens : openArchive after.files path = .ok opened) :
    Fronted number path opened rest after :=
  ⟨opens, same ▸ fronted.front⟩

/-- That archives are opened is nothing to an archive that is the only element. -/
theorem Fronted.of_opens (fronted : Fronted number path opened [] before) (opening : Opens before after)
    (opens : openArchive after.files path = .ok opened) : Fronted number path opened [] after := by
  obtain ⟨handle, known, same⟩ := fronted.front
  obtain ⟨_, knownAfter, pairs⟩ := opening known
  obtain ⟨root, _, comesTo, nothing, rfl⟩ := List.forall₂_cons_left_iff.1 pairs
  obtain rfl := List.forall₂_nil_left_iff.1 nothing
  refine ⟨opens, ?_⟩
  rcases comesTo with rfl | made
  · exact ⟨handle, knownAfter, same⟩
  · rw [opened_front fronted.opens same] at made
    obtain rfl := Except.ok.inj made
    refine ⟨some opened, knownAfter, ?_⟩
    rintro _ ⟨⟩
    rfl

end Classpath
end ClassLoom
