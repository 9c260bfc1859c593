import ClassLoom.Proofs.Classpath.Front

namespace ClassLoom
namespace Classpath

/-!
# One answer to every question

Where a class is, whether there is one and what it holds are asked of the elements of a classpath one
after another.  The three questions are settled by the same thing, the first element that does not
answer that it lacks the resource: it has the resource, or it cannot say.

Asking opens archives and does nothing else, and an open archive answers as it did when it was opened.
So the answer is a function of the elements as they are written down, whatever has been asked before.
-/

variable {tree : Files.FileTree} {resource className : String} {root later opened : Root}
  {roots front back passed rest : List Root} {number : Nat} {location : Location} {before : Workspace}

/-! ## Answers of elements -/

/-- What an element answers for a resource: the place, and the element in which it can be read. -/
def Root.answer (tree : Files.FileTree) (resource : String) (root : Root) :
    Outcome (Option (Root × Location)) :=
  match root.opened tree with
  | .error failure => .error failure
  | .ok opened =>
    match opened.find? tree resource with
    | .error failure => .error failure
    | .ok place => .ok (place.map fun location => (opened, location))

/-- Elements without a resource. -/
def Lacks (tree : Files.FileTree) (resource : String) (roots : List Root) : Prop :=
  ∀ root ∈ roots, root.answer tree resource = .ok none

/-- The answer of the first element that does not lack the resource. -/
def firstAnswer (tree : Files.FileTree) (resource : String) :
    List Root → Outcome (Option (Root × Location))
  | [] => .ok none
  | root :: rest =>
    match root.answer tree resource with
    | .ok none => firstAnswer tree resource rest
    | settled => settled

theorem opened_opened (opens : root.opened tree = .ok opened) : opened.opened tree = .ok opened := by
  cases root with
  | directory path =>
      obtain rfl := Except.ok.inj opens
      rfl
  | archive path handle =>
      cases handle with
      | some handle =>
          obtain rfl := Except.ok.inj opens
          rfl
      | none =>
          unfold Root.opened at opens
          simp only at opens
          split at opens
          · obtain rfl := Except.ok.inj opens
            rfl
          · split at opens
            · cases opens
            · cases opens

/-- What answers for a resource is open, and tells the place. -/
theorem answer_eq_some_iff : root.answer tree resource = .ok (some (opened, location)) ↔
    root.opened tree = .ok opened ∧ opened.find? tree resource = .ok (some location) := by
  rw [Root.answer]
  constructor
  · intro answered
    split at answered
    · cases answered
    next element opens =>
      split at answered
      · cases answered
      next place found =>
        obtain ⟨there, rfl, same⟩ := Option.map_eq_some_iff.mp (Except.ok.inj answered)
        obtain ⟨rfl, rfl⟩ := Prod.mk.inj same
        exact ⟨opens, found⟩
  · intro ⟨opens, found⟩
    rw [opens]
    simp only
    rw [found]
    rfl

/-- An element that has been opened answers as it would have answered before. -/
theorem answer_of_opening (opening : Opening tree root later) :
    later.answer tree resource = root.answer tree resource := by
  rcases opening with rfl | opens
  · rfl
  · rw [Root.answer, Root.answer, opened_opened opens, opens]

theorem firstAnswer_of_opening (opening : List.Forall₂ (Opening tree) roots passed) :
    firstAnswer tree resource passed = firstAnswer tree resource roots := by
  induction opening with
  | nil => rfl
  | cons first _ inductionHypothesis =>
      rw [firstAnswer, firstAnswer, answer_of_opening first, inductionHypothesis]

/-! ## The order of the elements -/

theorem firstAnswer_append_of_lacks (lacks : Lacks tree resource front) :
    firstAnswer tree resource (front ++ back) = firstAnswer tree resource back := by
  induction front with
  | nil => rfl
  | cons root front inductionHypothesis =>
      rw [List.cons_append, firstAnswer, lacks root List.mem_cons_self]
      exact inductionHypothesis fun other member => lacks other (List.mem_cons_of_mem root member)

/-- What has been answered is answered whatever comes behind. -/
theorem firstAnswer_append (settled : firstAnswer tree resource front ≠ .ok none) :
    firstAnswer tree resource (front ++ back) = firstAnswer tree resource front := by
  induction front with
  | nil => exact absurd rfl settled
  | cons root front inductionHypothesis =>
      rw [firstAnswer] at settled
      rw [List.cons_append, firstAnswer, firstAnswer]
      cases answered : root.answer tree resource with
      | error failure => rfl
      | ok answer =>
          cases answer with
          | some found => rfl
          | none =>
              rw [answered] at settled
              exact inductionHypothesis settled

/-- What stands behind matters by its answer only. -/
theorem firstAnswer_append_congr
    (same : firstAnswer tree resource passed = firstAnswer tree resource rest) :
    firstAnswer tree resource (front ++ passed) = firstAnswer tree resource (front ++ rest) := by
  induction front with
  | nil => exact same
  | cons root front inductionHypothesis =>
      rw [List.cons_append, List.cons_append, firstAnswer, firstAnswer, inductionHypothesis]

/-- Elements that lack the resource can stand anywhere. -/
theorem firstAnswer_insert (lacks : Lacks tree resource passed) :
    firstAnswer tree resource (front ++ passed ++ back) = firstAnswer tree resource (front ++ back) := by
  rw [List.append_assoc]
  apply firstAnswer_append_congr
  exact firstAnswer_append_of_lacks lacks

theorem firstAnswer_eq_none_iff :
    firstAnswer tree resource roots = .ok none ↔ Lacks tree resource roots := by
  constructor
  · intro missed
    induction roots with
    | nil => exact nofun
    | cons root rest inductionHypothesis =>
        rw [firstAnswer] at missed
        split at missed
        next lacks =>
          intro other member
          rcases List.mem_cons.mp member with rfl | later
          · exact lacks
          · exact inductionHypothesis missed other later
        next unsettled => exact absurd missed unsettled
  · intro lacks
    rw [← List.append_nil roots]
    exact firstAnswer_append_of_lacks lacks

/-- An element that has the resource answers if those before it lack the resource. -/
theorem firstAnswer_eq_some_iff {found : Root × Location} :
    firstAnswer tree resource roots = .ok (some found) ↔
      ∃ front root back, roots = front ++ root :: back ∧ Lacks tree resource front ∧
        root.answer tree resource = .ok (some found) := by
  constructor
  · intro settled
    induction roots with
    | nil => cases settled
    | cons root rest inductionHypothesis =>
        rw [firstAnswer] at settled
        split at settled
        next lacks =>
          obtain ⟨front, holder, back, rfl, bare, answered⟩ := inductionHypothesis settled
          refine ⟨root :: front, holder, back, rfl, ?_, answered⟩
          intro other member
          rcases List.mem_cons.mp member with rfl | later
          · exact lacks
          · exact bare other later
        next => exact ⟨[], root, rest, rfl, nofun, settled⟩
  · rintro ⟨front, root, back, rfl, lacks, answered⟩
    rw [firstAnswer_append_of_lacks lacks, firstAnswer, answered]

/-! ## Asking the elements in a row -/

/-- An open classpath with certain elements. -/
def IsOpen (number : Nat) (roots : List Root) (state : Workspace) : Prop :=
  state.classpaths[number]? = some ⟨roots, false⟩

/-- A state in which a classpath has other elements. -/
def withRoots (number : Nat) (roots : List Root) (state : Workspace) : Workspace :=
  { state with classpaths := state.classpaths.set number ⟨roots, false⟩ }

theorem isOpen_withRoots (known : IsOpen number roots before) (passed : List Root) :
    IsOpen number passed (withRoots number passed before) := by
  have inside : number < before.classpaths.length := (List.getElem?_eq_some_iff.mp known).1
  exact List.getElem?_set_self inside

theorem withRoots_self (known : IsOpen number roots before) : withRoots number roots before = before := by
  obtain ⟨inside, there⟩ := List.getElem?_eq_some_iff.mp known
  rw [withRoots, ← there, List.set_getElem_self]

theorem withRoots_withRoots (number : Nat) (roots passed : List Root) (state : Workspace) :
    withRoots number passed (withRoots number roots state) = withRoots number passed state := by
  simp only [withRoots, List.set_set]

/-- Asking an element that is open changes nothing. -/
theorem askRoot_open {α : Type} {position : Nat} (known : IsOpen number roots before)
    (there : roots[position]? = some root) (opens : root.opened before.files = .ok root)
    (question : Files.FileTree → Root → Outcome α) :
    Classpath.askRoot number position question before =
      ((question before.files root).map some, before) := by
  have inside : roots.set position root = roots := by
    obtain ⟨bound, same⟩ := List.getElem?_eq_some_iff.mp there
    rw [← same, List.set_getElem_self]
  rw [askRoot_run known there, opens]
  simp only [inside]
  exact congrArg (Prod.mk _) (withRoots_self known)

/-- The position of an answer, and the answer. -/
inductive Locates (roots : List Root) :
    Outcome (Option (Nat × Location)) → Outcome (Option (Root × Location)) → Prop
  | failed {failure : Failure} : Locates roots (.error failure) (.error failure)
  | missed : Locates roots (.ok none) (.ok none)
  | found {position : Nat} {root : Root} {location : Location} : roots[position]? = some root →
      Locates roots (.ok (some (position, location))) (.ok (some (root, location)))

/-- Asking an element for a resource opens it, and tells the place if there is one. -/
theorem ask_run (known : IsOpen number (passed ++ root :: rest) before) (resource : String) :
    Classpath.askRoot number passed.length (fun tree root => root.find? tree resource) before =
      match root.opened before.files with
      | .error failure => (.error failure, before)
      | .ok opened => ((opened.find? before.files resource).map some,
          withRoots number (passed ++ opened :: rest) before) := by
  have there : (passed ++ root :: rest)[passed.length]? = some root := by simp
  rw [askRoot_run known there]
  cases root.opened before.files with
  | error failure => rfl
  | ok opened =>
      simp only [withRoots, List.set_append_right _ _ (Nat.le_refl passed.length), Nat.sub_self,
        List.set_cons_zero]

/-- Asking elements in a row comes to the answer of the first that does not lack the resource, and
opens those that have been asked. -/
theorem findFrom_run (known : IsOpen number (passed ++ rest) before) (resource : String) :
    ∃ outcome roots, findFrom number resource rest.length passed.length before =
        (outcome, withRoots number (passed ++ roots) before) ∧
      List.Forall₂ (Opening before.files) rest roots ∧
      Locates (passed ++ roots) outcome (firstAnswer before.files resource rest) := by
  induction rest generalizing passed before with
  | nil =>
      refine ⟨.ok none, [], ?_, .nil, .missed⟩
      rw [withRoots_self known]
      rfl
  | cons root rest inductionHypothesis =>
      have unchanged : List.Forall₂ (Opening before.files) rest rest :=
        List.forall₂_same.mpr fun other _ => .inl rfl
      have asked := ask_run known resource
      rw [List.length_cons, findFrom, run_bind, asked, firstAnswer, Root.answer]
      cases opens : root.opened before.files with
      | error failure =>
          refine ⟨.error failure, root :: rest, ?_, .cons (.inl rfl) unchanged, .failed⟩
          rw [withRoots_self known]
      | ok opened =>
          have first : Opening before.files root opened := .inr opens
          simp only
          cases opened.find? before.files resource with
          | error failure =>
              exact ⟨.error failure, opened :: rest, rfl, .cons first unchanged, .failed⟩
          | ok place =>
              cases place with
              | some location =>
                  refine ⟨.ok (some (passed.length, location)), opened :: rest, rfl,
                    .cons first unchanged, .found ?_⟩
                  simp
              | none =>
                  have knownNext : IsOpen number (passed ++ [opened] ++ rest)
                      (withRoots number (passed ++ opened :: rest) before) := by
                    rw [List.append_assoc]
                    exact isOpen_withRoots known _
                  obtain ⟨outcome, roots, run, opening, locates⟩ := inductionHypothesis knownNext
                  rw [withRoots_withRoots, List.length_append] at run
                  rw [List.append_assoc] at run locates
                  exact ⟨outcome, opened :: roots, run, .cons first opening, locates⟩

/-! ## The three questions -/

/-- The questions begin with a search through all elements, whatever comes next. -/
theorem search_run (known : IsOpen number roots before) (className : String) :
    ∃ outcome later, List.Forall₂ (Opening before.files) roots later ∧
      Locates later outcome (firstAnswer before.files (resourceOfClass className) roots) ∧
      ∀ {α : Type} (next : Option (Nat × Location) → Work α), (do
        checkOpen number
        let count := (← Work.classpath number).roots.length
        next (← findFrom number (resourceOfClass className) count 0)) before =
          (Work.ofOutcome outcome >>= next) (withRoots number later before) := by
  have knownBare : IsOpen number ([] ++ roots) before := known
  obtain ⟨outcome, later, run, opening, locates⟩ := findFrom_run knownBare (resourceOfClass className)
  rw [List.length_nil, List.nil_append] at run
  rw [List.nil_append] at locates
  refine ⟨outcome, later, opening, locates, fun next => ?_⟩
  have opens : checkOpen number before = (.ok (), before) := by
    rw [checkOpen, run_bind, classpath_run known]
    rfl
  rw [run_bind, opens]
  simp only
  rw [run_bind, classpath_run known]
  simp only
  rw [run_bind, run]
  cases outcome with
  | error failure => rfl
  | ok found => rfl

/-- Where a class is: at the place that the first element tells which does not lack it. -/
theorem find_run (known : IsOpen number roots before) (className : String) :
    ∃ later, List.Forall₂ (Opening before.files) roots later ∧
      Classpath.find number className before =
        ((firstAnswer before.files (resourceOfClass className) roots).map (Option.map Prod.snd),
          withRoots number later before) := by
  obtain ⟨outcome, later, opening, locates, run⟩ := search_run known className
  refine ⟨later, opening, ?_⟩
  rw [Classpath.find, run]
  generalize firstAnswer before.files (resourceOfClass className) roots = answer at locates ⊢
  cases locates with
  | failed => rfl
  | missed => rfl
  | found _ => rfl

/-- There is a class if it is somewhere. -/
theorem contains_run (known : IsOpen number roots before) (className : String) :
    ∃ later, List.Forall₂ (Opening before.files) roots later ∧
      Classpath.contains number className before =
        ((firstAnswer before.files (resourceOfClass className) roots).map Option.isSome,
          withRoots number later before) := by
  obtain ⟨later, opening, run⟩ := find_run known className
  refine ⟨later, opening, ?_⟩
  rw [Classpath.contains, run_bind, run]
  rcases firstAnswer before.files (resourceOfClass className) roots with failure | answer
  · rfl
  · cases answer with
    | none => rfl
    | some found => rfl

/-- What a class holds: what is read at its place, in the element that has told the place. -/
def sourceOf (tree : Files.FileTree) (className : String) :
    Outcome (Option (Root × Location)) → Outcome Source
  | .error failure => .error failure
  | .ok none => .error (.classNotFound className)
  | .ok (some (root, location)) =>
    (root.read tree location).map fun content => ⟨className, content, location⟩

theorem resolve_run (known : IsOpen number roots before) (className : String) :
    ∃ later, List.Forall₂ (Opening before.files) roots later ∧
      Classpath.resolve number className before =
        (sourceOf before.files className
            (firstAnswer before.files (resourceOfClass className) roots),
          withRoots number later before) := by
  obtain ⟨outcome, later, opening, locates, run⟩ := search_run known className
  refine ⟨later, opening, ?_⟩
  rw [Classpath.resolve, run]
  cases answered : firstAnswer before.files (resourceOfClass className) roots with
  | error failure =>
      rw [answered] at locates
      cases locates
      rfl
  | ok answer =>
      rw [answered] at locates
      cases locates with
      | missed => rfl
      | @found position root location there =>
          obtain ⟨_, holder, _, _, _, holds⟩ := firstAnswer_eq_some_iff.mp answered
          have opens := opened_opened (answer_eq_some_iff.mp holds).1
          have asked := askRoot_open (isOpen_withRoots known later) there opens
            fun tree root => root.read tree location
          rw [Work.ofOutcome, pure_bind]
          simp only
          rw [run_bind, asked, sourceOf]
          change _ = (Except.map _ (root.read (withRoots number later before).files location), _)
          cases root.read (withRoots number later before).files location with
          | error failure => rfl
          | ok content => rfl

/-- The outcomes of the three questions are told by one answer. -/
theorem lookups_eq (known : IsOpen number roots before) (className : String) :
    (Classpath.find number className before).1 =
        (firstAnswer before.files (resourceOfClass className) roots).map (Option.map Prod.snd) ∧
      (Classpath.contains number className before).1 =
        (firstAnswer before.files (resourceOfClass className) roots).map Option.isSome ∧
      (Classpath.resolve number className before).1 =
        sourceOf before.files className
          (firstAnswer before.files (resourceOfClass className) roots) := by
  obtain ⟨_, _, finds⟩ := find_run known className
  obtain ⟨_, _, contains⟩ := contains_run known className
  obtain ⟨_, _, resolves⟩ := resolve_run known className
  rw [finds, contains, resolves]
  exact ⟨rfl, rfl, rfl⟩

/-! ## Agreement -/

/-- An element that is open does not say of a place that the class is missing. -/
theorem read_ne_classNotFound (opens : opened.opened tree = .ok opened) (name : String) :
    opened.read tree location ≠ .error (.classNotFound name) := by
  intro missed
  cases opened with
  | directory path =>
      simp only [Root.read] at missed
      split at missed
      · cases missed
      next error _ =>
        cases error with
        | system cause => cases missed
        | embeddedNul => cases missed
  | archive path handle =>
      cases handle with
      | none =>
          unfold Root.opened at opens
          simp only at opens
          split at opens
          · cases opens
          · split at opens
            · cases opens
            · cases opens
      | some handle =>
          simp only [Root.read] at missed
          split at missed
          · cases missed
          · cases missed
          · split at missed
            · cases missed
            · cases missed

/-- The three questions have one answer.  A failure is the same for all of them; a class that is nowhere
is missed by all of them; and a class that is somewhere is at the place that the first element tells
which does not lack it, and is what that element reads there. -/
theorem lookups_agree (known : IsOpen number roots before) (className : String) :
    match (Classpath.find number className before).1 with
    | .error failure => (Classpath.contains number className before).1 = .error failure ∧
        (Classpath.resolve number className before).1 = .error failure
    | .ok none => Lacks before.files (resourceOfClass className) roots ∧
        (Classpath.contains number className before).1 = .ok false ∧
        (Classpath.resolve number className before).1 = .error (.classNotFound className)
    | .ok (some location) => (Classpath.contains number className before).1 = .ok true ∧
        (Classpath.resolve number className before).1 ≠ .error (.classNotFound className) ∧
        ∃ front root back opened, roots = front ++ root :: back ∧
          Lacks before.files (resourceOfClass className) front ∧
          root.opened before.files = .ok opened ∧
          opened.find? before.files (resourceOfClass className) = .ok (some location) ∧
          (Classpath.resolve number className before).1 =
            (opened.read before.files location).map fun content => ⟨className, content, location⟩ := by
  obtain ⟨finds, contains, resolves⟩ := lookups_eq known className
  rw [finds, contains, resolves]
  cases answered : firstAnswer before.files (resourceOfClass className) roots with
  | error failure => exact ⟨rfl, rfl⟩
  | ok answer =>
      cases answer with
      | none => exact ⟨firstAnswer_eq_none_iff.mp answered, rfl, rfl⟩
      | some found =>
          obtain ⟨opened, location⟩ := found
          obtain ⟨front, root, back, whole, lacks, holds⟩ := firstAnswer_eq_some_iff.mp answered
          obtain ⟨opens, place⟩ := answer_eq_some_iff.mp holds
          refine ⟨rfl, ?_, front, root, back, opened, whole, lacks, opens, place, rfl⟩
          intro missed
          have reads : opened.read before.files location ≠ .error (.classNotFound className) :=
            read_ne_classNotFound (opened_opened opens) className
          apply reads
          simp only [sourceOf] at missed
          cases read : opened.read before.files location with
          | ok content =>
              rw [read] at missed
              cases missed
          | error failure =>
              rw [read] at missed
              exact congrArg Except.error (Except.error.inj missed)

section Order

variable {other : Nat} {twin : Workspace}

/-- Classpaths whose elements come to the same answer are told apart by no question. -/
theorem lookups_congr (known : IsOpen number roots before) (knownTwin : IsOpen other rest twin)
    (files : twin.files = before.files)
    (same : firstAnswer before.files (resourceOfClass className) rest =
      firstAnswer before.files (resourceOfClass className) roots) :
    (Classpath.find other className twin).1 = (Classpath.find number className before).1 ∧
      (Classpath.contains other className twin).1 = (Classpath.contains number className before).1 ∧
      (Classpath.resolve other className twin).1 = (Classpath.resolve number className before).1 := by
  obtain ⟨finds, contains, resolves⟩ := lookups_eq known className
  obtain ⟨findsTwin, containsTwin, resolvesTwin⟩ := lookups_eq knownTwin className
  rw [finds, contains, resolves, findsTwin, containsTwin, resolvesTwin, files, same]
  exact ⟨rfl, rfl, rfl⟩

/-- More elements at the end change nothing for a class that is found. -/
theorem lookups_append (known : IsOpen number front before)
    (knownTwin : IsOpen other (front ++ back) twin) (files : twin.files = before.files)
    (found : (Classpath.find number className before).1 ≠ .ok none) :
    (Classpath.find other className twin).1 = (Classpath.find number className before).1 ∧
      (Classpath.contains other className twin).1 = (Classpath.contains number className before).1 ∧
      (Classpath.resolve other className twin).1 = (Classpath.resolve number className before).1 := by
  apply lookups_congr known knownTwin files
  apply firstAnswer_append
  intro missed
  rw [(lookups_eq known className).1, missed] at found
  exact found rfl

/-- Elements that lack the resource of a class change nothing for it, wherever they stand. -/
theorem lookups_insert (known : IsOpen number (front ++ back) before)
    (knownTwin : IsOpen other (front ++ passed ++ back) twin) (files : twin.files = before.files)
    (lacks : Lacks before.files (resourceOfClass className) passed) :
    (Classpath.find other className twin).1 = (Classpath.find number className before).1 ∧
      (Classpath.contains other className twin).1 = (Classpath.contains number className before).1 ∧
      (Classpath.resolve other className twin).1 = (Classpath.resolve number className before).1 :=
  lookups_congr known knownTwin files (firstAnswer_insert lacks)

/-- A look-up is not changed by those before it. -/
theorem lookups_again (known : IsOpen number roots before)
    (opening : List.Forall₂ (Opening before.files) roots passed) :
    (Classpath.find number className (withRoots number passed before)).1 =
        (Classpath.find number className before).1 ∧
      (Classpath.contains number className (withRoots number passed before)).1 =
        (Classpath.contains number className before).1 ∧
      (Classpath.resolve number className (withRoots number passed before)).1 =
        (Classpath.resolve number className before).1 :=
  lookups_congr known (isOpen_withRoots known passed) rfl (firstAnswer_of_opening opening)

end Order

end Classpath
end ClassLoom
