import ClassLoom.Proofs.Files.Spelling

namespace ClassLoom
namespace Files
namespace FileTree

/-!
# What is where after a change

A change of a file tree is described by what it does to every place.  A tree is sound if it could be
that of a file system: a place is listed once, what is there stands in a directory, names are names,
and a file has an identity that no other place and no removed file shares.  Every operation keeps
trees sound, which is said beside the operation.
-/

variable {tree : FileTree}

/-! ## Places below places -/

theorem isBelow_iff {place top : Location} : isBelow place top = true ↔ top <+: place :=
  List.isPrefixOf_iff_prefix

theorem isBelow_refl (place : Location) : isBelow place place = true :=
  isBelow_iff.2 (List.prefix_refl place)

theorem isBelow_trans {place middle top : Location} (lower : isBelow place middle = true)
    (upper : isBelow middle top = true) : isBelow place top = true :=
  isBelow_iff.2 ((isBelow_iff.1 upper).trans (isBelow_iff.1 lower))

theorem isBelow_append (top further : Location) : isBelow (top ++ further) top = true :=
  isBelow_iff.2 (List.prefix_append top further)

theorem exists_append_of_isBelow {place top : Location} (below : isBelow place top = true) :
    ∃ further, place = top ++ further :=
  (isBelow_iff.1 below).imp fun _ whole => whole.symm

/-- Two names in one directory: nothing is below both. -/
theorem not_isBelow_sibling {directory : Location} {first second : String}
    (different : first ≠ second) (further : Location) :
    isBelow (directory ++ first :: further) (directory ++ [second]) = false := by
  cases below : isBelow (directory ++ first :: further) (directory ++ [second]) with
  | false => rfl
  | true =>
      obtain ⟨rest, whole⟩ := exists_append_of_isBelow below
      rw [List.append_assoc, List.append_cancel_left_eq, List.singleton_append,
        List.cons.injEq] at whole
      exact absurd whole.1 different

theorem isBelow_of_isBelow_dropLast {place top : Location}
    (below : isBelow place.dropLast top = true) : isBelow place top = true :=
  isBelow_iff.2 ((isBelow_iff.1 below).trans (List.dropLast_prefix place))

/-- A place below another is that place, or its directory is below it. -/
theorem eq_or_isBelow_dropLast {place top : Location} (below : isBelow place top = true) :
    place = top ∨ isBelow place.dropLast top = true := by
  obtain ⟨further, rfl⟩ := exists_append_of_isBelow below
  rcases List.eq_nil_or_concat further with rfl | ⟨front, last, rfl⟩
  · exact .inl (List.append_nil top)
  · refine .inr ?_
    rw [List.concat_eq_append, ← List.append_assoc, List.dropLast_concat]
    exact isBelow_append top front

/-! ## Looking after a change -/

@[simp] theorem at?_nil (tree : FileTree) : tree.at? [] = some .directory := rfl

theorem at?_of_ne_nil {place : Location} (nonempty : place ≠ []) :
    tree.at? place = (tree.entries.find? fun entry => entry.1 = place).map (·.2) :=
  if_neg nonempty

theorem at?_put {place : Location} (nonempty : place ≠ []) (entry : Entry) (other : Location) :
    (tree.put place entry).at? other = if other = place then some entry else tree.at? other := by
  by_cases top : other = []
  · subst top
    simp [Ne.symm nonempty]
  rw [at?_of_ne_nil top, at?_of_ne_nil top]
  unfold put
  by_cases listed : tree.entries.any (fun e => e.1 = place) = true
  · simp only [listed, if_true, List.find?_map]
    by_cases same : other = place
    · subst same
      obtain ⟨found, member, key⟩ := List.any_eq_true.1 listed
      have key : found.1 = other := of_decide_eq_true key
      rw [if_pos rfl]
      cases search : tree.entries.find? ((fun e => decide (e.1 = other)) ∘
          fun e => if e.1 = other then (other, entry) else e) with
      | none =>
          have missed := List.find?_eq_none.1 search found member
          simp [key] at missed
      | some e =>
          have hit := List.find?_some search
          by_cases here : e.1 = other
          · simp [here]
          · simp [here] at hit
    · rw [if_neg same]
      have alike : ((fun e => decide (e.1 = other)) ∘
          fun e : Location × Entry => if e.1 = place then (place, entry) else e) =
          fun e => decide (e.1 = other) := by
        funext e
        by_cases here : e.1 = place
        · simp [here]
        · simp [here]
      rw [alike]
      cases search : tree.entries.find? (fun e => decide (e.1 = other)) with
      | none => rfl
      | some e =>
          have key : e.1 = other := by simpa using List.find?_some search
          have away : e.1 ≠ place := key ▸ same
          simp [away]
  · simp only [listed, Bool.false_eq_true, if_false, List.find?_append]
    by_cases same : other = place
    · subst same
      have absent : tree.entries.find? (fun e => decide (e.1 = other)) = none :=
        List.find?_eq_none.2 fun e member held =>
          listed (List.any_eq_true.2 ⟨e, member, held⟩)
      simp [absent]
    · simp [same, Ne.symm same]

theorem at?_drop (tree : FileTree) (top other : Location) :
    (tree.drop top).at? other =
      if other ≠ [] ∧ isBelow other top = true then none else tree.at? other := by
  by_cases root : other = []
  · subst root
    simp
  rw [at?_of_ne_nil root, at?_of_ne_nil root]
  unfold drop
  simp only [List.find?_filter]
  by_cases below : isBelow other top = true
  · rw [if_pos ⟨root, below⟩]
    have absent : tree.entries.find?
        (fun e => decide ((!isBelow e.1 top) = true ∧ decide (e.1 = other) = true)) = none := by
      refine List.find?_eq_none.2 fun e _ held => ?_
      obtain ⟨outside, key⟩ := of_decide_eq_true held
      rw [of_decide_eq_true key, below] at outside
      exact Bool.noConfusion outside
    rw [absent]
    rfl
  · rw [if_neg fun both => below both.2]
    have alike : (fun e : Location × Entry =>
        decide ((!isBelow e.1 top) = true ∧ decide (e.1 = other) = true)) =
        fun e => decide (e.1 = other) := by
      funext e
      by_cases here : e.1 = other
      · simp [here, below]
      · simp [here]
    rw [alike]

/-- Renaming, where nothing is at or below the new place yet and neither place is below the
other. -/
theorem at?_move {source target : Location} (sourceNonempty : source ≠ [])
    (targetNonempty : target ≠ []) (free : ∀ place, isBelow place target = true → tree.at? place = none)
    (other : Location) :
    (tree.move source target).at? other =
      if isBelow other target = true then tree.at? (source ++ other.drop target.length)
      else if isBelow other source = true then none else tree.at? other := by
  have notBelow : ∀ {top : Location}, top ≠ [] → isBelow [] top = false := by
    intro top nonempty
    cases below : isBelow [] top with
    | false => rfl
    | true => exact absurd (List.prefix_nil.1 (isBelow_iff.1 below)) nonempty
  by_cases root : other = []
  · subst root
    simp [notBelow sourceNonempty, notBelow targetNonempty]
  have outside : ∀ e ∈ tree.entries, e.1 ≠ [] → isBelow e.1 target = false := by
    intro e member nonempty
    cases below : isBelow e.1 target with
    | false => rfl
    | true =>
        have absent := free e.1 below
        rw [at?_of_ne_nil nonempty, Option.map_eq_none_iff, List.find?_eq_none] at absent
        exact absurd (decide_eq_true rfl) (absent e member)
  rw [at?_of_ne_nil root]
  unfold move
  simp only [List.find?_map]
  by_cases below : isBelow other target = true
  · rw [if_pos below]
    obtain ⟨further, rfl⟩ := exists_append_of_isBelow below
    have origin : source ++ further ≠ [] := by simp [sourceNonempty]
    rw [List.drop_left, at?_of_ne_nil origin]
    have alike : tree.entries.find? ((fun e => decide (e.1 = target ++ further)) ∘ fun e =>
        if isBelow e.1 source = true then (target ++ e.1.drop source.length, e.2) else e) =
        tree.entries.find? fun e => decide (e.1 = source ++ further) := by
      apply List.find?_congr
      intro e member
      by_cases lower : isBelow e.1 source = true
      · obtain ⟨rest, whole⟩ := exists_append_of_isBelow lower
        simp [whole, isBelow_append]
      · have away : e.1 ≠ target ++ further := by
          intro same
          have apart := outside e member (same ▸ root)
          rw [same, isBelow_append] at apart
          exact Bool.noConfusion apart
        have higher : e.1 ≠ source ++ further := fun same => lower (same ▸ isBelow_append _ _)
        simp [lower, away, higher]
    rw [alike]
    cases search : tree.entries.find? (fun e => decide (e.1 = source ++ further)) with
    | none => rfl
    | some e =>
        have key : e.1 = source ++ further := by simpa using List.find?_some search
        simp [key, isBelow_append]
  · rw [if_neg below]
    have alike : tree.entries.find? ((fun e => decide (e.1 = other)) ∘ fun e =>
        if isBelow e.1 source = true then (target ++ e.1.drop source.length, e.2) else e) =
        tree.entries.find? fun e => decide (e.1 = other ∧ isBelow other source = false) := by
      apply List.find?_congr
      intro e _
      by_cases lower : isBelow e.1 source = true
      · have away : target ++ e.1.drop source.length ≠ other :=
          fun same => below (same ▸ isBelow_append _ _)
        have gone : ¬(e.1 = other ∧ isBelow other source = false) := by
          rintro ⟨same, apart⟩
          rw [← same, lower] at apart
          exact Bool.noConfusion apart
        simp [lower, away, gone]
      · have apart : isBelow e.1 source = false := by simpa using lower
        by_cases same : e.1 = other
        · simp [apart, ← same]
        · simp [apart, same]
    rw [alike]
    by_cases lower : isBelow other source = true
    · rw [if_pos lower]
      have absent : tree.entries.find?
          (fun e => decide (e.1 = other ∧ isBelow other source = false)) = none :=
        List.find?_eq_none.2 fun e _ held => by simp [lower] at held
      rw [absent]
      rfl
    · rw [if_neg lower, at?_of_ne_nil root]
      have apart : isBelow other source = false := by simpa using lower
      simp only [apart, and_true]
      cases search : tree.entries.find? (fun e => decide (e.1 = other)) with
      | none => rfl
      | some e =>
          have key : e.1 = other := by simpa using List.find?_some search
          simp [key, apart]

end FileTree
end Files
end ClassLoom
