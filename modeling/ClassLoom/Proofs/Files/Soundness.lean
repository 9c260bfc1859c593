import ClassLoom.Proofs.Files.Places

namespace ClassLoom
namespace Files
namespace FileTree

/-!
# Sound trees

The representation of a file tree leaves room for trees that no file system has.  A sound tree has
none of these: every place is listed once, what is there stands in a directory, names are names, and
a file has an identity that no other place and no removed file shares.  The changes out of which
operations are made keep trees sound.
-/

/-- A tree that could be that of a file system. -/
structure Sound (tree : FileTree) : Prop where
  once : (tree.entries.map Prod.fst).Nodup
  placed : ∀ entry ∈ tree.entries, entry.1 ≠ []
  named : ∀ {place entry}, tree.at? place = some entry → ∀ name ∈ place, IsName name
  rooted : ∀ {place entry}, tree.at? place = some entry → tree.at? place.dropLast = some .directory
  alone : ∀ {place other file twin}, tree.at? place = some (.file file) →
    tree.at? other = some (.file twin) → file.id = twin.id → place = other
  numbered : ∀ {place file}, tree.at? place = some (.file file) → file.id < tree.nextId
  gone : ∀ file ∈ tree.removed, file.id < tree.nextId ∧
    ∀ place twin, tree.at? place = some (.file twin) → twin.id ≠ file.id
  start : ∀ name ∈ tree.start, IsName name

namespace Sound

variable {tree : FileTree}

theorem mem_entries_iff (sound : tree.Sound) {place : Location} {entry : Entry} :
    (place, entry) ∈ tree.entries ↔ place ≠ [] ∧ tree.at? place = some entry := by
  constructor
  · intro member
    have nonempty := sound.placed _ member
    refine ⟨nonempty, ?_⟩
    rw [at?_of_ne_nil nonempty]
    cases search : tree.entries.find? (fun e => decide (e.1 = place)) with
    | none =>
        have missed := List.find?_eq_none.1 search _ member
        simp at missed
    | some e =>
        have key : e.1 = place := by simpa using List.find?_some search
        have same : e = (place, entry) :=
          List.inj_on_of_nodup_map sound.once (List.mem_of_find?_eq_some search) member key
        simp [same]
  · rintro ⟨nonempty, held⟩
    rw [at?_of_ne_nil nonempty, Option.map_eq_some_iff] at held
    obtain ⟨e, search, rfl⟩ := held
    have key : e.1 = place := by simpa using List.find?_some search
    exact key ▸ List.mem_of_find?_eq_some search

/-- There are no links if no entry is one. -/
theorem unlinked (sound : tree.Sound)
    (plain : ∀ entry ∈ tree.entries, Entry.isLink entry.2 = false) (place : Location) (target : String) :
    tree.at? place ≠ some (.link target) := by
  intro held
  have nonempty : place ≠ [] := by
    rintro rfl
    cases held
  cases plain _ (sound.mem_entries_iff.2 ⟨nonempty, held⟩)

/-- Every place above something is a directory. -/
theorem at?_above (sound : tree.Sound) {place top : Location} {entry : Entry}
    (held : tree.at? place = some entry) (below : isBelow place top = true)
    (proper : place ≠ top) : tree.at? top = some .directory := by
  obtain ⟨further, rfl⟩ := exists_append_of_isBelow below
  induction further using List.reverseRecOn generalizing entry with
  | nil => exact absurd (List.append_nil top) proper
  | append_singleton front last inductionHypothesis =>
      have parent := sound.rooted held
      rw [← List.append_assoc, List.dropLast_concat] at parent
      by_cases direct : top ++ front = top
      · rwa [direct] at parent
      · exact inductionHypothesis parent (isBelow_append top front) direct

/-- Nothing is below a place that is no directory. -/
theorem at?_below (sound : tree.Sound) {place top : Location}
    (bare : tree.at? top ≠ some .directory) (below : isBelow place top = true)
    (proper : place ≠ top) : tree.at? place = none := by
  cases held : tree.at? place with
  | none => rfl
  | some entry => exact absurd (sound.at?_above held below proper) bare

theorem free_of_absent (sound : tree.Sound) {top : Location} (absent : tree.at? top = none)
    (place : Location) (below : isBelow place top = true) : tree.at? place = none := by
  by_cases same : place = top
  · rw [same, absent]
  · exact sound.at?_below (by simp [absent]) below same

/-- The content of an identity is that of the file that has it. -/
theorem contentOf_eq (sound : tree.Sound) {place : Location} {file : File}
    (held : tree.at? place = some (.file file)) : tree.contentOf file.id = some file.content := by
  have nonempty : place ≠ [] := by
    rintro rfl
    simp at held
  have member := sound.mem_entries_iff.2 ⟨nonempty, held⟩
  unfold contentOf
  generalize search : tree.entries.findSome? _ = result
  cases result with
  | none =>
      have missed := List.findSome?_eq_none_iff.1 search _ member
      simp at missed
  | some content =>
      obtain ⟨⟨other, entry⟩, listed, found⟩ := List.exists_of_findSome?_eq_some search
      cases entry with
      | directory => simp at found
      | link target => simp at found
      | file twin =>
          by_cases same : twin.id = file.id
          · have there := (sound.mem_entries_iff.1 listed).2
            have here : other = place := sound.alone there held same
            subst here
            rw [held] at there
            obtain rfl : file = twin := by simpa using there
            have answer : file.content = content := by simpa using found
            rw [answer]
            rfl
          · simp [same] at found

/-! ## Changes that keep trees sound -/

/-- Putting something where nothing is, or a file of the same identity where a file is, keeps the
list of places without repetition. -/
theorem once_put (sound : tree.Sound) (place : Location) (entry : Entry) :
    ((tree.put place entry).entries.map Prod.fst).Nodup := by
  unfold FileTree.put
  by_cases listed : tree.entries.any (fun e => e.1 = place) = true
  · simp only [listed, if_true, List.map_map]
    have alike : (Prod.fst ∘ fun e : Location × Entry =>
        if e.1 = place then (place, entry) else e) = Prod.fst := by
      funext e
      by_cases here : e.1 = place
      · simp [here]
      · simp [here]
    rw [alike]
    exact sound.once
  · simp only [listed, Bool.false_eq_true, if_false, List.map_append, List.map_cons, List.map_nil]
    refine List.Nodup.append sound.once (List.nodup_singleton place) ?_
    intro key member single
    obtain rfl := List.mem_singleton.1 single
    obtain ⟨e, held, key⟩ := List.mem_map.1 member
    exact listed (List.any_eq_true.2 ⟨e, held, decide_eq_true key⟩)

theorem placed_put (sound : tree.Sound) {place : Location} (nonempty : place ≠ []) (entry : Entry) :
    ∀ e ∈ (tree.put place entry).entries, e.1 ≠ [] := by
  intro e member
  unfold FileTree.put at member
  simp only at member
  split at member
  · obtain ⟨old, held, rfl⟩ := List.mem_map.1 member
    split
    · exact nonempty
    · exact sound.placed old held
  · rcases List.mem_append.1 member with held | single
    · exact sound.placed e held
    · rw [List.mem_singleton.1 single]
      exact nonempty

variable {directory : Location} {name : String}

theorem named_child (sound : tree.Sound) (parent : tree.at? directory = some .directory)
    (named : IsName name) : ∀ segment ∈ directory ++ [name], IsName segment := by
  intro segment member
  rcases List.mem_append.1 member with above | last
  · exact sound.named parent segment above
  · exact List.mem_singleton.1 last ▸ named

theorem put_directory (sound : tree.Sound) (parent : tree.at? directory = some .directory)
    (named : IsName name) : (tree.put (directory ++ [name]) .directory).Sound := by
  have nonempty : directory ++ [name] ≠ [] := by simp
  have look := @at?_put tree _ nonempty .directory
  have files : ∀ {place file}, (tree.put (directory ++ [name]) .directory).at? place =
      some (.file file) → tree.at? place = some (.file file) := by
    intro place file held
    rw [look] at held
    split at held
    · simp at held
    · exact held
  have keeps : ∀ {place}, tree.at? place = some .directory →
      (tree.put (directory ++ [name]) .directory).at? place = some .directory := by
    intro place held
    rw [look]
    split
    · rfl
    · exact held
  refine ⟨sound.once_put _ _, sound.placed_put nonempty _, ?_, ?_, ?_, ?_, ?_, sound.start⟩
  · intro place entry held
    rw [look] at held
    split at held
    next same => exact same ▸ sound.named_child parent named
    · exact sound.named held
  · intro place entry held
    rw [look] at held
    split at held
    next same =>
      rw [same, List.dropLast_concat]
      exact keeps parent
    · exact keeps (sound.rooted held)
  · exact fun held twin same => sound.alone (files held) (files twin) same
  · exact fun held => sound.numbered (files held)
  · exact fun file member => ⟨(sound.gone file member).1,
      fun place twin held => (sound.gone file member).2 place twin (files held)⟩

theorem put_newFile (sound : tree.Sound) (parent : tree.at? directory = some .directory)
    (named : IsName name) (absent : tree.at? (directory ++ [name]) = none) (content : Bytes)
    (moment : Moment) :
    ({ tree.put (directory ++ [name]) (.file ⟨tree.nextId, content, moment⟩) with
        nextId := tree.nextId + 1 } : FileTree).Sound := by
  have nonempty : directory ++ [name] ≠ [] := by simp
  have look : ∀ other, ({ tree.put (directory ++ [name]) (.file ⟨tree.nextId, content, moment⟩) with
        nextId := tree.nextId + 1 } : FileTree).at? other =
      if other = directory ++ [name] then some (.file ⟨tree.nextId, content, moment⟩)
      else tree.at? other := at?_put nonempty _
  have keeps : ∀ {place}, tree.at? place = some .directory →
      ({ tree.put (directory ++ [name]) (.file ⟨tree.nextId, content, moment⟩) with
        nextId := tree.nextId + 1 } : FileTree).at? place = some .directory := by
    intro place held
    rw [look, if_neg ?_]
    · exact held
    · rintro rfl
      simp [absent] at held
  refine ⟨sound.once_put _ _, sound.placed_put nonempty _, ?_, ?_, ?_, ?_, ?_, sound.start⟩
  · intro place entry held
    rw [look] at held
    split at held
    next same => exact same ▸ sound.named_child parent named
    · exact sound.named held
  · intro place entry held
    rw [look] at held
    split at held
    next same =>
      rw [same, List.dropLast_concat]
      exact keeps parent
    · exact keeps (sound.rooted held)
  · intro place other file twin held there same
    rw [look] at held there
    split at held <;> split at there
    next here too => rw [here, too]
    next here _ =>
      obtain rfl : ⟨tree.nextId, content, moment⟩ = file := by simpa using held
      exact absurd (sound.numbered there) (by simp [← same])
    next _ too =>
      obtain rfl : ⟨tree.nextId, content, moment⟩ = twin := by simpa using there
      exact absurd (sound.numbered held) (by simp [same])
    · exact sound.alone held there same
  · intro place file held
    rw [look] at held
    split at held
    · obtain rfl : ⟨tree.nextId, content, moment⟩ = file := by simpa using held
      exact Nat.lt_succ_self _
    · exact Nat.lt_succ_of_lt (sound.numbered held)
  · intro file member
    have old := sound.gone file member
    refine ⟨Nat.lt_succ_of_lt old.1, fun place twin held => ?_⟩
    rw [look] at held
    split at held
    · obtain rfl : ⟨tree.nextId, content, moment⟩ = twin := by simpa using held
      exact (Nat.ne_of_lt old.1).symm
    · exact old.2 place twin held

/-- A tree in which there is nothing. -/
theorem bare (moment : Moment) : (⟨[], [], 0, [], moment⟩ : FileTree).Sound := by
  have top : ∀ {place : Location} {entry : Entry},
      (⟨[], [], 0, [], moment⟩ : FileTree).at? place = some entry → place = [] ∧ entry = .directory := by
    intro place entry held
    unfold at? at held
    split at held
    next same => exact ⟨same, (Option.some.inj held).symm⟩
    next => cases held
  refine ⟨by simp, by simp, ?_, ?_, ?_, ?_, by simp, by simp⟩
  · intro place entry held
    simp [(top held).1]
  · intro place entry held
    obtain ⟨rfl, _⟩ := top held
    rfl
  · exact fun held _ _ => by cases (top held).2
  · exact fun held => by cases (top held).2

/-- Replacing a file by one of the same identity. -/
theorem put_file (sound : tree.Sound) {place : Location} {file : File}
    (held : tree.at? place = some (.file file)) (content : Bytes) (moment : Moment) :
    (tree.put place (.file { file with content, modified := moment })).Sound := by
  have nonempty : place ≠ [] := by
    rintro rfl
    simp at held
  have look := @at?_put tree _ nonempty (.file { file with content, modified := moment })
  have files : ∀ {other twin},
      (tree.put place (.file { file with content, modified := moment })).at? other =
        some (.file twin) → ∃ old, tree.at? other = some (.file old) ∧ old.id = twin.id := by
    intro other twin there
    rw [look] at there
    split at there
    next same =>
      obtain rfl : { file with content, modified := moment } = twin := by simpa using there
      exact ⟨file, same ▸ held, rfl⟩
    · exact ⟨twin, there, rfl⟩
  have keeps : ∀ {other}, tree.at? other = some .directory →
      (tree.put place (.file { file with content, modified := moment })).at? other =
        some .directory := by
    intro other there
    rw [look, if_neg ?_]
    · exact there
    · rintro rfl
      simp [held] at there
  refine ⟨sound.once_put _ _, sound.placed_put nonempty _, ?_, ?_, ?_, ?_, ?_, sound.start⟩
  · intro other entry there
    rw [look] at there
    split at there
    next same => exact same ▸ sound.named held
    · exact sound.named there
  · intro other entry there
    rw [look] at there
    split at there
    next same => exact keeps (same ▸ sound.rooted held)
    · exact keeps (sound.rooted there)
  · intro first second one two there here same
    obtain ⟨old, before, sameOld⟩ := files there
    obtain ⟨other, earlier, sameOther⟩ := files here
    exact sound.alone before earlier (by rw [sameOld, sameOther, same])
  · intro other twin there
    obtain ⟨old, before, same⟩ := files there
    exact same ▸ sound.numbered before
  · intro gone member
    have old := sound.gone gone member
    refine ⟨old.1, fun other twin there => ?_⟩
    obtain ⟨before, earlier, same⟩ := files there
    exact same ▸ old.2 other before earlier

theorem drop (sound : tree.Sound) (top : Location) : (tree.drop top).Sound := by
  have look := at?_drop tree top
  have stays : ∀ {place entry}, (tree.drop top).at? place = some entry →
      tree.at? place = some entry ∧ (place = [] ∨ isBelow place top = false) := by
    intro place entry held
    rw [look] at held
    split at held
    · simp at held
    next outside =>
      refine ⟨held, ?_⟩
      by_cases root : place = []
      · exact .inl root
      · exact .inr (by simpa [root] using outside)
  refine ⟨?_, ?_, fun held => sound.named (stays held).1, ?_,
    fun held there => sound.alone (stays held).1 (stays there).1,
    fun held => sound.numbered (stays held).1, ?_, sound.start⟩
  · exact List.Nodup.sublist ((List.filter_sublist).map _) sound.once
  · exact fun entry member => sound.placed entry (List.mem_of_mem_filter member)
  · intro place entry held
    obtain ⟨before, outside⟩ := stays held
    rw [look, if_neg ?_]
    · exact sound.rooted before
    · rintro ⟨nonempty, below⟩
      rcases outside with rfl | apart
      · exact nonempty rfl
      · rw [isBelow_of_isBelow_dropLast below] at apart
        exact Bool.noConfusion apart
  · intro file member
    rcases List.mem_append.1 member with old | fresh
    · have before := sound.gone file old
      exact ⟨before.1, fun place twin held => before.2 place twin (stays held).1⟩
    · obtain ⟨⟨place, entry⟩, listed, found⟩ := List.mem_filterMap.1 fresh
      cases entry with
      | directory => simp at found
      | link target => simp at found
      | file other =>
          by_cases below : isBelow place top = true
          · obtain rfl : other = file := by simpa [below] using found
            have there := (sound.mem_entries_iff.1 listed).2
            refine ⟨sound.numbered there, fun place' twin held same => ?_⟩
            obtain ⟨before, outside⟩ := stays held
            have here := sound.alone before there same
            subst here
            rcases outside with root | apart
            · exact sound.placed _ listed root
            · rw [below] at apart
              exact Bool.noConfusion apart
          · simp [below] at found

/-- The place at which something was before a renaming. -/
def origin (source target place : Location) : Location :=
  if isBelow place target = true then source ++ place.drop target.length else place

theorem origin_below (source target further : Location) :
    origin source target (target ++ further) = source ++ further := by
  rw [origin, if_pos (isBelow_append target further), List.drop_left]

theorem origin_outside {source target place : Location} (outside : isBelow place target = false) :
    origin source target place = place := by
  simp [origin, outside]

/-- What is at a place after a renaming was at its origin, and its origin was renamed only if it
is below the new place. -/
theorem at?_origin {source target : Location} (sourceNonempty : source ≠ [])
    (targetNonempty : target ≠ [])
    (free : ∀ place, isBelow place target = true → tree.at? place = none)
    {place : Location} {entry : Entry} (held : (tree.move source target).at? place = some entry) :
    tree.at? (origin source target place) = some entry ∧
      (isBelow place target = true ∨ isBelow place source = false) := by
  rw [at?_move sourceNonempty targetNonempty free] at held
  unfold origin
  split at held
  next below => exact ⟨by rwa [if_pos below], .inl below⟩
  next outside =>
    split at held
    · simp at held
    next apart => exact ⟨by rwa [if_neg outside], .inr (by simpa using apart)⟩

theorem origin_injective {source target place other : Location}
    (first : isBelow place target = true ∨ isBelow place source = false)
    (second : isBelow other target = true ∨ isBelow other source = false)
    (same : origin source target place = origin source target other) : place = other := by
  unfold origin at same
  split at same <;> split at same
  next here there =>
    obtain ⟨further, rfl⟩ := exists_append_of_isBelow here
    obtain ⟨rest, rfl⟩ := exists_append_of_isBelow there
    rw [List.drop_left, List.drop_left, List.append_cancel_left_eq] at same
    rw [same]
  next here there =>
    rcases second with below | apart
    · exact absurd below there
    · rw [← same, isBelow_append] at apart
      exact Bool.noConfusion apart
  next here there =>
    rcases first with below | apart
    · exact absurd below here
    · rw [same, isBelow_append] at apart
      exact Bool.noConfusion apart
  · exact same

/-- Renaming to a free place outside of what is renamed. -/
theorem move (sound : tree.Sound) {source : Location} (sourceNonempty : source ≠ [])
    (parent : tree.at? directory = some .directory) (named : IsName name)
    (free : ∀ place, isBelow place (directory ++ [name]) = true → tree.at? place = none)
    (outside : isBelow (directory ++ [name]) source = false) :
    (tree.move source (directory ++ [name])).Sound := by
  have targetNonempty : directory ++ [name] ≠ [] := by simp
  have look := at?_move sourceNonempty targetNonempty free
  have before := fun {place entry} (held : (tree.move source (directory ++ [name])).at? place =
    some entry) => at?_origin sourceNonempty targetNonempty free held
  have above : isBelow directory source = false := by
    cases below : isBelow directory source with
    | false => rfl
    | true => exact absurd (isBelow_trans (isBelow_append directory [name]) below) (by simp [outside])
  have notUnder : isBelow directory (directory ++ [name]) = false := by
    cases below : isBelow directory (directory ++ [name]) with
    | false => rfl
    | true =>
        have short := (isBelow_iff.1 below).length_le
        simp at short
  refine ⟨?_, ?_, ?_, ?_, ?_, fun held => sound.numbered (before held).1, ?_, sound.start⟩
  · unfold FileTree.move
    simp only [List.map_map]
    refine List.Nodup.map_on ?_ (List.Nodup.of_map _ sound.once)
    intro first firstListed second secondListed same
    have firstFree : isBelow first.1 (directory ++ [name]) = false := by
      cases below : isBelow first.1 (directory ++ [name]) with
      | false => rfl
      | true =>
          have there := (sound.mem_entries_iff.1 firstListed).2
          rw [free _ below] at there
          exact Option.noConfusion rfl (heq_of_eq there)
    have secondFree : isBelow second.1 (directory ++ [name]) = false := by
      cases below : isBelow second.1 (directory ++ [name]) with
      | false => rfl
      | true =>
          have there := (sound.mem_entries_iff.1 secondListed).2
          rw [free _ below] at there
          exact Option.noConfusion rfl (heq_of_eq there)
    have keys : first.1 = second.1 := by
      by_cases firstLower : isBelow first.1 source = true <;>
        by_cases secondLower : isBelow second.1 source = true
      · obtain ⟨further, firstWhole⟩ := exists_append_of_isBelow firstLower
        obtain ⟨rest, secondWhole⟩ := exists_append_of_isBelow secondLower
        simp only [Function.comp_apply, firstWhole, secondWhole, isBelow_append, if_true,
          List.drop_left, List.append_cancel_left_eq] at same
        rw [firstWhole, secondWhole, same]
      · simp only [Function.comp_apply, firstLower, secondLower, if_true, if_false,
          Bool.false_eq_true] at same
        rw [← same, isBelow_append] at secondFree
        exact Bool.noConfusion secondFree
      · simp only [Function.comp_apply, firstLower, secondLower, if_true, if_false,
          Bool.false_eq_true] at same
        rw [same, isBelow_append] at firstFree
        exact Bool.noConfusion firstFree
      · simpa only [Function.comp_apply, firstLower, secondLower, if_false,
          Bool.false_eq_true] using same
    exact List.inj_on_of_nodup_map sound.once firstListed secondListed keys
  · intro entry member
    obtain ⟨old, held, rfl⟩ := List.mem_map.1 member
    split
    · simp
    · exact sound.placed old held
  · intro place entry held segment member
    obtain ⟨there, _⟩ := before held
    by_cases below : isBelow place (directory ++ [name]) = true
    · obtain ⟨further, rfl⟩ := exists_append_of_isBelow below
      rw [origin_below] at there
      rcases List.mem_append.1 member with upper | lower
      · exact sound.named_child parent named segment upper
      · exact sound.named there segment (List.mem_append_right source lower)
    · rw [origin_outside (by simpa using below)] at there
      exact sound.named there segment member
  · intro place entry held
    obtain ⟨there, side⟩ := before held
    by_cases below : isBelow place (directory ++ [name]) = true
    · obtain ⟨further, rfl⟩ := exists_append_of_isBelow below
      rw [origin_below] at there
      rcases List.eq_nil_or_concat further with rfl | ⟨front, last, rfl⟩
      · rw [List.append_nil, List.dropLast_concat, look, notUnder, above]
        simpa using parent
      · rw [List.concat_eq_append, ← List.append_assoc, List.dropLast_concat, look,
          isBelow_append, if_pos rfl, List.drop_left]
        have upper := sound.rooted there
        rwa [List.concat_eq_append, ← List.append_assoc, List.dropLast_concat] at upper
    · have apart : isBelow place source = false := side.resolve_left below
      rw [origin_outside (by simpa using below)] at there
      rw [look, if_neg fun lower => below (isBelow_of_isBelow_dropLast lower), if_neg ?_]
      · exact sound.rooted there
      · intro lower
        rw [isBelow_of_isBelow_dropLast lower] at apart
        exact Bool.noConfusion apart
  · intro place other file twin held there same
    obtain ⟨heldBefore, heldSide⟩ := before held
    obtain ⟨thereBefore, thereSide⟩ := before there
    exact origin_injective heldSide thereSide (sound.alone heldBefore thereBefore same)
  · intro file member
    have old := sound.gone file member
    exact ⟨old.1, fun place twin held => old.2 _ twin (before held).1⟩

end Sound
end FileTree
end Files
end ClassLoom
