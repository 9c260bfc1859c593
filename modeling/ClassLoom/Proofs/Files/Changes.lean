import ClassLoom.Proofs.Files.Settling

namespace ClassLoom
namespace Files
namespace FileTree

/-!
# What operations do to places

Every operation is described by what it does to every place, which says at once what it leaves
alone.  Making directories only adds directories, writing changes one place, and removing takes away
what is at or below one place.  The two operations that may stop half-way are described whatever they
answer.

Each description also says that the operation keeps a sound tree sound.
-/

variable {tree before after : FileTree}

/-! ## A missing name can be put -/

/-- A name that a search misses is a name, and its directory is there without it. -/
structure Vacant (tree : FileTree) (directory : Location) (name : String) : Prop where
  parent : tree.at? directory = some .directory
  named : IsName name
  absent : tree.at? (directory ++ [name]) = none

theorem vacant_of_followLink {follow : Bool} {links : Nat} {directory : Location} {name : String}
    (onward : ∀ {base : Location} {target : String} {rest : List String},
      (∀ s ∈ rest, '/' ∉ s.toList) →
      followLink tree follow links base target rest = .ok (.missing directory name) →
      Vacant tree directory name)
    {here : Location} {parts : List String} (slashless : ∀ s ∈ parts, '/' ∉ s.toList)
    (missed : search tree follow links here parts = .ok (.missing directory name)) :
    Vacant tree directory name := by
  induction parts generalizing here with
  | nil => simp [search_nil] at missed
  | cons segment rest inductionHypothesis =>
      have restSlashless : ∀ s ∈ rest, '/' ∉ s.toList :=
        fun s member => slashless s (List.mem_cons_of_mem _ member)
      by_cases idle : isIdle segment = true
      · rw [search_idle idle] at missed
        exact inductionHypothesis restSlashless missed
      have busy : isIdle segment = false := by simpa using idle
      by_cases up : segment = ".."
      · subst up
        rw [search_up] at missed
        exact inductionHypothesis restSlashless missed
      rw [search_name busy up] at missed
      split at missed
      · simp at missed
      cases held : tree.at? (here ++ [segment]) with
      | none =>
          simp only [held] at missed
          split at missed
          next last =>
            obtain ⟨_, alive⟩ := Bool.and_eq_true_iff.1 last
            obtain ⟨rfl, rfl⟩ := Spot.missing.inj (Except.ok.inj missed)
            exact ⟨of_decide_eq_true alive, ⟨⟨slashless _ List.mem_cons_self, busy⟩, up⟩, held⟩
          next => simp at missed
      | some entry =>
          rw [held] at missed
          cases entry with
          | directory => exact inductionHypothesis restSlashless missed
          | file file =>
              simp only at missed
              split at missed <;> simp at missed
          | link target =>
              simp only at missed
              split at missed
              · simp at missed
              · exact onward restSlashless missed

theorem vacant_of_search {follow : Bool} {links : Nat} {directory here : Location} {name : String}
    {parts : List String} (slashless : ∀ s ∈ parts, '/' ∉ s.toList)
    (missed : search tree follow links here parts = .ok (.missing directory name)) :
    Vacant tree directory name := by
  induction links generalizing here parts with
  | zero =>
      refine vacant_of_followLink ?_ slashless missed
      intro base target rest _ refused
      simp [followLink] at refused
  | succ links inductionHypothesis =>
      refine vacant_of_followLink ?_ slashless missed
      intro base target rest restSlashless further
      refine inductionHypothesis ?_ further
      intro s member
      rcases List.mem_append.1 member with first | second
      · exact slashless_rawSegments first
      · exact restSlashless s second

theorem vacant_of_find {follow : Bool} {raw name : String} {directory : Location}
    (missed : tree.find follow raw = .ok (.missing directory name)) : Vacant tree directory name := by
  unfold find at missed
  split at missed
  · simp at missed
  split at missed
  · simp at missed
  · exact vacant_of_search (fun s => slashless_rawSegments) missed

/-! ## Making directories -/

/-- A tree with more directories, and otherwise the same. -/
structure Grown (before after : FileTree) : Prop where
  places : ∀ place, after.at? place = before.at? place ∨
    (before.at? place = none ∧ after.at? place = some .directory)
  start : after.start = before.start
  removed : after.removed = before.removed
  sound : before.Sound → after.Sound

namespace Grown

theorem refl (tree : FileTree) : Grown tree tree := ⟨fun _ => .inl rfl, rfl, rfl, id⟩

theorem trans {middle : FileTree} (first : Grown before middle) (second : Grown middle after) :
    Grown before after := by
  refine ⟨fun place => ?_, second.start.trans first.start, second.removed.trans first.removed,
    second.sound ∘ first.sound⟩
  rcases first.places place with same | ⟨absent, made⟩ <;>
    rcases second.places place with sameLater | ⟨absentLater, madeLater⟩
  · exact .inl (sameLater.trans same)
  · exact .inr ⟨same ▸ absentLater, madeLater⟩
  · exact .inr ⟨absent, sameLater.trans made⟩
  · exact .inr ⟨absent, madeLater⟩

instance : IsPreorder FileTree Grown where
  refl := refl
  trans _ _ _ := trans

theorem at?_of_some (grown : Grown before after) {place : Location} {entry : Entry}
    (held : before.at? place = some entry) : after.at? place = some entry := by
  rcases grown.places place with same | ⟨absent, _⟩
  · exact same.trans held
  · exact absurd held (by simp [absent])

/-- Nothing but directories is new. -/
theorem at?_of_not_directory (grown : Grown before after) {place : Location} {entry : Entry}
    (held : after.at? place = some entry) (bare : entry ≠ .directory) :
    before.at? place = some entry := by
  rcases grown.places place with same | ⟨_, made⟩
  · exact same.symm.trans held
  · exact absurd (Option.some.inj (held.symm.trans made)) bare

theorem carries (grown : Grown before after) : Carries before after :=
  fun held _ => grown.at?_of_some held

end Grown

theorem grown_of_makeDirectory {raw : String} (made : before.makeDirectory raw = .ok after) :
    Grown before after := by
  unfold makeDirectory at made
  split at made
  · simp at made
  split at made
  next => simp at made
  next directory name missed =>
    have vacant := vacant_of_find missed
    obtain rfl := Except.ok.inj made
    have nonempty : directory ++ [name] ≠ [] := by simp
    refine ⟨fun place => ?_, rfl, rfl, fun sound => sound.put_directory vacant.parent vacant.named⟩
    rw [at?_put nonempty]
    split
    next here => exact .inr ⟨here ▸ vacant.absent, rfl⟩
    next => exact .inl rfl
  next => simp at made

theorem grown_makeLastDirectory (tree : FileTree) (raw : String) :
    Grown tree (tree.makeLastDirectory raw).1 := by
  unfold makeLastDirectory
  split
  next after made => exact grown_of_makeDirectory made
  next => exact .refl tree
  next =>
    split
    · exact .refl tree
    · exact .refl tree

theorem passExisting_fst (result : FileTree × Option FileError) :
    (passExisting result).1 = result.1 := by
  unfold passExisting
  split
  · split <;> rfl
  · rfl

/-- What the making of directories does first, and how it ends. -/
theorem makeDirectories_succ {fuel : Nat}
    (below : ∀ raw, Grown tree (tree.makeDirectories fuel raw).1) (raw : String) :
    ∃ above, Grown tree above ∧
      ((∃ error, tree.makeDirectories (fuel + 1) raw = (above, some error)) ∨
        (headAndTail raw).2 = "." ∧ tree.makeDirectories (fuel + 1) raw = (above, none) ∨
        tree.makeDirectories (fuel + 1) raw = above.makeLastDirectory raw) := by
  unfold makeDirectories
  rcases ends : headAndTail raw with ⟨head, tail⟩
  simp only
  generalize (head != "" && tail != "" && !tree.present head) = missing
  have stage : Grown tree (if missing = true then passExisting (tree.makeDirectories fuel head)
      else (tree, none)).1 := by
    split
    · rw [passExisting_fst]
      exact below head
    · exact .refl tree
  generalize (if missing = true then passExisting (tree.makeDirectories fuel head)
      else (tree, none)) = reached at stage ⊢
  obtain ⟨above, error⟩ := reached
  refine ⟨above, stage, ?_⟩
  cases error with
  | some error => exact .inl ⟨error, rfl⟩
  | none =>
      simp only
      split
      next idle => exact .inr (.inl ⟨by simpa using (Bool.and_eq_true_iff.1 idle).2, rfl⟩)
      next => exact .inr (.inr rfl)

theorem grown_makeDirectories (fuel : Nat) (tree : FileTree) (raw : String) :
    Grown tree (tree.makeDirectories fuel raw).1 := by
  induction fuel generalizing tree raw with
  | zero => exact .refl tree
  | succ fuel inductionHypothesis =>
      obtain ⟨above, grown, ⟨error, refused⟩ | ⟨_, idle⟩ | made⟩ :=
        makeDirectories_succ (inductionHypothesis tree) raw
      · exact refused ▸ grown
      · exact idle ▸ grown
      · exact made ▸ grown.trans (grown_makeLastDirectory above raw)

section Paths

variable {path : Path} {name : String}

theorem headAndTail_child (proper : path.Proper) (segment : IsSegment name) :
    (headAndTail (path.child name).toString).2 = name := by
  have last := Path.splitLast_child proper segment
  unfold headAndTail
  rcases pair : splitLast (path.child name).toString with ⟨head, tail⟩
  obtain rfl : tail = name := by rw [← last, pair]
  simp only
  rw [if_neg (by simpa using segment.ne_empty)]

theorem stat_eq_ok_iff {follow : Bool} {raw : String} {place : Location} {entry : Entry} :
    tree.stat follow raw = .ok (place, entry) ↔
      hasNul raw = false ∧ tree.find follow raw = .ok (.found place entry) := by
  unfold stat
  split
  next nul => simp [nul]
  next clean =>
    have clean : hasNul raw = false := by simpa using clean
    split <;> simp_all

/-- A directory that was made is found. -/
theorem stat_of_makeDirectory (proper : path.Proper) (named : IsName name)
    (made : before.makeDirectory (path.child name).toString = .ok after) :
    ∃ place, after.stat true (path.child name).toString = .ok (place, .directory) := by
  have grown := grown_of_makeDirectory made
  unfold makeDirectory at made
  split at made
  · simp at made
  next clean =>
    rw [Path.withoutTrailing_toString (proper.child named.1)] at made
    split at made
    next => simp at made
    next directory found missed =>
      obtain ⟨there, reaches, fits⟩ := exists_reaches proper named missed
      have same : directory = there ∧ found = name := by
        rw [reaches.find_false proper named fits] at missed
        split at missed
        · split at missed
          · exact (Spot.missing.inj (Except.ok.inj missed)).imp Eq.symm Eq.symm
          · simp at missed
        · simp at missed
      obtain ⟨rfl, rfl⟩ := same
      obtain rfl := Except.ok.inj made
      obtain ⟨left, sought⟩ :=
        (reaches.mono grown.carries grown.start).find_eq true proper named fits
      refine ⟨directory ++ [found], stat_eq_ok_iff.2 ⟨by simpa using clean, ?_⟩⟩
      rw [sought, at?_put (by simp), if_pos rfl]
    next => simp at made

/-- Directories that were made lead to a directory. -/
theorem stat_of_makeDirectories (proper : path.Proper) (named : IsName name) {fuel : Nat}
    (made : before.makeDirectories (fuel + 1) (path.child name).toString = (after, none)) :
    ∃ place, after.stat true (path.child name).toString = .ok (place, .directory) := by
  obtain ⟨above, _, ⟨error, refused⟩ | ⟨idle, _⟩ | last⟩ :=
    makeDirectories_succ (grown_makeDirectories fuel before) (path.child name).toString
  · simp [made] at refused
  · rw [headAndTail_child proper named.1] at idle
    have busy := named.1.2
    rw [idle] at busy
    exact absurd busy (by decide)
  · rw [made, makeLastDirectory] at last
    split at last
    next made =>
      obtain ⟨rfl, _⟩ := Prod.mk.inj last
      exact stat_of_makeDirectory proper named made
    next => simp at last
    next =>
      split at last
      next place found =>
        obtain ⟨rfl, _⟩ := Prod.mk.inj last
        exact ⟨place, found⟩
      next => simp at last

end Paths

/-! ## Writing -/

/-- A tree with a file of some content at a place where a file or nothing was, and otherwise the
same. -/
structure Written (before after : FileTree) (place : Location) (content : Bytes) : Prop where
  places : ∃ id, ∀ other, after.at? other =
    if other = place then some (.file ⟨id, content, before.clock⟩) else before.at? other
  bare : before.at? place = none ∨ ∃ file, before.at? place = some (.file file)
  start : after.start = before.start
  clock : after.clock = before.clock
  removed : after.removed = before.removed
  sound : before.Sound → after.Sound

namespace Written

variable {place : Location} {content : Bytes}

theorem at?_of_ne (written : Written before after place content) {other : Location}
    (apart : other ≠ place) : after.at? other = before.at? other := by
  obtain ⟨_, places⟩ := written.places
  rw [places, if_neg apart]

theorem at?_self (written : Written before after place content) :
    ∃ id, after.at? place = some (.file ⟨id, content, before.clock⟩) := by
  obtain ⟨id, places⟩ := written.places
  exact ⟨id, by rw [places, if_pos rfl]⟩

theorem at?_iff (written : Written before after place content) {other : Location} {entry : Entry}
    (leadsOn : Entry.isFile entry = false) :
    before.at? other = some entry ↔ after.at? other = some entry := by
  by_cases here : other = place
  · subst here
    obtain ⟨id, held⟩ := written.at?_self
    rw [held]
    constructor
    · intro there
      rcases written.bare with absent | ⟨file, bare⟩
      · simp [absent] at there
      · obtain rfl := Option.some.inj (bare.symm.trans there)
        simp [Entry.isFile] at leadsOn
    · intro same
      obtain rfl := Option.some.inj same
      simp [Entry.isFile] at leadsOn
  · rw [written.at?_of_ne here]

theorem carries (written : Written before after place content) : Carries before after :=
  fun held leadsOn => (written.at?_iff leadsOn).1 held

/-- What is written twice is as if it had been written once. -/
theorem again {middle : FileTree} {old : Bytes} (first : Written before middle place old)
    (second : Written middle after place content) : Written before after place content where
  places := by
    obtain ⟨id, places⟩ := second.places
    refine ⟨id, fun other => ?_⟩
    rw [places, first.clock]
    split
    · rfl
    next apart => exact first.at?_of_ne apart
  bare := first.bare
  start := second.start.trans first.start
  clock := second.clock.trans first.clock
  removed := second.removed.trans first.removed
  sound sound := second.sound (first.sound sound)

end Written

/-- A path that goes up at its end leads to a directory. -/
theorem find_up {follow : Bool} {path : Path} {spot : Spot} (proper : path.Proper)
    (found : tree.find follow (path.child "..").toString = .ok spot) :
    ∃ place, spot = .found place .directory := by
  rw [find_child proper ⟨by decide, by decide⟩] at found
  split at found
  · simp at found
  · obtain ⟨left, there, _, last⟩ := exists_leads (by simp) found
    rw [search_up, search_nil] at last
    exact ⟨there.dropLast, (Except.ok.inj last).symm⟩

/-- A path without segments leads to a directory. -/
theorem find_bare {path : Path} (proper : path.Proper) (bare : path.parts = []) {follow : Bool}
    {spot : Spot} (found : tree.find follow path.toString = .ok spot) :
    ∃ place, spot = .found place .directory := by
  rw [find_eq_search proper, bare, search_nil] at found
  split at found
  · cases found
  · exact ⟨_, (Except.ok.inj found).symm⟩

/-- A path at which something other than a directory is found has a name at its end. -/
theorem isName_of_find {path : Path} (proper : path.Proper) {follow : Bool} {place : Location}
    {entry : Entry} (bare : entry ≠ .directory)
    (found : tree.find follow path.toString = .ok (.found place entry)) :
    path.parts ≠ [] ∧ IsName path.name := by
  have nonempty : path.parts ≠ [] := by
    intro empty
    obtain ⟨_, same⟩ := find_bare proper empty found
    exact bare (Spot.found.inj same).2
  refine ⟨nonempty, proper.name nonempty, fun up => ?_⟩
  rw [← Path.parent_child_name nonempty, up] at found
  obtain ⟨_, same⟩ := find_up proper.parent found
  exact bare (Spot.found.inj same).2

theorem exists_written {path : Path} {name : String} {content : Bytes} (sound : before.Sound)
    (proper : path.Proper) (segment : IsSegment name)
    (done : before.write (path.child name).toString content = .ok after) :
    ∃ spot place, before.find true (path.child name).toString = .ok spot ∧
      Settles before (before.base path) (path.parts ++ [name]) place ∧ Sighted before spot place ∧
      Written before after place content := by
  unfold write at done
  split at done
  · simp at done
  rw [if_neg (by simp [Path.not_endsWith_slash_child proper segment])] at done
  simp only at done
  have named : IsName name := by
    refine ⟨segment, ?_⟩
    rintro rfl
    rcases found : before.find true (path.child "..").toString with cause | spot
    · simp [found] at done
    · obtain ⟨place, up⟩ := find_up proper found
      simp [found, up] at done
  split at done
  next place file found =>
    obtain ⟨there, settles, sighted⟩ := settles_of_find sound proper named found
    refine ⟨_, there, found, settles, sighted, ?_⟩
    cases sighted with
    | found held _ =>
        have nonempty : place ≠ [] := by
          rintro rfl
          simp at held
        obtain rfl := Except.ok.inj done
        exact ⟨⟨file.id, at?_put nonempty _⟩, .inr ⟨file, held⟩, rfl, rfl, rfl,
          fun sound => sound.put_file held content before.clock⟩
  next => simp at done
  next directory missed found =>
    obtain ⟨there, settles, sighted⟩ := settles_of_find sound proper named found
    refine ⟨_, there, found, settles, sighted, ?_⟩
    cases sighted with
    | missing parent called absent =>
        obtain rfl := Except.ok.inj done
        exact ⟨⟨before.nextId, at?_put (by simp) _⟩, .inl absent, rfl, rfl, rfl,
          fun sound => sound.put_newFile parent called absent content before.clock⟩
  next => simp at done

/-! ## Removing -/

/-- A tree in which some of what was at or below a place is gone, and otherwise the same. -/
structure Eroded (before after : FileTree) (top : Location) : Prop where
  places : ∀ place, after.at? place = before.at? place ∨
    isBelow place top = true ∧ after.at? place = none
  start : after.start = before.start
  sound : before.Sound → after.Sound

namespace Eroded

variable {top : Location}

theorem refl (tree : FileTree) (top : Location) : Eroded tree tree top := ⟨fun _ => .inl rfl, rfl, id⟩

theorem trans {middle : FileTree} (first : Eroded before middle top)
    (second : Eroded middle after top) : Eroded before after top := by
  refine ⟨fun place => ?_, second.start.trans first.start, second.sound ∘ first.sound⟩
  rcases second.places place with same | gone
  · rcases first.places place with sameBefore | ⟨below, gone⟩
    · exact .inl (same.trans sameBefore)
    · exact .inr ⟨below, same.trans gone⟩
  · exact .inr gone

theorem at?_of_outside (eroded : Eroded before after top) {place : Location}
    (outside : isBelow place top = false) : after.at? place = before.at? place := by
  rcases eroded.places place with same | ⟨below, _⟩
  · exact same
  · exact absurd (below.symm.trans outside) Bool.noConfusion

theorem narrows (eroded : Eroded before after top) : Narrows before after := by
  intro place entry held _
  rcases eroded.places place with same | ⟨_, gone⟩
  · exact .inl (same.trans held)
  · exact .inr (.inl gone)

end Eroded

theorem eroded_drop (tree : FileTree) {top place : Location} (below : isBelow place top = true) :
    Eroded tree (tree.drop place) top := by
  refine ⟨fun other => ?_, rfl, fun sound => sound.drop place⟩
  rw [at?_drop]
  split
  next inside => exact .inr ⟨isBelow_trans inside.2 below, rfl⟩
  next => exact .inl rfl

theorem eroded_emptied (tree : FileTree) (place : Location) :
    Eroded tree (tree.emptied place) place := by
  unfold emptied
  generalize tree.children place = names
  induction names generalizing tree with
  | nil => exact .refl tree place
  | cons first rest inductionHypothesis =>
      rw [List.foldl_cons]
      exact (eroded_drop tree (isBelow_append place [first.1])).trans (inductionHypothesis _)

theorem mem_children_iff (sound : tree.Sound) {place : Location} {name : String} {entry : Entry} :
    (name, entry) ∈ tree.children place ↔ tree.at? (place ++ [name]) = some entry := by
  unfold children
  rw [List.mem_filterMap]
  constructor
  · rintro ⟨⟨whole, held⟩, member, chosen⟩
    have there := (sound.mem_entries_iff.1 member).2
    rcases List.eq_nil_or_concat whole with rfl | ⟨front, last, rfl⟩
    · simp at chosen
    · simp only [List.concat_eq_append, List.getLast?_append, List.getLast?_singleton,
        List.dropLast_concat, Option.some_or] at chosen there
      split at chosen
      next here =>
        obtain ⟨rfl, rfl⟩ := Prod.mk.inj (Option.some.inj chosen)
        exact here ▸ there
      next => simp at chosen
  · intro held
    exact ⟨(place ++ [name], entry), sound.mem_entries_iff.2 ⟨by simp, held⟩, by simp⟩

theorem nodup_children (sound : tree.Sound) (place : Location) :
    ((tree.children place).map Prod.fst).Nodup := by
  have chosen : (tree.children place).map Prod.fst = (tree.entries.map Prod.fst).filterMap
      fun whole => if whole.dropLast = place then whole.getLast? else none := by
    rw [children, List.map_filterMap, List.filterMap_map]
    refine List.filterMap_congr fun entry _ => ?_
    cases last : entry.1.getLast? with
    | none => simp [last]
    | some name => by_cases here : entry.1.dropLast = place <;> simp [last, here]
  rw [chosen]
  refine sound.once.filterMap fun first second name atFirst atSecond => ?_
  have whole : ∀ {other : Location},
      name ∈ (if other.dropLast = place then other.getLast? else none) → other = place ++ [name] := by
    intro other held
    split at held
    next above => rw [← above, List.dropLast_append_getLast? name held]
    next => cases held
  rw [whole atFirst, whole atSecond]

theorem inOrder_eq_insertionSort (items : List (String × Entry)) :
    inOrder items = items.insertionSort fun first second => first.1 ≤ second.1 := by
  have inserted : insertName = List.orderedInsert fun first second => first.1 ≤ second.1 := by
    funext item rest
    induction rest with
    | nil => rfl
    | cons first rest inductionHypothesis =>
        rw [insertName, List.orderedInsert, inductionHypothesis]
  rw [inOrder, inserted, List.insertionSort]

theorem perm_inOrder (items : List (String × Entry)) : (inOrder items).Perm items := by
  rw [inOrder_eq_insertionSort]
  exact List.perm_insertionSort _ items

theorem pairwise_inOrder (items : List (String × Entry)) :
    (inOrder items).Pairwise fun first second => first.1 ≤ second.1 := by
  have total : Std.Total fun first second : String × Entry => first.1 ≤ second.1 :=
    ⟨fun first second => String.le_total first.1 second.1⟩
  have transitive : IsTrans (String × Entry) fun first second => first.1 ≤ second.1 :=
    ⟨fun _ _ _ => String.le_trans⟩
  rw [inOrder_eq_insertionSort]
  exact List.pairwise_insertionSort _ items

/-- The names in a directory are listed in their order, each once. -/
theorem ascending_inOrder (sound : tree.Sound) (place : Location) :
    (inOrder (tree.children place)).Pairwise fun first second => first.1 < second.1 := by
  have once := ((perm_inOrder (tree.children place)).map Prod.fst).nodup_iff.mpr (nodup_children sound place)
  apply ((pairwise_inOrder _).and (List.pairwise_map.mp once)).imp
  intro first second both
  exact lt_of_le_of_ne both.1 both.2

theorem at?_dropAll (names : List (String × Entry)) (tree : FileTree) (place other : Location) :
    (names.foldl (fun tree (name, _) => tree.drop (place ++ [name])) tree).at? other =
      if ∃ listed ∈ names, isBelow other (place ++ [listed.1]) = true then none
      else tree.at? other := by
  induction names generalizing tree with
  | nil => simp
  | cons first rest inductionHypothesis =>
      rw [List.foldl_cons, inductionHypothesis, at?_drop]
      have nonempty : isBelow other (place ++ [first.1]) = true → other ≠ [] := by
        rintro below rfl
        simpa using List.prefix_nil.1 (isBelow_iff.1 below)
      by_cases later : ∃ listed ∈ rest, isBelow other (place ++ [listed.1]) = true
      · rw [if_pos later, if_pos (by
          obtain ⟨listed, member, below⟩ := later
          exact ⟨listed, List.mem_cons_of_mem _ member, below⟩)]
      · rw [if_neg later]
        by_cases now : isBelow other (place ++ [first.1]) = true
        · rw [if_pos ⟨nonempty now, now⟩, if_pos ⟨first, List.mem_cons_self, now⟩]
        · rw [if_neg (fun both => now both.2), if_neg]
          rintro ⟨listed, member, below⟩
          rcases List.mem_cons.1 member with rfl | member
          · exact now below
          · exact later ⟨listed, member, below⟩

/-- Nothing is left in an emptied directory. -/
theorem at?_emptied (sound : tree.Sound) (place other : Location) :
    (tree.emptied place).at? other =
      if isBelow other place = true ∧ other ≠ place then none else tree.at? other := by
  rw [emptied, at?_dropAll]
  by_cases inside : isBelow other place = true ∧ other ≠ place
  · rw [if_pos inside]
    obtain ⟨further, rfl⟩ := exists_append_of_isBelow inside.1
    cases further with
    | nil => simp at inside
    | cons name rest =>
        split
        next => rfl
        next unlisted =>
          cases held : tree.at? (place ++ name :: rest) with
          | none => rfl
          | some entry =>
              have shape : place ++ name :: rest = (place ++ [name]) ++ rest := by simp
              have above : ∃ first, tree.at? (place ++ [name]) = some first := by
                by_cases direct : rest = []
                · exact ⟨entry, by simpa [direct] using held⟩
                · rw [shape] at held
                  exact ⟨_, sound.at?_above held (isBelow_append _ rest) (by simpa using direct)⟩
              obtain ⟨first, there⟩ := above
              exact absurd ⟨(name, first), (mem_children_iff sound).2 there,
                shape ▸ isBelow_append _ rest⟩ unlisted
  · rw [if_neg inside, if_neg]
    rintro ⟨listed, _, below⟩
    obtain ⟨further, rfl⟩ := exists_append_of_isBelow below
    refine inside ⟨?_, by simp⟩
    rw [List.append_assoc]
    exact isBelow_append place _

theorem drop_of_unlink {raw : String} (done : tree.unlink raw = .ok after) :
    ∃ place entry, tree.find false raw = .ok (.found place entry) ∧ entry ≠ .directory ∧
      after = tree.drop place := by
  unfold unlink at done
  split at done
  next => simp at done
  next place entry bare found =>
    obtain rfl := Except.ok.inj done
    refine ⟨place, entry, (stat_eq_ok_iff.1 found).2, ?_, rfl⟩
    rintro rfl
    exact bare rfl
  next => simp at done

/-- The removal of a directory stops before anything, or with the directory emptied, or removes the
directory, which it has found again by its path. -/
theorem removeDirectory_cases (tree : FileTree) (raw : String) :
    (∃ error, tree.removeDirectory raw = (tree, some error)) ∨
      ∃ place, tree.find false raw = .ok (.found place .directory) ∧
        ((∃ error, tree.removeDirectory raw = (tree.emptied place, some error)) ∨
          (∃ found, (tree.emptied place).stat false raw = .ok found) ∧
            tree.removeDirectory raw = ((tree.emptied place).drop place, none)) := by
  unfold removeDirectory
  split
  next place found =>
    refine .inr ⟨place, (stat_eq_ok_iff.1 found).2, ?_⟩
    simp only
    split
    next error _ => exact .inl ⟨error, rfl⟩
    next again found =>
      by_cases top : place = []
      · exact .inl ⟨_, if_pos top⟩
      by_cases idle : isIdle (lastSegment raw) = true
      · exact .inl ⟨_, by rw [if_neg top, if_pos idle]⟩
      by_cases up : (lastSegment raw == "..") = true
      · exact .inl ⟨_, by rw [if_neg top, if_neg idle, if_pos up]⟩
      · exact .inr ⟨⟨again, found⟩, by rw [if_neg top, if_neg idle, if_neg up]⟩
  next => exact .inl ⟨_, rfl⟩
  next error _ => exact .inl ⟨error, rfl⟩

/-! ## Renaming -/

/-- A tree in which something that is no directory has moved, and otherwise the same. -/
structure Renamed (before after : FileTree) (source target : Location) (entry : Entry) : Prop where
  held : before.at? source = some entry
  vacatable : before.at? target ≠ some .directory
  places : ∀ other, after.at? other =
    if other = target then some entry else if other = source then none else before.at? other
  start : after.start = before.start
  sound : after.Sound

theorem Sound.drop_of_absent (sound : tree.Sound) {top : Location} (absent : tree.at? top = none) :
    tree.drop top = tree := by
  have outside : ∀ e ∈ tree.entries, isBelow e.1 top = false := by
    intro e member
    cases below : isBelow e.1 top with
    | false => rfl
    | true =>
        have held := (sound.mem_entries_iff.1 member).2
        exact absurd (sound.free_of_absent absent e.1 below) (by simp [held])
  have kept : (tree.drop top).entries = tree.entries :=
    List.filter_eq_self.2 fun e member => by simp [outside e member]
  have gone : (tree.drop top).removed = tree.removed := by
    unfold FileTree.drop
    simp only [List.append_right_eq_self, List.filterMap_eq_nil_iff]
    intro e member
    split
    · simp [outside e member]
    · rfl
  have shape : tree.drop top =
      { tree with entries := (tree.drop top).entries, removed := (tree.drop top).removed } := rfl
  rw [shape, kept, gone]

theorem Sound.renamed (sound : tree.Sound) {directory source : Location} {name : String}
    {entry : Entry} (held : tree.at? source = some entry) (bare : entry ≠ .directory)
    (parent : tree.at? directory = some .directory) (named : IsName name)
    (vacatable : tree.at? (directory ++ [name]) ≠ some .directory) (apart : source ≠ directory ++ [name]) :
    Renamed tree ((tree.drop (directory ++ [name])).move source (directory ++ [name])) source
      (directory ++ [name]) entry := by
  have leaf : tree.at? source ≠ some .directory := fun same =>
    bare (Option.some.inj (held.symm.trans same))
  have sourceNonempty : source ≠ [] := by
    rintro rfl
    exact leaf rfl
  have lower : ∀ other, isBelow other (directory ++ [name]) = true → other ≠ directory ++ [name] →
      tree.at? other = none := fun other below proper => sound.at?_below vacatable below proper
  have lost : ∀ other, isBelow other source = true → other ≠ source → tree.at? other = none :=
    fun other below proper => sound.at?_below leaf below proper
  have free : ∀ place, isBelow place (directory ++ [name]) = true →
      (tree.drop (directory ++ [name])).at? place = none := by
    intro place below
    rw [at?_drop]
    split
    next => rfl
    next outside =>
      refine absurd ⟨?_, below⟩ outside
      rintro rfl
      simpa using List.prefix_nil.1 (isBelow_iff.1 below)
  have sourceOutside : isBelow source (directory ++ [name]) = false := by
    cases below : isBelow source (directory ++ [name]) with
    | false => rfl
    | true => exact absurd (lower source below apart) (by simp [held])
  have targetOutside : isBelow (directory ++ [name]) source = false := by
    cases below : isBelow (directory ++ [name]) source with
    | false => rfl
    | true =>
        rcases eq_or_isBelow_dropLast below with same | above
        · exact absurd same.symm apart
        · rw [List.dropLast_concat] at above
          by_cases same : directory = source
          · exact absurd (same ▸ parent) leaf
          · exact absurd (lost directory above same) (by simp [parent])
  have parentOutside : isBelow directory (directory ++ [name]) = false := by
    cases below : isBelow directory (directory ++ [name]) with
    | false => rfl
    | true =>
        have short := (isBelow_iff.1 below).length_le
        simp at short
  have parentKept : (tree.drop (directory ++ [name])).at? directory = some .directory := by
    rw [at?_drop, if_neg (fun both => by simp [parentOutside] at both), parent]
  refine ⟨held, vacatable, fun other => ?_, rfl,
    (sound.drop _).move sourceNonempty parentKept named free targetOutside⟩
  rw [at?_move sourceNonempty (by simp) free]
  by_cases there : other = directory ++ [name]
  · subst there
    rw [if_pos (isBelow_refl _), if_pos rfl, List.drop_length, List.append_nil, at?_drop,
      if_neg (fun both => by simp [sourceOutside] at both), held]
  rw [if_neg there]
  by_cases below : isBelow other (directory ++ [name]) = true
  · obtain ⟨further, rfl⟩ := exists_append_of_isBelow below
    have more : further ≠ [] := fun empty => there (by simp [empty])
    have away : directory ++ [name] ++ further ≠ source := by
      rintro same
      rw [← same, isBelow_append] at sourceOutside
      exact Bool.noConfusion sourceOutside
    rw [if_pos below, if_neg away, List.drop_left, lower _ below there, at?_drop]
    split
    next => rfl
    next => exact lost _ (isBelow_append source further) (by simpa using more)
  rw [if_neg below]
  by_cases here : other = source
  · rw [if_pos (here ▸ isBelow_refl source), if_pos here]
  rw [if_neg here]
  by_cases under : isBelow other source = true
  · rw [if_pos under, lost other under here]
  · rw [if_neg under, at?_drop, if_neg (fun both => below both.2)]

/-- A tree in which what is at a place, with all that is below it, has moved to another, and otherwise
the same. -/
structure Moved (before after : FileTree) (source target : Location) : Prop where
  there : ∀ rest, after.at? (target ++ rest) = before.at? (source ++ rest)
  gone : ∀ rest, after.at? (source ++ rest) = none
  elsewhere : ∀ {place : Location}, isBelow place source = false → isBelow place target = false →
    after.at? place = before.at? place
  start : after.start = before.start
  sound : after.Sound

/-- What has a name moves to a name that nothing has. -/
theorem Sound.moved (sound : tree.Sound) {directory : Location} {first second : String}
    (parent : tree.at? directory = some .directory) (named : IsName second) (apart : first ≠ second)
    (absent : tree.at? (directory ++ [second]) = none) :
    Moved tree (tree.move (directory ++ [first]) (directory ++ [second])) (directory ++ [first])
      (directory ++ [second]) := by
  have free := sound.free_of_absent absent
  have filled : ∀ name, directory ++ [name] ≠ [] := fun name => by simp
  have look := at?_move (filled first) (filled second) free
  refine ⟨fun rest => ?_, fun rest => ?_, fun {place} outside away => ?_, rfl, ?_⟩
  · rw [look, if_pos (isBelow_append _ _), List.drop_left]
  · have outside : isBelow (directory ++ [first] ++ rest) (directory ++ [second]) = false := by
      rw [List.append_assoc]
      exact not_isBelow_sibling apart rest
    rw [look, outside, isBelow_append]
    simp
  · rw [look, away, outside]
    simp
  · exact sound.move (by simp) parent named free (not_isBelow_sibling apart.symm [])

theorem renamed_of_rename (sound : before.Sound) {path : Path} {first second : String}
    {directory : Location} (proper : path.Proper) (reaches : before.Reaches path directory)
    (firstNamed : IsName first) (secondNamed : IsName second) (apart : first ≠ second)
    (bare : before.at? (directory ++ [first]) ≠ some .directory)
    (done : before.rename (path.child first).toString (path.child second).toString = .ok after) :
    ∃ entry, Renamed before after (directory ++ [first]) (directory ++ [second]) entry := by
  have slashFirst := Path.not_endsWith_slash_child proper firstNamed.1
  have slashSecond := Path.not_endsWith_slash_child proper secondNamed.1
  have sourceApart : directory ++ [first] ≠ directory ++ [second] := by simpa using apart
  unfold rename at done
  simp only [Path.withoutTrailing_toString (proper.child firstNamed.1),
    Path.withoutTrailing_toString (proper.child secondNamed.1), slashFirst, slashSecond,
    Bool.or_false, Bool.and_false, Bool.false_eq_true, if_false] at done
  split at done
  · simp at done
  split at done
  · simp at done
  split at done
  next => simp at done
  next => simp at done
  next origin aim originFound aimFound =>
    obtain ⟨_, _, firstFits⟩ := exists_reaches proper firstNamed originFound
    obtain ⟨_, _, secondFits⟩ := exists_reaches proper secondNamed aimFound
    rw [reaches.find_false proper firstNamed firstFits] at originFound
    rw [reaches.find_false proper secondNamed secondFits] at aimFound
    split at done
    · simp at done
    cases held : before.at? (directory ++ [first]) with
    | none =>
        rw [held] at originFound
        simp only at originFound
        split at originFound
        · obtain rfl := Except.ok.inj originFound
          simp at done
        · simp at originFound
    | some entry =>
        have leaf : entry ≠ .directory := fun same => bare (same ▸ held)
        rw [held] at originFound
        obtain rfl := Except.ok.inj originFound
        cases goal : before.at? (directory ++ [second]) with
        | none =>
            rw [goal] at aimFound
            simp only at aimFound
            split at aimFound
            next parent =>
              obtain rfl := Except.ok.inj aimFound
              simp only at done
              split at done
              · simp at done
              obtain rfl := Except.ok.inj done
              have moved := sound.renamed held leaf parent secondNamed (by simp [goal]) sourceApart
              rw [sound.drop_of_absent goal] at moved
              exact ⟨entry, moved⟩
            next => simp at aimFound
        | some existing =>
            rw [goal] at aimFound
            obtain rfl := Except.ok.inj aimFound
            have parent : before.at? directory = some .directory := by
              simpa using sound.rooted goal
            simp only [if_neg sourceApart.symm] at done
            split at done
            · simp at done
            split at done
            · simp at done
            cases existing with
            | directory => simp at done
            | file file =>
                obtain rfl := Except.ok.inj done
                exact ⟨entry, sound.renamed held leaf parent secondNamed (by simp [goal]) sourceApart⟩
            | link target =>
                obtain rfl := Except.ok.inj done
                exact ⟨entry, sound.renamed held leaf parent secondNamed (by simp [goal]) sourceApart⟩

end FileTree
end Files
end ClassLoom
