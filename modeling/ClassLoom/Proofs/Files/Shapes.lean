import ClassLoom.Proofs.Files.Changes

namespace ClassLoom
namespace Files
namespace FileTree

/-!
# Trees of the same shape

A look-up passes through directories and links, and of a file it asks only whether one is there.  So
it fares alike in trees that differ in their files only: the same paths lead to the same directories,
and the same names are listed in them, in the same order.
-/

variable {tree other : FileTree}

/-- What a look-up goes by: of a file, no more than that it is one. -/
def Entry.shape : Entry → Entry
  | .file _ => .file default
  | entry => entry

/-! ## Listings -/

/-- What is listed in a directory, as far as a look-up goes by it. -/
def shapes (tree : FileTree) (place : Location) : List (String × Entry) :=
  (inOrder (tree.children place)).map (Prod.map id Entry.shape)

theorem mem_shapes_iff (sound : tree.Sound) {place : Location} {name : String} {shape : Entry} :
    (name, shape) ∈ tree.shapes place ↔ (tree.at? (place ++ [name])).map Entry.shape = some shape := by
  rw [shapes, List.mem_map, Option.map_eq_some_iff]
  constructor
  · rintro ⟨⟨listed, entry⟩, member, same⟩
    obtain ⟨rfl, rfl⟩ := Prod.mk.inj same
    exact ⟨entry, (mem_children_iff sound).1 ((perm_inOrder _).mem_iff.1 member), rfl⟩
  · rintro ⟨entry, held, rfl⟩
    exact ⟨(name, entry), (perm_inOrder _).mem_iff.2 ((mem_children_iff sound).2 held), rfl⟩

theorem nodup_names (sound : tree.Sound) (place : Location) :
    ((tree.shapes place).map Prod.fst).Nodup := by
  rw [shapes, List.map_map, Prod.map_fst', Function.id_comp]
  exact ((perm_inOrder _).map Prod.fst).nodup_iff.2 (nodup_children sound place)

theorem pairwise_shapes (tree : FileTree) (place : Location) :
    (tree.shapes place).Pairwise fun first second => first.1 ≤ second.1 := by
  rw [shapes, List.pairwise_map]
  exact pairwise_inOrder _

theorem ascending_shapes (sound : tree.Sound) (place : Location) :
    (tree.shapes place).Pairwise fun first second => first.1 < second.1 := by
  rw [shapes, List.pairwise_map]
  exact ascending_inOrder sound place

/-- The way down to what is there goes through the listing of each directory. -/
theorem Sound.exists_listed (sound : tree.Sound) {top : Location} {front names : List String}
    {entry : Entry} (held : tree.at? (top ++ names) = some entry) (start : front <+: names)
    (apart : names ≠ front) :
    ∃ name ∈ (tree.shapes (top ++ front)).map Prod.fst, front ++ [name] <+: names := by
  obtain ⟨rest, rfl⟩ := start
  cases rest with
  | nil => exact absurd (List.append_nil front) apart
  | cons name rest =>
      have below : isBelow (top ++ (front ++ name :: rest)) (top ++ front ++ [name]) = true :=
        isBelow_iff.2 ⟨rest, by simp⟩
      have there : ∃ above, tree.at? (top ++ front ++ [name]) = some above := by
        by_cases last : top ++ (front ++ name :: rest) = top ++ front ++ [name]
        · exact ⟨entry, last ▸ held⟩
        · exact ⟨.directory, sound.at?_above held below last⟩
      obtain ⟨above, heldAbove⟩ := there
      refine ⟨name, List.mem_map.2 ⟨(name, Entry.shape above), ?_, rfl⟩, ⟨rest, by simp⟩⟩
      exact (mem_shapes_iff sound).2 (by rw [heldAbove]; rfl)

/-- What is below a file's place is that file. -/
theorem Sound.eq_of_prefix (sound : tree.Sound) {top : Location} {front names : List String}
    {leaf : File} {entry : Entry} (held : tree.at? (top ++ front) = some (.file leaf))
    (there : tree.at? (top ++ names) = some entry) (start : front <+: names) : names = front := by
  obtain ⟨rest, rfl⟩ := start
  by_contra longer
  have below : isBelow (top ++ (front ++ rest)) (top ++ front) = true := by
    rw [← List.append_assoc]
    exact isBelow_append _ _
  have above := sound.at?_above there below (by simpa using longer)
  rw [held] at above
  cases above

/-- Trees with the same directories and links, and with files in the same places. -/
structure SameShape (tree other : FileTree) : Prop where
  places : ∀ place, (other.at? place).map Entry.shape = (tree.at? place).map Entry.shape
  start : other.start = tree.start

namespace SameShape

theorem refl (tree : FileTree) : SameShape tree tree := ⟨fun _ => rfl, rfl⟩

theorem symm (same : SameShape tree other) : SameShape other tree :=
  ⟨fun place => (same.places place).symm, same.start.symm⟩

theorem trans {last : FileTree} (first : SameShape tree other) (second : SameShape other last) :
    SameShape tree last :=
  ⟨fun place => (second.places place).trans (first.places place), second.start.trans first.start⟩

theorem at?_of_not_file (same : SameShape tree other) {place : Location} {entry : Entry}
    (held : tree.at? place = some entry) (leadsOn : Entry.isFile entry = false) :
    other.at? place = some entry := by
  have shapes := same.places place
  rw [held] at shapes
  cases there : other.at? place with
  | none => simp [there] at shapes
  | some found =>
      rw [there] at shapes
      cases entry <;> cases found <;> simp_all [Entry.shape, Entry.isFile]

theorem exists_file (same : SameShape tree other) {place : Location} {file : File}
    (held : tree.at? place = some (.file file)) : ∃ twin, other.at? place = some (.file twin) := by
  have shapes := same.places place
  rw [held] at shapes
  cases there : other.at? place with
  | none => simp [there] at shapes
  | some found =>
      rw [there] at shapes
      cases found with
      | file twin => exact ⟨twin, rfl⟩
      | directory => simp [Entry.shape] at shapes
      | link target => simp [Entry.shape] at shapes

theorem settles (same : SameShape tree other) {here there : Location} {parts : List String}
    (settles : Settles tree here parts there) : Settles other here parts there :=
  settles.congr ⟨fun held => same.at?_of_not_file held rfl,
    fun held => same.symm.at?_of_not_file held rfl⟩

theorem base (same : SameShape tree other) (path : Path) : other.base path = tree.base path := by
  rw [FileTree.base, FileTree.base, same.start]

/-- A file in the stead of a file. -/
theorem of_file {place : Location} {file new : File} (held : tree.at? place = some (.file file))
    (places : ∀ elsewhere, other.at? elsewhere =
      if elsewhere = place then some (.file new) else tree.at? elsewhere)
    (start : other.start = tree.start) : SameShape tree other := by
  refine ⟨fun elsewhere => ?_, start⟩
  rw [places]
  split
  next here =>
    rw [here, held]
    rfl
  next => rfl

/-- The same names are listed, in the same order. -/
theorem listed (same : SameShape tree other) (sound : tree.Sound) (soundOther : other.Sound)
    (place : Location) : other.shapes place = tree.shapes place := by
  have once := (nodup_names sound place).of_map Prod.fst
  have onceOther := (nodup_names soundOther place).of_map Prod.fst
  refine List.Perm.eq_of_pairwise ?_ (pairwise_shapes other place) (pairwise_shapes tree place)
    ((List.perm_ext_iff_of_nodup onceOther once).2 fun item => ?_)
  · -- A name is listed with one shape only, so names that stand in either order are the same item.
    rintro ⟨name, shape⟩ ⟨twin, twinShape⟩ member twinMember before after
    obtain rfl : name = twin := String.le_antisymm before after
    rw [mem_shapes_iff soundOther, same.places] at member
    rw [mem_shapes_iff sound] at twinMember
    rw [Option.some.inj (member.symm.trans twinMember)]
  · rcases item with ⟨name, shape⟩
    rw [mem_shapes_iff soundOther, mem_shapes_iff sound, same.places]

end SameShape

/-! ## Searches -/

/-- What a search has found, as far as a look-up goes by it. -/
def Spot.shape : Spot → Spot
  | .found place entry => .found place (Entry.shape entry)
  | .missing directory name => .missing directory name

namespace SameShape

theorem walk (same : SameShape tree other) {follow : Bool}
    {onLink onOther : Location → String → List String → Except Cause Spot}
    (onward : ∀ directory target rest, (onOther directory target rest).map Spot.shape =
      (onLink directory target rest).map Spot.shape) (here : Location) (parts : List String) :
    (FileTree.walk other follow onOther here parts).map Spot.shape =
      (FileTree.walk tree follow onLink here parts).map Spot.shape := by
  induction parts generalizing here with
  | nil => rfl
  | cons segment rest inductionHypothesis =>
      rw [FileTree.walk, FileTree.walk]
      by_cases idle : isIdle segment = true
      · rw [if_pos idle, if_pos idle]
        exact inductionHypothesis here
      rw [if_neg idle, if_neg idle]
      by_cases up : segment = ".."
      · rw [if_pos up, if_pos up]
        exact inductionHypothesis here.dropLast
      rw [if_neg up, if_neg up]
      by_cases long : 255 < segment.utf8ByteSize
      · rw [if_pos long, if_pos long]
      rw [if_neg long, if_neg long]
      cases held : tree.at? (here ++ [segment]) with
      | none =>
          have there : other.at? (here ++ [segment]) = none := by
            simpa [held] using same.places (here ++ [segment])
          have alive : (other.at? here = some .directory) = (tree.at? here = some .directory) :=
            propext ⟨fun held => same.symm.at?_of_not_file held rfl,
              fun held => same.at?_of_not_file held rfl⟩
          simp only [held, there, alive]
      | some entry =>
          cases entry with
          | file file =>
              obtain ⟨twin, there⟩ := same.exists_file held
              simp only [held, there]
              split
              · rfl
              · rfl
          | directory =>
              simp only [held, same.at?_of_not_file held rfl]
              exact inductionHypothesis (here ++ [segment])
          | link target =>
              simp only [held, same.at?_of_not_file held rfl]
              split
              · rfl
              · exact onward here target rest

theorem search (same : SameShape tree other) {follow : Bool} (links : Nat) (here : Location)
    (parts : List String) :
    (FileTree.search other follow links here parts).map Spot.shape =
      (FileTree.search tree follow links here parts).map Spot.shape := by
  induction links generalizing here parts with
  | zero => exact same.walk (fun _ _ _ => rfl) here parts
  | succ links inductionHypothesis =>
      exact same.walk (fun _ _ _ => inductionHypothesis _ _) here parts

theorem find (same : SameShape tree other) (follow : Bool) (raw : String) :
    (other.find follow raw).map Spot.shape = (tree.find follow raw).map Spot.shape := by
  rw [FileTree.find, FileTree.find, same.start]
  split
  · rfl
  split
  · rfl
  · exact same.search linkLimit _ _

/-- A look-up finds the same, or fails in the same way. -/
theorem stat (same : SameShape tree other) (follow : Bool) (raw : String) :
    (other.stat follow raw).map (Prod.map id Entry.shape) =
      (tree.stat follow raw).map (Prod.map id Entry.shape) := by
  have found := same.find follow raw
  rw [FileTree.stat, FileTree.stat]
  split
  · rfl
  cases sought : tree.find follow raw with
  | error cause =>
      rw [sought] at found
      cases there : other.find follow raw with
      | error twin =>
          rw [there] at found
          obtain rfl := Except.error.inj found
          rfl
      | ok spot =>
          rw [there] at found
          cases found
  | ok spot =>
      rw [sought] at found
      cases there : other.find follow raw with
      | error cause =>
          rw [there] at found
          cases found
      | ok twin =>
          rw [there] at found
          have shapes : Spot.shape twin = Spot.shape spot := Except.ok.inj found
          cases spot with
          | found place entry =>
              cases twin with
              | found twinPlace twinEntry =>
                  obtain ⟨rfl, shape⟩ := Spot.found.inj shapes
                  exact congrArg (fun shape => Except.ok (twinPlace, shape)) shape
              | missing directory name => cases shapes
          | missing directory name =>
              cases twin with
              | found twinPlace twinEntry => cases shapes
              | missing twinDirectory twinName => rfl

theorem stat_error (same : SameShape tree other) {follow : Bool} {raw : String} {error : FileError}
    (refused : tree.stat follow raw = .error error) : other.stat follow raw = .error error := by
  have seen := same.stat follow raw
  rw [refused] at seen
  cases there : other.stat follow raw with
  | error twin =>
      rw [there] at seen
      exact congrArg Except.error (Except.error.inj seen)
  | ok spot =>
      rw [there] at seen
      cases seen

theorem stat_ok (same : SameShape tree other) {follow : Bool} {raw : String} {place : Location}
    {entry : Entry} (found : tree.stat follow raw = .ok (place, entry)) :
    ∃ twin, other.stat follow raw = .ok (place, twin) ∧ Entry.shape twin = Entry.shape entry := by
  have seen := same.stat follow raw
  rw [found] at seen
  cases there : other.stat follow raw with
  | error twin =>
      rw [there] at seen
      cases seen
  | ok spot =>
      rcases spot with ⟨twinPlace, twin⟩
      rw [there] at seen
      obtain ⟨rfl, shape⟩ := Prod.mk.inj (Except.ok.inj seen)
      exact ⟨twin, rfl, shape⟩

theorem stat_directory (same : SameShape tree other) {follow : Bool} {raw : String} {place : Location}
    (found : tree.stat follow raw = .ok (place, .directory)) :
    other.stat follow raw = .ok (place, .directory) := by
  obtain ⟨twin, there, shape⟩ := same.stat_ok found
  cases twin with
  | directory => exact there
  | file file => cases shape
  | link target => cases shape

/-- What cannot be listed in one tree cannot be listed in the other. -/
theorem list_error (same : SameShape tree other) {raw : String} {error : FileError}
    (refused : tree.list raw = .error error) : other.list raw = .error error := by
  unfold list at refused ⊢
  split at refused
  · cases refused
  next spot busy seen =>
    rcases spot with ⟨place, entry⟩
    obtain ⟨twin, there, shape⟩ := same.stat_ok seen
    rw [there]
    cases twin with
    | directory =>
        cases entry with
        | directory => exact absurd rfl (busy place)
        | file file => cases shape
        | link target => cases shape
    | file file => exact refused
    | link target => exact refused
  next error seen =>
    rw [same.stat_error seen]
    exact refused

/-- A question that goes by the shape is answered alike. -/
theorem listedAs (same : SameShape tree other) (question : Entry → Bool)
    (blind : ∀ entry, question (Entry.shape entry) = question entry) (path : String) (entry : Entry) :
    other.listedAs question path entry = tree.listedAs question path entry := by
  cases entry with
  | file file => rfl
  | directory => rfl
  | link target =>
      simp only [FileTree.listedAs]
      cases found : tree.stat true path with
      | error error => rw [same.stat_error found]
      | ok spot =>
          obtain ⟨twin, there, shape⟩ := same.stat_ok found
          simp only [there]
          rw [← blind, shape, blind]

end SameShape

/-! ## Paths that lead to directories -/

theorem Leads.search_directory {links left : Nat} {here there : Location} {parts : List String}
    (leads : Leads tree links here parts left there) :
    search tree true links here parts = .ok (.found there .directory) := by
  induction leads with
  | done => exact search_nil
  | idle idle _ inductionHypothesis => rw [search_idle idle, inductionHypothesis]
  | up _ inductionHypothesis => rw [search_up, inductionHypothesis]
  | down busy proper short held _ inductionHypothesis =>
      rw [search_name busy proper, if_neg (by omega), held]
      exact inductionHypothesis
  | link busy proper short held _ inductionHypothesis =>
      rw [search_name busy proper, if_neg (by omega), held]
      simp only [Bool.not_true, Bool.and_false, Bool.false_eq_true, if_false]
      exact inductionHypothesis

/-- One more link is followed only by a search that goes on from its target. -/
theorem leads_of_followLink {links : Nat} {there : Location}
    (onward : ∀ {directory : Location} {target : String} {rest : List String},
      followLink tree true links directory target rest = .ok (.found there .directory) →
      ∃ fewer left, links = fewer + 1 ∧
        Leads tree fewer (linkBase directory target) (rawSegments target ++ rest) left there)
    {here : Location} {parts : List String}
    (done : search tree true links here parts = .ok (.found there .directory)) :
    ∃ left, Leads tree links here parts left there := by
  induction parts generalizing here with
  | nil =>
      rw [search_nil] at done
      obtain ⟨rfl, _⟩ := Spot.found.inj (Except.ok.inj done)
      exact ⟨links, .done⟩
  | cons segment rest inductionHypothesis =>
      by_cases idle : isIdle segment = true
      · rw [search_idle idle] at done
        obtain ⟨left, leads⟩ := inductionHypothesis done
        exact ⟨left, .idle idle leads⟩
      have busy : isIdle segment = false := by simpa using idle
      by_cases up : segment = ".."
      · subst up
        rw [search_up] at done
        obtain ⟨left, leads⟩ := inductionHypothesis done
        exact ⟨left, .up leads⟩
      rw [search_name busy up] at done
      split at done
      · simp at done
      next short =>
        have short : segment.utf8ByteSize ≤ 255 := by omega
        cases held : tree.at? (here ++ [segment]) with
        | none =>
            rw [held] at done
            simp only at done
            split at done
            · simp at done
            · simp at done
        | some entry =>
            rw [held] at done
            cases entry with
            | file file =>
                simp only at done
                split at done
                · simp at done
                · simp at done
            | directory =>
                obtain ⟨left, leads⟩ := inductionHypothesis done
                exact ⟨left, .down busy up short held leads⟩
            | link target =>
                simp only [Bool.not_true, Bool.and_false, Bool.false_eq_true, if_false] at done
                obtain ⟨fewer, left, rfl, leads⟩ := onward done
                exact ⟨left, .link busy up short held leads⟩

/-- A search that ends in a directory has been led there. -/
theorem leads_of_search {links : Nat} {here there : Location} {parts : List String}
    (done : search tree true links here parts = .ok (.found there .directory)) :
    ∃ left, Leads tree links here parts left there := by
  induction links generalizing here parts with
  | zero =>
      refine leads_of_followLink ?_ done
      intro directory target rest refused
      simp [followLink] at refused
  | succ links inductionHypothesis =>
      refine leads_of_followLink ?_ done
      intro directory target rest further
      obtain ⟨left, leads⟩ := inductionHypothesis further
      exact ⟨links, left, rfl, leads⟩

theorem find_directory_iff {path : Path} (proper : path.Proper) {there : Location} :
    tree.find true path.toString = .ok (.found there .directory) ↔
      path.toString.utf8ByteSize ≤ pathLimit ∧ tree.Reaches path there := by
  rw [find_eq_search proper]
  constructor
  · intro found
    split at found
    · cases found
    next size => exact ⟨by omega, leads_of_search found⟩
  · rintro ⟨size, left, leads⟩
    rw [if_neg (by omega), leads.search_directory]

/-! ## Paths that stand for a place -/

/-- A path that stands for a place, whether or not something is there. -/
structure Stands (tree : FileTree) (path : Path) (place : Location) : Prop where
  proper : path.Proper
  based : tree.at? (tree.base path) = some .directory
  settles : Settles tree (tree.base path) path.parts place

namespace Stands

variable {path : Path} {place : Location}

theorem of_shape (stands : Stands tree path place) (same : SameShape tree other) :
    Stands other path place := by
  refine ⟨stands.proper, ?_, ?_⟩
  · rw [same.base]
    exact same.at?_of_not_file stands.based rfl
  · rw [same.base]
    exact same.settles stands.settles

/-- What is found at a path is at the place that it stands for. -/
theorem of_stat (stands : Stands tree path place) (sound : tree.Sound) {found : Location}
    {entry : Entry} (seen : tree.stat true path.toString = .ok (found, entry)) :
    found = place ∧ tree.at? place = some entry := by
  obtain ⟨_, searched⟩ := stat_eq_ok_iff.1 seen
  rw [find_eq_search stands.proper] at searched
  split at searched
  · cases searched
  · obtain ⟨there, settles, sighted⟩ := settles_of_search sound stands.based
      (fun part member => (stands.proper.parts part member).1) searched
    obtain rfl : there = place := settles.unique stands.settles
    cases sighted with
    | found held _ => exact ⟨rfl, held⟩

/-- What is written at a path is at the place that it stands for. -/
theorem written (stands : Stands tree path place) (sound : tree.Sound) {content : Bytes}
    (done : tree.write path.toString content = .ok other) : Written tree other place content := by
  by_cases bare : path.parts = []
  · -- A path without a name at its end leads to a directory, which is not written.
    unfold write at done
    split at done
    · cases done
    · simp only at done
      by_cases ending : path.toString.endsWith "/" = true
      · rw [if_pos ending] at done
        cases above : tree.find false (withoutTrailing path.toString) with
        | ok spot => simp [above, Except.bind] at done
        | error cause => simp [above, Except.bind] at done
      · rw [if_neg ending] at done
        cases found : tree.find true path.toString with
        | error cause => simp [found] at done
        | ok spot =>
            obtain ⟨there, rfl⟩ := find_bare stands.proper bare found
            simp [found] at done
  · have kept : path.parent.parts ++ [path.name] = path.parts :=
      congrArg Path.parts (Path.parent_child_name bare)
    rw [← Path.parent_child_name bare] at done
    obtain ⟨_, there, _, settles, _, written⟩ :=
      exists_written sound stands.proper.parent (stands.proper.name bare) done
    rw [kept] at settles
    obtain rfl : there = place := settles.unique stands.settles
    exact written

/-- A path stands for the same place as when it is written from the top. -/
theorem absolute (stands : Stands tree path place) (sound : tree.Sound)
    (started : tree.at? tree.start = some .directory) : Stands tree (tree.absolute path) place := by
  by_cases bare : path.root = ""
  · have whole : tree.absolute path = ⟨"/", tree.start ++ path.parts⟩ := by
      rw [FileTree.absolute, Path.from_, if_pos (beq_iff_eq.2 bare), pathOf]
    have top : tree.base (tree.absolute path) = [] := by
      rw [whole]
      exact if_neg (by decide : ¬"/" = "")
    have settles := stands.settles
    rw [base, if_pos bare] at settles
    refine ⟨?_, ?_, ?_⟩
    · rw [whole]
      refine ⟨.inr (.inl rfl), fun part member => ?_⟩
      rcases List.mem_append.1 member with above | below
      · exact (sound.start part above).1
      · exact stands.proper.parts part below
    · rw [top]
      rfl
    · rw [top, whole]
      refine .append (.straight sound.start fun front whole target held => ?_) settles
      -- Above a directory there are only directories.
      rw [List.nil_append] at held
      by_cases same : tree.start = front
      · rw [← same, started] at held
        cases held
      · rw [sound.at?_above started (isBelow_iff.2 whole) same] at held
        cases held
  · have whole : tree.absolute path = path := by
      rw [FileTree.absolute, Path.from_, if_neg (by simpa using bare)]
    rwa [whole]

end Stands

end FileTree
end Files
end ClassLoom
