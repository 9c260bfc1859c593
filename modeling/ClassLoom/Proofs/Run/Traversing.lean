import ClassLoom.Proofs.Files.Granting
import ClassLoom.Proofs.Names
import ClassLoom.Proofs.Rebuild.Ordering
import ClassLoom.Proofs.Run.Touring

namespace ClassLoom
namespace Run

/-!
# Class files in their order

A walk that only collects goes through the names of a directory in their order, and through all that
is below one name before it comes to the next.  So class files are found in the order of their paths,
compared name by name.  This is not the order of the paths as texts, in which `a-b.class` comes before
`a/b.class`.

Without links, one thing ends the walk early: a directory whose path is too long to be asked for.  What
comes before that directory has been found then, and nothing else.

The induction is on the depth of the walk, and for each directory on its listing.  Every stage tells
where it stopped, if it did, so that what follows a stop can be left out.
-/

open Files (FileTree Path IsName)
open Rebuild (under child_under lt_of_prefix lt_of_prefixes)

variable {tree : FileTree} {root : Path} {top : Files.Location} {names front parts : List String}
  {before : Workspace}

/-! ## Class files and their candidates -/

/-- Names that end as those of a class file do, if they are written with dots between them. -/
def NamesClass (names : List String) : Prop :=
  ∃ className, ".".intercalate names = className ++ ".class"

/-- A class file is some names below the root. -/
def IsClassPlace (tree : FileTree) (top : Files.Location) (names : List String) : Prop :=
  (∃ file, tree.at? (top ++ names) = some (.file file)) ∧ NamesClass names

/-- The candidate for a class file some names below the root. -/
def candidateAt (root : Path) (names : List String) : Candidate :=
  ⟨"/".intercalate names, String.ofList (stemOf (".".intercalate names).toList), under root names⟩

/-- What a candidate says of the class file some names below the root. -/
structure IsCandidateAt (tree : FileTree) (root : Path) (top : Files.Location) (names : List String)
    (candidate : Candidate) : Prop where
  relative : candidate.relativePath = "/".intercalate names
  dotted : candidate.className ++ ".class" = ".".intercalate names
  path : candidate.filePath = under root names
  stands : tree.Stands candidate.filePath (top ++ names)

theorem namesClass_iff : NamesClass names ↔ classSuffix <:+ (".".intercalate names).toList := by
  constructor
  · intro ⟨className, same⟩
    rw [same, String.toList_append]
    exact List.suffix_append className.toList classSuffix
  · intro ⟨stem, same⟩
    refine ⟨String.ofList stem, ?_⟩
    apply String.toList_injective
    rw [String.toList_append, String.toList_ofList]
    exact same.symm

theorem of?_of_namesClass (suffixed : NamesClass names) :
    Candidate.of? (under root names) names = some (candidateAt root names) :=
  if_pos (List.isSuffixOf_iff_suffix.mpr (namesClass_iff.mp suffixed))

theorem of?_eq_none (bare : ¬NamesClass names) : Candidate.of? (under root names) names = none :=
  if_neg fun suffixed => bare (namesClass_iff.mpr (List.isSuffixOf_iff_suffix.mp suffixed))

theorem isCandidateAt_candidateAt (directory : DirectoryTree tree root top)
    (place : IsClassPlace tree top names) : IsCandidateAt tree root top names (candidateAt root names) := by
  obtain ⟨⟨file, held⟩, suffixed⟩ := place
  refine ⟨rfl, ?_, rfl, directory.stands (directory.named held)⟩
  obtain ⟨stem, same⟩ := namesClass_iff.mp suffixed
  have cut : stemOf (".".intercalate names).toList = stem := by rw [← same, stemOf_append]
  apply String.toList_injective
  rw [candidateAt, String.toList_append, String.toList_ofList, cut]
  exact same

/-! ## Directories that can be listed -/

namespace DirectoryTree

/-- A directory can be listed if its path can be asked for. -/
theorem stat_of_askable (directory : DirectoryTree tree root top)
    (alive : tree.at? (top ++ names) = some .directory) (askable : FileTree.Askable (under root names)) :
    tree.stat true (under root names).toString = .ok (top ++ names, .directory) :=
  directory.reaches.stat_under directory.sound directory.stands_root.2 directory.proper askable alive rfl

/-- The path of a directory that has been listed can be asked for. -/
theorem askable_of_stat (directory : DirectoryTree tree root top)
    (named : ∀ name ∈ names, IsName name) {place : Files.Location}
    (seen : tree.stat true (under root names).toString = .ok (place, .directory)) :
    FileTree.Askable (under root names) := by
  obtain ⟨clean, found⟩ := FileTree.stat_eq_ok_iff.mp seen
  obtain ⟨size, left, leads⟩ := (FileTree.find_directory_iff (directory.stands named).proper).mp found
  exact ⟨clean, size, leads.short⟩

end DirectoryTree

/-- How a walk ends that stops at a directory, or at none. -/
inductive EndsAt (tree : FileTree) (root : Path) : Option (List String) → Option Failure → Prop
  | complete : EndsAt tree root none none
  | refused {last : List String} {error : Files.FileError} :
      tree.list (under root last).toString = .error error →
      EndsAt tree root (some last)
        (some (.enumeration (.cannotList (under root last).toString (.file error))))

/-! ## Class files in a row -/

/-- What is below a directory does not come before it. -/
theorem not_lt_of_start (start : front <+: names) : ¬names < front := by
  by_cases same : names = front
  · exact same ▸ lt_irrefl front
  · have later : front < names := lt_of_prefix start same
    exact lt_asymm later

/-- The class files at certain places in their order, up to the first directory among these places
whose path cannot be asked for, if there is one. -/
structure Lineup (tree : FileTree) (root : Path) (top : Files.Location) (spots : List String → Prop)
    (stop : Option (List String)) (places : List (List String)) : Prop where
  ordered : places.Pairwise (· < ·)
  mem : ∀ names, names ∈ places ↔
    spots names ∧ IsClassPlace tree top names ∧ ∀ last ∈ stop, names < last
  askable : ∀ names, spots names → tree.at? (top ++ names) = some .directory →
    (∀ last ∈ stop, names < last) → FileTree.Askable (under root names)
  stops : ∀ last ∈ stop, spots last ∧ tree.at? (top ++ last) = some .directory ∧
    ¬FileTree.Askable (under root last)

namespace Lineup

variable {spots others : List String → Prop} {stop : Option (List String)} {last : List String}
  {places further : List (List String)}

theorem nowhere (empty : ∀ names, ¬spots names) : Lineup tree root top spots none [] where
  ordered := .nil
  mem names := by simp [empty names]
  askable names spot := absurd spot (empty names)
  stops := nofun

/-- Only where something is do the places matter. -/
theorem congr (lineup : Lineup tree root top spots stop places)
    (same : ∀ names entry, tree.at? (top ++ names) = some entry → (spots names ↔ others names)) :
    Lineup tree root top others stop places where
  ordered := lineup.ordered
  mem names := by
    rw [lineup.mem]
    constructor
    · intro ⟨spot, ⟨⟨file, held⟩, suffixed⟩, early⟩
      exact ⟨(same names _ held).mp spot, ⟨⟨file, held⟩, suffixed⟩, early⟩
    · intro ⟨spot, ⟨⟨file, held⟩, suffixed⟩, early⟩
      exact ⟨(same names _ held).mpr spot, ⟨⟨file, held⟩, suffixed⟩, early⟩
  askable names spot alive := lineup.askable names ((same names _ alive).mpr spot) alive
  stops last among := by
    obtain ⟨spot, alive, refused⟩ := lineup.stops last among
    exact ⟨(same last _ alive).mp spot, alive, refused⟩

/-- Below a file there is that file. -/
theorem leaf (sound : tree.Sound) {file : Files.File}
    (held : tree.at? (top ++ front) = some (.file file)) (ordered : places.Pairwise (· < ·))
    (all : ∀ names, names ∈ places ↔ names = front ∧ NamesClass front) :
    Lineup tree root top (fun names => front <+: names) none places where
  ordered := ordered
  mem names := by
    rw [all]
    constructor
    · rintro ⟨rfl, suffixed⟩
      exact ⟨List.prefix_refl names, ⟨⟨file, held⟩, suffixed⟩, nofun⟩
    · intro ⟨start, ⟨⟨twin, there⟩, suffixed⟩, _⟩
      have same := sound.eq_of_prefix held there start
      exact ⟨same, same ▸ suffixed⟩
  askable names start alive := by
    rw [sound.eq_of_prefix held alive start, held] at alive
    cases alive
  stops := nofun

/-- A directory whose path cannot be asked for. -/
theorem refused (alive : tree.at? (top ++ front) = some .directory)
    (refused : ¬FileTree.Askable (under root front)) :
    Lineup tree root top (fun names => front <+: names) (some front) [] where
  ordered := .nil
  mem names := by
    constructor
    · intro member
      cases member
    · intro ⟨start, _, early⟩
      exact absurd (early front rfl) (not_lt_of_start start)
  askable names start _ early := absurd (early front rfl) (not_lt_of_start start)
  stops last among := by
    obtain rfl := Option.some.inj among
    exact ⟨List.prefix_refl front, alive, refused⟩

/-- A directory that has been listed comes before what is below it. -/
theorem opened (lineup : Lineup tree root top (fun names => front <+: names ∧ names ≠ front) stop places)
    (alive : tree.at? (top ++ front) = some .directory) (askable : FileTree.Askable (under root front)) :
    Lineup tree root top (fun names => front <+: names) stop places where
  ordered := lineup.ordered
  mem names := by
    rw [lineup.mem]
    constructor
    · intro ⟨spot, there, early⟩
      exact ⟨spot.1, there, early⟩
    · intro ⟨start, ⟨⟨file, held⟩, suffixed⟩, early⟩
      refine ⟨⟨start, ?_⟩, ⟨⟨file, held⟩, suffixed⟩, early⟩
      rintro rfl
      cases alive.symm.trans held
  askable names start there early := by
    by_cases same : names = front
    · exact same ▸ askable
    · exact lineup.askable names ⟨start, same⟩ there early
  stops last among := by
    obtain ⟨spot, there, refused⟩ := lineup.stops last among
    exact ⟨spot.1, there, refused⟩

/-- Class files, and then those of later places. -/
theorem append (first : Lineup tree root top spots none places)
    (second : Lineup tree root top others stop further)
    (earlier : ∀ names later, spots names → others later → names < later) :
    Lineup tree root top (fun names => spots names ∨ others names) stop (places ++ further) where
  ordered := by
    apply List.pairwise_append.mpr
    refine ⟨first.ordered, second.ordered, fun names member later memberLater => ?_⟩
    exact earlier names later ((first.mem names).mp member).1 ((second.mem later).mp memberLater).1
  mem names := by
    rw [List.mem_append, first.mem, second.mem]
    constructor
    · rintro (⟨spot, there, _⟩ | ⟨spot, there, early⟩)
      · refine ⟨.inl spot, there, fun last among => ?_⟩
        exact earlier names last spot (second.stops last among).1
      · exact ⟨.inr spot, there, early⟩
    · rintro ⟨spot | spot, there, early⟩
      · exact .inl ⟨spot, there, nofun⟩
      · exact .inr ⟨spot, there, early⟩
  askable names spot alive early := by
    rcases spot with spot | spot
    · exact first.askable names spot alive nofun
    · exact second.askable names spot alive early
  stops last among := by
    obtain ⟨spot, alive, refused⟩ := second.stops last among
    exact ⟨.inr spot, alive, refused⟩

/-- Once the walk has stopped, later places do not matter. -/
theorem cut (lineup : Lineup tree root top spots (some last) places)
    (later : ∀ names, others names → last < names) :
    Lineup tree root top (fun names => spots names ∨ others names) (some last) places where
  ordered := lineup.ordered
  mem names := by
    rw [lineup.mem]
    constructor
    · intro ⟨spot, there, early⟩
      exact ⟨.inl spot, there, early⟩
    · rintro ⟨spot | spot, there, early⟩
      · exact ⟨spot, there, early⟩
      · exact absurd (early last rfl) (lt_asymm (later names spot))
  askable names spot alive early := by
    rcases spot with spot | spot
    · exact lineup.askable names spot alive early
    · exact absurd (early last rfl) (lt_asymm (later names spot))
  stops stopped among := by
    obtain ⟨spot, alive, refused⟩ := lineup.stops stopped among
    exact ⟨.inl spot, alive, refused⟩

/-- The walk does not stop if the path of every directory can be asked for, and only then. -/
theorem stop_eq_none_iff (lineup : Lineup tree root top (fun _ => True) stop places) :
    stop = none ↔ ∀ names, tree.at? (top ++ names) = some .directory →
      FileTree.Askable (under root names) := by
  constructor
  · rintro rfl names alive
    exact lineup.askable names trivial alive nofun
  · intro all
    cases stop with
    | none => rfl
    | some last =>
        obtain ⟨_, alive, refused⟩ := lineup.stops last rfl
        exact absurd (all last alive) refused

/-- The path of each directory above a class file that is found can be asked for. -/
theorem askable_of_mem (lineup : Lineup tree root top (fun _ => True) stop places) (sound : tree.Sound)
    (member : names ∈ places) (start : front <+: names) (apart : names ≠ front) :
    FileTree.Askable (under root front) := by
  obtain ⟨_, ⟨⟨file, held⟩, _⟩, early⟩ := (lineup.mem names).mp member
  apply lineup.askable front trivial (sound.alive_of_prefix held start (Ne.symm apart))
  intro last among
  have later : front < names := lt_of_prefix start apart
  exact lt_trans later (early last among)

end Lineup

/-! ## Walks that collect -/

/-- A stage of a walk that adds the class files at certain places, and changes nothing. -/
def Collects (root : Path) (top : Files.Location) (before : Workspace) (spots : List String → Prop)
    (stage : Progress (List Candidate) → Work (Progress (List Candidate))) : Prop :=
  ∃ places stop ending, Lineup before.files root top spots stop places ∧
    EndsAt before.files root stop ending ∧
    ∀ past, stage (past, none) before = (.ok (past ++ places.map (candidateAt root), ending), before)

/-- After a failure, nothing of a listing is visited. -/
theorem stopped_foldlM {σ : Type} (visit : σ → Candidate → Work σ) (depth : Nat) (current : Path)
    (items : List (String × Files.Entry)) (result : σ) (failure : Failure) :
    items.foldlM (visitName visit depth current parts) (result, some failure) =
      pure (result, some failure) := by
  induction items with
  | nil => rfl
  | cons item rest inductionHypothesis =>
      rw [List.foldlM_cons, visitName, advance_stopped, pure_bind, inductionHypothesis]

section Walk

variable {depth : Nat} {name : String} {shape : Files.Entry}

/-- A listed name is a directory to go through, a class file to add, or another file. -/
theorem collects_visitName (directory : DirectoryTree before.files root top)
    (below : before.files.at? (top ++ (parts ++ [name])) = some .directory →
      Collects root top before (fun names => parts ++ [name] <+: names)
        (walking depth root (parts ++ [name]) collectCandidate))
    (held : (before.files.at? (top ++ (parts ++ [name]))).map FileTree.Entry.shape = some shape) :
    Collects root top before (fun names => parts ++ [name] <+: names) fun progress =>
      visitName collectCandidate depth (under root parts) parts progress (name, shape) := by
  have visited (past : List Candidate) := @visitName_run (List Candidate) before.files root parts before
    depth name shape collectCandidate past (FileTree.SameShape.refl before.files)
  obtain ⟨entry, there, rfl⟩ := Option.map_eq_some_iff.mp held
  cases entry with
  | link target => exact absurd there (directory.plain (FileTree.isBelow_append top _))
  | directory =>
      obtain ⟨places, stop, ending, lineup, ends, run⟩ := below there
      exact ⟨places, stop, ending, lineup, ends, fun past => (visited past).trans (run past)⟩
  | file file =>
      by_cases suffixed : NamesClass (parts ++ [name])
      · refine ⟨[parts ++ [name]], none, none, ?_, .complete, fun past => ?_⟩
        · apply Lineup.leaf directory.sound there (List.pairwise_singleton _ _)
          simp [suffixed]
        · have standing : standing before.files (under root (parts ++ [name])) (parts ++ [name])
              (FileTree.Entry.shape (.file file)) =
                .ok (.candidate (candidateAt root (parts ++ [name]))) := by
            change Except.ok (((Candidate.of? _ _).map Listed.candidate).getD .other) = _
            rw [of?_of_namesClass suffixed]
            rfl
          apply (visited past).trans
          rw [standing]
          rfl
      · refine ⟨[], none, none, ?_, .complete, fun past => ?_⟩
        · apply Lineup.leaf directory.sound there .nil
          simp [suffixed]
        · have standing : standing before.files (under root (parts ++ [name])) (parts ++ [name])
              (FileTree.Entry.shape (.file file)) = .ok .other := by
            change Except.ok (((Candidate.of? _ _).map Listed.candidate).getD .other) = _
            rw [of?_eq_none suffixed]
            rfl
          apply (visited past).trans
          rw [standing, List.map_nil, List.append_nil]

/-- The names of a listing, one after another. -/
theorem collects_foldlM {items : List (String × Files.Entry)}
    (each : ∀ item ∈ items, Collects root top before (fun names => parts ++ [item.1] <+: names)
      fun progress => visitName collectCandidate depth (under root parts) parts progress item)
    (ordered : items.Pairwise fun first second => first.1 < second.1) :
    Collects root top before (fun names => ∃ name ∈ items.map Prod.fst, parts ++ [name] <+: names)
      (items.foldlM (visitName collectCandidate depth (under root parts) parts)) := by
  induction items with
  | nil =>
      refine ⟨[], none, none, .nowhere (by simp), .complete, fun past => ?_⟩
      rw [List.map_nil, List.append_nil]
      rfl
  | cons item rest inductionHypothesis =>
      have orderedHere := List.pairwise_cons.mp ordered
      obtain ⟨places, stop, ending, lineup, ends, run⟩ := each item List.mem_cons_self
      obtain ⟨further, stopRest, endingRest, lineupRest, endsRest, runRest⟩ := inductionHypothesis
        (fun other member => each other (List.mem_cons_of_mem item member)) orderedHere.2
      have earlier : ∀ names later, parts ++ [item.1] <+: names →
          (∃ name ∈ rest.map Prod.fst, parts ++ [name] <+: later) → names < later := by
        intro names later start ⟨name, member, startLater⟩
        obtain ⟨other, among, rfl⟩ := List.mem_map.mp member
        exact lt_of_prefixes (orderedHere.1 other among) start startLater
      have stepped (past : List Candidate) :
          (item :: rest).foldlM (visitName collectCandidate depth (under root parts) parts)
              (past, none) before =
            rest.foldlM (visitName collectCandidate depth (under root parts) parts)
              (past ++ places.map (candidateAt root), ending) before := by
        rw [List.foldlM_cons, bind_of_ok (run past)]
      cases ends with
      | complete =>
          refine ⟨places ++ further, stopRest, endingRest, ?_, endsRest, fun past => ?_⟩
          · exact (lineup.append lineupRest earlier).congr fun names _ _ => by simp
          · apply ((stepped past).trans (runRest _)).trans
            rw [List.map_append, List.append_assoc]
      | refused unlisted =>
          refine ⟨places, _, _, ?_, .refused unlisted, fun past => ?_⟩
          · have later := fun names => earlier _ names (lineup.stops _ rfl).1
            exact (lineup.cut later).congr fun names _ _ => by simp
          · apply (stepped past).trans
            rw [stopped_foldlM]
            rfl

/-- A walk adds the class files below the directory in which it starts. -/
theorem collects_walk (directory : DirectoryTree before.files root top)
    (deep : 0 < depth ∧ FileTree.pathLimit ≤ depth + (root.parts ++ parts).length)
    (alive : before.files.at? (top ++ parts) = some .directory) :
    Collects root top before (fun names => parts <+: names)
      (walking depth root parts collectCandidate) := by
  induction depth generalizing parts with
  | zero => exact absurd deep.1 (Nat.lt_irrefl 0)
  | succ depth inductionHypothesis =>
      have named := directory.named alive
      by_cases askable : FileTree.Askable (under root parts)
      · have seen := directory.stat_of_askable alive askable
        have deeper := deeper_of_stat (directory.stands named).proper seen
          (by simpa [under] using deep.2)
        have each : ∀ item ∈ before.files.shapes (top ++ parts),
            Collects root top before (fun names => parts ++ [item.1] <+: names) fun progress =>
              visitName collectCandidate depth (under root parts) parts progress item := by
          intro item member
          have held := (FileTree.mem_shapes_iff directory.sound).mp member
          rw [List.append_assoc] at held
          refine collects_visitName directory (fun there => inductionHypothesis ⟨deeper, ?_⟩ there) held
          have longer := deep.2
          simp only [List.length_append, List.length_singleton] at longer ⊢
          omega
        obtain ⟨places, stop, ending, lineup, ends, run⟩ :=
          collects_foldlM each (FileTree.ascending_shapes directory.sound _)
        refine ⟨places, stop, ending, ?_, ends, fun past => ?_⟩
        · apply Lineup.opened _ alive askable
          apply lineup.congr
          intro names entry held
          constructor
          · rintro ⟨name, _, start⟩
            refine ⟨(List.prefix_append parts [name]).trans start, ?_⟩
            rintro rfl
            simpa using start.length_le
          · rintro ⟨start, apart⟩
            exact directory.sound.exists_listed held start apart
        · rw [walking, advance_run, walk_succ, run_bind, listing_of_stat seen]
          simp only
          have answered : (before.files.shapes (top ++ parts)).foldlM
              (visitName collectCandidate depth (under root parts) parts) (past, none) before =
                (.ok (past ++ places.map (candidateAt root), ending), before) := run past
          rw [foldlM_shapes, answered]
      · cases listing : before.files.list (under root parts).toString with
        | ok entries =>
            obtain ⟨place, seen⟩ := directory_of_list listing
            exact absurd (directory.askable_of_stat named seen) askable
        | error error =>
            refine ⟨[], some parts, _, .refused alive askable, .refused listing, fun past => ?_⟩
            rw [walking, advance_run, walk_succ, run_bind, Run.listing, Work.files_bind, listing,
              List.map_nil, List.append_nil]
            rfl

end Walk

/-- What is found in a directory tree, and how the walk ends. -/
theorem exists_lineup (directory : DirectoryTree before.files root top) :
    ∃ places stop ending, Lineup before.files root top (fun _ => True) stop places ∧
      EndsAt before.files root stop ending ∧
      candidates root before = (.ok (places.map (candidateAt root), ending), before) := by
  have whole : under root [] = root := by simp [under]
  have deep : 0 < FileTree.pathLimit ∧
      FileTree.pathLimit ≤ FileTree.pathLimit + (root.parts ++ []).length := ⟨by decide, by omega⟩
  have alive : before.files.at? (top ++ []) = some .directory := by
    rw [List.append_nil]
    exact directory.stands_root.2
  obtain ⟨places, stop, ending, lineup, ends, run⟩ := collects_walk directory deep alive
  refine ⟨places, stop, ending, lineup.congr fun names _ _ => by simp, ends, ?_⟩
  have asked : before.files.isDirectory? root = .ok true := FileTree.test_of_stat directory.found
  have walked := run []
  rw [walking, advance_run, whole, List.nil_append] at walked
  rw [candidates_eq, visitClasses, advance_run, run_bind, Work.ask_of_ok asked]
  exact walked

/-- In a directory tree without links, the class files are found each once and in the order of their
paths, compared name by name: all of them if every directory can be listed, and otherwise those that
come before the first directory whose path cannot be asked for, at which the walk ends. -/
theorem candidates_in_order (directory : DirectoryTree before.files root top) :
    ∃ places stop ending,
      candidates root before = (.ok (places.map (candidateAt root), ending), before) ∧
      (∀ names ∈ places, IsCandidateAt before.files root top names (candidateAt root names)) ∧
      Lineup before.files root top (fun _ => True) stop places ∧
      EndsAt before.files root stop ending ∧
      (stop = none ↔ ∀ names, before.files.at? (top ++ names) = some .directory →
        FileTree.Askable (under root names)) := by
  obtain ⟨places, stop, ending, lineup, ends, run⟩ := exists_lineup directory
  refine ⟨places, stop, ending, run, fun names member => ?_, lineup, ends, lineup.stop_eq_none_iff⟩
  exact isCandidateAt_candidateAt directory ((lineup.mem names).mp member).2.1

/-! ### Names that are in another order than their texts -/

/-- A directory with a class file, with one in each of two directories of which one is called like a
class, and with another file. -/
def crossTree : FileTree :=
  let top : FileTree := ⟨[], [], 0, [], 1000000000000000000⟩
  let directories := ((top.put ["p"] .directory).put ["p", "a"] .directory).put ["p", "z.class"] .directory
  let withFile := fun (tree : FileTree) (place : Files.Location) =>
    { tree.put place (.file ⟨tree.nextId, [], tree.clock⟩) with nextId := tree.nextId + 1 }
  [["p", "a-b.class"], ["p", "a", "b.class"], ["p", "z.class", "y.class"], ["p", "n.txt"]].foldl
    withFile directories

theorem sound_crossTree : crossTree.Sound := by
  have top : ((⟨[], [], 0, [], 1000000000000000000⟩ : FileTree).put ([] ++ ["p"]) .directory).Sound :=
    (FileTree.Sound.bare _).put_directory rfl (by decide)
  have first := @FileTree.Sound.put_directory _ ["p"] "a" top (by decide) (by decide)
  have second := @FileTree.Sound.put_directory _ ["p"] "z.class" first (by decide) (by decide)
  have beside := @FileTree.Sound.put_newFile _ ["p"] "a-b.class" second (by decide) (by decide)
    (by decide) [] 1000000000000000000
  have below := @FileTree.Sound.put_newFile _ ["p", "a"] "b.class" beside (by decide) (by decide)
    (by decide) [] 1000000000000000000
  have called := @FileTree.Sound.put_newFile _ ["p", "z.class"] "y.class" below (by decide) (by decide)
    (by decide) [] 1000000000000000000
  exact @FileTree.Sound.put_newFile _ ["p"] "n.txt" called (by decide) (by decide)
    (by decide) [] 1000000000000000000

theorem directoryTree_crossTree : DirectoryTree crossTree (Path.ofString "p") ["p"] := by
  refine ⟨sound_crossTree, rfl, Path.ofString_proper "p", by decide +kernel, ?_⟩
  intro place target _
  exact sound_crossTree.unlinked (by decide) place target

/-- The three class files are found, the one in the directory `a` before the one beside it. -/
theorem candidates_crossTree :
    DirectoryTree crossTree (Path.ofString "p") ["p"] ∧
      ∃ places : List (List String), candidates (Path.ofString "p") { (default : Workspace) with files := crossTree } =
          (.ok (places.map (candidateAt (Path.ofString "p")), none),
            { (default : Workspace) with files := crossTree }) ∧
        places.Pairwise (· < ·) ∧ ["a", "b.class"] ∈ places ∧ ["a-b.class"] ∈ places ∧
        ["z.class", "y.class"] ∈ places ∧ ["n.txt"] ∉ places := by
  refine ⟨directoryTree_crossTree, ?_⟩
  obtain ⟨places, stop, ending, run, _, lineup, ends, whole⟩ :=
    @candidates_in_order _ _ { (default : Workspace) with files := crossTree } directoryTree_crossTree
  have directories : ∀ entry ∈ crossTree.entries, entry.2 = .directory →
      FileTree.hasNul (under (Path.ofString "p") (entry.1.drop 1)).toString = false ∧
      (under (Path.ofString "p") (entry.1.drop 1)).toString.utf8ByteSize ≤ FileTree.pathLimit ∧
      ∀ part ∈ (under (Path.ofString "p") (entry.1.drop 1)).parts, part.utf8ByteSize ≤ 255 := by
    decide +kernel
  have unstopped : stop = none := by
    apply whole.mpr
    intro names alive
    obtain ⟨clean, size, short⟩ := directories _
      (sound_crossTree.mem_entries_iff.2 ⟨by simp, alive⟩) rfl
    exact ⟨clean, size, short⟩
  subst unstopped
  cases ends
  have classFile : ∀ names, (∃ file, crossTree.at? (["p"] ++ names) = some (.file file)) →
      NamesClass names → names ∈ places := by
    intro names held suffixed
    exact (lineup.mem names).mpr ⟨trivial, ⟨held, suffixed⟩, nofun⟩
  refine ⟨places, run, lineup.ordered, classFile _ ⟨_, rfl⟩ ⟨"a.b", by decide +kernel⟩,
    classFile _ ⟨_, rfl⟩ ⟨"a-b", by decide +kernel⟩,
    classFile _ ⟨_, rfl⟩ ⟨"z.class.y", by decide +kernel⟩, ?_⟩
  intro member
  have suffixed := namesClass_iff.mp ((lineup.mem _).mp member).2.1.2
  exact absurd suffixed (by decide +kernel)

/-! ### A path that is too long -/

/-- A name of two hundred letters. -/
def longName : String := String.ofList (List.replicate 200 'n')

/-- The place that lies so many directories of a long name below a directory. -/
def burrowAt (depth : Nat) : Files.Location := ["p"] ++ List.replicate depth longName

/-- A directory with directories of a long name in each other, so many of them. -/
def burrow : Nat → FileTree
  | 0 => (⟨[], [], 0, [], 1000000000000000000⟩ : FileTree).put ["p"] .directory
  | depth + 1 => (burrow depth).put (burrowAt depth ++ [longName]) .directory

/-- The last of them holds a class file. -/
def burrowTree (depth : Nat) : FileTree :=
  let tree := burrow depth
  { tree.put (burrowAt depth ++ ["a.class"]) (.file ⟨tree.nextId, [], 1000000000000000000⟩) with
    nextId := tree.nextId + 1 }

section Burrow

variable {depth : Nat}

theorem isName_longName : IsName longName := by decide +kernel

theorem parts_burrow : (Path.ofString "p").parts = ["p"] := by decide

theorem burrowAt_succ (depth : Nat) : burrowAt (depth + 1) = burrowAt depth ++ [longName] := by
  rw [burrowAt, burrowAt, List.replicate_succ', List.append_assoc]

theorem start_burrow (depth : Nat) : (burrow depth).start = [] := by
  induction depth with
  | zero => rfl
  | succ depth inductionHypothesis => exact inductionHypothesis

theorem sound_burrow (depth : Nat) : (burrow depth).Sound ∧
    ∀ higher ≤ depth, (burrow depth).at? (burrowAt higher) = some .directory := by
  induction depth with
  | zero =>
      refine ⟨@FileTree.Sound.put_directory _ [] "p" (FileTree.Sound.bare _) rfl (by decide), ?_⟩
      intro higher above
      obtain rfl := Nat.le_zero.mp above
      rfl
  | succ depth inductionHypothesis =>
      obtain ⟨sound, alive⟩ := inductionHypothesis
      refine ⟨sound.put_directory (alive depth (Nat.le_refl depth)) isName_longName, ?_⟩
      intro higher above
      rw [burrow, FileTree.at?_put (by simp)]
      split
      next => rfl
      next other =>
        apply alive higher
        have short : higher ≠ depth + 1 := fun same => other (same ▸ burrowAt_succ depth)
        omega

/-- There are directories only, and none is called like the class file. -/
theorem directory_of_burrow {place : Files.Location} {entry : Files.Entry}
    (held : (burrow depth).at? place = some entry) : entry = .directory ∧ "a.class" ∉ place := by
  induction depth with
  | zero =>
      rw [burrow, FileTree.at?_put (List.cons_ne_nil _ _)] at held
      split at held
      next same =>
        obtain rfl := Option.some.inj held
        exact ⟨rfl, by simp [same]⟩
      next =>
        by_cases top : place = []
        · subst top
          exact ⟨(Option.some.inj held).symm, List.not_mem_nil⟩
        · rw [FileTree.at?_of_ne_nil top] at held
          cases held
  | succ depth inductionHypothesis =>
      rw [burrow, FileTree.at?_put (by simp)] at held
      split at held
      next same =>
        obtain rfl := Option.some.inj held
        have other : "a.class" ≠ longName := by decide +kernel
        exact ⟨rfl, by simp [same, burrowAt, List.mem_replicate, other]⟩
      next => exact inductionHypothesis held

theorem at?_burrowTree (place : Files.Location) :
    (burrowTree depth).at? place = if place = burrowAt depth ++ ["a.class"] then
      some (.file ⟨(burrow depth).nextId, [], 1000000000000000000⟩) else (burrow depth).at? place :=
  FileTree.at?_put (by simp) _ _

theorem directory_of_burrowTree {higher : Nat} (above : higher ≤ depth) :
    (burrowTree depth).at? (burrowAt higher) = some .directory := by
  have alive := (sound_burrow depth).2 higher above
  have other : burrowAt higher ≠ burrowAt depth ++ ["a.class"] := by
    intro same
    exact (directory_of_burrow alive).2 (by simp [same])
  rw [at?_burrowTree, if_neg other, alive]

theorem sound_burrowTree (depth : Nat) : (burrowTree depth).Sound := by
  obtain ⟨sound, alive⟩ := sound_burrow depth
  apply sound.put_newFile (alive depth (Nat.le_refl depth)) (by decide)
  apply Option.eq_none_iff_forall_ne_some.mpr
  intro entry held
  exact (directory_of_burrow held).2 (by simp)

theorem directoryTree_burrowTree (depth : Nat) :
    DirectoryTree (burrowTree depth) (Path.ofString "p") ["p"] where
  sound := sound_burrowTree depth
  started := by
    change (burrowTree depth).at? (burrow depth).start = _
    rw [start_burrow, FileTree.at?_nil]
  proper := Path.ofString_proper "p"
  found := by
    have base : (burrowTree depth).base (Path.ofString "p") = [] := by
      unfold FileTree.base
      split
      · exact start_burrow depth
      · rfl
    have alive : (burrowTree depth).at? ([] ++ ["p"]) = some .directory :=
      directory_of_burrowTree (Nat.zero_le depth)
    have reaches : (burrowTree depth).Reaches (Path.ofString "p") ["p"] := by
      rw [FileTree.Reaches, base, parts_burrow]
      exact ⟨FileTree.linkLimit, (sound_burrowTree depth).leads_down FileTree.linkLimit alive (by decide)⟩
    apply FileTree.stat_eq_ok_iff.mpr
    exact ⟨by decide, (FileTree.find_directory_iff (Path.ofString_proper "p")).mpr ⟨by decide, reaches⟩⟩
  plain := by
    intro place target _ held
    rw [at?_burrowTree] at held
    split at held
    · cases held
    · cases (directory_of_burrow held).1

theorem le_size_burrowAt (depth : Nat) :
    200 * depth ≤ (under (Path.ofString "p") (List.replicate depth longName)).toString.utf8ByteSize := by
  induction depth with
  | zero => exact Nat.zero_le _
  | succ depth inductionHypothesis =>
      have size : longName.utf8ByteSize = 200 := by decide +kernel
      have filled : (under (Path.ofString "p") (List.replicate depth longName)).parts ≠ [] := by
        simp [under, parts_burrow]
      rw [List.replicate_succ', ← child_under, FileTree.toString_child, if_neg filled,
        String.utf8ByteSize_append, String.utf8ByteSize_append, size]
      omega

end Burrow

/-- Of a tree in which the path of a directory is too long, not every class file is found: the walk
ends with a failure. -/
theorem candidates_burrowTree :
    DirectoryTree (burrowTree 21) (Path.ofString "p") ["p"] ∧
      IsClassPlace (burrowTree 21) ["p"] (List.replicate 21 longName ++ ["a.class"]) ∧
      ∃ found failure,
        candidates (Path.ofString "p") { (default : Workspace) with files := burrowTree 21 } =
          (.ok (found, some failure), { (default : Workspace) with files := burrowTree 21 }) ∧
        ∀ candidate ∈ found, candidate.filePath ≠
          under (Path.ofString "p") (List.replicate 21 longName ++ ["a.class"]) := by
  have long : ¬FileTree.Askable (under (Path.ofString "p") (List.replicate 21 longName)) := by
    intro askable
    have size := askable.size
    have limit : FileTree.pathLimit = 4095 := rfl
    have least := le_size_burrowAt 21
    omega
  have alive : (burrowTree 21).at? (["p"] ++ List.replicate 21 longName) = some .directory :=
    directory_of_burrowTree (Nat.le_refl 21)
  have held : IsClassPlace (burrowTree 21) ["p"] (List.replicate 21 longName ++ ["a.class"]) := by
    refine ⟨⟨⟨(burrow 21).nextId, [], 1000000000000000000⟩, ?_⟩,
      ".".intercalate (List.replicate 21 longName) ++ ".a", ?_⟩
    · rw [← List.append_assoc, at?_burrowTree]
      exact if_pos rfl
    · rw [String.intercalate_append_of_ne_nil (by simp) (by simp), String.intercalate_singleton,
        String.append_assoc, String.append_assoc]
      rfl
  refine ⟨directoryTree_burrowTree 21, held, ?_⟩
  obtain ⟨places, stop, ending, lineup, ends, run⟩ := @exists_lineup _ _
    { (default : Workspace) with files := burrowTree 21 } (directoryTree_burrowTree 21)
  cases ends with
  | complete => exact absurd (lineup.stop_eq_none_iff.mp rfl _ alive) long
  | refused =>
      refine ⟨_, _, run, ?_⟩
      intro candidate member same
      obtain ⟨names, among, rfl⟩ := List.mem_map.mp member
      have whole : names = List.replicate 21 longName ++ ["a.class"] :=
        List.append_cancel_left (congrArg Path.parts same)
      subst whole
      exact long (lineup.askable_of_mem (sound_burrowTree 21) among (List.prefix_append _ _) (by simp))

end Run
end ClassLoom
