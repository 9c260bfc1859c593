import ClassLoom.Proofs.Files.Guarded

namespace ClassLoom
namespace Files
namespace FileTree

/-!
# Trees without links

Without links a path stands for the place that it spells.  It stands for that place in every such tree,
so what has happened in between only decides whether something is found there.
-/

variable {tree other : FileTree}

/-- A tree without links. -/
def Linkless (tree : FileTree) : Prop :=
  ∀ (place : Location) (target : String), tree.at? place ≠ some (.link target)

/-- What leads on in a tree without links are directories, and no link takes the place of one. -/
theorem Linkless.narrows (linkless : tree.Linkless) (otherLinkless : other.Linkless) :
    Narrows tree other := by
  intro place entry held leadsOn
  cases entry with
  | file file => cases leadsOn
  | link target => exact absurd held (linkless _ _)
  | directory =>
      cases now : other.at? place with
      | none => exact .inr (.inl rfl)
      | some found =>
          cases found with
          | file file => exact .inr (.inr ⟨file, rfl⟩)
          | directory => exact .inl rfl
          | link target => exact absurd now (otherLinkless _ _)

theorem Linkless.links_iff (linkless : tree.Linkless) (otherLinkless : other.Linkless)
    {place : Location} {target : String} :
    tree.at? place = some (.link target) ↔ other.at? place = some (.link target) :=
  iff_of_false (linkless _ _) (otherLinkless _ _)

section Beside

variable {path : Path} {name : String} {directory place : Location}

/-- The way to a directory leads there, or nowhere, in whatever the tree becomes. -/
theorem Linkless.tracks (linkless : tree.Linkless) (reaches : tree.Reaches path directory)
    (otherLinkless : other.Linkless) (start : other.start = tree.start) (proper : path.Proper)
    (segment : IsSegment name) : other.Tracks path name directory :=
  reaches.narrowed (linkless.narrows otherLinkless) start proper segment

/-- What settles at the end of the way settles where it did. -/
theorem Linkless.eq_of_settles (linkless : tree.Linkless) (reaches : tree.Reaches path directory)
    (otherLinkless : other.Linkless) (start : other.start = tree.start) (named : IsName name)
    (settles : Settles other (other.base path) (path.parts ++ [name]) place) :
    place = directory ++ [name] := by
  have from_ : other.base path = tree.base path := by rw [base, base, start]
  have before := reaches.settles named (linkless _)
  rw [from_] at settles
  exact settles.unique (before.congr (linkless.links_iff otherLinkless))

theorem Linkless.not_isLink (linkless : tree.Linkless) (reaches : tree.Reaches path directory)
    (proper : path.Proper) (named : IsName name) : tree.isLink? (path.child name) ≠ .ok true := by
  intro answer
  obtain ⟨_, _, seen⟩ := isLink_eq_true answer
  obtain ⟨_, found⟩ := stat_eq_ok_iff.1 seen
  exact linkless _ _ (Tracks.found (.inl reaches) proper named found).2

end Beside

/-- A file that is found is in the directory that the way to it leads to. -/
theorem Linkless.reaches_of_stat (linkless : tree.Linkless) (sound : tree.Sound) {path : Path}
    (proper : path.Proper) {place : Location} {file : File}
    (seen : tree.stat true path.toString = .ok (place, .file file)) :
    path.parts ≠ [] ∧ IsName path.name ∧ ∃ directory, tree.Reaches path.parent directory ∧
      place = directory ++ [path.name] ∧ tree.at? (directory ++ [path.name]) = some (.file file) := by
  obtain ⟨_, found⟩ := stat_eq_ok_iff.1 seen
  obtain ⟨nonempty, named⟩ := isName_of_find proper (by simp) found
  rw [← Path.parent_child_name nonempty] at found
  obtain ⟨directory, reaches, _⟩ := exists_reaches proper.parent named found
  obtain ⟨there, settles, sighted⟩ := settles_of_find sound proper.parent named found
  obtain rfl : there = directory ++ [path.name] :=
    settles.unique (reaches.settles named (linkless _))
  cases sighted with
  | found held _ => exact ⟨nonempty, named, directory, reaches, rfl, held⟩

/-- A file that is found in whatever the tree becomes is in the same directory. -/
theorem Linkless.held_of_stat (linkless : tree.Linkless) {path : Path} {directory : Location}
    (reaches : tree.Reaches path.parent directory) (otherLinkless : other.Linkless)
    (start : other.start = tree.start) (sound : other.Sound) (proper : path.Proper) {place : Location}
    {file : File} (seen : other.stat true path.toString = .ok (place, .file file)) :
    other.at? (directory ++ [path.name]) = some (.file file) := by
  obtain ⟨_, named, there, reachesNow, _, held⟩ := otherLinkless.reaches_of_stat sound proper seen
  have same : there ++ [path.name] = directory ++ [path.name] := linkless.eq_of_settles reaches
    otherLinkless start named (reachesNow.settles named (otherLinkless _))
  rwa [same] at held

/-! ## Resolving -/

theorem Linkless.settleFrom_eq (linkless : tree.Linkless)
    (onLink : Location → String → Option Location) {here there : Location} {parts : List String}
    (settles : Settles tree here parts there) : settleFrom tree onLink here parts = some there := by
  induction settles with
  | done => rfl
  | idle idle _ inductionHypothesis =>
      rw [settleFrom, if_pos idle]
      exact inductionHypothesis
  | up _ inductionHypothesis =>
      rw [settleFrom, if_neg (by decide), if_pos rfl]
      exact inductionHypothesis
  | name busy proper _ _ inductionHypothesis =>
      rw [settleFrom, if_neg (by simp [busy]), if_neg proper]
      split
      next target held => exact absurd held (linkless _ _)
      next => exact inductionHypothesis
  | link busy proper held _ _ _ => exact absurd held (linkless _ _)

/-- Where a path settles is what it resolves to. -/
theorem Linkless.resolve_eq (linkless : tree.Linkless) {path : Path} {place : Location}
    (settles : Settles tree (tree.base path) path.parts place) : tree.resolve? path = some place := by
  have from_ : (if path.root == "" then tree.start else []) = tree.base path := by simp [base]
  unfold resolve?
  rw [from_]
  unfold settle
  split
  · exact linkless.settleFrom_eq _ settles
  · exact linkless.settleFrom_eq _ settles

end FileTree
end Files
end ClassLoom
