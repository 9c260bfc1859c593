import ClassLoom.Proofs.Rebuild.Collecting
import Mathlib.Data.List.Sort
import Mathlib.Order.Lattice

namespace ClassLoom
namespace Rebuild

/-!
# The order of what is found

The names in a directory are gone through in their order, and a directory before what is below it.  So
what the walk writes is ordered by its path, name by name, and the path can be read off the key.
-/

open Files (FileTree Path IsName IsSegment)

variable {rebuilder : Rebuilder} {root : Path} {before after : Workspace}

/-! ## The order of paths -/

theorem lt_of_prefix {names further : List String} (start : names <+: further) (apart : further ≠ names) :
    names < further := by
  obtain ⟨rest, rfl⟩ := start
  cases rest with
  | nil => exact absurd (List.append_nil names) apart
  | cons name rest =>
      have longer : names ++ [] < names ++ name :: rest := List.append_left_lt (List.nil_lt_cons name rest)
      simpa using longer

/-- What is below different names of one directory is in the order of these names. -/
theorem lt_of_prefixes {front names others : List String} {first second : String} (earlier : first < second)
    (below : front ++ [first] <+: names) (belowOther : front ++ [second] <+: others) : names < others := by
  obtain ⟨rest, rfl⟩ := below
  obtain ⟨restOther, rfl⟩ := belowOther
  rw [List.append_assoc, List.append_assoc]
  exact List.append_left_lt (List.cons_lt_cons_iff.2 (.inl earlier))

/-- The path of a key, name by name. -/
theorem nameParts_keyAt {names : List String} (nonempty : names ≠ [])
    (segments : ∀ name ∈ names, IsSegment name) (isDirectory : Bool) :
    nameParts (keyAt names isDirectory) = names := by
  have busy : names.filter (fun name => !Files.isIdle name) = names :=
    List.filter_eq_self.2 fun name among => by simp [(segments name among).2]
  rw [nameParts, segments_keyAt nonempty segments, List.filter_append, busy]
  cases isDirectory <;> simp [Files.isIdle]

/-! ## The walk -/

/-- What is written after what has been written, at certain places and in their order. -/
def Ascends (spots : List String → Prop) (written result : Written) : Prop :=
  ∃ added, result = written ++ added ∧ (∀ item ∈ added, spots (nameParts item.1)) ∧
    added.Pairwise fun first second => nameParts first.1 < nameParts second.1

namespace Ascends

variable {spots others : List String → Prop} {written middle result : Written}

theorem nothing (written : Written) : Ascends spots written written :=
  ⟨[], (List.append_nil written).symm, nofun, .nil⟩

theorem single {names : List String} {isDirectory : Bool} {record : Zip.Record} (spot : spots names)
    (nonempty : names ≠ []) (named : ∀ name ∈ names, IsName name) :
    Ascends spots written (written ++ [(keyAt names isDirectory, record)]) := by
  refine ⟨_, rfl, fun item among => ?_, List.pairwise_singleton _ _⟩
  rw [List.mem_singleton.1 among, nameParts_keyAt nonempty fun name inside => (named name inside).1]
  exact spot

theorem mono (ascends : Ascends spots written result) (wider : ∀ names, spots names → others names) :
    Ascends others written result := by
  obtain ⟨added, whole, all, ordered⟩ := ascends
  exact ⟨added, whole, fun item among => wider _ (all item among), ordered⟩

theorem append (first : Ascends spots written middle) (second : Ascends others middle result)
    (earlier : ∀ names further, spots names → others further → names < further) :
    Ascends (fun names => spots names ∨ others names) written result := by
  obtain ⟨added, rfl, all, ordered⟩ := first
  obtain ⟨further, rfl, allFurther, orderedFurther⟩ := second
  refine ⟨added ++ further, List.append_assoc _ _ _, fun item among => ?_, ?_⟩
  · rcases List.mem_append.1 among with before | later
    · exact .inl (all item before)
    · exact .inr (allFurther item later)
  · exact List.pairwise_append.2 ⟨ordered, orderedFurther, fun item among twin amongFurther =>
      earlier _ _ (all item among) (allFurther twin amongFurther)⟩

end Ascends

theorem ascends_collectDirectory {names : List String} {written result : Written} (nonempty : names ≠ [])
    (named : ∀ name ∈ names, IsName name)
    (run : collectDirectory rebuilder (keyAt names true) written before = (.ok result, after)) :
    Ascends (fun other => other = names) written result := by
  unfold collectDirectory at run
  cases known : rebuilder.staged.lookup (keyAt names true) with
  | some entry =>
      rw [known] at run
      obtain ⟨_, _, _, made⟩ := bind_ok run
      obtain ⟨_, _, _, answer⟩ := bind_ok made
      obtain rfl := Except.ok.inj (pure_ok answer).1
      exact .single rfl nonempty named
  | none =>
      rw [known] at run
      obtain rfl := Except.ok.inj (pure_ok run).1
      exact .nothing _

theorem ascends_collectFile {names : List String} {path : Path} {written result : Written}
    (nonempty : names ≠ []) (named : ∀ name ∈ names, IsName name)
    (run : collectFile rebuilder path (keyAt names false) written before = (.ok result, after)) :
    Ascends (fun other => other = names) written result := by
  unfold collectFile at run
  cases known : rebuilder.staged.lookup (keyAt names false) with
  | some entry =>
      rw [known] at run
      obtain ⟨_, _, _, further⟩ := bind_ok run
      obtain ⟨_, _, _, answer⟩ := bind_ok further
      obtain rfl := Except.ok.inj (pure_ok answer).1
      exact .single rfl nonempty named
  | none =>
      rw [known] at run
      obtain ⟨_, _, _, answer⟩ := bind_ok run
      obtain rfl := Except.ok.inj (pure_ok answer).1
      exact .nothing _

/-- A directory comes before what is below it. -/
theorem ascends_collectName {descend : Path → String → Written → Work Written} {path : Path}
    {names : List String} {key : String} {written result : Written}
    (below : ∀ {written result : Written} {before after : Workspace}, before.Healthy →
      descend path (key ++ "/") written before = (.ok result, after) →
      Ascends (fun other => names <+: other ∧ other ≠ names) written result)
    (nonempty : names ≠ []) (named : ∀ name ∈ names, IsName name) (spelled : key = keyAt names false)
    (healthy : before.Healthy)
    (run : collectName rebuilder descend path key written before = (.ok result, after)) :
    Ascends (fun other => names <+: other) written result := by
  have spelledDirectory : key ++ "/" = keyAt names true := by
    rw [spelled, keyAt, keyAt, if_neg (by decide), String.append_empty, if_pos rfl]
  obtain ⟨isDirectory, _, asked, further⟩ := bind_ok run
  obtain ⟨rfl, _⟩ := Work.ask_ok asked
  cases isDirectory with
  | true =>
      obtain ⟨middle, last, collecting, deeper⟩ := bind_ok further
      obtain ⟨sound, _⟩ := (keeps_collectDirectory _ _ _).still healthy collecting
      have rest := below sound deeper
      rw [spelledDirectory] at collecting
      refine ((ascends_collectDirectory nonempty named collecting).append rest ?_).mono ?_
      · rintro _ further rfl ⟨start, apart⟩
        exact lt_of_prefix start apart
      · rintro other (rfl | ⟨start, _⟩)
        · exact List.prefix_refl _
        · exact start
  | false =>
      obtain ⟨isFile, _, askedFile, last⟩ := bind_ok further
      obtain ⟨rfl, _⟩ := Work.ask_ok askedFile
      cases isFile with
      | true =>
          rw [spelled] at last
          exact (ascends_collectFile nonempty named last).mono fun other same => same ▸ List.prefix_refl _
      | false =>
          obtain rfl := Except.ok.inj (pure_ok last).1
          exact .nothing _

theorem pairwise_listing {tree : FileTree} (sound : tree.Sound) {raw : String}
    {listing : List (String × Files.Entry)} (listed : tree.list raw = .ok listing) :
    listing.Pairwise fun first second => first.1 < second.1 := by
  unfold FileTree.list at listed
  split at listed
  next place _ =>
    obtain rfl := Except.ok.inj listed
    exact FileTree.ascending_inOrder sound place
  · cases listed
  · cases listed

/-- What is strictly below a directory is written in the order of its paths. -/
theorem ascends_collect (depth : Nat) {front : List String} {above : String} {written result : Written}
    (frontNamed : ∀ name ∈ front, IsName name)
    (spelled : ∀ name, above ++ name = "/".intercalate (front ++ [name])) (healthy : before.Healthy)
    (run : collect rebuilder depth (under root front) above written before = (.ok result, after)) :
    Ascends (fun names => front <+: names ∧ names ≠ front) written result := by
  induction depth generalizing front above written result before after with
  | zero =>
      obtain ⟨same, rfl⟩ := pure_ok run
      obtain rfl := Except.ok.inj same
      exact .nothing _
  | succ depth inductionHypothesis =>
      obtain ⟨listing, listed, asked, folding⟩ := bind_ok run
      obtain ⟨rfl, answered⟩ := Work.ask_ok asked
      obtain ⟨_, listedNamed⟩ := list_ok healthy.files answered
      have ordered := pairwise_listing healthy.files answered
      -- What is written for some names of the listing begins with one of them.
      have held := foldlM_ok (fun past value (state : Workspace) => state.Healthy ∧
        Ascends (fun names => ∃ name ∈ past.map Prod.fst, front ++ [name] <+: names) written value)
        ?_ ⟨healthy, .nothing _⟩ folding
      · refine held.2.mono fun names spot => ?_
        obtain ⟨name, _, further, rfl⟩ := spot
        exact ⟨⟨_, (List.append_assoc _ _ _).symm⟩, by simp⟩
      rintro past rest value next ⟨name, entry⟩ state last whole ⟨sound, ascends⟩ step
      obtain ⟨soundLast, _⟩ :=
        (keeps_collectName (fun _ _ _ => keeps_collect _ _ _ _ _) _ _ _).still sound step
      refine ⟨soundLast, ?_⟩
      have earlier : ∀ other ∈ past.map Prod.fst, other < name := by
        intro other among
        obtain ⟨item, listedItem, rfl⟩ := List.mem_map.1 among
        rw [whole] at ordered
        exact (List.pairwise_append.1 ordered).2.2 item listedItem _ List.mem_cons_self
      have segments : ∀ part ∈ front ++ [name], IsName part := by
        intro part member
        rcases List.mem_append.1 member with above | last
        · exact frontNamed part above
        · rw [List.mem_singleton.1 last]
          exact listedNamed name (by simp [whole])
      have spelledHere : above ++ name = keyAt (front ++ [name]) false :=
        (spelled name).trans String.append_empty.symm
      simp only [child_under] at step
      have deeper : ∀ other, above ++ name ++ "/" ++ other =
          "/".intercalate (front ++ [name] ++ [other]) := by
        intro other
        rw [Files.intercalate_concat (by simp), ← spelled name]
      have here := ascends_collectName (fun sound run => inductionHypothesis segments deeper sound run)
        (by simp) segments spelledHere sound step
      refine (ascends.append here ?_).mono ?_
      · rintro names further ⟨other, among, start⟩ startFurther
        exact lt_of_prefixes (earlier other among) start startFurther
      · rintro names (⟨other, among, start⟩ | start)
        · exact ⟨other, by simp [among], start⟩
        · exact ⟨name, by simp, start⟩

/-! ## The whole archive -/

/-- What an archive is written with is what the walk has found. -/
theorem collect_of_archiveBytes {manifest : Option Manifest} {bytes : Bytes}
    (run : rebuilder.archiveBytes root manifest before = (.ok bytes, after)) :
    ∃ written middle, collect rebuilder FileTree.pathLimit (under root []) "" [] before =
        (.ok written, middle) ∧ missingNames rebuilder written = [] ∧
      bytes = Zip.encode ((manifest.map Manifest.record).toList ++ written.map (·.2)) [] := by
  obtain ⟨written, middle, collected, further⟩ := bind_ok run
  have whole : under root [] = root := by simp [under]
  rw [← whole] at collected
  refine ⟨written, middle, collected, ?_⟩
  simp only at further
  split at further
  · obtain ⟨_, _, refused, _⟩ := bind_ok further
    cases (throw_error refused).1
  next complete =>
    obtain rfl := Except.ok.inj (pure_ok further).1
    exact ⟨by simpa using complete, rfl⟩

/-- Everything that has been staged is written once, in the order of the paths. -/
theorem ordered_of_collect {written : Written} (healthy : before.Healthy) {depth : Nat}
    (run : collect rebuilder depth (under root []) "" [] before = (.ok written, after)) :
    Finds rebuilder before.files root (fun _ => True) [] written ∧
      written.Pairwise fun first second => nameParts first.1 < nameParts second.1 := by
  have spelled (name : String) : "" ++ name = "/".intercalate ([] ++ [name]) := by simp
  have finds := collect_ok depth (by simp) spelled healthy run
  obtain ⟨added, rfl, _, ordered⟩ := ascends_collect depth (by simp) spelled healthy run
  exact ⟨finds.mono fun _ _ => trivial, by simpa using ordered⟩

end Rebuild
end ClassLoom
