import ClassLoom.Proofs.Rebuild.Copy
import ClassLoom.Proofs.Rebuild.Keys

namespace ClassLoom
namespace Rebuild

/-!
# What is found in the staging directory

The walk through the staging directory goes down by the names that are listed there, and keeps the
text of its way.  So what it finds under the key of an entry is at the path of that entry, and it
finds nothing twice.
-/

open Files (FileTree Path IsName IsSegment)

variable {rebuilder : Rebuilder} {root : Path} {tree : FileTree} {before after : Workspace}

/-! ## Listings -/

theorem list_ok (sound : tree.Sound) {raw : String} {listing : List (String × Files.Entry)}
    (listed : tree.list raw = .ok listing) :
    (listing.map Prod.fst).Nodup ∧ ∀ name ∈ listing.map Prod.fst, IsName name := by
  unfold FileTree.list at listed
  split at listed
  next place _ =>
    obtain rfl := Except.ok.inj listed
    have sorted := FileTree.perm_inOrder (tree.children place)
    refine ⟨(sorted.map Prod.fst).nodup_iff.2 (FileTree.nodup_children sound place), fun name member => ?_⟩
    obtain ⟨⟨_, entry⟩, among, rfl⟩ := List.mem_map.1 ((sorted.map Prod.fst).mem_iff.1 member)
    have held := (FileTree.mem_children_iff sound).1 among
    exact sound.named held _ (List.mem_append_right _ List.mem_cons_self)
  · cases listed
  · cases listed

/-! ## The walk -/

/-- What the walk writes for what it finds some names below the staging directory. -/
inductive Found (rebuilder : Rebuilder) (tree : FileTree) (root : Path) (names : List String) :
    String × Zip.Record → Prop
  | directory {entry : StagedEntry} {record : Zip.Record} :
      rebuilder.staged.lookup (keyAt names true) = some entry →
      tree.isDirectory? (under root names) = .ok true →
      entry.directoryRecord tree.clock = .ok record →
      Found rebuilder tree root names (keyAt names true, record)
  | file {entry : StagedEntry} {record : Zip.Record} {place : Files.Location} {file : Files.File} :
      rebuilder.staged.lookup (keyAt names false) = some entry →
      tree.openFile (under root names).toString = .ok (place, file) →
      entry.fileRecord file = .ok record →
      Found rebuilder tree root names (keyAt names false, record)

theorem Found.exists_key {names : List String} {item : String × Zip.Record}
    (found : Found rebuilder tree root names item) : ∃ isDirectory, item.1 = keyAt names isDirectory := by
  cases found with
  | directory _ _ _ => exact ⟨true, rfl⟩
  | file _ _ _ => exact ⟨false, rfl⟩

/-- What the walk has written after it, if all that it finds is at certain places. -/
def Finds (rebuilder : Rebuilder) (tree : FileTree) (root : Path) (spots : List String → Prop)
    (written result : Written) : Prop :=
  ∃ added, result = written ++ added ∧ (added.map Prod.fst).Nodup ∧
    ∀ item ∈ added, ∃ names, spots names ∧ names ≠ [] ∧ (∀ name ∈ names, IsName name) ∧
      Found rebuilder tree root names item

namespace Finds

variable {spots others : List String → Prop} {written middle result : Written}

theorem nothing (written : Written) : Finds rebuilder tree root spots written written :=
  ⟨[], by simp, by simp, by simp⟩

theorem single {names : List String} {item : String × Zip.Record} (spot : spots names)
    (nonempty : names ≠ []) (named : ∀ name ∈ names, IsName name)
    (found : Found rebuilder tree root names item) :
    Finds rebuilder tree root spots written (written ++ [item]) := by
  refine ⟨[item], rfl, by simp, fun other member => ?_⟩
  rw [List.mem_singleton.1 member]
  exact ⟨names, spot, nonempty, named, found⟩

theorem mono (finds : Finds rebuilder tree root spots written result)
    (wider : ∀ names, spots names → others names) :
    Finds rebuilder tree root others written result := by
  obtain ⟨added, whole, once, all⟩ := finds
  refine ⟨added, whole, once, fun item member => ?_⟩
  obtain ⟨names, spot, rest⟩ := all item member
  exact ⟨names, wider names spot, rest⟩

/-- What is found at different places has different keys. -/
theorem append (first : Finds rebuilder tree root spots written middle)
    (second : Finds rebuilder tree root others middle result)
    (apart : ∀ names, spots names → ¬others names) :
    Finds rebuilder tree root (fun names => spots names ∨ others names) written result := by
  obtain ⟨added, rfl, once, all⟩ := first
  obtain ⟨further, rfl, onceFurther, allFurther⟩ := second
  refine ⟨added ++ further, List.append_assoc _ _ _, ?_, fun item member => ?_⟩
  · rw [List.map_append, List.nodup_append]
    refine ⟨once, onceFurther, fun key member other memberOther same => ?_⟩
    obtain ⟨item, listed, rfl⟩ := List.mem_map.1 member
    obtain ⟨twin, listedTwin, rfl⟩ := List.mem_map.1 memberOther
    obtain ⟨names, spot, nonempty, named, found⟩ := all item listed
    obtain ⟨twinNames, twinSpot, twinNonempty, twinNamed, twinFound⟩ := allFurther twin listedTwin
    obtain ⟨_, key⟩ := found.exists_key
    obtain ⟨_, twinKey⟩ := twinFound.exists_key
    rw [key, twinKey] at same
    obtain ⟨rfl, _⟩ := keyAt_injective nonempty twinNonempty (fun name member => (named name member).1)
      (fun name member => (twinNamed name member).1) same
    exact apart names spot twinSpot
  · rcases List.mem_append.1 member with before | after
    · obtain ⟨names, spot, rest⟩ := all item before
      exact ⟨names, .inl spot, rest⟩
    · obtain ⟨names, spot, rest⟩ := allFurther item after
      exact ⟨names, .inr spot, rest⟩

end Finds

theorem collectDirectory_ok {names : List String} {written result : Written} (nonempty : names ≠ [])
    (named : ∀ name ∈ names, IsName name)
    (seen : before.files.isDirectory? (under root names) = .ok true)
    (run : collectDirectory rebuilder (keyAt names true) written before = (.ok result, after)) :
    Finds rebuilder before.files root (fun other => other = names) written result := by
  unfold collectDirectory at run
  cases known : rebuilder.staged.lookup (keyAt names true) with
  | some entry =>
      rw [known] at run
      simp only at run
      rw [Work.files_bind] at run
      obtain ⟨record, _, made, answer⟩ := bind_ok run
      obtain ⟨_, recordOk⟩ := Work.ofOutcome_cases made
      obtain rfl := Except.ok.inj (pure_ok answer).1
      exact .single rfl nonempty named (.directory known seen recordOk.symm)
  | none =>
      rw [known] at run
      obtain rfl := Except.ok.inj (pure_ok run).1
      exact .nothing _

theorem collectFile_ok {names : List String} {written result : Written} (nonempty : names ≠ [])
    (named : ∀ name ∈ names, IsName name)
    (run : collectFile rebuilder (under root names) (keyAt names false) written before =
      (.ok result, after)) :
    Finds rebuilder before.files root (fun other => other = names) written result := by
  unfold collectFile at run
  cases known : rebuilder.staged.lookup (keyAt names false) with
  | some entry =>
      rw [known] at run
      obtain ⟨⟨place, file⟩, _, asked, further⟩ := bind_ok run
      obtain ⟨rfl, opened⟩ := Work.ask_ok asked
      obtain ⟨record, _, made, answer⟩ := bind_ok further
      obtain ⟨_, recordOk⟩ := Work.ofOutcome_cases made
      obtain rfl := Except.ok.inj (pure_ok answer).1
      exact .single rfl nonempty named (.file known opened recordOk.symm)
  | none =>
      rw [known] at run
      obtain ⟨_, _, _, answer⟩ := bind_ok run
      obtain rfl := Except.ok.inj (pure_ok answer).1
      exact .nothing _

/-- What is found at a path is there or below. -/
theorem collectName_ok {descend : Path → String → Written → Work Written} {names : List String}
    {key : String} {written result : Written}
    (below : ∀ {written result : Written} {before after : Workspace}, before.Healthy →
      descend (under root names) (key ++ "/") written before = (.ok result, after) →
      Finds rebuilder before.files root (fun other => names <+: other ∧ other ≠ names) written result)
    (nonempty : names ≠ []) (named : ∀ name ∈ names, IsName name) (spelled : key = keyAt names false)
    (healthy : before.Healthy)
    (run : collectName rebuilder descend (under root names) key written before = (.ok result, after)) :
    Finds rebuilder before.files root (fun other => names <+: other) written result := by
  have spelledDirectory : key ++ "/" = keyAt names true := by
    rw [spelled, keyAt, keyAt, if_neg (by decide), String.append_empty, if_pos rfl]
  obtain ⟨isDirectory, _, asked, further⟩ := bind_ok run
  obtain ⟨rfl, seen⟩ := Work.ask_ok asked
  cases isDirectory with
  | true =>
      obtain ⟨middle, last, collecting, deeper⟩ := bind_ok further
      obtain ⟨sound, files⟩ := (keeps_collectDirectory _ _ _).still healthy collecting
      have rest := below sound deeper
      rw [files] at rest
      rw [spelledDirectory] at collecting
      refine ((collectDirectory_ok nonempty named seen collecting).append rest ?_).mono ?_
      · rintro _ rfl ⟨_, other⟩
        exact other rfl
      · rintro names (rfl | ⟨start, _⟩)
        · exact List.prefix_refl _
        · exact start
  | false =>
      obtain ⟨isFile, _, askedFile, last⟩ := bind_ok further
      obtain ⟨rfl, _⟩ := Work.ask_ok askedFile
      cases isFile with
      | true =>
          rw [spelled] at last
          exact (collectFile_ok nonempty named last).mono fun names same => same ▸ List.prefix_refl _
      | false =>
          obtain rfl := Except.ok.inj (pure_ok last).1
          exact .nothing _

/-- The walk finds what is strictly below where it starts. -/
theorem collect_ok (depth : Nat) {front : List String} {above : String} {written result : Written}
    (frontNamed : ∀ name ∈ front, IsName name)
    (spelled : ∀ name, above ++ name = "/".intercalate (front ++ [name])) (healthy : before.Healthy)
    (run : collect rebuilder depth (under root front) above written before = (.ok result, after)) :
    Finds rebuilder before.files root (fun names => front <+: names ∧ names ≠ front) written result := by
  induction depth generalizing front above written result before after with
  | zero =>
      obtain ⟨same, rfl⟩ := pure_ok run
      obtain rfl := Except.ok.inj same
      exact .nothing _
  | succ depth inductionHypothesis =>
      obtain ⟨listing, listed, asked, folding⟩ := bind_ok run
      obtain ⟨rfl, answered⟩ := Work.ask_ok asked
      obtain ⟨once, listedNamed⟩ := list_ok healthy.files answered
      -- What is found after some names of the listing begins with one of them.
      have held := foldlM_ok (fun past value (state : Workspace) => state.Healthy ∧
        state.files = listed.files ∧ Finds rebuilder listed.files root
          (fun names => ∃ name ∈ past.map Prod.fst, front ++ [name] <+: names) written value)
        ?_ ⟨healthy, rfl, .nothing _⟩ folding
      · refine held.2.2.mono fun names spot => ?_
        obtain ⟨name, _, further, rfl⟩ := spot
        exact ⟨⟨_, (List.append_assoc _ _ _).symm⟩, by simp⟩
      rintro past rest value next ⟨name, entry⟩ state last whole ⟨sound, files, finds⟩ step
      obtain ⟨soundLast, filesLast⟩ :=
        (keeps_collectName (fun _ _ _ => keeps_collect _ _ _ _ _) _ _ _).still sound step
      refine ⟨soundLast, filesLast.trans files, ?_⟩
      have isNew : name ∉ past.map Prod.fst := by
        rw [whole, List.map_append, List.nodup_append] at once
        exact fun again => once.2.2 name again name List.mem_cons_self rfl
      have segments : ∀ part ∈ front ++ [name], IsName part := by
        intro part member
        rcases List.mem_append.1 member with above | last
        · exact frontNamed part above
        · rw [List.mem_singleton.1 last]
          exact listedNamed name (by simp [whole])
      have spelledHere : above ++ name = keyAt (front ++ [name]) false :=
        (spelled name).trans String.append_empty.symm
      simp only [child_under] at step
      have deeper : ∀ other, above ++ name ++ "/" ++ other =
          "/".intercalate (front ++ [name] ++ [other]) := by
        intro other
        rw [Files.intercalate_concat (by simp), ← spelled name]
      have here := collectName_ok (fun sound run => inductionHypothesis segments deeper sound run)
        (by simp) segments spelledHere sound step
      rw [files] at here
      refine (finds.append here ?_).mono ?_
      · rintro names ⟨other, among, start⟩ again
        have same : front ++ [other] = front ++ [name] :=
          (List.prefix_of_prefix_length_le start again (by simp)).eq_of_length (by simp)
        obtain rfl : other = name := by simpa using same
        exact isNew among
      · rintro names (⟨other, among, start⟩ | start)
        · exact ⟨other, by simp [among], start⟩
        · exact ⟨name, by simp, start⟩

/-! ## The whole archive -/

theorem archiveBytes_ok {manifest : Option Manifest} {bytes : Bytes} (healthy : before.Healthy)
    (run : rebuilder.archiveBytes root manifest before = (.ok bytes, after)) :
    ∃ written, Finds rebuilder before.files root (fun _ => True) [] written ∧
      missingNames rebuilder written = [] ∧
      bytes = Zip.encode ((manifest.map Manifest.record).toList ++ written.map (·.2)) [] := by
  obtain ⟨written, middle, collected, further⟩ := bind_ok run
  have whole : under root [] = root := by simp [under]
  rw [← whole] at collected
  have finds := collect_ok _ (by simp) (fun name => by simp) healthy collected
  simp only at further
  split at further
  · obtain ⟨_, _, refused, _⟩ := bind_ok further
    cases (throw_error refused).1
  next complete =>
    obtain rfl := Except.ok.inj (pure_ok further).1
    exact ⟨written, finds.mono fun _ _ => trivial, by simpa using complete, rfl⟩

section Complete

variable {written : Written} {spots : List String → Prop}

theorem exists_written_of_staged (complete : missingNames rebuilder written = [])
    {key : String} {entry : StagedEntry} (staged : (key, entry) ∈ rebuilder.staged) :
    ∃ record, written.lookup key = some record := by
  have none : (rebuilder.staged.filter fun item => (written.lookup item.1).isNone) = [] := by
    have length := congrArg List.length complete
    unfold missingNames at length
    simpa using length
  have found := List.filter_eq_nil_iff.1 none _ staged
  exact Option.isSome_iff_exists.1 (by simpa using found)

theorem mem_of_lookup {α : Type} {entries : List (String × α)} {key : String} {value : α}
    (found : entries.lookup key = some value) : (key, value) ∈ entries := by
  obtain ⟨front, back, rfl, _⟩ := List.lookup_eq_some_iff.1 found
  simp

/-- What has been staged and written is remembered by the text of the way on which it has been found. -/
theorem exists_names_of_complete (finds : Finds rebuilder tree root spots [] written)
    (complete : missingNames rebuilder written = []) {key : String}
    (staged : key ∈ rebuilder.staged.map Prod.fst) :
    ∃ names isDirectory, key = keyAt names isDirectory ∧ names ≠ [] ∧ ∀ name ∈ names, IsName name := by
  obtain ⟨⟨_, entry⟩, among, rfl⟩ := List.mem_map.1 staged
  obtain ⟨record, looked⟩ := exists_written_of_staged complete among
  obtain ⟨_, rfl, _, all⟩ := finds
  obtain ⟨names, _, nonempty, named, found⟩ := all _ (mem_of_lookup looked)
  obtain ⟨isDirectory, spelled⟩ := found.exists_key
  exact ⟨names, isDirectory, spelled, nonempty, named⟩

/-- Every staged entry is written once, and nothing else is. -/
theorem keys_perm (once : (rebuilder.staged.map Prod.fst).Nodup)
    (finds : Finds rebuilder tree root spots [] written)
    (complete : missingNames rebuilder written = []) :
    (written.map Prod.fst).Perm (rebuilder.staged.map Prod.fst) := by
  obtain ⟨added, rfl, onceWritten, all⟩ := finds
  refine (List.perm_ext_iff_of_nodup onceWritten once).2 fun key => ⟨fun member => ?_, fun member => ?_⟩
  · obtain ⟨item, listed, rfl⟩ := List.mem_map.1 member
    obtain ⟨names, _, _, _, found⟩ := all item listed
    cases found with
    | directory known _ _ => exact List.mem_map_of_mem (mem_of_lookup known)
    | file known _ _ => exact List.mem_map_of_mem (mem_of_lookup known)
  · obtain ⟨⟨_, entry⟩, staged, rfl⟩ := List.mem_map.1 member
    obtain ⟨record, found⟩ := exists_written_of_staged complete staged
    exact List.mem_map_of_mem (mem_of_lookup found)

end Complete

end Rebuild
end ClassLoom
