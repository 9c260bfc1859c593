import ClassLoom.Proofs.Files.Spelling
import ClassLoom.Rebuild.Rebuilder

namespace ClassLoom
namespace Rebuild

/-!
# Keys of staged entries

An entry is remembered by a text, and looked for by the text of the path at which it is found.  The
text determines the path, and whether it is that of a directory: a slash ends the keys of directories
only, because no name is empty.
-/

open Files (IsName IsSegment Path intercalate_concat)

/-- The key of what is found below the staging directory. -/
def keyAt (names : List String) (isDirectory : Bool) : String :=
  "/".intercalate names ++ if isDirectory then "/" else ""

theorem keyOf_eq_keyAt (name : String) (isDirectory : Bool) :
    keyOf name isDirectory = keyAt (nameParts name) isDirectory := rfl

theorem isSegment_of_mem_nameParts {name part : String} (member : part ∈ nameParts name) :
    IsSegment part := Files.isSegment_of_mem_filter member

/-- Between its slashes, a key has the names of the path, and nothing behind them if it is that of a
directory. -/
theorem segments_keyAt {names : List String} (nonempty : names ≠ [])
    (segments : ∀ name ∈ names, IsSegment name) (isDirectory : Bool) :
    Files.segments (keyAt names isDirectory) = names ++ if isDirectory then [""] else [] := by
  have slashless : ∀ name ∈ names, '/' ∉ name.toList := fun name member => (segments name member).1
  cases isDirectory with
  | false =>
      have bare : keyAt names false = "/".intercalate names := String.append_empty
      rw [bare, Files.segments_intercalate nonempty slashless]
      exact (List.append_nil names).symm
  | true =>
      have ended : keyAt names true = "/".intercalate (names ++ [""]) := by
        rw [intercalate_concat nonempty, String.append_empty]
        rfl
      rw [ended]
      refine Files.segments_intercalate (by simp) ?_
      intro name member
      rcases List.mem_append.1 member with above | last
      · exact slashless name above
      · rw [List.mem_singleton.1 last]
        simp

theorem keyAt_injective {names others : List String} {isDirectory other : Bool} (nonempty : names ≠ [])
    (othersNonempty : others ≠ []) (segments : ∀ name ∈ names, IsSegment name)
    (otherSegments : ∀ name ∈ others, IsSegment name)
    (same : keyAt names isDirectory = keyAt others other) : names = others ∧ isDirectory = other := by
  have pieces := congrArg Files.segments same
  rw [segments_keyAt nonempty segments, segments_keyAt othersNonempty otherSegments] at pieces
  have blank : "" ∉ names := fun member => (segments _ member).ne_empty rfl
  have otherBlank : "" ∉ others := fun member => (otherSegments _ member).ne_empty rfl
  cases isDirectory with
  | false =>
      cases other with
      | false => exact ⟨by simpa using pieces, rfl⟩
      | true =>
          rw [if_neg (by decide), if_pos rfl, List.append_nil] at pieces
          exact absurd (pieces ▸ List.mem_append_right _ List.mem_cons_self) blank
  | true =>
      cases other with
      | false =>
          rw [if_pos rfl, if_neg (by decide), List.append_nil] at pieces
          exact absurd (pieces ▸ List.mem_append_right _ List.mem_cons_self) otherBlank
      | true => exact ⟨by simpa using pieces, rfl⟩

/-! ## Paths -/

/-- A path so many names below another. -/
def under (root : Path) (names : List String) : Path := ⟨root.root, root.parts ++ names⟩

theorem child_under (root : Path) (names : List String) (name : String) :
    (under root names).child name = under root (names ++ [name]) := by
  simp [under, Path.child]

/-- An entry is staged at the path of its key. -/
theorem descend_eq_under (root : Path) (name : String) :
    root.descend (nameParts name) = under root (nameParts name) := by
  have kept : (nameParts name).filter (fun s => !Files.isIdle s) = nameParts name := by
    rw [nameParts, List.filter_filter]
    simp
  rw [Path.descend, kept, under]

end Rebuild
end ClassLoom
