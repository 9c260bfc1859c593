namespace ClassLoom
namespace Text

/-!
# Character classes as ranges of code points

A class of characters is given by its maximal ranges in ascending order.  The ASCII part of every
class is tested by the same table, so a class has one definition.
-/

/-- Inclusive ranges of code points. -/
abbrev CodeRanges := List (Nat × Nat)

namespace CodeRanges

/-- Membership, giving up at the first range that starts after the code point. -/
def contains : CodeRanges → Nat → Bool
  | [], _ => false
  | (low, high) :: rest, code =>
    if code < low then false else code ≤ high || contains rest code

theorem contains_singleton {low high code : Nat} :
    contains [(low, high)] code = true ↔ low ≤ code ∧ code ≤ high := by
  simp only [contains, Bool.or_false]
  split <;> simp <;> omega

end CodeRanges
end Text
end ClassLoom
