import ClassLoom.Text.LetterCase

namespace ClassLoom
namespace Text

/-!
# Small letters with a common capital

Most capitals have one small letter.  The table lists the small letters that share one, so that a
search without regard to case can take them for each other.
-/

/-- Code points of small letters, grouped by their capital. -/
def sharedCapitals : List (List Nat) :=
  [[105, 305], [115, 383], [181, 956], [837, 953, 8126], [912, 8147], [944, 8163], [946, 976],
   [949, 1013], [952, 977], [954, 1008], [960, 982], [961, 1009], [962, 963], [966, 981],
   [1074, 7296], [1076, 7297], [1086, 7298], [1089, 7299], [1090, 7300, 7301], [1098, 7302],
   [1123, 7303], [7304, 42571], [7777, 7835], [64261, 64262]]

/-- The small letters that share the capital of a small letter, the letter itself included. -/
def smallVariants (code : Nat) : List Nat :=
  (sharedCapitals.find? (·.contains code)).getD [code]

end Text
end ClassLoom
