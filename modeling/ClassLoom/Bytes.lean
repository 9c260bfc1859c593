namespace ClassLoom

/-!
# Byte strings

File contents are lists of octets.  Lists are chosen over packed arrays because every statement
about an archive or a class file is a statement about appending, dropping and taking octets, and
those operations have their laws on lists.

Fixed-width numbers are written least significant octet first, as the archive format asks.
-/

/-- A sequence of octets. -/
abbrev Bytes := List UInt8

namespace Bytes

/-- The number written by octets in little-endian order. -/
def toNatLE : Bytes → Nat
  | [] => 0
  | b :: rest => b.toNat + 256 * toNatLE rest

/-- The lowest `width` octets of a number, in little-endian order. -/
def ofNatLE : Nat → Nat → Bytes
  | 0, _ => []
  | width + 1, n => n.toUInt8 :: ofNatLE width (n / 256)

/-- A number of two octets. -/
abbrev u16 (n : Nat) : Bytes := ofNatLE 2 n

/-- A number of four octets. -/
abbrev u32 (n : Nat) : Bytes := ofNatLE 4 n

/-- The little-endian number of `width` octets found at `offset`. -/
def natAt (bytes : Bytes) (offset width : Nat) : Nat :=
  toNatLE ((bytes.drop offset).take width)

/-- The part that starts at `offset` and has at most `count` octets. -/
def slice (bytes : Bytes) (offset count : Nat) : Bytes :=
  (bytes.drop offset).take count

/-- The octets of a text in UTF-8. -/
def ofText (text : String) : Bytes :=
  text.toList.flatMap String.utf8EncodeChar

/-- The text that octets spell in UTF-8, if they spell one. -/
def toText? (bytes : Bytes) : Option String :=
  String.fromUTF8? ⟨bytes.toArray⟩

/-- The text with one character per octet. -/
def toCharacters (bytes : Bytes) : String :=
  String.ofList (bytes.map fun b => Char.ofNat b.toNat)

@[simp] theorem length_ofNatLE (width n : Nat) : (ofNatLE width n).length = width := by
  induction width generalizing n with
  | zero => rfl
  | succ width inductionHypothesis => simp [ofNatLE, inductionHypothesis]

theorem toNatLE_ofNatLE (width n : Nat) :
    toNatLE (ofNatLE width n) = n % Nat.pow 256 width := by
  induction width generalizing n with
  | zero => simp [ofNatLE, toNatLE, Nat.mod_one]
  | succ width inductionHypothesis =>
    have power : Nat.pow 256 (width + 1) = 256 * Nat.pow 256 width := Nat.mul_comm _ _
    have octet : n.toUInt8.toNat = n % 256 := by simp
    simp only [ofNatLE, toNatLE, inductionHypothesis]
    rw [power, Nat.mod_mul, octet]

end Bytes

end ClassLoom
