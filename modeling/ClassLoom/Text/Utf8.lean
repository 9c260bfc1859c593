import ClassLoom.Bytes
import ClassLoom.Text.Quoted

namespace ClassLoom
namespace Text

/-!
# Reading UTF-8

Decoding stops at the first octet that cannot belong to a character.  The complaint names the
octets that were read of the unfinished character and says what is wrong with them.
-/

/-- A place where octets are not UTF-8: its offset, the octets consumed, and the reason. -/
structure Utf8Fault where
  offset : Nat
  octets : Bytes
  reason : String
  deriving Repr, DecidableEq, Inhabited

/-- The wording of a fault. -/
def Utf8Fault.message (fault : Utf8Fault) : String :=
  let place := match fault.octets with
    | [b] => "byte 0x" ++ String.ofList (hexadecimal 2 b.toNat) ++ " in position " ++
        toString fault.offset
    | octets => "bytes in position " ++ toString fault.offset ++ "-" ++
        toString (fault.offset + octets.length - 1)
  "'utf-8' codec can't decode " ++ place ++ ": " ++ fault.reason

/-- How many continuation octets follow a start octet, the bounds of the first of them, and the
bits that the start octet itself gives. -/
def utf8Start (b : Nat) : Option (Nat × Nat × Nat × Nat) :=
  if 0xC2 ≤ b && b ≤ 0xDF then some (1, 0x80, 0xBF, b - 0xC0)
  else if b = 0xE0 then some (2, 0xA0, 0xBF, 0)
  else if b = 0xED then some (2, 0x80, 0x9F, 13)
  else if 0xE1 ≤ b && b ≤ 0xEF then some (2, 0x80, 0xBF, b - 0xE0)
  else if b = 0xF0 then some (3, 0x90, 0xBF, 0)
  else if 0xF1 ≤ b && b ≤ 0xF3 then some (3, 0x80, 0xBF, b - 0xF0)
  else if b = 0xF4 then some (3, 0x80, 0x8F, 4)
  else none

/-- Continuation octets: the code point and the number of octets read, or the number of octets that
were fine and the reason why the next is not. -/
def utf8Rest : Nat → Nat → Nat → Nat → Bytes → Except (Nat × String) Nat
  | 0, _, _, code, _ => .ok code
  | _ + 1, _, _, _, [] => .error (0, "unexpected end of data")
  | count + 1, low, high, code, b :: rest =>
    if low ≤ b.toNat && b.toNat ≤ high then
      match utf8Rest count 0x80 0xBF (64 * code + (b.toNat - 0x80)) rest with
      | .ok code => .ok code
      | .error (read, reason) => .error (read + 1, reason)
    else .error (0, "invalid continuation byte")

/-- The characters that octets spell. -/
def decodeUtf8 (bytes : Bytes) : Except Utf8Fault (List Char) :=
  go (bytes.length + 1) 0 bytes
where
  go : Nat → Nat → Bytes → Except Utf8Fault (List Char)
    | 0, _, _ => .ok []
    | _, _, [] => .ok []
    | fuel + 1, offset, b :: rest =>
      if b.toNat < 128 then
        (go fuel (offset + 1) rest).map (Char.ofNat b.toNat :: ·)
      else match utf8Start b.toNat with
        | none => .error ⟨offset, [b], "invalid start byte"⟩
        | some (count, low, high, code) =>
          match utf8Rest count low high code rest with
          | .ok code => (go fuel (offset + count + 1) (rest.drop count)).map (Char.ofNat code :: ·)
          | .error (read, reason) => .error ⟨offset, b :: rest.take read, reason⟩

end Text
end ClassLoom
