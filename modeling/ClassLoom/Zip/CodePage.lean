import ClassLoom.Bytes

namespace ClassLoom
namespace Zip

/-!
# The character set of old entry names

An entry name without the flag for UTF-8 is written in the character set of the first personal
computers: ASCII, and a table for the upper half.
-/

/-- Code points of the octets from 128. -/
def codePage : List Nat :=
  [199, 252, 233, 226, 228, 224, 229, 231, 234, 235, 232, 239, 238, 236, 196, 197, 201, 230,
   198, 244, 246, 242, 251, 249, 255, 214, 220, 162, 163, 165, 8359, 402, 225, 237, 243, 250,
   241, 209, 170, 186, 191, 8976, 172, 189, 188, 161, 171, 187, 9617, 9618, 9619, 9474, 9508,
   9569, 9570, 9558, 9557, 9571, 9553, 9559, 9565, 9564, 9563, 9488, 9492, 9524, 9516, 9500,
   9472, 9532, 9566, 9567, 9562, 9556, 9577, 9574, 9568, 9552, 9580, 9575, 9576, 9572, 9573,
   9561, 9560, 9554, 9555, 9579, 9578, 9496, 9484, 9608, 9604, 9612, 9616, 9600, 945, 223,
   915, 960, 931, 963, 181, 964, 934, 920, 937, 948, 8734, 966, 949, 8745, 8801, 177, 8805,
   8804, 8992, 8993, 247, 8776, 176, 8729, 183, 8730, 8319, 178, 9632, 160]

/-- The text that octets spell in the old character set; every octet spells a character. -/
def decodeCodePage (bytes : Bytes) : String :=
  String.ofList (bytes.map fun b =>
    Char.ofNat (if b.toNat < 128 then b.toNat else codePage.getD (b.toNat - 128) 63))

/-- The octet of a character in the old character set. -/
def codePageOctet? (c : Char) : Option UInt8 :=
  if c.toNat < 128 then some c.toNat.toUInt8
  else (codePage.findIdx? (· == c.toNat)).map fun i => (i + 128).toUInt8

/-- A text in the old character set, if each of its characters is in it. -/
def encodeCodePage? (text : String) : Option Bytes := text.toList.mapM codePageOctet?

end Zip
end ClassLoom
