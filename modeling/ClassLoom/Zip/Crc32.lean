import ClassLoom.Bytes

namespace ClassLoom
namespace Zip

/-!
# The cyclic redundancy check of the archive format

The check value is the remainder of the reflected polynomial `0xEDB88320`.  The register starts and
ends inverted, so the value of the empty string is zero and a value can be continued octet by octet.
-/

/-- One bit of polynomial division. -/
def crcBit (register : UInt32) : UInt32 :=
  if register &&& 1 = 1 then (register >>> 1) ^^^ 0xEDB88320 else register >>> 1

/-- One octet of polynomial division. -/
def crcByte (register : UInt32) (byte : UInt8) : UInt32 :=
  crcBit (crcBit (crcBit (crcBit (crcBit (crcBit (crcBit (crcBit (register ^^^ byte.toUInt32))))))))

/-- The check value of a byte string. -/
def crc32 (bytes : Bytes) : UInt32 :=
  ~~~(bytes.foldl crcByte 0xFFFFFFFF)

/-- The register after a concatenation is the register of the parts, one after the other. -/
theorem foldl_crcByte_append (start : UInt32) (left right : Bytes) :
    (left ++ right).foldl crcByte start = right.foldl crcByte (left.foldl crcByte start) :=
  List.foldl_append

end Zip
end ClassLoom
