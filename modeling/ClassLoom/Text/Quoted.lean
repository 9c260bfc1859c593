import ClassLoom.Bytes
import ClassLoom.Text.Printable

namespace ClassLoom
namespace Text

/-!
# Quoted texts

A text quoted in a message stands between apostrophes, or between double quotes if it holds an
apostrophe and no double quote.  The quote itself, the backslash and everything that cannot be
printed are escaped, so the quoted form is one line of printable characters.
-/

/-- The apostrophe. -/
def apostrophe : Char := Char.ofNat 39

/-- The double quote. -/
def doubleQuote : Char := Char.ofNat 34

/-- The backslash. -/
def backslash : Char := Char.ofNat 92

/-- The digits of a number in hexadecimal, at least `width` of them. -/
def hexadecimal (width n : Nat) : List Char :=
  let digits := Nat.toDigits 16 n
  List.replicate (width - digits.length) '0' ++ digits

/-- The quote that surrounds a text. -/
def quoteFor (text : List Char) : Char :=
  if text.contains apostrophe && !text.contains doubleQuote then doubleQuote else apostrophe

/-- One character inside quotes. -/
def quoteCharacter (quote c : Char) : List Char :=
  if c == quote || c == backslash then [backslash, c]
  else if c == '\n' then [backslash, 'n']
  else if c == '\r' then [backslash, 'r']
  else if c == '\t' then [backslash, 't']
  else if isPrintable c then [c]
  else if c.toNat < 256 then backslash :: 'x' :: hexadecimal 2 c.toNat
  else if c.toNat < 65536 then backslash :: 'u' :: hexadecimal 4 c.toNat
  else backslash :: 'U' :: hexadecimal 8 c.toNat

/-- A text between quotes. -/
def quoted (text : String) : String :=
  let quote := quoteFor text.toList
  String.ofList (quote :: text.toList.flatMap (quoteCharacter quote) ++ [quote])

/-- One octet inside quotes. -/
def quoteOctet (quote : Char) (byte : UInt8) : List Char :=
  if byte.toNat < 127 then quoteCharacter quote (Char.ofNat byte.toNat)
  else backslash :: 'x' :: hexadecimal 2 byte.toNat

/-- A byte string between quotes, marked with a `b`. -/
def quotedBytes (bytes : Bytes) : String :=
  let quote := quoteFor (bytes.map fun b => Char.ofNat b.toNat)
  String.ofList ('b' :: quote :: bytes.flatMap (quoteOctet quote) ++ [quote])

/-- Pieces with a separator between them. -/
def joined (separator : String) (pieces : List String) : String :=
  separator.intercalate pieces

/-- A decimal number with at least `width` digits. -/
def padded (width n : Nat) : String :=
  let digits := Nat.toDigits 10 n
  String.ofList (List.replicate (width - digits.length) '0' ++ digits)

end Text
end ClassLoom
