import ClassLoom.Decimal.Double
import ClassLoom.Text.Digit

namespace ClassLoom
namespace Decimal

/-!
# Numbers in a text

A number may have blanks around it, a sign before it, decimal digits of any script, and single
underscores between digits.  A whole number in a base that is a power of two may start with the mark
of that base.  A text that is no number has no value: nothing is read from a part of a text.
-/

open Text (decimalValue?)

/-- A blank around a number.  The separators among the control characters are none. -/
def isBlank (c : Char) : Bool :=
  if c.toNat < 128 then c == ' ' || (9 ≤ c.toNat && c.toNat ≤ 13) else Text.isSpace c

/-- A text without the blanks at its ends. -/
def trim (text : List Char) : List Char :=
  ((text.dropWhile isBlank).reverse.dropWhile isBlank).reverse

/-- The value of a digit in a base; the letters from `a` follow the decimal digits. -/
def digitValue? (base : Nat) (c : Char) : Option Nat :=
  let value :=
    if 'a' ≤ c && c ≤ 'z' then some (c.toNat - 87)
    else if 'A' ≤ c && c ≤ 'Z' then some (c.toNat - 55)
    else decimalValue? c
  value.filter (· < base)

/-- The values of a row of digits, in which an underscore may stand between two digits. -/
def digits? (base : Nat) : List Char → Option (List Nat)
  | [] => none
  | [c] => (digitValue? base c).map ([·])
  | c :: '_' :: rest => do
    let digit ← digitValue? base c
    return digit :: (← digits? base rest)
  | c :: rest => do
    let digit ← digitValue? base c
    return digit :: (← digits? base rest)

/-- The number that a row of digits stands for. -/
def ofDigits (base : Nat) (digits : List Nat) : Nat :=
  digits.foldl (fun number digit => number * base + digit) 0

/-- The sign of a number, true if negative, and the text after it. -/
def splitSign : List Char → Bool × List Char
  | '-' :: rest => (true, rest)
  | '+' :: rest => (false, rest)
  | text => (false, text)

/-- The letter that marks a base. -/
def baseMark : Nat → Option Char
  | 2 => some 'b'
  | 8 => some 'o'
  | 16 => some 'x'
  | _ => none

/-- Take the mark of a base away, with an underscore after it. -/
def dropBaseMark (base : Nat) : List Char → List Char
  | '0' :: c :: rest =>
    if baseMark base == some c.toLower then
      match rest with
      | '_' :: rest => rest
      | rest => rest
    else '0' :: c :: rest
  | text => text

/-- The most digits that a number may have in a base that is no power of two. -/
def longestNumber : Nat := 4300

/-- The whole number that a text stands for in a base. -/
def whole? (base : Nat) (text : List Char) : Option Int := do
  let (negative, body) := splitSign (trim text)
  let digits ← digits? base (dropBaseMark base body)
  if (baseMark base).isNone && longestNumber < digits.length then none
  let size := Int.ofNat (ofDigits base digits)
  return if negative then -size else size

/-- Digits that may be missing. -/
def optionalDigits? : List Char → Option (List Nat)
  | [] => some []
  | text => digits? 10 text

/-- The number that a mantissa and a power of ten stand for. -/
def scaled? (negative : Bool) (mantissa : List Char) (exponent : Int) : Option Double := do
  let whole := mantissa.takeWhile (· != '.')
  match mantissa.drop whole.length with
  | [] => return .ofDecimal negative (ofDigits 10 (← digits? 10 whole)) exponent
  | _ :: fraction =>
    if whole.isEmpty && fraction.isEmpty then none
    let whole ← optionalDigits? whole
    let fraction ← optionalDigits? fraction
    return .ofDecimal negative (ofDigits 10 (whole ++ fraction)) (exponent - fraction.length)

/-- The floating-point number that a text stands for. -/
def real? (text : List Char) : Option Double := do
  let (negative, body) := splitSign (trim text)
  let name := String.ofList (body.map Char.toLower)
  if name == "inf" || name == "infinity" then return .infinity negative
  if name == "nan" then return .nan
  let mantissa := body.takeWhile fun c => c != 'e' && c != 'E'
  match body.drop mantissa.length with
  | [] => scaled? negative mantissa 0
  | _ :: power =>
    let (down, power) := splitSign power
    let size := Int.ofNat (ofDigits 10 (← digits? 10 power))
    scaled? negative mantissa (if down then -size else size)

end Decimal
end ClassLoom
