namespace ClassLoom
namespace Decimal

/-!
# Binary floating-point numbers and their decimal text

A number is its sixty-four bits.  Reading rounds an exact fraction to the nearest number, ties to an
even significand; writing looks for the fewest decimal digits that read back, and among those for
the ones nearest to the number.  Everything is computed with whole numbers, so both directions can
be reasoned about and none depends on the arithmetic of the machine.
-/

/-- A number of double precision, as its bits. -/
structure Double where
  bits : UInt64
  deriving Repr, DecidableEq, Inhabited

namespace Double

/-- The bits of the sign. -/
def signBit (negative : Bool) : Nat := if negative then Nat.pow 2 63 else 0

def ofParts (negative : Bool) (magnitude : Nat) : Double :=
  ⟨(signBit negative + magnitude).toUInt64⟩

/-- The bits of an infinite number without its sign. -/
def infinityBits : Nat := 2047 * Nat.pow 2 52

def infinity (negative : Bool) : Double := ofParts negative infinityBits

def nan : Double := ⟨(infinityBits + Nat.pow 2 51).toUInt64⟩

def isNegative (x : Double) : Bool := Nat.pow 2 63 ≤ x.bits.toNat

/-- The bits without the sign. -/
def magnitude (x : Double) : Nat := x.bits.toNat % Nat.pow 2 63

def isNaN (x : Double) : Bool := infinityBits < x.magnitude

def isInfinite (x : Double) : Bool := x.magnitude == infinityBits

/-- Significand and binary exponent of a finite number. -/
def decode (x : Double) : Nat × Int :=
  let exponent := x.magnitude / Nat.pow 2 52
  let fraction := x.magnitude % Nat.pow 2 52
  if exponent = 0 then (fraction, -1074) else (Nat.pow 2 52 + fraction, Int.ofNat exponent - 1075)

/-- Whether the number is zero, of either sign. -/
def isZero (x : Double) : Bool := x.magnitude == 0

/-- Numerator and denominator with a power of two moved to the side where it is whole. -/
def scaled (numerator denominator : Nat) (exponent : Int) : Nat × Nat :=
  match exponent with
  | .ofNat e => (numerator, denominator * Nat.pow 2 e)
  | .negSucc e => (numerator * Nat.pow 2 (e + 1), denominator)

/-- The magnitude nearest to a fraction. -/
def roundFraction (numerator denominator : Nat) : Nat :=
  if numerator = 0 then 0
  else
    let guess := max (Int.ofNat numerator.log2 - Int.ofNat denominator.log2 - 53) (-1074)
    let quotient := fun exponent =>
      let (n, d) := scaled numerator denominator exponent
      n / d
    let exponent :=
      if quotient guess < Nat.pow 2 53 then guess
      else if quotient (guess + 1) < Nat.pow 2 53 then guess + 1 else guess + 2
    let (n, d) := scaled numerator denominator exponent
    let whole := n / d
    let rest := n % d
    let significand :=
      if d < 2 * rest || (2 * rest == d && whole % 2 == 1) then whole + 1 else whole
    let bits :=
      if significand < Nat.pow 2 52 then significand
      else ((exponent + 1074).toNat) * Nat.pow 2 52 + significand
    min bits infinityBits

/-- The number nearest to `digits` times a power of ten. -/
def ofDecimal (negative : Bool) (digits : Nat) (exponent : Int) : Double :=
  let length := Int.ofNat (Nat.toDigits 10 digits).length
  if digits = 0 || length + exponent < -400 then ofParts negative 0
  else if 400 < length + exponent then infinity negative
  else match exponent with
    | .ofNat e => ofParts negative (roundFraction (digits * Nat.pow 10 e) 1)
    | .negSucc e => ofParts negative (roundFraction digits (Nat.pow 10 (e + 1)))

/-- The whole number as a double. -/
def ofInt (n : Int) : Double := ofDecimal (n < 0) n.natAbs 0

/-- Numerator and denominator of a finite number's size. -/
def fraction (x : Double) : Nat × Nat :=
  match x.decode with
  | (m, .ofNat e) => (m * Nat.pow 2 e, 1)
  | (m, .negSucc e) => (m, Nat.pow 2 (e + 1))

/-- The position of the leading decimal digit: the least `k` with the size below `10 ^ k`. -/
def leadingPlace (numerator denominator : Nat) : Int :=
  let below := fun (k : Int) => match k with
    | .ofNat k => decide (numerator < denominator * Nat.pow 10 k)
    | .negSucc k => decide (numerator * Nat.pow 10 (k + 1) < denominator)
  let guess := (Int.ofNat numerator.log2 - Int.ofNat denominator.log2) * 30103 / 100000 - 2
  ((List.range 6).map fun i => guess + Int.ofNat i).find? below |>.getD (guess + 6)

/-- The two decimal numbers with the last digit at a given place that surround a fraction. -/
def neighbours (numerator denominator : Nat) (place : Int) : Nat × Nat :=
  let whole := match place with
    | .ofNat p => numerator / (denominator * Nat.pow 10 p)
    | .negSucc p => numerator * Nat.pow 10 (p + 1) / denominator
  (whole, whole + 1)

/-- The digits of the shortest decimal number that reads back as `x`, and the place of its last
digit. -/
def shortest (x : Double) : Nat × Int :=
  let (n, d) := x.fraction
  let lead := leadingPlace n d
  let readsBack := fun (digits : Nat) place =>
    (ofDecimal false digits place).magnitude == x.magnitude
  let distance := fun (digits : Nat) (place : Int) =>
    match place with
    | .ofNat p => Int.natAbs (Int.ofNat (digits * Nat.pow 10 p * d) - Int.ofNat n)
    | .negSucc p => Int.natAbs (Int.ofNat (digits * d) - Int.ofNat (n * Nat.pow 10 (p + 1)))
  let attempt := fun count =>
    let place := lead - Int.ofNat count
    let (low, high) := neighbours n d place
    match readsBack low place, readsBack high place with
    | true, true =>
      let below := distance low place
      let above := distance high place
      some (if below < above || (below == above && low % 2 == 0) then low else high, place)
    | true, false => some (low, place)
    | false, true => some (high, place)
    | false, false => none
  ((List.range 17).findSome? fun i => attempt (i + 1)).getD (0, 0)

/-- Digits without zeros at the end. -/
def trimZeros : Nat → Nat → Int → Nat × Int
  | 0, digits, place => (digits, place)
  | fuel + 1, digits, place =>
    if digits ≠ 0 && digits % 10 == 0 then trimZeros fuel (digits / 10) (place + 1)
    else (digits, place)

/-- The text of a number: the fewest digits that read back, positional from a ten-thousandth to
below ten to the sixteenth, with a point in every positional form. -/
def text (x : Double) : String :=
  let sign := if x.isNegative then "-" else ""
  if x.isNaN then "nan"
  else if x.isInfinite then sign ++ "inf"
  else if x.isZero then sign ++ "0.0"
  else
    let (digits, place) := x.shortest
    let (digits, place) := trimZeros 20 digits place
    let shown := Nat.toDigits 10 digits
    let exponent := Int.ofNat shown.length - 1 + place
    let zeros := fun (n : Int) => List.replicate n.toNat '0'
    let body : List Char :=
      if -4 ≤ exponent && exponent < 16 then
        if 0 ≤ place then shown ++ zeros place ++ ['.', '0']
        else if 0 ≤ exponent then
          shown.take (exponent.toNat + 1) ++ '.' :: shown.drop (exponent.toNat + 1)
        else '0' :: '.' :: zeros (-exponent - 1) ++ shown
      else
        let power := Nat.toDigits 10 exponent.natAbs
        let power := if power.length < 2 then '0' :: power else power
        let fraction := if shown.length = 1 then [] else '.' :: shown.drop 1
        shown.take 1 ++ fraction ++ 'e' :: (if exponent < 0 then '-' else '+') :: power
    sign ++ String.ofList body

end Double
end Decimal
end ClassLoom
