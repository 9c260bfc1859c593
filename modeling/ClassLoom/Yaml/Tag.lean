import ClassLoom.Decimal.Reading

namespace ClassLoom
namespace Yaml

/-!
# Tags of plain scalars

A plain scalar without a tag has the tag of the first form that its text has: a truth value, a
number, the mark of a merge, null, a moment, or the mark of a default.  Any other text is a text.
The forms are about spelling alone; whether a moment is on the calendar is found out when it is
read.
-/

/-- The address of a tag of the standard. -/
def standardTag (name : String) : String := "tag:yaml.org,2002:" ++ name

/-- The words for truth values. -/
def truthWords : List (String × Bool) :=
  [("yes", true), ("no", false), ("true", true), ("false", false), ("on", true), ("off", false)]

/-- The spellings of a word: small, with a capital, and in capitals. -/
def spellings (word : String) : List String := [word, word.capitalize, word.toUpper]

def isTruthWord (text : String) : Bool :=
  truthWords.any fun e => (spellings e.1).contains text

def isNullWord (text : String) : Bool :=
  text == "" || text == "~" || (spellings "null").contains text

/-- The text after a sign, if there is one. -/
def afterSign : List Char → List Char
  | '+' :: rest => rest
  | '-' :: rest => rest
  | text => text

/-- Whether a text is not empty and has only characters that pass a test. -/
def isRow (test : Char → Bool) (text : List Char) : Bool := !text.isEmpty && text.all test

/-- A decimal digit or an underscore. -/
def isDigitOrGap (c : Char) : Bool := c.isDigit || c == '_'

/-- A hexadecimal digit or an underscore. -/
def isHexOrGap (c : Char) : Bool :=
  isDigitOrGap c || ('a' ≤ c && c ≤ 'f') || ('A' ≤ c && c ≤ 'F')

/-- Whether a text is a number below sixty of at most two digits. -/
def isSixtieth : List Char → Bool
  | [a] => a.isDigit
  | [a, b] => '0' ≤ a && a ≤ '5' && b.isDigit
  | _ => false

/-- The parts of a text between colons. -/
def colonParts (text : List Char) : List (List Char) :=
  text.splitOn ':'

/-- Whether a text is a row of digits and at least one place of sixtieths. -/
def isSexagesimal (starts : Char → Bool) (text : List Char) : Bool :=
  match colonParts text with
  | (first :: digits) :: place :: places =>
    starts first && digits.all isDigitOrGap && (place :: places).all isSixtieth
  | _ => false

/-- A digit that is not zero. -/
def isPositiveDigit (c : Char) : Bool := c.isDigit && c != '0'

/-- Whether a text has the form of a whole number. -/
def isWhole (text : List Char) : Bool :=
  let body := afterSign text
  match body with
  | '0' :: 'b' :: digits => isRow (fun c => c == '0' || c == '1' || c == '_') digits
  | '0' :: 'x' :: digits => isRow isHexOrGap digits
  | ['0'] => true
  | '0' :: digits => digits.all fun c => ('0' ≤ c && c ≤ '7') || c == '_'
  | first :: digits =>
    (isPositiveDigit first && digits.all isDigitOrGap) || isSexagesimal isPositiveDigit body
  | [] => false

/-- Whether a text is empty or a power of ten with a sign. -/
def isPower : List Char → Bool
  | [] => true
  | e :: sign :: digits =>
    (e == 'e' || e == 'E') && (sign == '+' || sign == '-') && isRow Char.isDigit digits
  | _ => false

/-- Whether a text is digits with a power of ten after them, if there is one. -/
def isFraction (text : List Char) : Bool := isPower (text.dropWhile isDigitOrGap)

/-- Whether a text has the form of a floating-point number. -/
def isReal (text : List Char) : Bool :=
  let body := afterSign text
  let whole := body.takeWhile (· != '.')
  let fraction := (body.drop whole.length).drop 1
  if whole.length = body.length then false
  else match whole with
    | [] =>
      (["inf", "Inf", "INF"].contains (String.ofList fraction)) ||
        (text.head? == some '.' &&
          (["nan", "NaN", "NAN"].contains (String.ofList fraction) ||
            ((fraction.head?.map Char.isDigit).getD false && isFraction fraction)))
    | first :: digits =>
      (first.isDigit && digits.all isDigitOrGap && isFraction fraction) ||
        (isSexagesimal Char.isDigit whole && fraction.all isDigitOrGap)

/-! ## Moments -/

/-- The parts of a moment as they are written. -/
structure WrittenMoment where
  year : List Char
  month : List Char
  day : List Char
  /-- Hour, minute and second, if there is a time of day. -/
  time : Option (List Char × List Char × List Char)
  fraction : List Char
  /-- Whether there is a zone, with the sign, hour and minute of an offset that is not zero. -/
  zone : Option (Option (Char × List Char × List Char))
  deriving Repr, Inhabited

/-- A number of digits, between two bounds, and the text after them. -/
def digitRow (least most : Nat) (text : List Char) : Option (List Char × List Char) :=
  let row := (text.take most).takeWhile Char.isDigit
  if row.length < least then none else some (row, text.drop row.length)

/-- The text after a character that must be next. -/
def after (c : Char) : List Char → Option (List Char)
  | first :: rest => if first == c then some rest else none
  | [] => none

/-- Whether a character is a space or a tab. -/
def isSpaceOrTab (c : Char) : Bool := c == ' ' || c == '\t'

/-- The zone at the end of a moment. -/
def writtenZone (text : List Char) : Option (Option (Option (Char × List Char × List Char))) :=
  match text with
  | [] => some none
  | text =>
    match text.dropWhile isSpaceOrTab with
    | ['Z'] => some (some none)
    | sign :: rest =>
      if sign == '+' || sign == '-' then do
        let (hour, rest) ← digitRow 1 2 rest
        match rest with
        | [] => some (some (some (sign, hour, [])))
        | rest =>
          let (minute, rest) ← digitRow 2 2 (← after ':' rest)
          if rest.isEmpty then some (some (some (sign, hour, minute))) else none
      else none
    | [] => none

/-- The separator between a day and a time of day. -/
def afterDay : List Char → Option (List Char)
  | 'T' :: rest => some rest
  | 't' :: rest => some rest
  | c :: rest => if isSpaceOrTab c then some (rest.dropWhile isSpaceOrTab) else none
  | [] => none

/-- The parts of a moment that a text spells. -/
def WrittenMoment.ofText? (text : List Char) : Option WrittenMoment := do
  let (year, rest) ← digitRow 4 4 text
  let (month, rest) ← digitRow 1 2 (← after '-' rest)
  let (day, rest) ← digitRow 1 2 (← after '-' rest)
  if rest.isEmpty then return ⟨year, month, day, none, [], none⟩
  let (hour, rest) ← digitRow 1 2 (← afterDay rest)
  let (minute, rest) ← digitRow 2 2 (← after ':' rest)
  let (second, rest) ← digitRow 2 2 (← after ':' rest)
  let (fraction, rest) := match rest with
    | '.' :: rest => (rest.takeWhile Char.isDigit, rest.dropWhile Char.isDigit)
    | rest => ([], rest)
  let zone ← writtenZone rest
  return ⟨year, month, day, some (hour, minute, second), fraction, zone⟩

/-- Whether a text has the form of a moment; a day alone has two digits for month and day. -/
def isMoment (text : List Char) : Bool :=
  match WrittenMoment.ofText? text with
  | some moment => moment.time.isSome || (moment.month.length == 2 && moment.day.length == 2)
  | none => false

/-! ## The tag of a text -/

/-- A test that also allows a line feed at the end of the text. -/
def orWithLineFeed (test : List Char → Bool) (text : List Char) : Bool :=
  test text || (text.getLast? == some '\n' && test text.dropLast)

/-- The forms in the order in which they are tried. -/
def forms : List (String × (List Char → Bool)) :=
  [("bool", fun text => isTruthWord (String.ofList text)),
   ("float", isReal),
   ("int", isWhole),
   ("merge", fun text => text == "<<".toList),
   ("null", fun text => isNullWord (String.ofList text)),
   ("timestamp", isMoment),
   ("value", fun text => text == ['=']),
   ("yaml", fun text => text == ['!'] || text == ['&'] || text == ['*'])]

/-- The tag of a plain scalar. -/
def plainTag (text : String) : String :=
  match forms.find? fun form => orWithLineFeed form.2 text.toList with
  | some (name, _) => standardTag name
  | none => standardTag "str"

end Yaml
end ClassLoom
