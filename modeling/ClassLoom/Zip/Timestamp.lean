import ClassLoom.Bytes

namespace ClassLoom
namespace Zip

/-!
# Dates of archive entries

An entry carries a date word and a time word.  The words are kept as they are read, because they can
spell dates that no calendar has, and such dates are passed on unchanged.  Seconds are stored
halved.
-/

/-- A date word and a time word. -/
structure Timestamp where
  date : Nat
  time : Nat
  deriving Repr, DecidableEq, Inhabited

namespace Timestamp

/-- The first date that the format can express. -/
def epoch : Timestamp := ⟨33, 0⟩

/-- Year, month, day, hour, minute and second. -/
def fields (stamp : Timestamp) : List Nat :=
  [stamp.date / 512 + 1980, stamp.date / 32 % 16, stamp.date % 32,
   stamp.time / 2048, stamp.time / 32 % 64, stamp.time % 32 * 2]

/-- The words for six fields; each field keeps only the bits that its word has for it. -/
def ofFields (year month day hour minute second : Nat) : Timestamp :=
  ⟨(year - 1980) % 128 * 512 ||| month * 32 ||| day, hour * 2048 ||| minute * 32 ||| second / 2⟩

end Timestamp

/-- Year, month and day of a day counted from 1 January 1970.  The count is shifted to a year that
starts in March, so that the leap day comes last. -/
def civilDate (day : Int) : Int × Nat × Nat :=
  let shifted := day + 719468
  let era := shifted.fdiv 146097
  let dayOfEra := (shifted - era * 146097).toNat
  let yearOfEra := (dayOfEra - dayOfEra / 1460 + dayOfEra / 36524 - dayOfEra / 146096) / 365
  let dayOfYear := dayOfEra - (365 * yearOfEra + yearOfEra / 4 - yearOfEra / 100)
  let month := (5 * dayOfYear + 2) / 153
  let dayOfMonth := dayOfYear - (153 * month + 2) / 5 + 1
  let month := if month < 10 then month + 3 else month - 9
  let year := Int.ofNat yearOfEra + era * 400 + (if month ≤ 2 then 1 else 0)
  (year, month, dayOfMonth)

/-- The day count of a date of the calendar. -/
def dayOfDate (year : Int) (month day : Nat) : Int :=
  let year := if month ≤ 2 then year - 1 else year
  let era := year.fdiv 400
  let yearOfEra := (year - era * 400).toNat
  let dayOfYear := (153 * (if 2 < month then month - 3 else month + 9) + 2) / 5 + day - 1
  let dayOfEra := yearOfEra * 365 + yearOfEra / 4 - yearOfEra / 100 + dayOfYear
  era * 146097 + Int.ofNat dayOfEra - 719468

/-- The entry date of a moment in seconds since 1970, the first expressible date for anything
earlier; nothing if the year is too late for the format. -/
def Timestamp.ofSeconds? (seconds : Int) : Option Timestamp :=
  let (year, month, day) := civilDate (seconds.fdiv 86400)
  let rest := (seconds.fmod 86400).toNat
  if year < 1980 then some .epoch
  else if 2107 < year then none
  else some (.ofFields year.toNat month day (rest / 3600) (rest / 60 % 60) (rest % 60))

/-- The moment of an entry date, in seconds since 1970, if the fields are those of a day of the
calendar. -/
def Timestamp.seconds (stamp : Timestamp) : Int :=
  dayOfDate (Int.ofNat (stamp.date / 512 + 1980)) (stamp.date / 32 % 16) (stamp.date % 32) * 86400
    + Int.ofNat (stamp.time / 2048 * 3600 + stamp.time / 32 % 64 * 60 + stamp.time % 32 * 2)

end Zip
end ClassLoom
