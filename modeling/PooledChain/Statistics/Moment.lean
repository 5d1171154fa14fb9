/-
Points in time, and how they are written.

A moment counts whole seconds from the start of 1970, with nanoseconds
that always point forward, so moments before 1970 have negative seconds.
It is written in the international order, year first. A year has four
digits and, outside 0 to 9999, a sign; the fraction of a second has
none, three, six or nine digits, as few as suffice.
-/

namespace PooledChain.Statistics

/-- A point in time. -/
structure Moment where
  seconds : Int
  /-- Below 10^9; within a leap second they go on counting beyond it. -/
  nanoseconds : Nat
  deriving DecidableEq, Repr, Inhabited

namespace Moment

/-- Whole milliseconds since 1970, cut toward the past. A leap second is
counted into the second after it. -/
def milliseconds (m : Moment) : Int :=
  m.seconds * 1000 + (m.nanoseconds / 1000000 : Nat)

/-- The moment so many milliseconds after the start of 1970. -/
def ofMilliseconds (ms : Int) : Moment :=
  ⟨Int.fdiv ms 1000, (Int.fmod ms 1000).toNat * 1000000⟩

/-- The first second of the year -262143, where the calendar begins. -/
def firstSecond : Int := -8334601228800

/-- The last second of the year 262142, where the calendar ends. -/
def lastSecond : Int := 8210266876799

/-- The moment that many milliseconds after the start of 1970, if the
calendar reaches it. A leap second at the very end of the calendar,
counted in milliseconds, lies beyond it. -/
def ofMilliseconds? (ms : Int) : Option Moment :=
  let m := ofMilliseconds ms
  if firstSecond ≤ m.seconds ∧ m.seconds ≤ lastSecond then some m else none

-- ================================================ the calendar

/-- A day of the calendar that is in use everywhere, continued into the
past. -/
structure Date where
  year : Int
  month : Nat
  day : Nat
  deriving DecidableEq, Repr

/-- Days in 400 years; the calendar repeats after them. -/
def daysPerEra : Int := 146097

/-- The date of a day counted from the first of January 1970. Years are
taken to begin in March here, so that the leap day comes last. -/
def dateOfDay (day : Int) : Date :=
  let shifted := day + 719468
  let era := Int.fdiv shifted daysPerEra
  let dayOfEra := (Int.fmod shifted daysPerEra).toNat
  let yearOfEra :=
    (dayOfEra - dayOfEra / 1460 + dayOfEra / 36524 - dayOfEra / 146096) / 365
  let dayOfYear := dayOfEra - (365 * yearOfEra + yearOfEra / 4 - yearOfEra / 100)
  let monthFromMarch := (5 * dayOfYear + 2) / 153
  let month := if monthFromMarch < 10 then monthFromMarch + 3 else monthFromMarch - 9
  { year := era * 400 + yearOfEra + (if month ≤ 2 then 1 else 0)
    month
    day := dayOfYear - (153 * monthFromMarch + 2) / 5 + 1 }

-- ================================================ writing

/-- A number with zeros in front of it, up to a width. -/
def padded (width n : Nat) : String :=
  let digits := toString n
  String.ofList (List.replicate (width - digits.length) '0') ++ digits

/-- A year with four digits, and with a sign where four do not do. -/
def yearText (year : Int) : String :=
  if year < 0 then "-" ++ padded 4 year.natAbs
  else if year ≤ 9999 then padded 4 year.natAbs
  else "+" ++ padded 4 year.natAbs

/-- The fraction of a second with its point, or nothing. -/
def fractionText (nanoseconds : Nat) : String :=
  if nanoseconds == 0 then ""
  else if nanoseconds % 1000000 == 0 then "." ++ padded 3 (nanoseconds / 1000000)
  else if nanoseconds % 1000 == 0 then "." ++ padded 6 (nanoseconds / 1000)
  else "." ++ padded 9 nanoseconds

/-- Leap seconds are not counted. -/
def secondsPerDay : Int := 86400

/-- The written form without a time zone. A leap second is the second
numbered 60. -/
def localText (m : Moment) : String :=
  let date := dateOfDay (Int.fdiv m.seconds secondsPerDay)
  let second := (Int.fmod m.seconds secondsPerDay).toNat
  let leap := m.nanoseconds / 1000000000
  yearText date.year ++ "-" ++ padded 2 date.month ++ "-" ++ padded 2 date.day ++ "T" ++
    padded 2 (second / 3600) ++ ":" ++ padded 2 (second / 60 % 60) ++ ":" ++
    padded 2 (second % 60 + leap) ++ fractionText (m.nanoseconds % 1000000000)

/-- With the offset of the zone, as it is shown to readers. -/
def offsetText (m : Moment) : String :=
  m.localText ++ "+00:00"

/-- With the one-letter zone, as it stands in JSON. -/
def zuluText (m : Moment) : String :=
  m.localText ++ "Z"

end Moment

end PooledChain.Statistics
