import Tollgate.Text.Decimal

/-!
# Instants and calendar dates

Instants are counted in milliseconds from the start of 1970, UTC. Their text is a date and a time of
day in the proleptic Gregorian calendar. Dates end with the year 262142.
-/

namespace Tollgate

/-- A point in time, in milliseconds from the start of 1970. -/
abbrev Instant := Int

structure Date where
  year : Int
  month : Nat
  day : Nat
  deriving DecidableEq, Repr

namespace Date

/-- The date that lies a number of days after the start of 1970. Years are counted from March, so
that a leap day ends its year. -/
def ofDays (days : Int) : Date :=
  let shifted := days + 719468
  let era := shifted / 146097
  let dayOfEra := (shifted % 146097).toNat
  let yearOfEra :=
    (dayOfEra - dayOfEra / 1460 + dayOfEra / 36524 - dayOfEra / 146096) / 365
  let dayOfYear := dayOfEra - (365 * yearOfEra + yearOfEra / 4 - yearOfEra / 100)
  let marchMonth := (5 * dayOfYear + 2) / 153
  let month := if marchMonth < 10 then marchMonth + 3 else marchMonth - 9
  let year := yearOfEra + era * 400
  { year := if month ≤ 2 then year + 1 else year
    month
    day := dayOfYear - (153 * marchMonth + 2) / 5 + 1 }

/-- The text of a year: four digits, and a sign for years that need more or lie before year 0. -/
def yearText (year : Int) : String :=
  let digits := Text.padded 4 year.natAbs
  if year < 0 then "-" ++ digits else if 9999 < year then "+" ++ digits else digits

def text (date : Date) : String :=
  s!"{yearText date.year}-{Text.padded 2 date.month}-{Text.padded 2 date.day}"

end Date

namespace Instant

/-- Milliseconds in a day. -/
def perDay : Int := 86400000

/-- The last instant that has a date. -/
def last : Instant := 8210266876799999

/-- The text of an instant up to its seconds. -/
private def secondsText (instant : Instant) : String :=
  let seconds := (instant % perDay / 1000).toNat
  let time := s!"{Text.padded 2 (seconds / 3600)}:{Text.padded 2 (seconds / 60 % 60)}"
  s!"{(Date.ofDays (instant / perDay)).text}T{time}:{Text.padded 2 (seconds % 60)}"

/-- The text of an instant to the second, in UTC. -/
def textToSeconds (instant : Instant) : String := secondsText instant ++ "Z"

/-- The text of an instant, in UTC, with milliseconds if there are any. -/
def text (instant : Instant) : String :=
  let millis := (instant % 1000).toNat
  let fraction := if millis = 0 then "" else "." ++ Text.padded 3 millis
  secondsText instant ++ fraction ++ "Z"

end Instant

end Tollgate
