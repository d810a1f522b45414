import TableGateway.Text.Integer

/-!
# Dates and times

Days are counted from the first of January 2000 and microseconds from its midnight, in the Gregorian calendar
for all years. A year outside of four digits has its sign. Fractions of a second have three or six digits, as
few as hold the value.
-/
namespace TableGateway.Cell

/-- A day of the calendar. -/
structure Date where
  year : Int
  month : Nat
  day : Nat
  deriving DecidableEq, Repr

/-- The days of four hundred years. -/
def eraDays : Int := 146097

/-- The day so many days after the first of January 2000. The years counted here start in March, so that the
    leap day is the last of its year. -/
def Date.ofDays (days : Int) : Date :=
  let sinceMarch := days - 60
  let era := sinceMarch.fdiv eraDays
  let dayOfEra := (sinceMarch.fmod eraDays).toNat
  let yearOfEra := (dayOfEra - dayOfEra / 1460 + dayOfEra / 36524 - dayOfEra / 146096) / 365
  let dayOfYear := dayOfEra - (365 * yearOfEra + yearOfEra / 4 - yearOfEra / 100)
  let monthOfYear := (5 * dayOfYear + 2) / 153
  let month := if monthOfYear < 10 then monthOfYear + 3 else monthOfYear - 9
  { year := 2000 + 400 * era + yearOfEra + if month ≤ 2 then 1 else 0
    month := month
    day := dayOfYear - (153 * monthOfYear + 2) / 5 + 1 }

def yearText (year : Int) : String :=
  if year < 0 then "-" ++ paddedText 4 year.natAbs
  else if 9999 < year then "+" ++ paddedText 4 year.natAbs
  else paddedText 4 year.natAbs

def Date.text (d : Date) : String :=
  yearText d.year ++ "-" ++ paddedText 2 d.month ++ "-" ++ paddedText 2 d.day

/-- The text of a fraction of a second. -/
def fractionText (micros : Nat) : String :=
  if micros = 0 then ""
  else if micros % 1000 = 0 then "." ++ paddedText 3 (micros / 1000)
  else "." ++ paddedText 6 micros

/-- The microseconds of a day. -/
def dayMicros : Int := 86400000000

def clockText (micros : Nat) : String :=
  let seconds := micros / 1000000
  ":".intercalate
      [paddedText 2 (seconds / 3600), paddedText 2 (seconds / 60 % 60), paddedText 2 (seconds % 60)] ++
    fractionText (micros % 1000000)

/-- The text of a date that is given in days. -/
def dateText (days : Int) : String :=
  (Date.ofDays days).text

/-- The text of a time that is given in microseconds, whole days apart. -/
def timeText (micros : Int) : String :=
  clockText (micros.fmod dayMicros).toNat

/-- The text of a point in time that is given in microseconds. -/
def timestampText (micros : Int) : String :=
  dateText (micros.fdiv dayMicros) ++ "T" ++ timeText micros

/-- The text of a point in time of the zone without offset. -/
def zonedText (micros : Int) : String :=
  timestampText micros ++ "+00:00"

end TableGateway.Cell
