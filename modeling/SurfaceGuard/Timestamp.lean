import SurfaceGuard.Number.Basic

/-!
# Timestamps

A point in time is a number of milliseconds since the start of 1970.  Its text is the
extended ISO 8601 form in universal time with milliseconds; years outside 0 to 9999 have
a sign and six digits.  Fractions of a millisecond are dropped, and points more than a
hundred million days away from the start have no text.
-/

namespace SurfaceGuard.Timestamp

/-- The furthest point that has a text, in milliseconds. -/
def furthest : Nat := 8640000000000000

/-- The milliseconds of a day. -/
def dayLength : Int := 86400000

/-- A date of the proleptic Gregorian calendar. -/
structure Date where
  year : Int
  month : Nat
  day : Nat
  deriving DecidableEq, Repr

/-- The date of a day, counted from the first of January 1970.  The years of the computation
start in March, so that the day that only some years have comes last. -/
def dateOfDay (day : Int) : Date :=
  let shifted := day + 719468
  let era := shifted / 146097
  let dayOfEra := (shifted % 146097).toNat
  let yearOfEra := (dayOfEra - dayOfEra / 1460 + dayOfEra / 36524 - dayOfEra / 146096) / 365
  let dayOfYear := dayOfEra - (365 * yearOfEra + yearOfEra / 4 - yearOfEra / 100)
  let month := (5 * dayOfYear + 2) / 153
  let year := (yearOfEra : Int) + era * 400
  { year := if month < 10 then year else year + 1
    month := if month < 10 then month + 3 else month - 9
    day := dayOfYear - (153 * month + 2) / 5 + 1 }

/-- A natural with zeros in front up to the given width. -/
def padded (width n : Nat) : Text :=
  let digits := Text.ofNat n
  List.replicate (width - digits.length) 0x30 ++ digits

/-- The text of a year. -/
def yearText (year : Int) : Text :=
  if 0 ≤ year ∧ year ≤ 9999 then padded 4 year.toNat
  else (if year < 0 then 0x2D else 0x2B) :: padded 6 year.natAbs

/-- The text of a whole number of milliseconds. -/
def ofMillis (ms : Int) : Text :=
  let date := dateOfDay (ms / dayLength)
  let time := (ms % dayLength).toNat
  yearText date.year ++ "-" ++ padded 2 date.month ++ "-" ++ padded 2 date.day
    ++ "T" ++ padded 2 (time / 3600000) ++ ":" ++ padded 2 (time / 60000 % 60)
    ++ ":" ++ padded 2 (time / 1000 % 60) ++ "." ++ padded 3 (time % 1000) ++ "Z"

/-- The text of a point in time; none if it is too far away. -/
def text? (ms : Number) : Option Text :=
  if ms.isFinite ∧ ms.toInt.natAbs ≤ furthest then some (ofMillis ms.toInt) else none

/-- The message for a point in time that has no text. -/
def invalid : Text := "Invalid time value"

end SurfaceGuard.Timestamp
