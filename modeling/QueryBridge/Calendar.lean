import QueryBridge.Text.Numeral

/-!
# Dates and times

An instant is a reading of the local clock. It is shown in the proleptic Gregorian
calendar as `YYYY-MM-DD hh:mm:ss`, in the time of that clock; a year outside 0 to
9999 carries its sign.
-/

set_option autoImplicit false

namespace QueryBridge

/-- A reading of the local clock: the seconds since the beginning of 1970 in universal time, and how
many seconds the clock is ahead of universal time. -/
structure Instant where
  seconds : Int
  ahead : Int := 0
  deriving DecidableEq, Repr

/-- A number of seconds is a reading of a clock that shows universal time. -/
instance (n : Nat) : OfNat Instant n := ⟨⟨n, 0⟩⟩

/-- The seconds since the beginning of 1970 that the clock shows. -/
def Instant.onClock (instant : Instant) : Int :=
  instant.seconds + instant.ahead

namespace Calendar

/-- A day of the calendar. -/
structure Date where
  year : Int
  month : Nat
  day : Nat
  deriving DecidableEq, Repr

/-- The day that is `days` days after the first of January 1970. Years are counted from March, in
eras of 400 years. -/
def ofDays (days : Int) : Date :=
  let shifted := days + 719468
  let era := shifted.fdiv 146097
  let dayOfEra := (shifted.fmod 146097).toNat
  let yearOfEra := (dayOfEra - dayOfEra / 1460 + dayOfEra / 36524 - dayOfEra / 146096) / 365
  let dayOfYear := dayOfEra - (365 * yearOfEra + yearOfEra / 4 - yearOfEra / 100)
  let marchMonth := (5 * dayOfYear + 2) / 153
  let day := dayOfYear - (153 * marchMonth + 2) / 5 + 1
  let month := if marchMonth < 10 then marchMonth + 3 else marchMonth - 9
  let year : Int := yearOfEra + era * 400
  ⟨if month ≤ 2 then year + 1 else year, month, day⟩

/-- A number with at least `width` digits. -/
def digits (width n : Nat) : List Char :=
  Text.padStart width '0' (Text.decimal n)

/-- A year, with its sign where it has not four digits. -/
def yearText (year : Int) : List Char :=
  if 0 ≤ year && year ≤ 9999 then digits 4 year.toNat
  else (if year < 0 then '-' else '+') :: digits 4 year.natAbs

/-- The date and the time of an instant, as the local clock shows them. -/
def format (instant : Instant) : String :=
  let date := ofDays (instant.onClock.fdiv 86400)
  let second := (instant.onClock.fmod 86400).toNat
  String.ofList (yearText date.year ++ '-' :: digits 2 date.month ++ '-' :: digits 2 date.day ++
    ' ' :: digits 2 (second / 3600) ++ ':' :: digits 2 (second / 60 % 60) ++
    ':' :: digits 2 (second % 60))

end Calendar

end QueryBridge
