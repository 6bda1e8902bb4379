/-!
# Dates

Points in time, and how they are written as a date and a time of day in the Gregorian calendar,
extended to all years.
-/

namespace CommitLint.Date

/-- A point in time: whole seconds since the beginning of 1970, and billionths of a second after
them. -/
structure Instant where
  seconds : Int
  nanos : Fin 1000000000 := ⟨0, by decide⟩
  deriving DecidableEq, Repr, Inhabited

/-- The number of seconds of a day. -/
def daySeconds : Int := 86400

/-- Whether a number of seconds belongs to a year that a date can have. -/
def isRepresentable (seconds : Int) : Bool :=
  -8334601228800 ≤ seconds && seconds ≤ 8210266876799

/-- A day of the calendar. -/
structure Day where
  year : Int
  month : Nat
  day : Nat
  deriving DecidableEq, Repr

/-- The day that is some days after the first of January 1970. Years are counted from March, so
that the leap day is the last of its year, in eras of 400 years with 146097 days each. -/
def ofDays (days : Int) : Day :=
  let shifted := days + 719468
  let era := shifted.fdiv 146097
  let dayOfEra := (shifted.fmod 146097).toNat
  let yearOfEra := (dayOfEra - dayOfEra / 1460 + dayOfEra / 36524 - dayOfEra / 146096) / 365
  let dayOfYear := dayOfEra - (365 * yearOfEra + yearOfEra / 4 - yearOfEra / 100)
  let monthFromMarch := (5 * dayOfYear + 2) / 153
  let day := dayOfYear - (153 * monthFromMarch + 2) / 5 + 1
  let month := if monthFromMarch < 10 then monthFromMarch + 3 else monthFromMarch - 9
  let year := era * 400 + (yearOfEra : Int) + if month ≤ 2 then 1 else 0
  ⟨year, month, day⟩

/-- A number with zeros before it up to a width. -/
def padded (width n : Nat) : String :=
  let digits := toString n
  "".pushn '0' (width - digits.length) ++ digits

/-- A year: four digits, with a sign and perhaps more digits where four do not do. -/
def yearText (year : Int) : String :=
  if 0 ≤ year ∧ year ≤ 9999 then padded 4 year.toNat
  else (if year < 0 then "-" else "+") ++ padded 4 year.natAbs

/-- A part of a second, in as many groups of three digits as it needs. -/
def fractionText (nanos : Nat) : String :=
  if nanos = 0 then ""
  else if nanos % 1000000 = 0 then "." ++ padded 3 (nanos / 1000000)
  else if nanos % 1000 = 0 then "." ++ padded 6 (nanos / 1000)
  else "." ++ padded 9 nanos

/-- The date and the time of day of a point in time, in the form of RFC 3339. -/
def rfc3339 (t : Instant) : String :=
  let date := ofDays (t.seconds.fdiv daySeconds)
  let time := (t.seconds.fmod daySeconds).toNat
  s!"{yearText date.year}-{padded 2 date.month}-{padded 2 date.day}" ++
    s!"T{padded 2 (time / 3600)}:{padded 2 (time / 60 % 60)}:{padded 2 (time % 60)}" ++
    fractionText t.nanos ++ "+00:00"

end CommitLint.Date
