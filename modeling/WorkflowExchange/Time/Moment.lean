/-!
# Moments

A moment is a microsecond of universal time, counted from the beginning of 1970.
`Moment.text` writes it as a date and a time of day.
-/

namespace WorkflowExchange

/-- A microsecond of universal time, counted from the beginning of 1970. -/
structure Moment where
  microseconds : Int
  deriving DecidableEq

namespace Moment

def second : Int := 1000000

def ofSeconds (seconds : Int) : Moment := ⟨seconds * second⟩

structure Date where
  year : Int
  month : Nat
  day : Nat
  deriving DecidableEq

/-- The date of a day counted from the beginning of 1970.

A year is taken to begin in March, so that a leap day is its last day; years
repeat after 400 of them, which are 146097 days. -/
def date (days : Int) : Date :=
  let shifted := days + 719468
  let era := shifted.fdiv 146097
  let dayOfEra := (shifted - era * 146097).toNat
  let yearOfEra :=
    (dayOfEra - dayOfEra / 1460 + dayOfEra / 36524 - dayOfEra / 146096) / 365
  let dayOfYear :=
    dayOfEra - (365 * yearOfEra + yearOfEra / 4 - yearOfEra / 100)
  let shiftedMonth := (5 * dayOfYear + 2) / 153
  let month := if shiftedMonth < 10 then shiftedMonth + 3 else shiftedMonth - 9
  { year := yearOfEra + era * 400 + (if month ≤ 2 then 1 else 0)
    month
    day := dayOfYear - (153 * shiftedMonth + 2) / 5 + 1 }

/-- The day with a date, counted from the beginning of 1970: the way back from
`Moment.date`. -/
def dayOf (date : Date) : Int :=
  let year := if date.month ≤ 2 then date.year - 1 else date.year
  let era := year.fdiv 400
  let yearOfEra := year - era * 400
  let shiftedMonth : Int := if date.month ≤ 2 then date.month + 9 else date.month - 3
  let dayOfYear := (153 * shiftedMonth + 2) / 5 + date.day - 1
  era * 146097 + yearOfEra * 365 + yearOfEra / 4 - yearOfEra / 100 + dayOfYear -
    719468

def padded (width number : Nat) : String :=
  let digits := toString number
  String.ofList (List.replicate (width - digits.length) '0') ++ digits

/-- A moment as a date and a time of day, with a letter between them.  Only a
fraction of a second that is not zero is written. -/
def written (between : String) (moment : Moment) : String :=
  let seconds := moment.microseconds.fdiv second
  let fraction := (moment.microseconds - seconds * second).toNat
  let day := seconds.fdiv 86400
  let clock := (seconds - day * 86400).toNat
  let date := date day
  padded 4 date.year.toNat ++ "-" ++ padded 2 date.month ++ "-" ++
    padded 2 date.day ++ between ++ padded 2 (clock / 3600) ++ ":" ++
    padded 2 (clock / 60 % 60) ++ ":" ++ padded 2 (clock % 60) ++
    (if fraction = 0 then "" else "." ++ padded 6 fraction)

/-- A moment as a date and a time of day with a mark for universal time. -/
def text (moment : Moment) : String :=
  moment.written "T" ++ "Z"

/-- Has a moment a date with a year of at most four digits after year 0? -/
def hasDate (moment : Moment) : Bool :=
  let day := moment.microseconds.fdiv (86400 * second)
  dayOf ⟨1, 1, 1⟩ ≤ day && day < dayOf ⟨10000, 1, 1⟩

def plus (moment : Moment) (seconds : Int) : Moment :=
  ⟨moment.microseconds + seconds * second⟩

example : (Moment.ofSeconds 1704067205).text = "2024-01-01T00:00:05Z" := by
  decide +kernel

example : date 19782 = ⟨2024, 2, 29⟩ := by decide +kernel

example : dayOf ⟨2024, 2, 29⟩ = 19782 := by decide +kernel

end Moment

end WorkflowExchange
