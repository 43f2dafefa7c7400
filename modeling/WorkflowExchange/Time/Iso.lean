import WorkflowExchange.Number.Reading
import WorkflowExchange.Text.Blank
import WorkflowExchange.Time.Moment

/-!
# Times in ISO notation

A date is written `YYYY-MM-DD`, a time of day `HH:MM:SS` with an optional
fraction and an optional offset from universal time, and a date with a time of
day has the letter `T` between them.  `IsoTime` holds the two sides of such a
text as numbers: what day it is, how many microseconds have passed since its
midnight, and by how many the clock is ahead of universal time.
-/

namespace WorkflowExchange

/-- A date, a time of day, or both.  A text without a date has day 0. -/
structure IsoTime where
  day : Int
  sinceMidnight : Nat
  offset? : Option Int
  deriving DecidableEq

namespace IsoTime

/-- The number written by the digits before any other character. -/
def leading (characters : List Char) : Nat :=
  Number.ofDigits (characters.takeWhile Number.isDigit)

/-- The numbers between the signs of one kind in a text. -/
def numbers (separator : Char) (characters : List Char) : List Nat :=
  (Text.pieces separator characters).map leading

/-- The microseconds that a fraction of a second is, from its digits. -/
def fraction (digits : List Char) : Nat :=
  Number.ofDigits ((digits ++ List.replicate 6 '0').take 6)

def clock (characters : List Char) : Nat :=
  let (whole, rest) := characters.span (· != '.')
  let parts := numbers ':' whole
  let seconds :=
    3600 * parts.getD 0 0 + 60 * parts.getD 1 0 + parts.getD 2 0
  seconds * 1000000 + fraction (rest.drop 1)

/-- A time of day and its offset, which begins with a sign. -/
def splitOffset (characters : List Char) : List Char × List Char :=
  characters.span fun character => character != '+' && character != '-'

def offsetOf? : List Char → Option Int
  | [] => none
  | sign :: rest =>
    let size : Int := clock rest
    some (if sign = '-' then -size else size)

def dayOf (calendar : List Char) : Int :=
  let parts := numbers '-' calendar
  Moment.dayOf ⟨parts.getD 0 0, parts.getD 1 0, parts.getD 2 0⟩

def ofTime (iso : String) : IsoTime :=
  let (time, offset) := splitOffset iso.toList
  ⟨0, clock time, offsetOf? offset⟩

def ofDatetime (iso : String) : IsoTime :=
  let (calendar, rest) := iso.toList.span (· != 'T')
  { ofTime (String.ofList (rest.drop 1)) with day := dayOf calendar }

/-- The microseconds of universal time, or of the clock where no offset is
known. -/
def universal (time : IsoTime) : Int :=
  time.day * 86400000000 + time.sinceMidnight - time.offset?.getD 0

/-- Are two times the same?  A time with an offset and one without never
are. -/
def agrees (one other : IsoTime) : Bool :=
  one.offset?.isSome == other.offset?.isSome &&
    one.universal == other.universal

def moment? (time : IsoTime) : Option Moment :=
  time.offset?.map fun _ => ⟨time.universal⟩

example :
    (ofDatetime "2024-01-01T01:00:00.5+01:00").moment? =
      some ⟨1704067200500000⟩ := by
  decide +kernel

example :
    (ofTime "00:30:00+00:00").agrees (ofTime "01:30:00+01:00") = true := by
  decide +kernel

end IsoTime

end WorkflowExchange
