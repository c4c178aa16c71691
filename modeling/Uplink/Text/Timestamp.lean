import Uplink.Text.Ascii

/-!
# Timestamps

Times are sent in RFC 3339 form, in universal time and with its offset written
out: `1970-01-01T00:00:00+00:00`. A fraction of a second is written to the
millisecond, and left out if there is none.

Days are counted from 1970. In a calendar whose years start in March the leap
day is the last day of the year, and the day of a month follows from the days
before it by one division (`monthOf`).
-/

namespace Uplink.Timestamp

/-- A number in decimal with at least so many digits. -/
def padded (width n : Nat) : List Char :=
  let ds := Ascii.decimal n
  List.replicate (width - ds.length) '0' ++ ds

/-- The days of 400 years, after which the calendar repeats. -/
def daysOfCycle : Nat := 146097

/-- The year, counted from March, of a day of the 400 years, and the days of
that year before it. -/
def yearOf (day : Nat) : Nat × Nat :=
  let year := (day - day / 1460 + day / 36524 - day / 146096) / 365
  (year, day - (365 * year + year / 4 - year / 100))

/-- The month, counted from March, of a day of the year, and the day of the
month. -/
def monthOf (day : Nat) : Nat × Nat :=
  let month := (5 * day + 2) / 153
  (month, day - (153 * month + 2) / 5 + 1)

/-- **The date of a day**, counted from 1970: year, month and day. -/
def dateOf (days : Nat) : Nat × Nat × Nat :=
  let days := days + 719468
  let (year, day) := yearOf (days % daysOfCycle)
  let (month, day) := monthOf day
  let year := year + 400 * (days / daysOfCycle)
  if month < 10 then (year, month + 3, day) else (year + 1, month - 9, day)

/-- **The text of a time**, given in milliseconds since 1970. -/
def text (ms : Nat) : String :=
  let seconds := ms / 1000
  let (year, month, day) := dateOf (seconds / 86400)
  let clock := seconds % 86400
  let fraction := if ms % 1000 = 0 then [] else '.' :: padded 3 (ms % 1000)
  String.ofList
    (padded 4 year ++ '-' :: padded 2 month ++ '-' :: padded 2 day ++
      'T' :: padded 2 (clock / 3600) ++ ':' :: padded 2 (clock / 60 % 60) ++
      ':' :: padded 2 (clock % 60) ++ fraction ++ "+00:00".toList)

/-! ## Recognising -/

/-- The number that so many digits write. -/
def field? (width : Nat) (cs : List Char) : Option Nat :=
  if cs.length = width ∧ cs.all Char.isDigit then some (Ascii.ofDigits 10 cs) else none

/-- The days of a month. -/
def daysIn (year month : Nat) : Nat :=
  if month = 2 then
    if year % 4 = 0 ∧ (year % 100 ≠ 0 ∨ year % 400 = 0) then 29 else 28
  else if month ∈ [4, 6, 9, 11] then 30
  else 31

/-- Whether a text is a date. -/
def isDate (cs : List Char) : Bool :=
  match Ascii.splitOn (· == '-') cs with
  | [y, m, d] =>
    match field? 4 y, field? 2 m, field? 2 d with
    | some y, some m, some d => 1 ≤ m && m ≤ 12 && 1 ≤ d && d ≤ daysIn y m
    | _, _, _ => false
  | _ => false

/-- Whether a text is a second, up to a leap second, with or without a
fraction. -/
def isSecond (cs : List Char) : Bool :=
  let (second, fraction) := Ascii.cut (· == '.') cs
  (field? 2 second).any (· ≤ 60)
    && (fraction = [] || (fraction.drop 1 ≠ [] && (fraction.drop 1).all Char.isDigit))

/-- Whether a text is a time of day to the minute. -/
def isClock (hour minute : List Char) : Bool :=
  (field? 2 hour).any (· ≤ 23) && (field? 2 minute).any (· ≤ 59)

/-- **Whether a text is a time in universal time** with its offset written
out. -/
def isUtc (s : String) : Bool :=
  let cs := s.toList
  let (date, rest) := (cs.take 10, cs.drop 10)
  let (time, offset) := Ascii.cut (· == '+') (rest.drop 1)
  isDate date && (rest.head?.any fun c => c == 'T' || c == 't' || c == ' ')
    && offset = "+00:00".toList
    && match Ascii.splitOn (· == ':') time with
       | [h, m, s] => isClock h m && isSecond s
       | _ => false

end Uplink.Timestamp
