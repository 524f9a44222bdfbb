import PageCache.Time

/-!
# Calendar text

An instant as a date and a time of day of the proleptic Gregorian calendar in UTC. Years 0 to 9999
have an RFC 3339 text; the others are written in a plain form.
-/

namespace PageCache

namespace Calendar

/-- A number in at least `width` digits. -/
def padded (width n : Nat) : String :=
  let digits := toString n
  String.ofList (List.replicate (width - digits.length) '0') ++ digits

/-- Year, month and day of the day so many days from 1970-01-01. The count starts its years in
March, so that a leap day is the last day of its year, and its eras of 146097 days (400 years) at
a year divisible by 400. -/
def ofDays (days : Int) : Int × Nat × Nat :=
  let z := days + 719468
  let era := Int.fdiv z 146097
  let doe := (z - era * 146097).toNat
  let yoe := (doe - doe / 1460 + doe / 36524 - doe / 146096) / 365
  let doy := doe - (365 * yoe + yoe / 4 - yoe / 100)
  let mp := (5 * doy + 2) / 153
  let day := doy - (153 * mp + 2) / 5 + 1
  let month := if mp < 10 then mp + 3 else mp - 9
  let year := era * 400 + yoe + (if month ≤ 2 then 1 else 0)
  (year, month, day)

/-- The nine digits of a fraction of a second without the zeros at their end. -/
def fraction (nanos : Nat) : String :=
  String.ofList ((padded 9 nanos).toList.reverse.dropWhile (· = '0')).reverse

end Calendar

open Calendar

/-- The text of an instant: RFC 3339 in the years 0 to 9999, else date, time of day and offset
with blanks between them. -/
def Instant.text (t : Instant) : String :=
  let seconds := Int.fdiv t.nanos 1000000000
  let nanos := (t.nanos - seconds * 1000000000).toNat
  let days := Int.fdiv seconds 86400
  let ofDay := (seconds - days * 86400).toNat
  let (year, month, day) := ofDays days
  let date := "-" ++ padded 2 month ++ "-" ++ padded 2 day
  let clock := ":" ++ padded 2 (ofDay / 60 % 60) ++ ":" ++ padded 2 (ofDay % 60)
  let digits := fraction nanos
  if 0 ≤ year ∧ year ≤ 9999 then
    let part := if nanos = 0 then "" else "." ++ digits
    padded 4 year.toNat ++ date ++ "T" ++ padded 2 (ofDay / 3600) ++ clock ++ part ++ "Z"
  else
    let sign := if year < 0 then "-" else "+"
    let part := if nanos = 0 then "0" else digits
    sign ++ padded 4 year.natAbs ++ date ++ " " ++ toString (ofDay / 3600) ++ clock ++ "." ++ part
      ++ " +00:00:00"

end PageCache
