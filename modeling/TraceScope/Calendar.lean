import TraceScope.Fault

/-!
# Minute buckets

A time in milliseconds since 1970 is filed under its minute, written `yyyyMMddHHmm` in the
Gregorian calendar and universal time. Times pass through floating-point seconds, rounded to
microseconds, before they are filed.
-/

namespace TraceScope

structure Date where
  year : Int
  month : Nat
  day : Nat
  deriving DecidableEq, Repr

namespace Date

/-- The day that lies `n` days after the first of January 1970. Years are counted from March in
eras of 400 years, so that a leap day ends its year. -/
def ofDayNumber (n : Int) : Date :=
  let shifted := n + 719468
  let era := shifted / 146097
  let dayOfEra := (shifted % 146097).toNat
  let yearOfEra := (dayOfEra - dayOfEra / 1460 + dayOfEra / 36524 - dayOfEra / 146096) / 365
  let dayOfYear := dayOfEra - (365 * yearOfEra + yearOfEra / 4 - yearOfEra / 100)
  let monthFromMarch := (5 * dayOfYear + 2) / 153
  let month := if monthFromMarch < 10 then monthFromMarch + 3 else monthFromMarch - 9
  { year := yearOfEra + era * 400 + (if month ≤ 2 then 1 else 0)
    month
    day := dayOfYear - (153 * monthFromMarch + 2) / 5 + 1 }

def toDayNumber (d : Date) : Int :=
  let year := if d.month ≤ 2 then d.year - 1 else d.year
  let era := year / 400
  let yearOfEra := year % 400
  let monthFromMarch := (d.month + 9) % 12
  let dayOfYear : Int := ((153 * monthFromMarch + 2) / 5 + d.day : Nat) - 1
  era * 146097 + (yearOfEra * 365 + yearOfEra / 4 - yearOfEra / 100 + dayOfYear) - 719468

end Date

/-- Whole seconds of a floating-point number of seconds, whose fraction is first rounded to
microseconds. A fraction below zero borrows a second. -/
def wholeSeconds (negative : Bool) (m : Nat) (e : Int) : Int :=
  let (n, d) := Binary64.ratio m e
  let whole : Int := (n / d : Nat)
  let micros := (Binary64.ofRatio false (n % d * 1000000) d).nearest
  if negative then
    if micros = 0 then -whole else -whole - 1
  else if 1000000 ≤ micros then whole + 1
  else whole

/-- The bucket of a number of seconds. Seconds reach to `2 ^ 63` either way, years since 1900 are
counted in 32 bits, and only years of one to four digits have buckets. -/
def bucketOfSeconds (s : Int) : Except Fault Int :=
  if s < -(Nat.pow 2 63 : Int) ∨ (Nat.pow 2 63 : Int) < s then .error .unreachableTime
  else
    let date := Date.ofDayNumber (s / 86400)
    if date.year - 1900 < -(Nat.pow 2 31 : Int) ∨ (Nat.pow 2 31 : Int) ≤ date.year - 1900 then
      .error .unknownDate
    else if date.year < 1 ∨ 9999 < date.year then
      .error (.yearOutOfRange (date.year.bmod (Nat.pow 2 32)))
    else
      let minute := s / 60
      .ok ((((date.year * 100 + date.month) * 100 + date.day) * 100 + minute / 60 % 24) * 100 +
        minute % 60)

def bucketOfMillis : Binary64 → Except Fault Int
  | .nan _ => .error .undefinedTime
  | .infinite _ => .error .unreachableTime
  | x =>
    match x.divNat 1000 with
    | .finite s m e => bucketOfSeconds (wholeSeconds s m e)
    | _ => .error .unreachableTime

def minuteBucket (ms : Int) : Except Fault Int :=
  match Binary64.ofInt ms with
  | .finite s m e => bucketOfMillis (.finite s m e)
  | _ => .error .integerTooLarge

def minuteBucketOf : Value → Except Fault Int
  | .int n => minuteBucket n
  | .bool b => minuteBucket (if b then 1 else 0)
  | .double x => bucketOfMillis x
  | v => .error (.notNumeric v.kind)

end TraceScope
