import EventFlow.Number.Shortest
import EventFlow.Value.Basic

/-
  Times of records.

  A time is a number of seconds from the beginning of 1970
  in universal time.  It is written as a date and a time of
  day, with microseconds unless they are zero.  Fractions of
  microseconds are rounded, a tie going to even.

  Key definitions include:
    * `Timestamp.Fault`
    * `Timestamp.Moment`
    * `Timestamp.civil`
    * `Timestamp.ofValue`
-/

------------------------------------------------------------
-- Faults
------------------------------------------------------------

namespace EventFlow

namespace Timestamp

/- Why a value is no time that can be written. -/
inductive Fault where
| undefined
| tooManySeconds
| tooManyYears
| year (y : Int)
| kind (name : String)
deriving DecidableEq, Repr

/- The wording of a fault. -/
def Fault.message : Fault → String
| .undefined => "Invalid value NaN (not a number)"
| .tooManySeconds =>
    "timestamp out of range for platform time_t"
| .tooManyYears =>
    "[Errno 75] Value too large for defined data type"
| .year y => "year " ++ toString y ++ " is out of range"
| .kind name =>
    "'" ++ name ++
      "' object cannot be interpreted as an integer"

/- Seconds since 1970, and microseconds of the next one. -/
structure Moment where
  seconds : Int
  micros : Nat := 0
deriving DecidableEq, Repr

end Timestamp

end EventFlow

------------------------------------------------------------
-- Moments
------------------------------------------------------------

namespace EventFlow

namespace Timestamp

/- The number of microseconds in a second. -/
def microsPerSecond : Nat := 1000000

/-
  The microseconds of a fraction of a second.  The fraction
  is scaled as a floating-point number, and then rounded.
-/
def microsOf
    (num : Nat)
    (den : Nat) : Nat :=
  match Double.ofRatio false (num * microsPerSecond) den with
  | .finite _ significand exponent =>
      let (num, den) := Double.ratio significand exponent
      roundDiv num den
  | _ => 0

/- The moment of a floating-point number of seconds. -/
def ofDouble : Double → Except Fault Moment
| .nan => .error .undefined
| .infinite _ => .error .tooManySeconds
| .finite negative significand exponent =>
    let (num, den) := Double.ratio significand exponent
    let whole : Int := (num / den : Nat)
    let micros := microsOf (num % den) den
    if negative then
      if micros = 0 then
        .ok { seconds := -whole }
      else
        .ok
          { seconds := -whole - 1
            micros := microsPerSecond - micros }
    else if micros < microsPerSecond then
      .ok { seconds := whole, micros := micros }
    else
      .ok
        { seconds := whole + 1
          micros := micros - microsPerSecond }

/- The moment of a number of seconds. -/
def momentOf : Value → Except Fault Moment
| .int n => .ok { seconds := n }
| .bool b => .ok { seconds := if b then 1 else 0 }
| .float x => ofDouble x
| v => .error (.kind v.kind)

end Timestamp

end EventFlow

------------------------------------------------------------
-- Dates
------------------------------------------------------------

namespace EventFlow

namespace Timestamp

/- A day of the calendar. -/
structure Date where
  year : Int
  month : Nat
  day : Nat
deriving DecidableEq, Repr

/-
  The date of a number of days since the beginning of 1970.
  Years are counted from March, so that the day that not
  every year has is the last one.  Years come in eras of 400
  years, which all have the same number of days.
-/
def civil (days : Int) : Date :=
  let shifted := days + 719468
  let era := shifted / 146097
  let dayOfEra := (shifted % 146097).toNat
  let yearOfEra :=
    (dayOfEra - dayOfEra / 1460 + dayOfEra / 36524 -
      dayOfEra / 146096) / 365
  let dayOfYear :=
    dayOfEra -
      (365 * yearOfEra + yearOfEra / 4 - yearOfEra / 100)
  let march := (5 * dayOfYear + 2) / 153
  let month := if march < 10 then march + 3 else march - 9
  let year := era * 400 + yearOfEra
  { year := if month ≤ 2 then year + 1 else year
    month := month
    day := dayOfYear - (153 * march + 2) / 5 + 1 }

/- What a count of years since 1900 stays below. -/
def wordLimit : Int :=
  power 2 31

/- What a count of seconds stays below. -/
def secondsLimit : Int :=
  power 2 63

/- The years that can be written. -/
def checkYear (year : Int) : Except Fault Unit :=
  if year - 1900 < -wordLimit || wordLimit ≤ year - 1900 then
    .error .tooManyYears
  else if year < 1 || 9999 < year then
    .error (.year (Int.bmod year (power 2 32)))
  else
    .ok ()

/- A date with its parts padded with zeros. -/
def Date.chars (d : Date) : List Char :=
  Double.paddedDigits 4 d.year.toNat ++
    '-' :: Double.paddedDigits 2 d.month ++
    '-' :: Double.paddedDigits 2 d.day

/- A time of day. -/
def clock (second : Nat) : List Char :=
  Double.paddedDigits 2 (second / 3600) ++
    ':' :: Double.paddedDigits 2 (second / 60 % 60) ++
    ':' :: Double.paddedDigits 2 (second % 60)

/- A written moment. -/
def Moment.text (m : Moment) : Except Fault String :=
  if m.seconds < -secondsLimit || secondsLimit ≤ m.seconds then
    .error .tooManySeconds
  else
    let date := civil (m.seconds / 86400)
    (checkYear date.year).map fun () =>
      let micros :=
        if m.micros = 0 then
          []
        else
          '.' :: Double.paddedDigits 6 m.micros
      String.ofList
        (date.chars ++
          'T' :: clock (m.seconds % 86400).toNat ++
          micros ++ "+00:00".toList)

/- A number of seconds as a written moment. -/
def ofValue (v : Value) : Except Fault String :=
  match momentOf v with
  | .error fault => .error fault
  | .ok moment => moment.text

end Timestamp

end EventFlow
