import Vynkor.Data.Text

/-! How the command line prints a time: seconds of the Unix epoch as a date of the
calendar and a time of day. The two tables of devices have a copy each, which differ in
two terms. -/

namespace Vynkor.Cli

/-- Arithmetic on `i64` in a build with overflow checks: nothing if it panics. -/
def i64 (value : Int) : Option Int :=
  if -9223372036854775808 ≤ value ∧ value ≤ 9223372036854775807 then some value else none

structure CivilDate where
  year : Int
  month : Int
  day : Int
  deriving DecidableEq

/-- The day since 1970-01-01 as a day of an era of 400 years that start in March. The
copies differ in how they find the day of the year. -/
def civilFromDays (dayOfYear : Int → Int → Option Int) (days : Int) : Option CivilDate := do
  let z ← i64 (days + 719468)
  let era := z / 146097
  let doe := z % 146097
  let yoe := (← i64 ((← i64 ((← i64 (doe - doe.tdiv 1460)) + doe.tdiv 36524)) - doe.tdiv 146096)).tdiv 365
  let y ← i64 (yoe + (← i64 (era * 400)))
  let doy ← dayOfYear doe yoe
  let mp := (← i64 ((← i64 (5 * doy)) + 2)).tdiv 153
  let d ← i64 ((← i64 (doy - (← i64 ((← i64 (153 * mp)) + 2)).tdiv 5)) + 1)
  let m ← i64 (if mp < 10 then mp + 3 else mp - 9)
  let y ← i64 (if m ≤ 2 then y + 1 else y)
  return { year := y, month := m, day := d }

def formatWith (dayOfYear : Int → Int → Option Int) (secondOf : UInt64 → UInt64) (epochSecs : UInt64) :
    Option String := do
  let days := (epochSecs / 86400).toInt64.toInt
  let secsOfDay := epochSecs % 86400
  let date ← civilFromDays dayOfYear days
  return Text.zeroPadded 4 date.year ++ "-" ++ Text.zeroPadded 2 date.month ++ "-" ++ Text.zeroPadded 2 date.day ++
    " " ++ Text.zeroPadded 2 (secsOfDay / 3600).toNat ++ ":" ++ Text.zeroPadded 2 (secsOfDay % 3600 / 60).toNat ++
    ":" ++ Text.zeroPadded 2 (secondOf secsOfDay).toNat

namespace Device

def dayOfYear (doe yoe : Int) : Option Int := do
  let leaps ← i64 ((← i64 ((← i64 (365 * yoe)) + yoe.tdiv 4)) - yoe.tdiv 100)
  i64 (doe - (← i64 (leaps + yoe.tdiv 146096)))

def formatTs : UInt64 → Option String := formatWith dayOfYear (· % 3600 % 60)

end Device

namespace Devices

def dayOfYear (doe yoe : Int) : Option Int := do
  i64 (doe - (← i64 ((← i64 ((← i64 (365 * yoe)) + yoe.tdiv 4)) - yoe.tdiv 100)))

def formatTs : UInt64 → Option String := formatWith dayOfYear (· % 60)

end Devices
end Vynkor.Cli
