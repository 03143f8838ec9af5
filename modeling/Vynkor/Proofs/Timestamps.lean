import Vynkor.Cli.Timestamp
import Vynkor.Data.Calendar

/-! The times that the command line prints. The arithmetic of the code works on eras of
400 years that start in March; the text is that of the one date of the calendar with the
number of the day. -/

namespace Vynkor.Proofs
open Cli Calendar

theorem i64_some {value : Int} (low : -9223372036854775808 ≤ value) (high : value ≤ 9223372036854775807) :
    i64 value = some value :=
  if_pos ⟨low, high⟩

theorem i64_bind {α : Type} {value : Int} {rest : Int → Option α} (low : -9223372036854775808 ≤ value)
    (high : value ≤ 9223372036854775807) : (i64 value).bind rest = rest value := by
  rw [i64_some low high, Option.bind_some]

section Days
variable {dayOfYear : Int → Int → Option Int} {days era doe yoe doy : Int}

/-- What both copies make of the day of the era and its year. -/
def CountsDays (dayOfYear : Int → Int → Option Int) : Prop :=
  ∀ doe yoe, 0 ≤ doe → doe < 146097 → 0 ≤ yoe → yoe < 400 →
    dayOfYear doe yoe = some (doe - (365 * yoe + yoe / 4 - yoe / 100))

theorem devices_countsDays : CountsDays Devices.dayOfYear := by
  intro doe yoe low high first last
  simp only [Devices.dayOfYear, Int.tdiv_eq_ediv_of_nonneg first]
  rw [Option.bind_eq_bind, i64_bind (by omega) (by omega), i64_bind (by omega) (by omega),
    i64_bind (by omega) (by omega), i64_some (by omega) (by omega)]

/-- The term that only this copy has is zero within an era. -/
theorem device_countsDays : CountsDays Device.dayOfYear := by
  intro doe yoe low high first last
  have nothing : yoe / 146096 = 0 := by omega
  simp only [Device.dayOfYear, Int.tdiv_eq_ediv_of_nonneg first, nothing, add_zero]
  rw [Option.bind_eq_bind, i64_bind (by omega) (by omega), i64_bind (by omega) (by omega),
    i64_bind (by omega) (by omega), i64_bind (by omega) (by omega), i64_some (by omega) (by omega)]

/-- No intermediate result overflows up to the last day of a `u64`. -/
theorem civilFromDays_eq (low : 0 ≤ days) (high : days ≤ 213503982334601)
    (eraEq : (days + 719468) / 146097 = era) (doeEq : (days + 719468) % 146097 = doe)
    (yearEq : (doe - doe / 1460 + doe / 36524 - doe / 146096) / 365 = yoe) (counted : dayOfYear doe yoe = some doy)
    (inEra : 0 ≤ yoe ∧ yoe < 400) (inYear : 0 ≤ doy ∧ doy ≤ 365) :
    civilFromDays dayOfYear days = some {
      year := yoe + era * 400 + (if (5 * doy + 2) / 153 < 10 then 0 else 1)
      month := if (5 * doy + 2) / 153 < 10 then (5 * doy + 2) / 153 + 3 else (5 * doy + 2) / 153 - 9
      day := doy - (153 * ((5 * doy + 2) / 153) + 2) / 5 + 1 } := by
  have eras : 0 ≤ era ∧ era < 10000000000 := by omega
  have inDoe : 0 ≤ doe ∧ doe < 146097 := by omega
  rw [civilFromDays, Option.bind_eq_bind, i64_bind (by omega) (by omega), eraEq, doeEq]
  -- from here on each step is a question of range, so what the ranges do not need is cleared
  clear low high eraEq doeEq
  have ages : 0 ≤ doe - doe / 1460 + doe / 36524 - doe / 146096 := by omega
  simp only [Int.tdiv_eq_ediv_of_nonneg inDoe.1]
  rw [i64_bind (by omega) (by omega), i64_bind (by omega) (by omega), i64_bind (by omega) (by omega),
    Int.tdiv_eq_ediv_of_nonneg ages, yearEq]
  clear yearEq ages inDoe
  rw [i64_bind (by omega) (by omega), i64_bind (by omega) (by omega), counted, Option.bind_some,
    i64_bind (by omega) (by omega), i64_bind (by omega) (by omega), Int.tdiv_eq_ediv_of_nonneg (by omega)]
  have months : 0 ≤ (5 * doy + 2) / 153 ∧ (5 * doy + 2) / 153 ≤ 11 := by omega
  generalize (5 * doy + 2) / 153 = mp at months ⊢
  rw [i64_bind (by omega) (by omega), i64_bind (by omega) (by omega), Int.tdiv_eq_ediv_of_nonneg (by omega),
    i64_bind (by omega) (by omega), i64_bind (by omega) (by omega)]
  split
  next spring =>
    rw [i64_bind (by omega) (by omega), if_neg (by omega), i64_bind (by omega) (by omega), add_zero]
    rfl
  · rw [i64_bind (by omega) (by omega), if_pos (by omega), i64_bind (by omega) (by omega)]
    rfl

theorem civilFromDays_date (counts : CountsDays dayOfYear) (days : Int) (low : 0 ≤ days)
    (high : days ≤ 213503982334601) : ∃ date : Date, date.dayNumber = days ∧
      civilFromDays dayOfYear days = some { year := date.year, month := date.month, day := date.day } := by
  obtain ⟨doe, doeEq⟩ : ∃ doe, (days + 719468) % 146097 = doe := ⟨_, rfl⟩
  obtain ⟨era, eraEq⟩ : ∃ era, (days + 719468) / 146097 = era := ⟨_, rfl⟩
  have total : 146097 * era + doe - 719468 = days := by omega
  have first : 0 ≤ doe := by omega
  have last : doe < 146097 := by omega
  obtain ⟨centuries, fours, years, doy, cycle⟩ := cycle_exists first last
  have inEra : 0 ≤ 100 * centuries + 4 * fours + years ∧ 100 * centuries + 4 * fours + years < 400 := by
    obtain ⟨inCycle, inCentury, inFour, _⟩ := cycle
    omega
  have counted : dayOfYear doe (100 * centuries + 4 * fours + years) = some doy := by
    rw [counts doe _ first last inEra.1 inEra.2, cycle.leapDays, sub_sub_cancel]
  obtain ⟨date, number, day, month⟩ := cycle.date era
  refine ⟨date, number.trans total, ?_⟩
  rw [civilFromDays_eq low high eraEq doeEq cycle.year counted inEra cycle.inYear, day]
  rcases month with ⟨spring, month, year⟩ | ⟨winter, month, year⟩
  · rw [if_pos spring, if_pos spring, month, year, add_zero, mul_comm era]
  · rw [if_neg winter.not_gt, if_neg winter.not_gt, month, year, mul_comm era]

end Days

section Text
variable {dayOfYear : Int → Int → Option Int} {secondOf : UInt64 → UInt64} {date : Date} {time : TimeOfDay}

def stamp (date : Date) (time : TimeOfDay) : String :=
  Text.zeroPadded 4 date.year ++ "-" ++ Text.zeroPadded 2 date.month ++ "-" ++ Text.zeroPadded 2 date.day ++ " " ++
    Text.zeroPadded 2 time.hour ++ ":" ++ Text.zeroPadded 2 time.minute ++ ":" ++ Text.zeroPadded 2 time.second

theorem toInt_day (epochSecs : UInt64) : (epochSecs / 86400).toInt64.toInt = (epochSecs.toNat / 86400 : Nat) := by
  have quotient : (epochSecs / 86400).toNat = epochSecs.toNat / 86400 := UInt64.toNat_div epochSecs 86400
  have bound := epochSecs.toNat_lt
  have small : 2 * (epochSecs / 86400).toBitVec.toNat < 2 ^ 64 := by
    rw [UInt64.toNat_toBitVec, quotient]
    omega
  show (epochSecs / 86400).toBitVec.toInt = _
  rw [BitVec.toInt_eq_toNat_of_lt small, UInt64.toNat_toBitVec, quotient]

theorem formatWith_stamp {epochSecs : UInt64} (counts : CountsDays dayOfYear)
    (dated : date.dayNumber = (epochSecs.toNat / 86400 : Nat)) (timed : time.secondOfDay = epochSecs.toNat % 86400)
    (seconds : (secondOf (epochSecs % 86400)).toNat = epochSecs.toNat % 86400 % 60) :
    formatWith dayOfYear secondOf epochSecs = some (stamp date time) := by
  have bound := epochSecs.toNat_lt
  obtain ⟨found, number, civil⟩ := civilFromDays_date counts (epochSecs.toNat / 86400 : Nat) (by omega) (by omega)
  obtain rfl : found = date := Date.dayNumber_injective (number.trans dated.symm)
  rw [TimeOfDay.secondOfDay] at timed
  have inHour := time.inHour
  have inMinute := time.inMinute
  have hours : (epochSecs % 86400 / 3600).toNat = time.hour := by
    simp only [UInt64.toNat_div, UInt64.toNat_mod, UInt64.reduceToNat]
    omega
  have minutes : (epochSecs % 86400 % 3600 / 60).toNat = time.minute := by
    simp only [UInt64.toNat_div, UInt64.toNat_mod, UInt64.reduceToNat]
    omega
  have left : (secondOf (epochSecs % 86400)).toNat = time.second := by omega
  rw [formatWith, toInt_day, civil, hours, minutes, left]
  rfl

/-- Both copies print the date of the day and the time within it. -/
theorem timestamps_utc (epochSecs : UInt64) : ∃ (date : Date) (time : TimeOfDay),
    (∀ other : Date, other.dayNumber = (epochSecs.toNat / 86400 : Nat) ↔ other = date) ∧
    (∀ other : TimeOfDay, other.secondOfDay = epochSecs.toNat % 86400 ↔ other = time) ∧
    Device.formatTs epochSecs = some (stamp date time) ∧ Devices.formatTs epochSecs = some (stamp date time) := by
  have bound := epochSecs.toNat_lt
  obtain ⟨date, dated, _⟩ := civilFromDays_date devices_countsDays (epochSecs.toNat / 86400 : Nat) (by omega) (by omega)
  obtain ⟨time, timed⟩ := exists_secondOfDay (Nat.mod_lt epochSecs.toNat (by decide : 0 < 86400))
  refine ⟨date, time, ?_, ?_, ?_, ?_⟩
  · intro other
    rw [← dated]
    exact Date.dayNumber_injective.eq_iff
  · intro other
    rw [← timed]
    exact secondOfDay_injective.eq_iff
  · apply formatWith_stamp device_countsDays dated timed
    simp only [UInt64.toNat_mod, UInt64.reduceToNat]
    omega
  · apply formatWith_stamp devices_countsDays dated timed
    simp only [UInt64.toNat_mod, UInt64.reduceToNat]

end Text
end Vynkor.Proofs
