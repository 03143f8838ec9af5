import Mathlib

/-! The proleptic Gregorian calendar, by counting: leap years by the rule of 4, 100 and
400, the days of years and of months, and the number of a day since 1970-01-01. A valid
date is determined by that number. Seen from the first of March, the years of four
centuries and the months of a year follow simple divisions. -/

namespace Calendar

def isLeap (year : Int) : Bool := year % 4 = 0 && (year % 100 ≠ 0 || year % 400 = 0)

def yearLength (year : Int) : Int := if isLeap year then 366 else 365

def monthLength (year : Int) (month : Nat) : Int :=
  if month = 2 then (if isLeap year then 29 else 28)
  else if month ∈ [4, 6, 9, 11] then 30
  else 31

/-- The days of so many years, from the given one on. -/
def daysOfYears (first : Int) : Nat → Int
  | 0 => 0
  | count + 1 => daysOfYears first count + yearLength (first + count)

/-- The days of the first months of a year. -/
def daysOfMonths (year : Int) : Nat → Int
  | 0 => 0
  | count + 1 => daysOfMonths year count + monthLength year (count + 1)

/-- Counted from the start of 1970, in either direction. -/
def yearStart (year : Int) : Int :=
  if 1970 ≤ year then daysOfYears 1970 (year - 1970).toNat else -daysOfYears year (1970 - year).toNat

@[ext]
structure Date where
  year : Int
  month : Nat
  day : Int
  inYear : 1 ≤ month ∧ month ≤ 12
  inMonth : 1 ≤ day ∧ day ≤ monthLength year month

def Date.dayNumber (date : Date) : Int :=
  yearStart date.year + daysOfMonths date.year (date.month - 1) + (date.day - 1)

@[ext]
structure TimeOfDay where
  hour : Nat
  minute : Nat
  second : Nat
  inDay : hour < 24
  inHour : minute < 60
  inMinute : second < 60

def TimeOfDay.secondOfDay (time : TimeOfDay) : Nat := 3600 * time.hour + 60 * time.minute + time.second

theorem slot_unique {ι : Type} [LinearOrder ι] [Add ι] [One ι] [SuccAddOrder ι] [NoMaxOrder ι] {start : ι → Int}
    (mono : StrictMono start) {first second : ι} {number : Int}
    (inFirst : start first ≤ number ∧ number < start (first + 1))
    (inSecond : start second ≤ number ∧ number < start (second + 1)) : first = second := by
  have forth : first < second + 1 := mono.lt_iff_lt.mp (inFirst.1.trans_lt inSecond.2)
  have back : second < first + 1 := mono.lt_iff_lt.mp (inSecond.1.trans_lt inFirst.2)
  exact le_antisymm (Order.lt_add_one_iff.mp forth) (Order.lt_add_one_iff.mp back)

section Years
variable (year : Int)

/-- The days before the year, counted from the start of the year 1. -/
def elapsed : Int := 365 * (year - 1) + (year - 1) / 4 - (year - 1) / 100 + (year - 1) / 400

theorem isLeap_iff : isLeap year = true ↔ year % 4 = 0 ∧ (year % 100 ≠ 0 ∨ year % 400 = 0) := by
  simp [isLeap]

theorem elapsed_succ : elapsed (year + 1) = elapsed year + yearLength year := by
  have rule := isLeap_iff year
  rw [yearLength, elapsed, elapsed]
  split
  next leap =>
    obtain ⟨fourth, century⟩ := rule.mp leap
    omega
  next common =>
    have plain : ¬(year % 4 = 0 ∧ (year % 100 ≠ 0 ∨ year % 400 = 0)) := fun leap => common (rule.mpr leap)
    omega

theorem daysOfYears_eq (count : Nat) : daysOfYears year count = elapsed (year + count) - elapsed year := by
  induction count with
  | zero => simp [daysOfYears]
  | succ count ih =>
    have next : elapsed (year + (count + 1 : Nat)) = elapsed (year + count) + yearLength (year + count) := by
      rw [← elapsed_succ, Nat.cast_succ, add_assoc]
    rw [daysOfYears, ih, next]
    omega

theorem yearStart_eq : yearStart year = elapsed year - elapsed 1970 := by
  rw [yearStart]
  split
  next later => rw [daysOfYears_eq, Int.toNat_of_nonneg (by omega), add_sub_cancel]
  next earlier =>
    rw [daysOfYears_eq, Int.toNat_of_nonneg (by omega), add_sub_cancel]
    omega

theorem yearLength_pos : 0 < yearLength year := by
  rw [yearLength]
  split <;> omega

theorem yearStart_succ : yearStart (year + 1) = yearStart year + yearLength year := by
  rw [yearStart_eq, yearStart_eq, elapsed_succ]
  omega

theorem yearStart_strictMono : StrictMono yearStart := by
  apply strictMono_int_of_lt_succ
  intro year
  have := yearLength_pos year
  rw [yearStart_succ]
  omega

theorem monthLength_pos (month : Nat) : 0 < monthLength year month := by
  rw [monthLength]
  split
  · split <;> omega
  · split <;> omega

theorem daysOfMonths_strictMono : StrictMono (daysOfMonths year) := by
  apply strictMono_nat_of_lt_succ
  intro count
  have := monthLength_pos year (count + 1)
  rw [daysOfMonths]
  omega

theorem daysOfMonths_twelve : daysOfMonths year 12 = yearLength year := by
  simp only [daysOfMonths, monthLength, yearLength]
  cases isLeap year <;> rfl

end Years

namespace Date
variable (date : Date)

theorem daysOfMonths_month :
    daysOfMonths date.year (date.month - 1 + 1) =
      daysOfMonths date.year (date.month - 1) + monthLength date.year date.month := by
  rw [daysOfMonths, Nat.sub_add_cancel date.inYear.1]

theorem day_inMonth :
    daysOfMonths date.year (date.month - 1) ≤ daysOfMonths date.year (date.month - 1) + (date.day - 1) ∧
      daysOfMonths date.year (date.month - 1) + (date.day - 1) < daysOfMonths date.year (date.month - 1 + 1) := by
  obtain ⟨first, last⟩ := date.inMonth
  have month := date.daysOfMonths_month
  omega

theorem day_inYear : yearStart date.year ≤ date.dayNumber ∧ date.dayNumber < yearStart (date.year + 1) := by
  obtain ⟨low, high⟩ := date.day_inMonth
  have start : daysOfMonths date.year 0 ≤ daysOfMonths date.year (date.month - 1) :=
    (daysOfMonths_strictMono date.year).monotone (Nat.zero_le _)
  have finish : daysOfMonths date.year (date.month - 1 + 1) ≤ daysOfMonths date.year 12 :=
    (daysOfMonths_strictMono date.year).monotone (by have := date.inYear; omega)
  rw [daysOfMonths] at start
  rw [daysOfMonths_twelve] at finish
  rw [yearStart_succ, dayNumber]
  omega

theorem dayNumber_injective : Function.Injective dayNumber := by
  intro first second same
  have year : first.year = second.year :=
    slot_unique yearStart_strictMono first.day_inYear (same ▸ second.day_inYear)
  have rest : daysOfMonths first.year (first.month - 1) + (first.day - 1) =
      daysOfMonths first.year (second.month - 1) + (second.day - 1) := by
    simp only [dayNumber, year] at same ⊢
    omega
  have count : first.month - 1 = second.month - 1 := by
    refine slot_unique (daysOfMonths_strictMono first.year) first.day_inMonth ?_
    rw [rest, year]
    exact second.day_inMonth
  have month : first.month = second.month := by
    have := first.inYear
    have := second.inYear
    omega
  refine Date.ext year month ?_
  rw [count] at rest
  omega

end Date

theorem secondOfDay_injective : Function.Injective TimeOfDay.secondOfDay := by
  intro first second same
  simp only [TimeOfDay.secondOfDay] at same
  obtain ⟨hour, minute, second', _, inHour, inMinute⟩ := first
  obtain ⟨hour', minute', second'', _, inHour', inMinute'⟩ := second
  simp only at same
  ext <;> simp only <;> omega

theorem exists_secondOfDay {number : Nat} (inDay : number < 86400) :
    ∃ time : TimeOfDay, time.secondOfDay = number := by
  refine ⟨⟨number / 3600, number % 3600 / 60, number % 60, by omega, by omega, by omega⟩, ?_⟩
  simp only [TimeOfDay.secondOfDay]
  omega

section March

/-- A day of four centuries that start in March, taken apart into centuries, fours of
years, years and days. Only the last year of a four has 366 days, and the last four of
a century only in the last one. -/
structure CycleDay (number centuries fours years days : Int) : Prop where
  inCycle : 0 ≤ centuries ∧ centuries ≤ 3
  inCentury : 0 ≤ fours ∧ fours ≤ 24
  inFour : 0 ≤ years ∧ years ≤ 3
  inYear : 0 ≤ days ∧ days ≤ 365
  leap : days = 365 → years = 3 ∧ (fours = 24 → centuries = 3)
  total : number = 36524 * centuries + 1461 * fours + 365 * years + days

variable {number : Int}

theorem cycle_exists (low : 0 ≤ number) (high : number < 146097) :
    ∃ centuries fours years days, CycleDay number centuries fours years days := by
  obtain ⟨centuries, century⟩ : ∃ centuries, centuries = min 3 (number / 36524) := ⟨_, rfl⟩
  obtain ⟨left, leftEq⟩ : ∃ left, left = number - 36524 * centuries := ⟨_, rfl⟩
  obtain ⟨years, yearsEq⟩ : ∃ years, years = min 3 (left % 1461 / 365) := ⟨_, rfl⟩
  refine ⟨centuries, left / 1461, years, left % 1461 - 365 * years, ?_, ?_, ?_, ?_, ?_, ?_⟩ <;> omega

variable {centuries fours years days : Int} {count : Nat}

theorem CycleDay.year (cycle : CycleDay number centuries fours years days) :
    (number - number / 1460 + number / 36524 - number / 146096) / 365 = 100 * centuries + 4 * fours + years := by
  obtain ⟨inCycle, inCentury, inFour, inYear, leap, total⟩ := cycle
  have century : 1461 * fours + 365 * years + days < 36524 ∨ number = 146096 := by
    by_cases full : days = 365
    · obtain ⟨rfl, final⟩ := leap full
      by_cases ends : fours = 24
      · have := final ends
        omega
      · omega
    · omega
  have hundreds : number / 36524 - number / 146096 = centuries := by
    rcases century with inside | rfl
    · have whole : number / 36524 = centuries := by omega
      have first : number / 146096 = 0 := by omega
      omega
    · omega
  -- the quotient is one more only near the end of a four, and there on its last day
  have fourths : number / 1460 = 25 * centuries + fours ∨
      number / 1460 = 25 * centuries + fours + 1 ∧ years = 3 ∧ 0 < days := by omega
  have last : days = 365 → number / 1460 = 25 * centuries + fours + 1 := by omega
  omega

theorem CycleDay.leapDays (cycle : CycleDay number centuries fours years days) :
    365 * (100 * centuries + 4 * fours + years) + (100 * centuries + 4 * fours + years) / 4 -
      (100 * centuries + 4 * fours + years) / 100 = number - days := by
  obtain ⟨inCycle, inCentury, inFour, inYear, leap, total⟩ := cycle
  omega

theorem monthLength_march (year : Int) (inYear : count < 10) :
    monthLength year (count + 3) = (153 * (count + 1) + 2) / 5 - (153 * count + 2) / 5 := by
  interval_cases count <;> rfl

/-- From March on, the months begin after so many days. -/
theorem daysOfMonths_march (year : Int) (inYear : count < 10) :
    daysOfMonths year (count + 2) = (153 * count + 2) / 5 + daysOfMonths year 2 := by
  induction count with
  | zero => simp
  | succ count ih =>
    have earlier : count < 10 := Nat.lt_of_succ_lt inYear
    rw [show count + 1 + 2 = count + 2 + 1 from rfl, daysOfMonths, ih earlier, monthLength_march year earlier]
    omega

theorem elapsed_march (cycle : CycleDay number centuries fours years days) (era : Int) :
    elapsed (100 * centuries + 4 * fours + years + 400 * era + 1) = 146097 * era + (number - days) := by
  have leaps := cycle.leapDays
  obtain ⟨inCycle, inCentury, inFour, _⟩ := cycle
  rw [elapsed]
  omega

theorem yearStart_march (year : Int) : yearStart year + daysOfMonths year 2 = elapsed (year + 1) - 719468 := by
  have before : daysOfMonths year 2 = yearLength year - 306 := by
    simp only [daysOfMonths, monthLength, yearLength]
    cases isLeap year <;> rfl
  rw [yearStart_eq, before, elapsed_succ]
  have epoch : elapsed 1970 = 719162 := rfl
  omega

/-- The date of a day of the cycle: the month by counting from March, and the year it
is in by then. -/
theorem CycleDay.date (cycle : CycleDay number centuries fours years days) (era : Int) :
    ∃ date : Date, date.dayNumber = 146097 * era + number - 719468 ∧
      date.day = days - (153 * ((5 * days + 2) / 153) + 2) / 5 + 1 ∧
      ((5 * days + 2) / 153 < 10 ∧ date.month = (5 * days + 2) / 153 + 3 ∧
          date.year = 100 * centuries + 4 * fours + years + 400 * era ∨
        10 ≤ (5 * days + 2) / 153 ∧ date.month = (5 * days + 2) / 153 - 9 ∧
          date.year = 100 * centuries + 4 * fours + years + 400 * era + 1) := by
  have march := elapsed_march cycle era
  obtain ⟨inCycle, inCentury, inFour, inYear, leap, _⟩ := cycle
  obtain ⟨mp, counted⟩ : ∃ mp : Nat, (mp : Int) = (5 * days + 2) / 153 := ⟨((5 * days + 2) / 153).toNat, by omega⟩
  obtain ⟨year, yearEq⟩ : ∃ year, year = 100 * centuries + 4 * fours + years + 400 * era := ⟨_, rfl⟩
  have low : 153 * (mp : Int) ≤ 5 * days + 2 := by omega
  have high : 5 * days + 2 < 153 * (mp + 1) := by omega
  rw [← counted, ← yearEq]
  rw [← yearEq] at march
  by_cases spring : mp < 10
  · have length := monthLength_march year spring
    refine ⟨⟨year, mp + 3, days - (153 * mp + 2) / 5 + 1, by omega, by omega⟩, ?_, rfl, .inl ⟨by omega, by simp, rfl⟩⟩
    have months := daysOfMonths_march year spring
    have start := yearStart_march year
    simp only [Date.dayNumber]
    rw [show mp + 3 - 1 = mp + 2 from rfl, months]
    omega
  · have months : mp = 10 ∨ mp = 11 := by omega
    have start : yearStart (year + 1) = elapsed (year + 1) - 719162 := yearStart_eq (year + 1)
    rcases months with rfl | rfl
    · refine ⟨⟨year + 1, 1, days - 305, by omega, ?_⟩, ?_, by simp only; omega, .inr ⟨by omega, rfl, rfl⟩⟩
      · have length : monthLength (year + 1) 1 = 31 := rfl
        omega
      · have months : daysOfMonths (year + 1) (1 - 1) = 0 := rfl
        simp only [Date.dayNumber, months]
        omega
    · refine ⟨⟨year + 1, 2, days - 336, by omega, ?_⟩, ?_, by simp only; omega, .inr ⟨by omega, rfl, rfl⟩⟩
      · have rule := isLeap_iff (year + 1)
        simp only [monthLength, if_true]
        split
        · omega
        next common =>
          have short : days ≠ 365 := by
            intro full
            obtain ⟨rfl, final⟩ := leap full
            exact common (rule.mpr (by omega))
          omega
      · have months : daysOfMonths (year + 1) (2 - 1) = 31 := rfl
        simp only [Date.dayNumber, months]
        omega

end March
end Calendar
