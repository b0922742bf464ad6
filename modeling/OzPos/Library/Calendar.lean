import Mathlib.Algebra.Order.Ring.Int

/-! Instants are seconds since 1970-01-01T00:00:00Z; a month is numbered by twelve times its year
and its place in it, from zero. -/

namespace Calendar

/-- The day, counted from 1970-01-01, that a month begins with. Years are counted from March here,
so that the leap day is the last of one. -/
def monthStart (month : Int) : Int :=
  let year := (month - 2) / 12
  365 * year + year / 4 - year / 100 + year / 400 + (153 * ((month - 2) % 12) + 2) / 5 - 719468

variable (day : Int)

def monthOf : Int :=
  let shifted := day + 719468
  let era := shifted / 146097
  let dayOfEra := shifted % 146097
  let yearOfEra := (dayOfEra - dayOfEra / 1460 + dayOfEra / 36524 - dayOfEra / 146096) / 365
  let dayOfYear := dayOfEra - (365 * yearOfEra + yearOfEra / 4 - yearOfEra / 100)
  12 * (yearOfEra + 400 * era) + (5 * dayOfYear + 2) / 153 + 2

/-- A date moved by years, months and days; a day that the month does not have runs over into the
next one. -/
def addDate (years months days : Int) (t : Int) : Int :=
  let day := t / 86400
  let month := monthOf day
  86400 * (monthStart (month + 12 * years + months) + (day - monthStart month) + days) + t % 86400

/-- 2024-01-31 and a month is 2024-03-02, 2024-02-29 and a year is 2025-03-01. -/
example : addDate 0 1 0 1706659200 = 1709337600 ∧ addDate 1 0 0 1709164800 = 1740787200 := by
  decide

/-- The year of a day within a cycle of 400 years, and the day of that year, from March on. -/
def yearOfEra (dayOfEra : Int) : Int :=
  (dayOfEra - dayOfEra / 1460 + dayOfEra / 36524 - dayOfEra / 146096) / 365

def dayOfYear (dayOfEra : Int) : Int :=
  dayOfEra - (365 * yearOfEra dayOfEra + yearOfEra dayOfEra / 4 - yearOfEra dayOfEra / 100)

theorem yearOfEra_eq {c q s : Int} (hc : 0 ≤ c ∧ c ≤ 3) (hq : 0 ≤ q) (hs : 0 ≤ s ∧ s ≤ 1460)
    (hr : 1461 * q + s < 36524) :
    yearOfEra (36524 * c + 1461 * q + s) = 100 * c + 4 * q + min (s / 365) 3 := by
  have hthousand : (36524 * c + 1461 * q + s) / 1460 = 25 * c + q + (24 * c + q + s) / 1460 := by
    omega
  have hcentury : (36524 * c + 1461 * q + s) / 36524 = c := by omega
  have hlast : (36524 * c + 1461 * q + s) / 146096 = 0 := by omega
  have hcarry : (24 * c + q + s) / 1460 = 0 ∧ s ≤ 1459 ∨
      (24 * c + q + s) / 1460 = 1 ∧ 1340 ≤ s := by
    omega
  rw [yearOfEra, hthousand, hcentury, hlast]
  rcases hcarry with ⟨hcarry, hbound⟩ | ⟨hcarry, hbound⟩
  · rw [hcarry]
    omega
  · rw [hcarry]
    omega

theorem dayOfYear_eq {c q s : Int} (hc : 0 ≤ c ∧ c ≤ 3) (hq : 0 ≤ q) (hs : 0 ≤ s ∧ s ≤ 1460)
    (hr : 1461 * q + s < 36524) :
    dayOfYear (36524 * c + 1461 * q + s) = s - 365 * min (s / 365) 3 := by
  have hcycle : (100 * c + 4 * q + min (s / 365) 3) / 4 = 25 * c + q := by omega
  have hhundred : (100 * c + 4 * q + min (s / 365) 3) / 100 = c := by omega
  rw [dayOfYear, yearOfEra_eq hc hq hs hr, hcycle, hhundred]
  omega

theorem exists_cycle {e : Int} (h : 0 ≤ e ∧ e < 146096) :
    ∃ c q s : Int, (0 ≤ c ∧ c ≤ 3) ∧ 0 ≤ q ∧ (0 ≤ s ∧ s ≤ 1460) ∧ 1461 * q + s < 36524 ∧
      e = 36524 * c + 1461 * q + s :=
  ⟨e / 36524, e % 36524 / 1461, e % 36524 % 1461, by omega, by omega, by omega, by omega, by omega⟩

theorem dayOfYear_last : dayOfYear 146096 = 365 := by decide

theorem yearOfEra_bounds {e : Int} (h : 0 ≤ e ∧ e < 146097) :
    0 ≤ yearOfEra e ∧ yearOfEra e < 400 := by
  by_cases hlast : e = 146096
  · rw [hlast]
    decide
  · obtain ⟨c, q, s, hc, hq, hs, hr, rfl⟩ := exists_cycle (e := e) (by omega)
    rw [yearOfEra_eq hc hq hs hr]
    omega

theorem dayOfYear_bounds {e : Int} (h : 0 ≤ e ∧ e < 146097) :
    0 ≤ dayOfYear e ∧ dayOfYear e ≤ 365 := by
  by_cases hlast : e = 146096
  · rw [hlast, dayOfYear_last]
    decide
  · obtain ⟨c, q, s, hc, hq, hs, hr, rfl⟩ := exists_cycle (e := e) (by omega)
    rw [dayOfYear_eq hc hq hs hr]
    omega

theorem dayOfYear_succ {e : Int} (h : 0 ≤ e ∧ e < 146096) :
    dayOfYear (e + 1) = dayOfYear e + 1 ∨ (dayOfYear (e + 1) = 0 ∧ 364 ≤ dayOfYear e) := by
  obtain ⟨c, q, s, hc, hq, hs, hr, rfl⟩ := exists_cycle h
  rw [dayOfYear_eq hc hq hs hr]
  by_cases hcycle : s = 1460
  · right
    have hnext : 36524 * c + 1461 * q + s + 1 = 36524 * c + 1461 * (q + 1) + 0 := by omega
    rw [hnext, dayOfYear_eq hc (by omega) (by omega) (by omega)]
    omega
  · by_cases hcentury : 1461 * q + s = 36523
    · by_cases hlast : c = 3
      · left
        have hnext : 36524 * c + 1461 * q + s + 1 = 146096 := by omega
        rw [hnext, dayOfYear_last]
        omega
      · right
        have hnext : 36524 * c + 1461 * q + s + 1 = 36524 * (c + 1) + 1461 * 0 + 0 := by omega
        rw [hnext, dayOfYear_eq (by omega) (by omega) (by omega) (by omega)]
        omega
    · have hnext : 36524 * c + 1461 * q + s + 1 = 36524 * c + 1461 * q + (s + 1) := by omega
      rw [hnext, dayOfYear_eq hc hq (by omega) (by omega)]
      omega

def dayOfMonth : Int := day - monthStart (monthOf day) + 1

theorem dayOfMonth_eq :
    dayOfMonth day = dayOfYear ((day + 719468) % 146097) -
      (153 * ((5 * dayOfYear ((day + 719468) % 146097) + 2) / 153) + 2) / 5 + 1 := by
  have he : 0 ≤ (day + 719468) % 146097 ∧ (day + 719468) % 146097 < 146097 := by omega
  have hsplit : day = 146097 * ((day + 719468) / 146097) + (day + 719468) % 146097 - 719468 := by
    omega
  have hyear := yearOfEra_bounds he
  have hday := dayOfYear_bounds he
  have hmonth : monthOf day = 12 * (yearOfEra ((day + 719468) % 146097) +
      400 * ((day + 719468) / 146097)) + (5 * dayOfYear ((day + 719468) % 146097) + 2) / 153 + 2 :=
    rfl
  generalize (day + 719468) / 146097 = era at *
  generalize (day + 719468) % 146097 = e at *
  have hof : dayOfYear e = e - (365 * yearOfEra e + yearOfEra e / 4 - yearOfEra e / 100) := rfl
  generalize yearOfEra e = y at *
  generalize dayOfYear e = d at *
  have hplace : (5 * d + 2) / 153 ≤ 11 := by omega
  have hquot : (monthOf day - 2) / 12 = y + 400 * era := by omega
  have hrest : (monthOf day - 2) % 12 = (5 * d + 2) / 153 := by omega
  have hfour : (y + 400 * era) / 4 = y / 4 + 100 * era := by omega
  have hhundred : (y + 400 * era) / 100 = y / 100 + 4 * era := by omega
  have hcentury : (y + 400 * era) / 400 = era := by omega
  unfold dayOfMonth monthStart
  simp only [hquot, hrest, hfour, hhundred, hcentury]
  omega

theorem dayOfMonth_bounds : 1 ≤ dayOfMonth day ∧ dayOfMonth day ≤ 31 := by
  have hday := dayOfYear_bounds (e := (day + 719468) % 146097) (by omega)
  rw [dayOfMonth_eq]
  omega

theorem dayOfMonth_succ_ne : dayOfMonth (day + 1) ≠ dayOfMonth day := by
  have he : 0 ≤ (day + 719468) % 146097 ∧ (day + 719468) % 146097 < 146097 := by omega
  have hbounds := dayOfYear_bounds he
  rw [dayOfMonth_eq, dayOfMonth_eq]
  by_cases hlast : (day + 719468) % 146097 = 146096
  · have hnext : (day + 1 + 719468) % 146097 = 0 := by omega
    rw [hlast, hnext]
    decide
  · have hnext : (day + 1 + 719468) % 146097 = (day + 719468) % 146097 + 1 := by omega
    rw [hnext]
    rcases dayOfYear_succ (e := (day + 719468) % 146097) (by omega) with hsucc | ⟨hzero, hend⟩
    · rw [hsucc]
      omega
    · have hlate : dayOfYear ((day + 719468) % 146097) = 364 ∨
          dayOfYear ((day + 719468) % 146097) = 365 := by
        omega
      rcases hlate with hlate | hlate
      · rw [hzero, hlate]
        decide
      · rw [hzero, hlate]
        decide

end Calendar
