import Mathlib.Tactic.IntervalCases
import MenuHost.Time.Calendar

/-!
# Dates count days

`Date.ofDay` takes a count of days apart by dividing, with years that
begin in March; `Date.toDay` counts whole years, months and days of the
ordinary calendar. They undo each other: `toDay_ofDay`, and `ofDay`
gives real dates only: `isValid_ofDay`.

Both go through one decomposition. A day of the 400-year cycle lies in a
century `c`, of which the last has one day more, there in a four-year
period `q`, there in a year `k`, and is the `u`-th day of that year
counted from the first of March (`exists_parts`). The divisions of
`ofDay` find just these parts (`ofDay_parts`), because the leap day is
the last day of its year.
-/

namespace MenuHost.Time.Date

/-! ## Parts of the cycle -/

/-- The day `u` of the year `k` of the period `q` of the century `c`. Only a
leap year has a day 365: the last year of a period, and the last period
of a century only in the last century. -/
structure IsPlace (c q k u : Nat) : Prop where
  century : c ≤ 3
  period : q ≤ 24
  year : k ≤ 3
  day : u ≤ 365
  leap : u = 365 → k = 3 ∧ (q = 24 → c = 3)

theorem exists_parts {day : Nat} (h : day < daysPerCycle) :
    ∃ c q k u, IsPlace c q k u ∧ day = 36524 * c + 1461 * q + 365 * k + u := by
  simp only [daysPerCycle] at h
  obtain ⟨c, hc, hcl, hcu⟩ : ∃ c, c ≤ 3 ∧ 36524 * c ≤ day
      ∧ (day < 36524 * (c + 1) ∨ (c = 3 ∧ day = 146096)) :=
    ⟨min (day / 36524) 3, by omega, by omega, by omega⟩
  have hq : (day - 36524 * c) / 1461 ≤ 24 := by omega
  generalize hr : day - 36524 * c = r at hq
  obtain ⟨k, hk, hkl, hku⟩ : ∃ k, k ≤ 3 ∧ 365 * k ≤ r % 1461
      ∧ (r % 1461 < 365 * (k + 1) ∨ (k = 3 ∧ r % 1461 = 1460)) :=
    ⟨min (r % 1461 / 365) 3, by omega, by omega, by omega⟩
  refine ⟨c, r / 1461, k, r % 1461 - 365 * k, ⟨hc, hq, hk, by omega, ?_⟩, by omega⟩
  intro hu
  exact ⟨by omega, fun hq24 => by omega⟩

section Parts

variable {c q k u : Nat}

theorem cycleYear_parts (h : IsPlace c q k u) :
    cycleYear (36524 * c + 1461 * q + 365 * k + u) = 100 * c + 4 * q + k := by
  obtain ⟨hc, hq, hk, hu, hleap⟩ := h
  have hw : (24 * c + q + 365 * k + u) / 1460 ≤ u
      ∧ u < 365 + (24 * c + q + 365 * k + u) / 1460 := by
    omega
  have h1460 : (36524 * c + 1461 * q + 365 * k + u) / 1460
      = 25 * c + q + (24 * c + q + 365 * k + u) / 1460 := by
    omega
  have h36524 : (36524 * c + 1461 * q + 365 * k + u) / 36524
      = c + (36524 * c + 1461 * q + 365 * k + u) / 146096 := by
    by_cases hlast : 1461 * q + 365 * k + u = 36524
    · obtain ⟨rfl, rfl, rfl⟩ : q = 24 ∧ k = 3 ∧ u = 365 := by omega
      obtain rfl : c = 3 := (hleap rfl).2 rfl
      rfl
    · have hrest : 1461 * q + 365 * k + u < 36524 := by omega
      rw [Nat.div_eq_of_lt (b := 146096) (by omega)]
      omega
  rw [cycleYear, h1460, h36524]
  generalize (36524 * c + 1461 * q + 365 * k + u) / 146096 = f
  generalize (24 * c + q + 365 * k + u) / 1460 = w at hw
  omega

theorem daysBeforeYear_parts (h : IsPlace c q k u) :
    daysBeforeYear (100 * c + 4 * q + k) = 36524 * c + 1461 * q + 365 * k := by
  obtain ⟨-, hq, hk, -, -⟩ := h
  unfold daysBeforeYear
  omega

theorem ofDay_parts (h : IsPlace c q k u) (cycle : Int) :
    ofDay (146097 * cycle + (36524 * c + 1461 * q + 365 * k + u : Nat) - epochFromMarch) =
      { year := 400 * cycle + (100 * c + 4 * q + k : Nat)
          + (if (5 * u + 2) / 153 < 10 then 0 else 1)
        month := if (5 * u + 2) / 153 < 10 then (5 * u + 2) / 153 + 3 else (5 * u + 2) / 153 - 9
        day := u - daysBeforeMonth ((5 * u + 2) / 153) + 1 } := by
  have hyear := cycleYear_parts h
  have hbefore := daysBeforeYear_parts h
  obtain ⟨hc, hq, hk, hu, hleap⟩ := h
  generalize hn : 36524 * c + 1461 * q + 365 * k + u = n at hyear
  have hlt : n < 146097 := by
    by_contra hge
    obtain ⟨rfl, rfl⟩ : u = 365 ∧ q = 24 := by omega
    omega
  have hquot : (146097 * cycle + (n : Int)) / 146097 = cycle := by omega
  have hrem : ((146097 * cycle + (n : Int)) % 146097).toNat = n := by omega
  have hofYear : n - daysBeforeYear (100 * c + 4 * q + k) = u := by omega
  simp only [ofDay, daysPerCycle, Int.sub_add_cancel, Nat.cast_ofNat, hquot, hrem, hyear, hofYear]
  rw [Int.mul_comm cycle 400, Int.add_comm (400 * cycle)]

end Parts

/-! ## Counting by the calendar -/

def leapDay (year : Int) : Nat :=
  if isLeap year then 1 else 0

theorem isLeap_iff {year : Int} :
    isLeap year = true ↔ year % 4 = 0 ∧ (year % 100 ≠ 0 ∨ year % 400 = 0) := by
  simp [isLeap]

/-- The days of the years before a year, in terms of the year itself. -/
theorem days_before_year (year : Int) :
    365 * (year - 1) + (year - 1) / 4 - (year - 1) / 100 + (year - 1) / 400 =
      365 * year + year / 4 - year / 100 + year / 400 - 365 - leapDay year := by
  by_cases hleap : isLeap year = true
  · have h := isLeap_iff.mp hleap
    rw [leapDay, if_pos hleap]
    omega
  · have h := mt isLeap_iff.mpr hleap
    rw [leapDay, if_neg hleap]
    omega

/-- A month that has no leap day has the length of its place in the table. -/
theorem daysInMonth_of_ne {year : Int} {month : Nat} (h : month ≠ 2) :
    daysInMonth year month = commonMonths.getD (month - 1) 0 :=
  if_neg fun hleap => h hleap.1

theorem daysInMonth_february (year : Int) : daysInMonth year 2 = 28 + leapDay year := by
  unfold daysInMonth leapDay
  by_cases hleap : isLeap year = true <;> simp [hleap, commonMonths]

/-- From March on the months of a year add up as counted from March. -/
theorem daysOfMonths_fromMarch (year : Int) {m : Nat} (hm : m < 10) :
    daysOfMonths year (m + 2) = 59 + leapDay year + daysBeforeMonth m := by
  induction m with
  | zero =>
      have hjanuary : daysInMonth year 1 = 31 := daysInMonth_of_ne (by decide)
      have hsum : daysOfMonths year 2 = 0 + daysInMonth year 1 + daysInMonth year 2 := rfl
      rw [hsum, hjanuary, daysInMonth_february, daysBeforeMonth]
      omega
  | succ m ih =>
      rw [show m + 1 + 2 = m + 2 + 1 by omega, daysOfMonths, ih (by omega),
        daysInMonth_of_ne (by omega)]
      have hm' : m < 9 := by omega
      interval_cases m <;> simp [commonMonths, daysBeforeMonth]

/-- A month counted from March holds the days up to the next. -/
theorem daysInMonth_fromMarch (year : Int) {m : Nat} (hm : m < 11) :
    daysInMonth year (if m < 10 then m + 3 else m - 9)
      = daysBeforeMonth (m + 1) - daysBeforeMonth m := by
  rw [daysInMonth_of_ne (by split <;> omega)]
  interval_cases m <;> rfl

theorem day_le_of_isValid {d : Date} (h : d.isValid) : d.day ≤ 31 := by
  obtain ⟨h1, h12, -, hd⟩ := h
  refine Nat.le_trans hd ?_
  by_cases h2 : d.month = 2
  · rw [h2, daysInMonth_february, leapDay]
    split <;> decide
  · rw [daysInMonth_of_ne h2]
    generalize d.month = month at h1 h12
    interval_cases month <;> decide

section Parts

variable {c q k u : Nat}

/-- The days of the calendar up to the year that begins in March of the place. -/
theorem days_of_place (h : IsPlace c q k u) (cycle year : Int)
    (hyear : year = 400 * cycle + (100 * c + 4 * q + k : Nat)) :
    365 * year + year / 4 - year / 100 + year / 400
      = 146097 * cycle + (36524 * c + 1461 * q + 365 * k : Nat) := by
  obtain ⟨hc, hq, hk, -, -⟩ := h
  have h4 : year / 4 = 100 * cycle + (25 * c + q : Nat) := by omega
  have h100 : year / 100 = 4 * cycle + (c : Nat) := by omega
  have h400 : year / 400 = cycle := by omega
  omega

/-- A year that begins in March has a day 365 only before a leap day. -/
theorem isLeap_of_place (h : IsPlace c q k 365) (cycle year : Int)
    (hyear : year = 400 * cycle + (100 * c + 4 * q + k : Nat) + 1) : isLeap year = true := by
  obtain ⟨hc, hq, hk, -, hleap⟩ := h
  obtain ⟨rfl, hcentury⟩ := hleap rfl
  rw [isLeap_iff]
  by_cases hq24 : q = 24
  · have := hcentury hq24
    omega
  · omega

theorem toDay_ofDay_parts (h : IsPlace c q k u) (cycle : Int) :
    (ofDay (146097 * cycle + (36524 * c + 1461 * q + 365 * k + u : Nat) - epochFromMarch)).toDay
      = 146097 * cycle + (36524 * c + 1461 * q + 365 * k + u : Nat) - epochFromMarch := by
  have hdays := days_of_place h cycle _ rfl
  have hu := h.day
  rw [ofDay_parts h]
  generalize (400 * cycle + (100 * c + 4 * q + k : Nat) : Int) = year at hdays
  generalize hm : (5 * u + 2) / 153 = m
  have hfrom : daysBeforeMonth m ≤ u := by unfold daysBeforeMonth; omega
  by_cases hm10 : m < 10
  · have hyears := days_before_year year
    have hmonths := daysOfMonths_fromMarch year hm10
    simp only [toDay, if_pos hm10, epochFromMarch, Int.add_zero]
    rw [hyears, hdays, show m + 3 - 1 = m + 2 by omega, hmonths]
    omega
  · have hm12 : m = 10 ∨ m = 11 := by omega
    simp only [toDay, if_neg hm10, epochFromMarch, Int.add_sub_cancel]
    rw [hdays]
    rcases hm12 with rfl | rfl
    · have h0 : daysOfMonths (year + 1) (10 - 9 - 1) = 0 := rfl
      simp only [daysBeforeMonth] at *
      omega
    · have h1 : daysOfMonths (year + 1) (11 - 9 - 1) = 31 := by
        simp [daysOfMonths, daysInMonth_of_ne, commonMonths]
      simp only [daysBeforeMonth] at *
      omega

theorem isValid_ofDay_parts (h : IsPlace c q k u) (cycle : Int) :
    (ofDay (146097 * cycle + (36524 * c + 1461 * q + 365 * k + u : Nat)
      - epochFromMarch)).isValid := by
  have hu := h.day
  rw [ofDay_parts h]
  generalize hm : (5 * u + 2) / 153 = m
  have hfrom : daysBeforeMonth m ≤ u := by unfold daysBeforeMonth; omega
  refine ⟨?_, ?_, Nat.le_add_left .., ?_⟩
  · show 1 ≤ if m < 10 then m + 3 else m - 9
    split <;> omega
  · show (if m < 10 then m + 3 else m - 9) ≤ 12
    split <;> omega
  · by_cases hm11 : m < 11
    · have hlast : u < daysBeforeMonth (m + 1) := by unfold daysBeforeMonth; omega
      rw [daysInMonth_fromMarch _ hm11]
      show u - daysBeforeMonth m + 1 ≤ _
      omega
    · obtain rfl : m = 11 := by omega
      have h337 : daysBeforeMonth 11 = 337 := rfl
      show u - daysBeforeMonth 11 + 1
        ≤ daysInMonth (400 * cycle + (100 * c + 4 * q + k : Nat) + 1) 2
      rw [daysInMonth_february, leapDay, h337]
      by_cases hlast : u = 365
      · subst hlast
        rw [if_pos (isLeap_of_place h cycle _ rfl)]
      · omega

end Parts

/-! ## The two counts -/

/-- Every day lies at some place of some cycle. -/
theorem exists_place (day : Int) :
    ∃ cycle c q k u, IsPlace c q k u ∧
      day = 146097 * cycle + (36524 * c + 1461 * q + 365 * k + u : Nat) - epochFromMarch := by
  have hlt : ((day + epochFromMarch) % 146097).toNat < daysPerCycle := by
    unfold daysPerCycle; omega
  obtain ⟨c, q, k, u, hplace, hparts⟩ := exists_parts hlt
  exact ⟨(day + epochFromMarch) / 146097, c, q, k, u, hplace, by omega⟩

/-- Counting the days of a date gives back the day it was made of. -/
theorem toDay_ofDay (day : Int) : (ofDay day).toDay = day := by
  obtain ⟨cycle, c, q, k, u, hplace, rfl⟩ := exists_place day
  exact toDay_ofDay_parts hplace cycle

/-- Only real dates are made of days. -/
theorem isValid_ofDay (day : Int) : (ofDay day).isValid := by
  obtain ⟨cycle, c, q, k, u, hplace, rfl⟩ := exists_place day
  exact isValid_ofDay_parts hplace cycle

end MenuHost.Time.Date
