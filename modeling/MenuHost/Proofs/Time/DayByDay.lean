import MenuHost.Proofs.Time.Calendar

/-!
# The calendar, day by day

`Date.ofDay` and `Date.toDay` are arithmetic. The calendar itself is
simpler: it begins on some day, and every day is followed by the next one
of its month, or else by the first of the next month or of the next year.
`Falls` is that calendar, with the weekdays beside the dates, carried on
in both directions. `falls_iff` shows that the arithmetic computes it.

Two facts carry the proof. Counting gives the next date the next number
(`toDay_next`), and no two dates have the same number (`eq_of_toDay_eq`):
the dates of a year lie between the beginnings of that year and of the
next (`toDay_bounds`), those of a month between the beginnings of that
month and of the next (`daysOfMonths_bounds`).
-/

namespace MenuHost.Time

namespace Date

def next (d : Date) : Date :=
  if d.day < daysInMonth d.year d.month then ⟨d.year, d.month, d.day + 1⟩
  else if d.month < 12 then ⟨d.year, d.month + 1, 1⟩
  else ⟨d.year + 1, 1, 1⟩

/-! ## Months -/

theorem daysInMonth_pos (year : Int) {month : Nat} (h1 : 1 ≤ month) (h12 : month ≤ 12) :
    1 ≤ daysInMonth year month := by
  by_cases h2 : month = 2
  · rw [h2, daysInMonth_february]
    omega
  · rw [daysInMonth_of_ne h2]
    interval_cases month <;> decide

theorem daysOfMonths_mono (year : Int) {m n : Nat} (h : m ≤ n) :
    daysOfMonths year m ≤ daysOfMonths year n := by
  induction n, h using Nat.le_induction with
  | base => exact Nat.le_refl _
  | succ n _ ih => exact Nat.le_trans ih (Nat.le_add_right ..)

/-- The months of a year add up to its days. -/
theorem daysOfMonths_year (year : Int) : daysOfMonths year 12 = 365 + leapDay year := by
  have heleven := daysOfMonths_fromMarch year (show 9 < 10 by decide)
  have hdecember : daysInMonth year 12 = 31 := daysInMonth_of_ne (by decide)
  have hmarch : daysBeforeMonth 9 = 275 := rfl
  rw [daysOfMonths, heleven, hdecember, hmarch]
  omega

/-- A date lies in its month. -/
theorem daysOfMonths_bounds {d : Date} (h : d.isValid) :
    daysOfMonths d.year (d.month - 1) + d.day ≤ daysOfMonths d.year d.month := by
  obtain ⟨h1, -, -, hday⟩ := h
  obtain ⟨m, hm⟩ := Nat.exists_eq_add_of_le' h1
  rw [hm] at hday ⊢
  rw [Nat.add_sub_cancel, daysOfMonths]
  omega

/-! ## Years -/

/-- The days before a year, from the first of January of the year 1. -/
def daysBefore (year : Int) : Int :=
  365 * (year - 1) + (year - 1) / 4 - (year - 1) / 100 + (year - 1) / 400

theorem toDay_eq (d : Date) :
    d.toDay = daysBefore d.year + daysOfMonths d.year (d.month - 1) + (d.day - 1) - 719162 := rfl

theorem daysBefore_succ (year : Int) :
    daysBefore (year + 1) = daysBefore year + (365 + leapDay year) := by
  have hyear := days_before_year year
  simp only [daysBefore, Int.add_sub_cancel]
  omega

theorem daysBefore_mono {year later : Int} (h : year ≤ later) :
    daysBefore year ≤ daysBefore later := by
  induction later, h using Int.leInduction with
  | base => exact Int.le_refl _
  | succ later _ ih =>
      rw [daysBefore_succ]
      omega

/-- A date lies in its year. -/
theorem toDay_bounds {d : Date} (h : d.isValid) :
    daysBefore d.year - 719162 ≤ d.toDay ∧ d.toDay < daysBefore (d.year + 1) - 719162 := by
  have hmonth := daysOfMonths_bounds h
  have hyear := daysOfMonths_mono d.year h.2.1
  have hone := h.2.2.1
  rw [daysOfMonths_year] at hyear
  rw [toDay_eq, daysBefore_succ]
  omega

/-! ## Numbers of dates -/

/-- A number of days belongs to one date only. -/
theorem eq_of_toDay_eq {d e : Date} (hd : d.isValid) (he : e.isValid)
    (h : d.toDay = e.toDay) : d = e := by
  have hearlier : ∀ {d e : Date}, d.isValid → e.isValid → d.toDay = e.toDay →
      ¬d.year < e.year := by
    intro d e hd he h hlt
    have hmono := daysBefore_mono (Int.add_one_le_of_lt hlt)
    have hbefore := (toDay_bounds hd).2
    have hafter := (toDay_bounds he).1
    omega
  have hyear : d.year = e.year :=
    Int.le_antisymm (Int.not_lt.mp (hearlier he hd h.symm)) (Int.not_lt.mp (hearlier hd he h))
  have hmonths := daysOfMonths_bounds hd
  have hmonthsLater := daysOfMonths_bounds he
  obtain ⟨year, month, day⟩ := d
  obtain ⟨year', month', day'⟩ := e
  obtain rfl : year = year' := hyear
  obtain ⟨hm1, -, hday1, -⟩ := hd
  obtain ⟨hm1', -, hday1', -⟩ := he
  simp only [toDay_eq] at h hmonths hmonthsLater hm1 hm1' hday1 hday1'
  rcases Nat.lt_trichotomy month month' with hlt | rfl | hlt
  · have hmono := daysOfMonths_mono year (Nat.le_sub_one_of_lt hlt)
    omega
  · obtain rfl : day = day' := by omega
    rfl
  · have hmono := daysOfMonths_mono year (Nat.le_sub_one_of_lt hlt)
    omega

/-- The date that is counted is the one that a count gives back. -/
theorem ofDay_toDay {d : Date} (h : d.isValid) : ofDay d.toDay = d :=
  eq_of_toDay_eq (isValid_ofDay _) h (toDay_ofDay _)

theorem isValid_next {d : Date} (h : d.isValid) : d.next.isValid := by
  obtain ⟨h1, h12, hday, -⟩ := h
  unfold next
  split
  · next hlt => exact ⟨h1, h12, Nat.le_add_left .., hlt⟩
  · split
    · next hlt => exact ⟨Nat.le_add_left .., hlt, Nat.le_refl 1,
        daysInMonth_pos _ (Nat.le_add_left ..) hlt⟩
    · have hjanuary := daysInMonth_pos (d.year + 1) (Nat.le_refl 1) (show 1 ≤ 12 by decide)
      exact ⟨Nat.le_refl 1, show 1 ≤ 12 by decide, Nat.le_refl 1, hjanuary⟩

/-- The next date has the next number. -/
theorem toDay_next {d : Date} (h : d.isValid) : d.next.toDay = d.toDay + 1 := by
  obtain ⟨h1, h12, hday, hlast⟩ := h
  obtain ⟨m, hm⟩ := Nat.exists_eq_add_of_le' h1
  unfold next
  split
  · simp only [toDay_eq]
    omega
  · next hend =>
      have hmonths : daysOfMonths d.year d.month
          = daysOfMonths d.year (d.month - 1) + d.day := by
        rw [hm] at hlast hend ⊢
        rw [Nat.add_sub_cancel, daysOfMonths]
        omega
      split
      · simp only [toDay_eq, Nat.add_sub_cancel, hmonths]
        omega
      · next hyear =>
          obtain hdecember : d.month = 12 := by omega
          rw [hdecember, daysOfMonths_year] at hmonths
          have hnone : daysOfMonths (d.year + 1) (1 - 1) = 0 := rfl
          simp only [toDay_eq, daysBefore_succ, hnone, hdecember]
          omega

/-- The date of the next day is the next date. -/
theorem ofDay_succ (day : Int) : ofDay (day + 1) = (ofDay day).next := by
  refine eq_of_toDay_eq (isValid_ofDay _) (isValid_next (isValid_ofDay _)) ?_
  rw [toDay_ofDay, toDay_next (isValid_ofDay _), toDay_ofDay]

theorem weekday_succ (day : Int) : weekday (day + 1) = (weekday day + 1) % 7 := by
  unfold weekday
  omega

end Date

/-! ## The calendar -/

/-- A day as a calendar shows it: a date, and a weekday counted from Sunday on. -/
structure CalendarDay where
  date : Date
  weekday : Nat
deriving Repr, DecidableEq

namespace CalendarDay

/-- The first of January 1970 was a Thursday. -/
def epoch : CalendarDay := ⟨⟨1970, 1, 1⟩, 4⟩

def next (d : CalendarDay) : CalendarDay := ⟨d.date.next, (d.weekday + 1) % 7⟩

end CalendarDay

/-- The day that falls so many days after the first of January 1970, found by
going on or back one day at a time. -/
inductive Falls : Int → CalendarDay → Prop where
  | epoch : Falls 0 .epoch
  | next {n : Int} {d : CalendarDay} (h : Falls n d) : Falls (n + 1) d.next
  | previous {n : Int} {d : CalendarDay} (hvalid : d.date.isValid) (hweekday : d.weekday < 7)
      (h : Falls (n + 1) d.next) : Falls n d

theorem falls_ofDay (n : Int) : Falls n ⟨Date.ofDay n, Date.weekday n⟩ := by
  have hnext : ∀ n, (⟨Date.ofDay (n + 1), Date.weekday (n + 1)⟩ : CalendarDay)
      = CalendarDay.next ⟨Date.ofDay n, Date.weekday n⟩ := fun n => by
    rw [Date.ofDay_succ, Date.weekday_succ]
    rfl
  induction n using Int.induction_on with
  | zero => exact Falls.epoch
  | succ n ih =>
      rw [hnext]
      exact ih.next
  | pred n ih =>
      have hweekday : Date.weekday (-(n : Int) - 1) < 7 := by unfold Date.weekday; omega
      refine Falls.previous (Date.isValid_ofDay _) hweekday ?_
      rw [← hnext, Int.sub_add_cancel]
      exact ih

/-- **The calendar is computed.** The date and the weekday of a day are those of
the calendar, however many days lie between it and 1970. -/
theorem falls_iff {n : Int} {d : CalendarDay} :
    Falls n d ↔ d = ⟨Date.ofDay n, Date.weekday n⟩ := by
  constructor
  · intro h
    induction h with
    | epoch => rfl
    | @next n d _ ih =>
        rw [ih, Date.ofDay_succ, Date.weekday_succ]
        rfl
    | @previous n d hvalid hweekday _ ih =>
        obtain ⟨date, weekday⟩ := d
        obtain ⟨hdate, hnext⟩ := CalendarDay.mk.inj ih
        have hday : date.toDay = n := by
          have hcount := congrArg Date.toDay hdate
          rw [Date.toDay_ofDay] at hcount
          have hsucc := Date.toDay_next hvalid
          simp only at hcount hsucc
          omega
        have hsame : weekday = Date.weekday n := by
          rw [Date.weekday_succ] at hnext
          have hlt : Date.weekday n < 7 := by unfold Date.weekday; omega
          simp only at hnext hweekday
          omega
        rw [hsame, ← hday, Date.ofDay_toDay hvalid]
  · rintro rfl
    exact falls_ofDay n

end MenuHost.Time
