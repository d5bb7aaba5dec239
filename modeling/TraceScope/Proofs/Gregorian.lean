import Mathlib.Tactic.IntervalCases
import TraceScope.Calendar

/-!
# The Gregorian calendar

Days are counted by the lengths of the years and months before them. The date of a day is the one
date with that count, and later days have later dates.
-/

namespace TraceScope

namespace Date

/-! ### Rules of the calendar -/

def IsLeap (year : Int) : Prop := year % 4 = 0 ∧ (year % 100 ≠ 0 ∨ year % 400 = 0)

instance (year : Int) : Decidable (IsLeap year) := inferInstanceAs (Decidable (_ ∧ _))

def yearLength (year : Int) : Nat := if IsLeap year then 366 else 365

def monthLength (year : Int) : Nat → Nat
  | 2 => if IsLeap year then 29 else 28
  | 4 | 6 | 9 | 11 => 30
  | _ => 31

/-- The month is one of the year and the day is one of the month. -/
structure IsCivil (d : Date) : Prop where
  month : 1 ≤ d.month ∧ d.month ≤ 12
  day : 1 ≤ d.day ∧ d.day ≤ monthLength d.year d.month

def daysBeforeYear : Nat → Nat
  | 0 => 0
  | y + 1 => daysBeforeYear y + yearLength y

def daysBeforeMonth (year : Int) : Nat → Nat
  | 0 | 1 => 0
  | m + 2 => daysBeforeMonth year (m + 1) + monthLength year (m + 1)

/-- The days since the first of January 1970, for a year that is not negative. -/
def count (d : Date) : Int :=
  (daysBeforeYear d.year.toNat + daysBeforeMonth d.year d.month + (d.day - 1) : Nat) -
    daysBeforeYear 1970

/-! ### Days of an era -/

/-- A day of an era by century, leap cycle, year of the cycle and day of the year. Only the last
year of a cycle has a leap day, and a century ends in one only if it ends the era. -/
structure EraDay (day c q k r : Nat) : Prop where
  century : c ≤ 3
  cycle : q ≤ 24
  year : k ≤ 3
  rest : r ≤ 364 ∨ r = 365 ∧ k = 3 ∧ (q < 24 ∨ c = 3)
  sum : day = 36524 * c + 1461 * q + 365 * k + r

variable {day c q k r : Nat}

theorem exists_eraDay (h : day < 146097) : ∃ c q k r, EraDay day c q k r := by
  obtain ⟨c, century⟩ : ∃ c, c = min 3 (day / 36524) := ⟨_, rfl⟩
  obtain ⟨q, cycle⟩ : ∃ q, q = (day - 36524 * c) / 1461 := ⟨_, rfl⟩
  obtain ⟨k, year⟩ : ∃ k, k = min 3 ((day - 36524 * c - 1461 * q) / 365) := ⟨_, rfl⟩
  refine ⟨c, q, k, day - 36524 * c - 1461 * q - 365 * k, ?_, ?_, ?_, ?_, ?_⟩
  all_goals omega

theorem EraDay.yearOfEra (h : EraDay day c q k r) :
    (day - day / 1460 + day / 36524 - day / 146096) / 365 = 100 * c + 4 * q + k := by
  obtain ⟨century, cycle, year, rest, sum⟩ := h
  have within : day < 36524 * (c + 1) ∨ c = 3 ∧ day = 146096 := by omega
  have centuries : day / 36524 = c + day / 146096 := by omega
  have cycles : day / 1460 = 25 * c + q + (24 * c + q + 365 * k + r) / 1460 := by omega
  -- At most one day too many is taken off, and only from the last year of a cycle.
  have surplus : (24 * c + q + 365 * k + r) / 1460 ≤ r ∧
      (r - (24 * c + q + 365 * k + r) / 1460) / 365 = 0 := by omega
  omega

theorem EraDay.dayOfYear (h : EraDay day c q k r) :
    365 * (100 * c + 4 * q + k) + (100 * c + 4 * q + k) / 4 - (100 * c + 4 * q + k) / 100 + r =
      day := by
  obtain ⟨century, cycle, year, rest, sum⟩ := h
  omega

/-! ### Years from March -/

/-- The date that lies `r` days after the first of March of a year. -/
def ofMarch (y : Int) (r : Nat) : Date :=
  let monthFromMarch := (5 * r + 2) / 153
  let month := if monthFromMarch < 10 then monthFromMarch + 3 else monthFromMarch - 9
  { year := y + (if month ≤ 2 then 1 else 0)
    month
    day := r - (153 * monthFromMarch + 2) / 5 + 1 }

theorem year_ofMarch (y : Int) (h : r ≤ 365) :
    (ofMarch y r).year = y + (if 306 ≤ r then 1 else 0) := by
  unfold ofMarch
  dsimp only
  split <;> split <;> split <;> omega

theorem ofMarch_civil {y : Int} (h : r ≤ 364 ∨ r = 365 ∧ IsLeap (y + 1)) :
    (ofMarch y r).IsCivil := by
  obtain ⟨m, named⟩ : ∃ m, m = (5 * r + 2) / 153 := ⟨_, rfl⟩
  have last : m ≤ 11 := by omega
  unfold ofMarch
  rw [← named]
  constructor
  · dsimp only
    split <;> omega
  · dsimp only
    refine ⟨by omega, ?_⟩
    by_cases leap : IsLeap (y + 1)
    · interval_cases m <;> simp [monthLength, leap] <;> omega
    · have short : r ≤ 364 := h.elim id fun long => absurd long.2 leap
      interval_cases m <;> simp [monthLength, leap] <;> omega

theorem toDayNumber_ofMarch {era : Int} {y : Nat} (within : y < 400) (h : r ≤ 365) :
    (ofMarch (y + era * 400) r).toDayNumber =
      era * 146097 + (365 * y + y / 4 - y / 100 + r : Nat) - 719468 := by
  obtain ⟨m, named⟩ : ∃ m, m = (5 * r + 2) / 153 := ⟨_, rfl⟩
  have ofEra : ((y : Int) + era * 400) / 400 = era ∧ ((y : Int) + era * 400) % 400 = y := by omega
  unfold ofMarch toDayNumber
  rw [← named]
  dsimp only
  by_cases late : m < 10
  · have fromMarch : (m + 3 + 9) % 12 = m := by omega
    simp only [if_pos late, show ¬ m + 3 ≤ 2 by omega, if_false, add_zero, ofEra, fromMarch]
    omega
  · have fromMarch : (m - 9 + 9) % 12 = m := by omega
    simp only [if_neg late, show m - 9 ≤ 2 by omega, if_true, add_sub_cancel_right, ofEra,
      fromMarch]
    omega

theorem ofDayNumber_eq (n : Int) : ∃ y r : Nat, y < 400 ∧
    (r ≤ 364 ∨ r = 365 ∧ IsLeap (y + (n + 719468) / 146097 * 400 + 1)) ∧
      ((n + 719468) % 146097).toNat = 365 * y + y / 4 - y / 100 + r ∧
        ofDayNumber n = ofMarch (y + (n + 719468) / 146097 * 400) r := by
  have within : ((n + 719468) % 146097).toNat < 146097 := by omega
  obtain ⟨c, q, k, r, h⟩ := exists_eraDay within
  have year := h.yearOfEra
  have day := h.dayOfYear
  obtain ⟨century, cycle, fourth, rest, sum⟩ := h
  refine ⟨100 * c + 4 * q + k, r, by omega, ?_, day.symm, ?_⟩
  · refine rest.imp_right fun last => ⟨last.1, ?_⟩
    unfold IsLeap
    omega
  · have left : ((n + 719468) % 146097).toNat - (365 * (100 * c + 4 * q + k) +
        (100 * c + 4 * q + k) / 4 - (100 * c + 4 * q + k) / 100) = r := by omega
    unfold ofDayNumber
    simp only [year, left]
    rfl

/-! ### Dates of days -/

theorem ofDayNumber_civil (n : Int) : (ofDayNumber n).IsCivil := by
  obtain ⟨y, r, _, rest, _, eq⟩ := ofDayNumber_eq n
  rw [eq]
  exact ofMarch_civil rest

theorem toDayNumber_ofDayNumber (n : Int) : (ofDayNumber n).toDayNumber = n := by
  obtain ⟨y, r, within, rest, day, eq⟩ := ofDayNumber_eq n
  rw [eq, toDayNumber_ofMarch within (by omega), ← day]
  omega

/-- The days with years of one to four digits. -/
theorem ofDayNumber_year_iff (n : Int) :
    (1 ≤ (ofDayNumber n).year ∧ (ofDayNumber n).year ≤ 9999) ↔ -719162 ≤ n ∧ n ≤ 2932896 := by
  obtain ⟨y, r, within, rest, day, eq⟩ := ofDayNumber_eq n
  rw [eq, year_ofMarch _ (by omega)]
  refine and_congr ?_ ?_
  · rcases lt_trichotomy ((n + 719468) / 146097) 0 with before | era | after
    · split <;> omega
    · rw [era]
      split <;> omega
    · split <;> omega
  · rcases lt_trichotomy ((n + 719468) / 146097) 24 with before | era | after
    · split <;> omega
    · rw [era]
      split <;> omega
    · split <;> omega

/-! ### Counting -/

theorem daysBeforeYear_eq (y : Nat) :
    daysBeforeYear y = 365 * y + (y + 3) / 4 - (y + 99) / 100 + (y + 399) / 400 := by
  induction y with
  | zero => rfl
  | succ y ih =>
    rw [daysBeforeYear, ih, yearLength]
    by_cases leap : IsLeap y
    · rw [if_pos leap]
      unfold IsLeap at leap
      omega
    · rw [if_neg leap]
      unfold IsLeap at leap
      omega

theorem daysBeforeMonth_eq {year : Int} {month : Nat} (within : 1 ≤ month ∧ month ≤ 12) :
    daysBeforeMonth year month = if month ≤ 2 then 31 * (month - 1)
      else (153 * (month - 3) + 2) / 5 + (if IsLeap year then 60 else 59) := by
  obtain ⟨first, last⟩ := within
  by_cases leap : IsLeap year
  · interval_cases month <;> simp [daysBeforeMonth, monthLength, leap]
  · interval_cases month <;> simp [daysBeforeMonth, monthLength, leap]

/-- Days counted in eras of years from March are days counted by the calendar. -/
theorem toDayNumber_eq_count {d : Date} (civil : d.IsCivil) (year : 0 ≤ d.year) :
    d.toDayNumber = d.count := by
  obtain ⟨y, month, day⟩ := d
  obtain ⟨within, first, last⟩ := civil
  obtain ⟨y, rfl⟩ := Int.eq_ofNat_of_zero_le year
  unfold toDayNumber count
  simp only [daysBeforeYear_eq, daysBeforeMonth_eq within, Int.toNat_natCast] at within first ⊢
  by_cases early : month ≤ 2
  · simp only [if_pos early]
    omega
  · simp only [if_neg early]
    by_cases leap : IsLeap y
    · rw [if_pos leap]
      unfold IsLeap at leap
      omega
    · rw [if_neg leap]
      unfold IsLeap at leap
      omega

theorem count_ofDayNumber {n : Int} (year : 0 ≤ (ofDayNumber n).year) :
    (ofDayNumber n).count = n := by
  rw [← toDayNumber_eq_count (ofDayNumber_civil n) year, toDayNumber_ofDayNumber]

/-! ### Order -/

def Before (d e : Date) : Prop :=
  d.year < e.year ∨
    d.year = e.year ∧ (d.month < e.month ∨ d.month = e.month ∧ d.day < e.day)

theorem daysBeforeMonth_mono (year : Int) {m m' : Nat} (first : 1 ≤ m) (h : m + 1 ≤ m') :
    daysBeforeMonth year m + monthLength year m ≤ daysBeforeMonth year m' := by
  induction m', h using Nat.le_induction with
  | base =>
    obtain ⟨j, rfl⟩ := Nat.exists_eq_add_of_le' first
    exact le_rfl
  | succ j later ih =>
    obtain ⟨i, rfl⟩ : ∃ i, j = i + 1 := ⟨j - 1, by omega⟩
    rw [daysBeforeMonth]
    omega

theorem dayOfYear_lt {d : Date} (civil : d.IsCivil) :
    daysBeforeMonth d.year d.month + (d.day - 1) < yearLength d.year := by
  obtain ⟨⟨first, last⟩, day, within⟩ := civil
  have months : daysBeforeMonth d.year d.month + monthLength d.year d.month ≤
      daysBeforeMonth d.year 13 := daysBeforeMonth_mono d.year first (by omega)
  have whole : daysBeforeMonth d.year 13 = yearLength d.year := by
    by_cases leap : IsLeap d.year <;> simp [daysBeforeMonth, monthLength, yearLength, leap]
  omega

theorem daysBeforeYear_mono {y y' : Nat} (h : y + 1 ≤ y') :
    daysBeforeYear y + yearLength y ≤ daysBeforeYear y' := by
  induction y', h using Nat.le_induction with
  | base => exact le_rfl
  | succ j later ih =>
    rw [daysBeforeYear]
    omega

theorem count_lt_of_before {d e : Date} (civil : d.IsCivil) (civil' : e.IsCivil)
    (year : 0 ≤ d.year) (h : d.Before e) : d.count < e.count := by
  have day := dayOfYear_lt civil
  obtain ⟨⟨first, _⟩, one, within⟩ := civil
  obtain ⟨_, one', _⟩ := civil'
  unfold count
  rcases h with earlier | ⟨sameYear, earlier | ⟨sameMonth, earlier⟩⟩
  · have later : d.year.toNat + 1 ≤ e.year.toNat := by omega
    have years := daysBeforeYear_mono later
    rw [Int.toNat_of_nonneg year] at years
    omega
  · have months := daysBeforeMonth_mono d.year first earlier
    rw [← sameYear]
    omega
  · rw [← sameYear, ← sameMonth]
    omega

end Date

end TraceScope
