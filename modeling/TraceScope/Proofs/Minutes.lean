import Mathlib.Data.Rat.Floor
import Mathlib.Tactic.NormNum
import TraceScope.Proofs.Gregorian
import TraceScope.Proofs.Nearest

/-!
# Buckets are minutes

A time passes through floating point twice, as a number of seconds and as a number of microseconds,
and is still filed under the minute it lies in. Only times in the years 1 to 9999 are filed.
-/

namespace TraceScope

open Binary64

/-! ### Whole seconds -/

/-- A number of microseconds is on the same side of every whole number as the fraction of a second
that it is rounded from. -/
structure Micros (fraction : ℚ) (micros : Nat) : Prop where
  least : ∀ k : Nat, k < 2 ^ 53 → (k : ℚ) ≤ fraction * 1000000 → k ≤ micros
  most : ∀ k : Nat, k < 2 ^ 53 → fraction * 1000000 ≤ (k : ℚ) → micros ≤ k

variable {m q : Nat} {e : Int}

theorem nearest_micros {n d : Nat} (positive : 0 < d) :
    Micros ((n % d : Nat) / d) (ofRatio false (n % d * 1000000) d).nearest := by
  have same : ((n % d * 1000000 : Nat) : ℚ) / d = (n % d : Nat) / d * 1000000 := by
    push_cast
    ring
  have below : ((n % d * 1000000 : Nat) : ℚ) / d ≤ (1000000 : Nat) := by
    rw [div_le_iff₀ (by exact_mod_cast positive), mul_comm]
    exact_mod_cast Nat.mul_le_mul_left 1000000 (Nat.mod_lt n positive).le
  obtain ⟨m, e, done, _⟩ := ofRatio_le false (representable_nat (by decide)) positive below
  rw [done]
  constructor
  · intro k small least
    rw [← same] at least
    exact le_nearest false (le_ofRatio (representable_nat small) positive least done).2
  · intro k small most
    rw [← same] at most
    obtain ⟨m', e', done', reached⟩ := ofRatio_le false (representable_nat small) positive most
    rw [done] at done'
    cases done'
    exact nearest_le false reached

theorem wholeSeconds_spec (negative : Bool) (low : (q : ℚ) ≤ m * 2 ^ e)
    (high : (m : ℚ) * 2 ^ e < q + 1) :
    ∃ micros, Micros (m * 2 ^ e - q) micros ∧ wholeSeconds negative m e =
      if negative then if micros = 0 then -(q : Int) else -(q : Int) - 1
      else if 1000000 ≤ micros then (q : Int) + 1 else q := by
  obtain ⟨positive, size⟩ := ratio_number m e
  unfold wholeSeconds
  generalize ratio m e = r at positive size
  obtain ⟨n, d⟩ := r
  dsimp only at positive size ⊢
  have bottom : (0 : ℚ) < d := by exact_mod_cast positive
  rw [← size] at low high ⊢
  rw [le_div_iff₀ bottom] at low
  rw [div_lt_iff₀ bottom] at high
  obtain rfl : n / d = q := Nat.div_eq_of_lt_le (by exact_mod_cast low) (by exact_mod_cast high)
  have rest : (n : ℚ) / d - (n / d : Nat) = (n % d : Nat) / d := by
    have sum : (d : ℚ) * (n / d : Nat) + (n % d : Nat) = n := by
      exact_mod_cast Nat.div_add_mod n d
    rw [eq_div_iff bottom.ne', sub_mul, div_mul_cancel₀ _ bottom.ne']
    linarith
  rw [rest]
  exact ⟨_, nearest_micros positive, rfl⟩

theorem wholeSeconds_exact (negative : Bool) (h : (m : ℚ) * 2 ^ e = q) :
    wholeSeconds negative m e = if negative then -(q : Int) else q := by
  obtain ⟨micros, rounded, done⟩ := wholeSeconds_spec (q := q) negative h.ge (by linarith)
  have none := rounded.most 0 (by decide) (by simp [h])
  obtain rfl := Nat.le_zero.mp none
  rw [done]
  simp

/-- A fraction set off from both neighbours is not rounded to either. -/
theorem wholeSeconds_within (negative : Bool) (low : (q : ℚ) + (1 : Nat) / 1024 ≤ m * 2 ^ e)
    (high : (m : ℚ) * 2 ^ e ≤ q + (1023 : Nat) / 1024) :
    wholeSeconds negative m e = if negative then -(q : Int) - 1 else q := by
  push_cast at low high
  obtain ⟨micros, rounded, done⟩ := wholeSeconds_spec (q := q) (m := m) (e := e) negative
    (by linarith) (by linarith)
  have some := rounded.least 1 (by decide) (by push_cast; linarith)
  have few := rounded.most 999999 (by decide) (by push_cast; linarith)
  rw [done]
  cases negative with
  | true =>
    simp only [if_true]
    exact if_neg (by omega)
  | false =>
    simp only [Bool.false_eq_true, if_false]
    exact if_neg (by omega)

theorem le_wholeSeconds (h : (q : ℚ) ≤ m * 2 ^ e) : (q : Int) ≤ wholeSeconds false m e := by
  have positive : (0 : ℚ) ≤ m * 2 ^ e := by positivity
  have whole : q ≤ ⌊(m : ℚ) * 2 ^ e⌋₊ := Nat.le_floor h
  obtain ⟨micros, _, done⟩ := wholeSeconds_spec false (Nat.floor_le positive)
    (Nat.lt_floor_add_one _)
  rw [done, if_neg Bool.false_ne_true]
  split <;> omega

theorem wholeSeconds_below (h : (q : ℚ) + (1 : Nat) / 1024 ≤ m * 2 ^ e) :
    wholeSeconds true m e ≤ -(q : Int) - 1 := by
  push_cast at h
  have positive : (0 : ℚ) ≤ m * 2 ^ e := by positivity
  have whole : q ≤ ⌊(m : ℚ) * 2 ^ e⌋₊ := Nat.le_floor (by linarith)
  obtain ⟨micros, rounded, done⟩ := wholeSeconds_spec true (Nat.floor_le positive)
    (Nat.lt_floor_add_one _)
  rw [done]
  simp only [if_true]
  split
  · rename_i none
    have more : q ≠ ⌊(m : ℚ) * 2 ^ e⌋₊ := by
      intro same
      have some := rounded.least 1 (by decide) (by rw [← same]; push_cast; linarith)
      omega
    omega
  · omega

/-! ### Seconds of a time -/

variable {ms b : Int}

theorem ofInt_exact (small : ms.natAbs < 2 ^ 53) :
    ∃ (m : Nat) (e : Int), ofInt ms = .finite (ms < 0) m e ∧ (m : ℚ) * 2 ^ e = ms.natAbs :=
  ofRatio_exact (ms < 0) (representable_nat small) Nat.one_pos (by simp)

theorem le_ofInt {s : Bool} (small : q < 2 ^ 53) (h : q ≤ ms.natAbs)
    (done : ofInt ms = .finite s m e) : s = decide (ms < 0) ∧ (q : ℚ) ≤ m * 2 ^ e := by
  refine le_ofRatio (representable_nat small) Nat.one_pos ?_ done
  rw [Nat.cast_one, div_one]
  exact_mod_cast h

theorem divNat_finite (s : Bool) (m : Nat) (e : Int) : ∃ n d : Nat, 0 < d ∧
    (finite s m e).divNat 1000 = ofRatio s n d ∧ (n : ℚ) / d = m * 2 ^ e / 1000 := by
  obtain ⟨positive, size⟩ := ratio_number m e
  refine ⟨_, _, Nat.mul_pos positive (by decide : 0 < 1000), rfl, ?_⟩
  rw [← size, div_div]
  push_cast
  rfl

theorem minuteBucket_of_finite {s s' : Bool} {m' : Nat} {e' : Int}
    (read : ofInt ms = .finite s m e) (divided : (finite s m e).divNat 1000 = .finite s' m' e') :
    minuteBucket ms = bucketOfSeconds (wholeSeconds s' m' e') := by
  simp only [minuteBucket, read, bucketOfMillis, divided]

/-- A quotient by 1000 has the whole seconds of its numerator, after rounding too. -/
theorem wholeSeconds_quotient (s : Bool) {n d r : Nat} (small : q < 2 ^ 43) (less : r < 1000)
    (positive : 0 < d) (quotient : (n : ℚ) / d = (q * 1000 + r) / 1000) :
    ∃ (m : Nat) (e : Int), ofRatio s n d = .finite s m e ∧
      wholeSeconds s m e = if s then if r = 0 then -(q : Int) else -(q : Int) - 1 else q := by
  by_cases whole : r = 0
  · have exact : (n : ℚ) / d = q := by
      rw [quotient, whole]
      simp
    obtain ⟨m, e, rounded, same⟩ :=
      ofRatio_exact s (representable_nat (by omega)) positive exact
    refine ⟨m, e, rounded, ?_⟩
    rw [wholeSeconds_exact s same, if_pos whole]
  · -- One millisecond is more than 1/1024 of a second, and 999 are less than 1023/1024.
    have first : (1 : ℚ) ≤ r := by exact_mod_cast Nat.one_le_iff_ne_zero.mpr whole
    have last : (r : ℚ) ≤ 999 := by exact_mod_cast Nat.le_of_lt_succ less
    have low : (q : ℚ) + (1 : Nat) / 1024 ≤ (n : ℚ) / d := by
      rw [quotient]
      push_cast
      linarith
    have high : (n : ℚ) / d ≤ q + (1023 : Nat) / 1024 := by
      rw [quotient]
      push_cast
      linarith
    obtain ⟨m, e, rounded, most⟩ := ofRatio_le s (representable_add (by omega)) positive high
    have least := (le_ofRatio (representable_add (by omega)) positive low rounded).2
    refine ⟨m, e, rounded, ?_⟩
    rw [wholeSeconds_within s least most, if_neg whole]

theorem minuteBucket_eq (small : ms.natAbs < 2 ^ 52) :
    minuteBucket ms = bucketOfSeconds (ms / 1000) := by
  have short : ms.natAbs < 2 ^ 53 := by omega
  obtain ⟨m, e, read, size⟩ := ofInt_exact short
  obtain ⟨n, d, positive, divided, quotient⟩ := divNat_finite (ms < 0) m e
  obtain ⟨q, r, less, sum⟩ : ∃ q r : Nat, r < 1000 ∧ ms.natAbs = q * 1000 + r :=
    ⟨ms.natAbs / 1000, ms.natAbs % 1000, by omega, by omega⟩
  rw [size, sum] at quotient
  push_cast at quotient
  obtain ⟨m', e', rounded, done⟩ :=
    wholeSeconds_quotient (ms < 0) (by omega) less positive quotient
  rw [minuteBucket_of_finite read (divided.trans rounded), done]
  congr 1
  simp only [decide_eq_true_eq]
  split <;> omega

/-! ### Times that are filed -/

/-- What is written for a number of seconds. -/
def writtenMinute (s : Int) : Int :=
  let date := Date.ofDayNumber (s / 86400)
  (((date.year * 100 + date.month) * 100 + date.day) * 100 + s / 60 / 60 % 24) * 100 + s / 60 % 60

theorem bucketOfSeconds_ok_iff {s : Int} : bucketOfSeconds s = .ok b ↔
    (-62135596800 ≤ s ∧ s ≤ 253402300799) ∧ b = writtenMinute s := by
  have years := Date.ofDayNumber_year_iff (s / 86400)
  have reach : (Nat.pow 2 63 : Int) = 9223372036854775808 := rfl
  have range : (Nat.pow 2 31 : Int) = 2147483648 := rfl
  unfold bucketOfSeconds writtenMinute
  rw [reach, range]
  dsimp only
  generalize Date.ofDayNumber (s / 86400) = date at years
  constructor
  · intro done
    split at done
    · cases done
    split at done
    · cases done
    split at done
    · cases done
    · exact ⟨by omega, (Except.ok.inj done).symm⟩
  · rintro ⟨within, rfl⟩
    rw [if_neg (by omega), if_neg (by omega), if_neg (by omega)]

/-- Whatever bounds a time in milliseconds bounds the seconds it is filed by. -/
theorem minuteBucket_bounded (small : q < 2 ^ 53) (h : q ≤ ms.natAbs)
    (done : minuteBucket ms = .ok b) : ∃ (m : Nat) (e : Int),
      bucketOfSeconds (wholeSeconds (ms < 0) m e) = .ok b ∧
        ∀ p : ℚ, Representable p → p ≤ q / 1000 → p ≤ m * 2 ^ e := by
  cases read : ofInt ms with
  | nan payload =>
    rw [minuteBucket, read] at done
    cases done
  | infinite s =>
    rw [minuteBucket, read] at done
    cases done
  | finite s m e =>
  obtain ⟨rfl, least⟩ := le_ofInt small h read
  obtain ⟨n, d, positive, divided, quotient⟩ := divNat_finite (ms < 0) m e
  cases rounded : ofRatio (ms < 0) n d with
  | nan payload =>
    simp only [minuteBucket, read, bucketOfMillis, divided, rounded] at done
    cases done
  | infinite s =>
    simp only [minuteBucket, read, bucketOfMillis, divided, rounded] at done
    cases done
  | finite s m' e' =>
  rw [minuteBucket_of_finite read (divided.trans rounded)] at done
  have lower : ∀ p : ℚ, Representable p → p ≤ q / 1000 → s = decide (ms < 0) ∧ p ≤ m' * 2 ^ e' := by
    intro p fits le
    refine le_ofRatio fits positive ?_ rounded
    rw [quotient]
    linarith
  obtain ⟨rfl, _⟩ := lower 0 (representable_nat (n := 0) (by decide)) (by positivity)
  exact ⟨m', e', done, fun p fits le => (lower p fits le).2⟩

theorem minuteBucket_late (h : 253402300800000 ≤ ms) : minuteBucket ms ≠ .ok b := by
  intro done
  obtain ⟨m, e, told, bound⟩ :=
    minuteBucket_bounded (q := 253402300800000) (by decide) (by omega) done
  have late := le_wholeSeconds (q := 253402300800)
    (bound _ (representable_nat (by decide)) (by norm_num))
  rw [decide_eq_false (by omega)] at told
  have within := (bucketOfSeconds_ok_iff.mp told).1
  omega

theorem minuteBucket_early (h : ms < -62135596800000) : minuteBucket ms ≠ .ok b := by
  intro done
  obtain ⟨m, e, told, bound⟩ :=
    minuteBucket_bounded (q := 62135596800001) (by decide) (by omega) done
  have early := wholeSeconds_below (q := 62135596800)
    (bound _ (representable_add (by decide)) (by norm_num))
  rw [decide_eq_true (by omega)] at told
  have within := (bucketOfSeconds_ok_iff.mp told).1
  omega

theorem minuteBucket_ok_iff : minuteBucket ms = .ok b ↔
    (-62135596800000 ≤ ms ∧ ms ≤ 253402300799999) ∧ b = writtenMinute (ms / 1000) := by
  constructor
  · intro done
    have early : ¬ ms < -62135596800000 := fun early => minuteBucket_early early done
    have late : ¬ 253402300800000 ≤ ms := fun late => minuteBucket_late late done
    rw [minuteBucket_eq (by omega), bucketOfSeconds_ok_iff] at done
    exact ⟨by omega, done.2⟩
  · rintro ⟨within, rfl⟩
    rw [minuteBucket_eq (by omega), bucketOfSeconds_ok_iff]
    exact ⟨by omega, rfl⟩

/-! ### Buckets as they are read -/

structure CivilTime where
  date : Date
  hour : Nat
  minute : Nat

namespace CivilTime

/-- A bucket read digit by digit. -/
def ofBucket (b : Int) : CivilTime where
  date :=
    { year := b / 100000000
      month := (b / 1000000 % 100).toNat
      day := (b / 10000 % 100).toNat }
  hour := (b / 100 % 100).toNat
  minute := (b % 100).toNat

structure InCalendar (t : CivilTime) : Prop where
  year : 1 ≤ t.date.year ∧ t.date.year ≤ 9999
  date : t.date.IsCivil
  hour : t.hour < 24
  minute : t.minute < 60

def minutes (t : CivilTime) : Int := (t.date.count * 24 + t.hour) * 60 + t.minute

theorem ofBucket_written (s : Int) : ofBucket (writtenMinute s) =
    ⟨Date.ofDayNumber (s / 86400), (s / 60 / 60 % 24).toNat, (s / 60 % 60).toNat⟩ := by
  obtain ⟨⟨_, month⟩, _, day⟩ := Date.ofDayNumber_civil (s / 86400)
  have short : ∀ year month, Date.monthLength year month ≤ 31 := by
    intro year month
    unfold Date.monthLength
    split
    · split <;> decide
    all_goals decide
  have days := day.trans (short _ _)
  unfold ofBucket writtenMinute
  dsimp only
  generalize Date.ofDayNumber (s / 86400) = date at month days
  obtain ⟨year, m, d⟩ := date
  simp only [mk.injEq, Date.mk.injEq] at month days ⊢
  omega

theorem written_exact {s : Int} (within : -62135596800 ≤ s ∧ s ≤ 253402300799) :
    (ofBucket (writtenMinute s)).InCalendar ∧ (ofBucket (writtenMinute s)).minutes = s / 60 := by
  have year := (Date.ofDayNumber_year_iff (s / 86400)).mpr (by omega)
  rw [ofBucket_written]
  refine ⟨⟨year, Date.ofDayNumber_civil _, ?_, ?_⟩, ?_⟩
  · dsimp only
    omega
  · dsimp only
    omega
  · rw [minutes, Date.count_ofDayNumber (by omega)]
    dsimp only
    omega

/-- Later buckets are later minutes. -/
theorem minutes_lt {b b' : Int} (first : (ofBucket b).InCalendar) (second : (ofBucket b').InCalendar)
    (h : b < b') : (ofBucket b).minutes < (ofBucket b').minutes := by
  obtain ⟨⟨year, _⟩, civil, hour, minute⟩ := first
  obtain ⟨⟨year', _⟩, civil', hour', minute'⟩ := second
  rcases lt_or_eq_of_le (Int.ediv_le_ediv (c := 10000) (by decide) h.le) with earlier | same
  · have before : (ofBucket b).date.Before (ofBucket b').date := by
      unfold Date.Before ofBucket
      dsimp only
      omega
    have days := Date.count_lt_of_before civil civil' (by omega) before
    unfold minutes
    omega
  · have date : (ofBucket b).date = (ofBucket b').date := by
      unfold ofBucket
      simp only [Date.mk.injEq]
      omega
    unfold minutes
    rw [date]
    have digits : b / 100 / 100 = b' / 100 / 100 := by omega
    unfold ofBucket at hour hour' minute minute' ⊢
    dsimp only at hour hour' minute minute' ⊢
    omega

end CivilTime

/-- A time is filed if it lies in the years 1 to 9999. Its bucket is then a minute of the calendar,
the one that the time lies in, and the order of buckets is the order of minutes. -/
theorem minuteBucket_exact :
    (∀ ms, (∃ b, minuteBucket ms = .ok b) ↔ -62135596800000 ≤ ms ∧ ms ≤ 253402300799999) ∧
      (∀ ms b, minuteBucket ms = .ok b → (CivilTime.ofBucket b).InCalendar ∧
        (CivilTime.ofBucket b).minutes = ms / 60000) ∧
      ∀ ms ms' b b', minuteBucket ms = .ok b → minuteBucket ms' = .ok b' → ms ≤ ms' →
        b ≤ b' ∧ (b = b' ↔ ms / 60000 = ms' / 60000) := by
  have exact : ∀ ms b, minuteBucket ms = .ok b → (CivilTime.ofBucket b).InCalendar ∧
      (CivilTime.ofBucket b).minutes = ms / 60000 := by
    intro ms b done
    obtain ⟨within, rfl⟩ := minuteBucket_ok_iff.mp done
    obtain ⟨calendar, minutes⟩ := CivilTime.written_exact (s := ms / 1000) (by omega)
    exact ⟨calendar, by omega⟩
  refine ⟨fun ms => ?_, exact, ?_⟩
  · simp only [minuteBucket_ok_iff, exists_and_left, exists_eq, and_true]
  · intro ms ms' b b' done done' le
    obtain ⟨calendar, minutes⟩ := exact ms b done
    obtain ⟨calendar', minutes'⟩ := exact ms' b' done'
    rcases lt_trichotomy b b' with sooner | rfl | later
    · have less := CivilTime.minutes_lt calendar calendar' sooner
      omega
    · exact ⟨le_rfl, by omega⟩
    · have less := CivilTime.minutes_lt calendar' calendar later
      omega

/-- The last minute of 1969 and the first of 1970. -/
theorem minuteBucket_turn :
    minuteBucket (-1) = .ok 196912312359 ∧ minuteBucket 0 = .ok 197001010000 ∧
      ((CivilTime.ofBucket 196912312359).InCalendar ∧
        (CivilTime.ofBucket 196912312359).minutes = -1) ∧
      ((196912312359 : Int) ≤ 197001010000 ∧
        ((196912312359 : Int) = 197001010000 ↔ (-1 : Int) / 60000 = 0 / 60000)) := by
  have before : minuteBucket (-1) = .ok 196912312359 :=
    minuteBucket_ok_iff.mpr ⟨by decide, by decide⟩
  have after : minuteBucket 0 = .ok 197001010000 := minuteBucket_ok_iff.mpr ⟨by decide, by decide⟩
  obtain ⟨-, exact, ordered⟩ := minuteBucket_exact
  exact ⟨before, after, exact (-1) _ before, ordered (-1) 0 _ _ before after (by decide)⟩

end TraceScope
