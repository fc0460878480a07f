import Mathlib.Algebra.Order.Group.Int
import Mathlib.Data.List.Lex
import Mathlib.Order.SuccPred.Basic
import Mathlib.Tactic.IntervalCases
import MarketFeed.Time.Calendar

/-!
# Dates and instants

The number of a date is the number of days before its year and its month, and the days of the month
before it (`toDays_eq`); so the date after has the next number (`toDays_tomorrow`), later dates have
greater numbers, and every number is that of one date (`toDays_ofDays`). Main fact: every instant has one
date and time of day, and these come in the order of the instants (`toMillis_ofMillis`,
`toMillis_lt_iff`).
-/

namespace MarketFeed.DateTime

/-! ## Years and months -/

/-- Every fourth year, but only every fourth of the full centuries. -/
def IsLeap (year : Int) : Prop := year % 4 = 0 ∧ (year % 100 ≠ 0 ∨ year % 400 = 0)

instance (year : Int) : Decidable (IsLeap year) := inferInstanceAs (Decidable (_ ∧ _))

def daysInMonth (year : Int) : Nat → Nat
  | 0 => 0
  | 2 => if IsLeap year then 29 else 28
  | 4 | 6 | 9 | 11 => 30
  | _ => 31

structure IsDate (year : Int) (month day : Nat) : Prop where
  month_pos : 1 ≤ month
  month_le : month ≤ 12
  day_pos : 1 ≤ day
  day_le : day ≤ daysInMonth year month

/-- The date after. -/
def tomorrow (year : Int) (month day : Nat) : Int × Nat × Nat :=
  if day < daysInMonth year month then (year, month, day + 1)
  else if month < 12 then (year, month + 1, 1)
  else (year + 1, 1, 1)

/-- The days before a year, since 1970. -/
def yearStart (year : Int) : Int :=
  365 * year + (year - 1) / 4 - (year - 1) / 100 + (year - 1) / 400 - 719527

/-- The days of a year before a month. -/
def monthStart (year : Int) : Nat → Nat
  | 0 => 0
  | month + 1 => monthStart year month + daysInMonth year month

theorem yearStart_succ (year : Int) :
    yearStart (year + 1) = yearStart year + monthStart year 13 := by
  by_cases h : IsLeap year
  · have hdays : monthStart year 13 = 366 := by simp [monthStart, daysInMonth, h]
    obtain ⟨h4, h100⟩ := h
    rw [hdays, yearStart, yearStart]
    omega
  · have hdays : monthStart year 13 = 365 := by simp [monthStart, daysInMonth, h]
    rw [IsLeap] at h
    rw [hdays, yearStart, yearStart]
    omega

theorem yearStart_le {year year' : Int} (h : year ≤ year') : yearStart year ≤ yearStart year' := by
  have hsucc : ∀ year, yearStart year ≤ yearStart (year + 1) := by
    intro year
    have hnext := yearStart_succ year
    omega
  exact monotone_int_of_le_succ hsucc h

theorem monthStart_le (year : Int) {month month' : Nat} (h : month ≤ month') :
    monthStart year month ≤ monthStart year month' :=
  monotone_nat_of_le_succ (fun _ => Nat.le_add_right _ _) h

/-! ## Dates and their numbers -/

/-- The number of a date by the year that begins in March. -/
theorem toDays_eq_march (year : Int) (month day : Nat) :
    let y := if month ≤ 2 then year - 1 else year
    let m := if 2 < month then month - 3 else month + 9
    toDays year month day =
      365 * y + y / 4 - y / 100 + y / 400 + ((153 * m + 2) / 5 + day - 1 : Nat) - 719468 := by
  intro y m
  have hcycle : y.fdiv 400 = y / 400 := Int.fdiv_eq_ediv_of_nonneg y (by decide)
  have hyear : y.fmod 400 = y % 400 := Int.fmod_eq_emod_of_nonneg y (by decide)
  have hdays : toDays year month day = y.fdiv 400 * 146097 +
      ((y.fmod 400).toNat * 365 + (y.fmod 400).toNat / 4 - (y.fmod 400).toNat / 100 +
        ((153 * m + 2) / 5 + day - 1) : Nat) - 719468 := rfl
  rw [hdays, hcycle, hyear]
  generalize (153 * m + 2) / 5 + day - 1 = dayOfYear
  omega

/-- The days before a month, by the months from March on. -/
theorem monthStart_eq {year : Int} {month day : Nat} (h : IsDate year month day) :
    monthStart year month = if month ≤ 2 then 31 * (month - 1)
      else (153 * (month - 3) + 2) / 5 + if IsLeap year then 60 else 59 := by
  obtain ⟨hpos, hle, -, -⟩ := h
  by_cases hleap : IsLeap year
  · interval_cases month <;> simp [monthStart, daysInMonth, hleap]
  · interval_cases month <;> simp [monthStart, daysInMonth, hleap]

/-- The number of a date: the days before its year, before its month, and before its day. -/
theorem toDays_eq {year : Int} {month day : Nat} (h : IsDate year month day) :
    toDays year month day = yearStart year + (monthStart year month + (day - 1) : Nat) := by
  have hpos := h.day_pos
  rw [toDays_eq_march, monthStart_eq h, yearStart]
  by_cases hmonth : month ≤ 2
  · have hfirst := h.month_pos
    rw [if_pos hmonth, if_pos hmonth, if_neg (by omega)]
    omega
  · rw [if_neg hmonth, if_neg hmonth, if_pos (by omega)]
    generalize (153 * (month - 3) + 2) / 5 = start
    by_cases hleap : IsLeap year
    · obtain ⟨h4, h100⟩ := hleap
      rw [if_pos ⟨h4, h100⟩]
      omega
    · rw [if_neg hleap]
      rw [IsLeap] at hleap
      omega

/-- The date after has the next number. -/
theorem toDays_tomorrow {year : Int} {month day : Nat} (h : IsDate year month day) :
    let next := tomorrow year month day
    IsDate next.1 next.2.1 next.2.2 ∧
      toDays next.1 next.2.1 next.2.2 = toDays year month day + 1 := by
  obtain ⟨hpos, hle, hday, hlast⟩ := h
  have hnumber := toDays_eq ⟨hpos, hle, hday, hlast⟩
  unfold tomorrow
  by_cases hin : day < daysInMonth year month
  · have hnext : IsDate year month (day + 1) := ⟨hpos, hle, by omega, hin⟩
    rw [if_pos hin]
    refine ⟨hnext, ?_⟩
    rw [toDays_eq hnext, hnumber]
    omega
  · have hend : day = daysInMonth year month := by omega
    rw [if_neg hin]
    by_cases hmonth : month < 12
    · have hsome : 1 ≤ daysInMonth year (month + 1) := by
        unfold daysInMonth
        split <;> first | omega | (split_ifs <;> omega)
      have hnext : IsDate year (month + 1) 1 := ⟨by omega, hmonth, Nat.le_refl 1, hsome⟩
      rw [if_pos hmonth]
      refine ⟨hnext, ?_⟩
      rw [toDays_eq hnext, hnumber, monthStart]
      omega
    · obtain rfl : month = 12 := by omega
      have hnext : IsDate (year + 1) 1 1 :=
        ⟨Nat.le_refl 1, by decide, Nat.le_refl 1, show 1 ≤ 31 by decide⟩
      rw [if_neg hmonth]
      refine ⟨hnext, ?_⟩
      rw [toDays_eq hnext, hnumber, yearStart_succ, monthStart]
      have hfirst : monthStart (year + 1) 1 = 0 := rfl
      omega

/-- The days of a date are within its year. -/
theorem IsDate.dayOfYear_lt {year : Int} {month day : Nat} (h : IsDate year month day) :
    monthStart year month + (day - 1) < monthStart year 13 := by
  have hnext : monthStart year (month + 1) ≤ monthStart year 13 :=
    monthStart_le year (Nat.succ_le_succ h.month_le)
  have hday := h.day_pos
  have hlast := h.day_le
  rw [monthStart] at hnext
  omega

/-- A date in an earlier year has a smaller number. -/
theorem toDays_lt_of_year_lt {year year' : Int} {month day month' day' : Nat}
    (h : IsDate year month day) (h' : IsDate year' month' day') (hlt : year < year') :
    toDays year month day < toDays year' month' day' := by
  have hwithin := h.dayOfYear_lt
  have hstart : yearStart (year + 1) ≤ yearStart year' := yearStart_le hlt
  rw [yearStart_succ] at hstart
  rw [toDays_eq h, toDays_eq h']
  omega

/-- A date in an earlier month of the same year has a smaller number. -/
theorem toDays_lt_of_month_lt {year : Int} {month day month' day' : Nat}
    (h : IsDate year month day) (h' : IsDate year month' day') (hlt : month < month') :
    toDays year month day < toDays year month' day' := by
  have hstart : monthStart year (month + 1) ≤ monthStart year month' := monthStart_le year hlt
  have hday := h.day_pos
  have hlast := h.day_le
  rw [monthStart] at hstart
  rw [toDays_eq h, toDays_eq h']
  omega

/-! ## The date of a number -/

/-- The year of a cycle that a day of it belongs to, where years begin in March. If the year has 366
days, the last one is a leap day. -/
theorem yearOfCycle_spec {dayOfCycle : Nat} (h : dayOfCycle < 146097) :
    let y := (dayOfCycle - dayOfCycle / 1460 + dayOfCycle / 36524 - dayOfCycle / 146096) / 365
    y < 400 ∧ 365 * y + y / 4 - y / 100 ≤ dayOfCycle ∧
      dayOfCycle ≤ 365 * y + y / 4 - y / 100 + 365 ∧
      (dayOfCycle = 365 * y + y / 4 - y / 100 + 365 →
        (y + 1) % 4 = 0 ∧ ((y + 1) % 100 ≠ 0 ∨ y + 1 = 400)) := by
  by_cases hlast : dayOfCycle = 146096
  · subst hlast
    decide
  have hcycle : dayOfCycle / 146096 = 0 := by omega
  -- Four years have 1461 days, but that the century ends a day early is made up for in `e`.
  obtain ⟨e, he⟩ : ∃ e, e = dayOfCycle / 36524 := ⟨_, rfl⟩
  obtain ⟨q, r, hqr, hr⟩ : ∃ q r, dayOfCycle + e = 1461 * q + r ∧ r < 1461 :=
    ⟨(dayOfCycle + e) / 1461, (dayOfCycle + e) % 1461, by omega, by omega⟩
  have hq : 25 * e ≤ q ∧ q < 25 * e + 25 := by omega
  obtain ⟨k, hk, hkr, hy⟩ : ∃ k ≤ 3, (365 * k ≤ r ∧ r ≤ 365 * k + 365 ∧ (r = 365 * k + 365 → k = 3)) ∧
      (dayOfCycle - dayOfCycle / 1460 + e - 0) / 365 = 4 * q + k := by
    by_cases hround : r + q < 1460 + e
    · have hfour : dayOfCycle / 1460 = q := by omega
      exact ⟨r / 365, by omega, by omega, by omega⟩
    · have hfour : dayOfCycle / 1460 = q + 1 := by omega
      exact ⟨3, by omega, by omega, by omega⟩
  rw [hcycle, ← he, hy]
  have hquarter : (4 * q + k) / 4 = q := by omega
  have hcentury : (4 * q + k) / 100 = e := by omega
  dsimp only
  rw [hquarter, hcentury]
  refine ⟨by omega, by omega, by omega, ?_⟩
  intro hleap
  obtain rfl : k = 3 := by omega
  constructor
  · omega
  · left
    omega

/-- The month and the day of a year that a day of it belongs to, where years begin in March. -/
theorem monthOfYear_spec {dayOfYear : Nat} (h : dayOfYear ≤ 365) (year : Int)
    (hleap : dayOfYear = 365 → IsLeap year) :
    let m := (5 * dayOfYear + 2) / 153
    m < 12 ∧ (153 * m + 2) / 5 ≤ dayOfYear ∧
      IsDate year (if m < 10 then m + 3 else m - 9) (dayOfYear - (153 * m + 2) / 5 + 1) := by
  intro m
  have hm : m < 12 := by omega
  have hlow : 153 * m ≤ 5 * dayOfYear + 2 := by omega
  have hhigh : 5 * dayOfYear + 2 < 153 * m + 153 := by omega
  clear_value m
  have hdate : ∀ month, 1 ≤ month → month ≤ 12 →
      dayOfYear - (153 * m + 2) / 5 + 1 ≤ daysInMonth year month →
      IsDate year month (dayOfYear - (153 * m + 2) / 5 + 1) :=
    fun month hpos hle hday => ⟨hpos, hle, Nat.succ_pos _, hday⟩
  refine ⟨hm, by omega, ?_⟩
  by_cases hlast : dayOfYear = 365
  · have hyear := hleap hlast
    obtain rfl : m = 11 := by omega
    apply hdate <;> simp [daysInMonth, hyear, hlast]
  · apply hdate
    · split_ifs <;> omega
    · split_ifs <;> omega
    · interval_cases m <;> simp [daysInMonth] <;> first | omega | (split_ifs <;> omega)

/-- What `ofDays` does: cycle, year of the cycle and day of the year, where years begin in March. -/
theorem exists_march (days : Int) :
    ∃ (cycle : Int) (y dayOfYear : Nat), y < 400 ∧ dayOfYear ≤ 365 ∧
      (dayOfYear = 365 → IsLeap (cycle * 400 + y + 1)) ∧
      days = cycle * 146097 + (365 * y + y / 4 - y / 100 : Nat) + dayOfYear - 719468 ∧
      let m := (5 * dayOfYear + 2) / 153
      let month := if m < 10 then m + 3 else m - 9
      ofDays days =
        (cycle * 400 + y + if month ≤ 2 then 1 else 0, month, dayOfYear - (153 * m + 2) / 5 + 1) := by
  obtain ⟨cycle, hcycle⟩ : ∃ cycle, cycle = (days + epochOffset).fdiv daysPerCycle := ⟨_, rfl⟩
  obtain ⟨dayOfCycle, hdayOfCycle⟩ :
      ∃ dayOfCycle, dayOfCycle = ((days + epochOffset).fmod daysPerCycle).toNat := ⟨_, rfl⟩
  have hdays : dayOfCycle < 146097 ∧ days = cycle * 146097 + dayOfCycle - 719468 := by
    rw [epochOffset, daysPerCycle, Int.fdiv_eq_ediv_of_nonneg _ (by decide)] at hcycle
    rw [epochOffset, daysPerCycle, Int.fmod_eq_emod_of_nonneg _ (by decide)] at hdayOfCycle
    omega
  have hyear := yearOfCycle_spec hdays.1
  obtain ⟨y, hy⟩ : ∃ y, y = (dayOfCycle - dayOfCycle / 1460 + dayOfCycle / 36524 -
    dayOfCycle / 146096) / 365 := ⟨_, rfl⟩
  rw [← hy] at hyear
  obtain ⟨hbound, hstart, hend, hleap⟩ := hyear
  refine ⟨cycle, y, dayOfCycle - (365 * y + y / 4 - y / 100), hbound, by omega, ?_, by omega, ?_⟩
  · intro hlast
    have hsucc := hleap (by omega)
    rw [IsLeap]
    omega
  · rw [hy, hdayOfCycle, hcycle]
    rfl

/-- Every number is that of a date. -/
theorem toDays_ofDays (days : Int) :
    IsDate (ofDays days).1 (ofDays days).2.1 (ofDays days).2.2 ∧
      toDays (ofDays days).1 (ofDays days).2.1 (ofDays days).2.2 = days := by
  obtain ⟨cycle, y, dayOfYear, hbound, hyear, hleap, hdays, hparts⟩ := exists_march days
  dsimp only at hparts
  rw [hparts]
  dsimp only
  obtain ⟨m, hm⟩ : ∃ m, m = (5 * dayOfYear + 2) / 153 := ⟨_, rfl⟩
  obtain ⟨month, hmonth⟩ : ∃ month, month = if m < 10 then m + 3 else m - 9 := ⟨_, rfl⟩
  obtain ⟨year, hyear'⟩ : ∃ year, year = cycle * 400 + y + if month ≤ 2 then 1 else 0 := ⟨_, rfl⟩
  have hlast : dayOfYear = 365 → IsLeap year := by
    intro hlast
    have hfebruary : month ≤ 2 := by rw [hmonth]; split_ifs <;> omega
    rw [hyear', if_pos hfebruary]
    exact hleap hlast
  obtain ⟨hm12, hstart, hdate⟩ := monthOfYear_spec hyear year hlast
  rw [← hm] at hm12 hstart hdate ⊢
  rw [← hmonth] at hdate ⊢
  rw [← hyear']
  refine ⟨hdate, ?_⟩
  rw [toDays_eq_march]
  have hy : (if month ≤ 2 then year - 1 else year) = cycle * 400 + y := by
    rw [hyear']
    split_ifs <;> omega
  have hm' : (if 2 < month then month - 3 else month + 9) = m := by
    rw [hmonth]
    split_ifs <;> omega
  rw [hy, hm']
  omega

/-! ## Instants -/

/-- A date of the calendar and a time of day. -/
structure IsValid (t : DateTime) : Prop where
  date : IsDate t.year t.month t.day
  hour_lt : t.hour < 24
  minute_lt : t.minute < 60
  second_lt : t.second < 60
  milli_lt : t.milli < 1000

/-- Every instant is that of a date and a time of day. -/
theorem toMillis_ofMillis (ms : Int) : (ofMillis ms).IsValid ∧ (ofMillis ms).toMillis = ms := by
  obtain ⟨hdate, hdays⟩ := toDays_ofDays (ms.fdiv millisPerDay)
  constructor
  · refine ⟨hdate, ?_, ?_, ?_, ?_⟩
    · have hrest : (ms.fmod millisPerDay).toNat < 86400000 := by
        rw [millisPerDay, Int.fmod_eq_emod_of_nonneg _ (by decide)]
        omega
      exact Nat.div_lt_of_lt_mul hrest
    · exact Nat.mod_lt _ (by decide)
    · exact Nat.mod_lt _ (by decide)
    · exact Nat.mod_lt _ (by decide)
  · have hrest : ms.fdiv millisPerDay * 86400000 + ((ms.fmod millisPerDay).toNat : Int) = ms := by
      rw [millisPerDay, Int.fdiv_eq_ediv_of_nonneg _ (by decide),
        Int.fmod_eq_emod_of_nonneg _ (by decide)]
      omega
    have hmillis : (ofMillis ms).toMillis =
        toDays (ofDays (ms.fdiv millisPerDay)).1 (ofDays (ms.fdiv millisPerDay)).2.1
          (ofDays (ms.fdiv millisPerDay)).2.2 * 86400000 +
        ((ms.fmod millisPerDay).toNat / 3600000 * 3600000 +
          (ms.fmod millisPerDay).toNat / 60000 % 60 * 60000 +
          (ms.fmod millisPerDay).toNat / 1000 % 60 * 1000 +
          (ms.fmod millisPerDay).toNat % 1000 : Nat) := rfl
    rw [hmillis, hdays]
    omega

/-- The fields in their order, from the year down. What differs first decides which of two instants is
earlier. -/
def key (t : DateTime) : List Int := [t.year, t.month, t.day, t.hour, t.minute, t.second, t.milli]

theorem key_injective : Function.Injective key := by
  intro t t' h
  obtain ⟨year, month, day, hour, minute, second, milli⟩ := t
  obtain ⟨year', month', day', hour', minute', second', milli'⟩ := t'
  simpa [key] using h

theorem key_lt_iff (t t' : DateTime) :
    t.key < t'.key ↔ t.year < t'.year ∨ t.year = t'.year ∧ (t.month < t'.month ∨
      t.month = t'.month ∧ (t.day < t'.day ∨ t.day = t'.day ∧ (t.hour < t'.hour ∨
        t.hour = t'.hour ∧ (t.minute < t'.minute ∨ t.minute = t'.minute ∧ (t.second < t'.second ∨
          t.second = t'.second ∧ t.milli < t'.milli))))) := by
  simp [key, List.cons_lt_cons_iff]

variable {t t' : DateTime}

/-- The milliseconds since midnight. -/
def clock (t : DateTime) : Nat := t.hour * 3600000 + t.minute * 60000 + t.second * 1000 + t.milli

theorem IsValid.clock_lt (h : t.IsValid) : t.clock < 86400000 := by
  obtain ⟨-, hhour, hminute, hsecond, hmilli⟩ := h
  rw [clock]
  omega

theorem toMillis_eq (t : DateTime) :
    t.toMillis = toDays t.year t.month t.day * 86400000 + t.clock := rfl

theorem toMillis_lt_of_key_lt (ht : t.IsValid) (ht' : t'.IsValid) (h : t.key < t'.key) :
    t.toMillis < t'.toMillis := by
  have hclock := ht.clock_lt
  have hdays : toDays t.year t.month t.day < toDays t'.year t'.month t'.day ∨
      toDays t.year t.month t.day = toDays t'.year t'.month t'.day ∧ t.clock < t'.clock := by
    have hdate := ht.date
    have hdate' := ht'.date
    rcases (key_lt_iff t t').mp h with h | ⟨hyear, h | ⟨hmonth, h | ⟨hday, h⟩⟩⟩
    · exact Or.inl (toDays_lt_of_year_lt hdate hdate' h)
    · rw [hyear] at hdate ⊢
      exact Or.inl (toDays_lt_of_month_lt hdate hdate' h)
    · left
      rw [toDays_eq hdate, toDays_eq hdate', hyear, hmonth]
      have hpos := hdate.day_pos
      omega
    · right
      obtain ⟨-, -, hminute, hsecond, hmilli⟩ := ht
      rw [hyear, hmonth, hday, clock, clock]
      omega
  rw [toMillis_eq, toMillis_eq]
  omega

/-- Dates and times of day come in the order of their instants. -/
theorem toMillis_lt_iff (ht : t.IsValid) (ht' : t'.IsValid) :
    t.toMillis < t'.toMillis ↔ t.key < t'.key := by
  constructor
  · intro h
    rcases lt_trichotomy t.key t'.key with hlt | heq | hlt
    · exact hlt
    · rw [key_injective heq] at h
      exact absurd h (lt_irrefl _)
    · exact absurd h (lt_asymm (toMillis_lt_of_key_lt ht' ht hlt))
  · exact toMillis_lt_of_key_lt ht ht'

/-- An instant is that of one date and time of day only. -/
theorem toMillis_injective (ht : t.IsValid) (ht' : t'.IsValid) (h : t.toMillis = t'.toMillis) :
    t = t' := by
  rcases lt_trichotomy t.key t'.key with hlt | heq | hlt
  · have hmillis := toMillis_lt_of_key_lt ht ht' hlt
    omega
  · exact key_injective heq
  · have hmillis := toMillis_lt_of_key_lt ht' ht hlt
    omega

end MarketFeed.DateTime
