import LogQuery.Time.Calendar
import Mathlib.Algebra.Order.BigOperators.Group.List
import Mathlib.Algebra.Order.Ring.Nat
import Mathlib.Algebra.BigOperators.Group.List.Basic
import Mathlib.Order.Monotone.Basic
import Mathlib.Tactic.SplitIfs

/-!
# Days and their dates

The date that is computed for a day is its date in the proleptic Gregorian calendar: dates are the
days of the months of all years, counted one after the other, and the computed date is the only one
that is counted with this day (`dateOfDay_eq_iff`). Days are in the order of year, month and day of
the month (`dayOfDate_lt_iff`).
-/

namespace LogQuery.Time

/-! ## Years -/

/-- The months of a year make it up. -/
theorem sum_monthLengths (leap : Bool) :
    (monthLengths leap).sum = if leap then 366 else 365 := by
  cases leap
  · rfl
  · rfl

theorem isLeap_iff {year : Nat} :
    isLeap year = true ↔ year % 4 = 0 ∧ (year % 100 ≠ 0 ∨ year % 400 = 0) := by
  unfold isLeap
  rw [decide_eq_true_eq]
  omega

/-- A year begins after the months of the year before. -/
theorem daysBeforeYear_succ (year : Nat) :
    daysBeforeYear (year + 1) = daysBeforeYear year + (monthLengths (isLeap year)).sum := by
  have h₄ : (year + 1 + 3) / 4 = (year + 3) / 4 + if year % 4 = 0 then 1 else 0 := by
    split
    all_goals omega
  have h₁₀₀ : (year + 1 + 99) / 100 = (year + 99) / 100 + if year % 100 = 0 then 1 else 0 := by
    split
    all_goals omega
  have h₄₀₀ : (year + 1 + 399) / 400 = (year + 399) / 400 + if year % 400 = 0 then 1 else 0 := by
    split
    all_goals omega
  have hcenturies : (year + 99) / 100 ≤ year := by omega
  rw [sum_monthLengths]
  simp only [isLeap_iff]
  unfold daysBeforeYear
  rw [h₄, h₁₀₀, h₄₀₀]
  generalize (year + 3) / 4 = fours, (year + 99) / 100 = centuries, (year + 399) / 400 = cycles at *
  split_ifs
  all_goals omega

/-- On average a year has 365.2425 days. -/
theorem daysBeforeYear_bounds (year : Nat) :
    146097 * year ≤ 400 * daysBeforeYear year + 396 ∧
      400 * daysBeforeYear year ≤ 146097 * year + 699 := by
  unfold daysBeforeYear
  constructor
  · omega
  · omega

/-- A day lies in the year that it belongs to. -/
theorem yearOfDay_bounds (day : Nat) :
    daysBeforeYear (yearOfDay day) ≤ day ∧ day < daysBeforeYear (yearOfDay day + 1) := by
  have hguess := Nat.div_add_mod (400 * day) 146097
  have hrest := Nat.mod_lt (400 * day) (show 146097 > 0 by decide)
  unfold yearOfDay
  dsimp only
  generalize 400 * day / 146097 = guess at *
  -- the guess is off by one year at most
  split
  · rename_i hbefore
    have hpos : guess ≠ 0 := by
      rintro rfl
      exact Nat.not_lt_zero day hbefore
    have hyear := (daysBeforeYear_bounds (guess - 1)).2
    rw [Nat.sub_add_cancel (by omega)]
    omega
  · split
    · omega
    · have hyear := (daysBeforeYear_bounds (guess + 1 + 1)).1
      omega

theorem strictMono_daysBeforeYear : StrictMono daysBeforeYear := by
  refine strictMono_nat_of_lt_succ ?_
  intro year
  rw [daysBeforeYear_succ, sum_monthLengths]
  split
  · omega
  · omega

/-! ## Months -/

section Months

variable {lengths : List Nat} {i j length length' rest rest' : Nat}

/-- The day is so many days into one of the months. -/
theorem exists_monthAndDay {day : Nat} (h : day < lengths.sum) (month : Nat) :
    ∃ i length rest, lengths[i]? = some length ∧ rest < length ∧
      day = (lengths.take i).sum + rest ∧
      monthAndDay month lengths day = (month + i, rest + 1) := by
  induction lengths generalizing day month with
  | nil => exact absurd h (Nat.not_lt_zero day)
  | cons first lengths ih =>
    rw [monthAndDay]
    split
    · rename_i hlt
      exact ⟨0, first, day, rfl, hlt, by simp, rfl⟩
    · rename_i hge
      rw [List.sum_cons] at h
      have hinside : day - first < lengths.sum := by omega
      obtain ⟨i, length, rest, hlength, hrest, hday, hmonth⟩ := ih hinside (month + 1)
      refine ⟨i + 1, length, rest, hlength, hrest, ?_, ?_⟩
      · rw [List.take_succ_cons, List.sum_cons]
        omega
      · rw [hmonth, Nat.add_right_comm, Nat.add_assoc]

theorem sum_take_add_lt (hlength : lengths[i]? = some length) (hrest : rest < length)
    (hij : i < j) :
    (lengths.take i).sum + rest < (lengths.take j).sum := by
  obtain ⟨hi, rfl⟩ := List.getElem?_eq_some_iff.mp hlength
  have hle : (lengths.take (i + 1)).sum ≤ (lengths.take j).sum :=
    (List.take_sublist_take_left hij).sum_le_sum fun _ _ => Nat.zero_le _
  rw [List.sum_take_succ lengths i hi] at hle
  omega

/-- Days of a year are in the order of their months, those of a month in the order of their
numbers. -/
theorem sum_take_add_lt_iff (hlength : lengths[i]? = some length) (hrest : rest < length)
    (hlength' : lengths[j]? = some length') (hrest' : rest' < length') :
    (lengths.take i).sum + rest < (lengths.take j).sum + rest' ↔ i < j ∨ i = j ∧ rest < rest' := by
  rcases Nat.lt_trichotomy i j with hij | rfl | hji
  · have h := sum_take_add_lt hlength hrest hij
    omega
  · omega
  · have h := sum_take_add_lt hlength' hrest' hji
    omega

theorem sum_take_add_lt_sum (hlength : lengths[i]? = some length) (hrest : rest < length) :
    (lengths.take i).sum + rest < lengths.sum := by
  have hi : i < lengths.length := (List.getElem?_eq_some_iff.mp hlength).1
  have h := sum_take_add_lt hlength hrest hi
  rwa [List.take_length] at h

end Months

/-! ## Dates -/

/-- The number of the day with a date. -/
def dayOfDate (year month day : Nat) : Nat :=
  daysBeforeYear year + ((monthLengths (isLeap year)).take (month - 1)).sum + (day - 1)

/-- A date is a day of a month. -/
theorem isDate_iff {year : Int} {month day : Nat} :
    isDate year month day = true ↔ ∃ i length rest, (monthLengths (isLeap year))[i]? = some length ∧
      rest < length ∧ month = i + 1 ∧ day = rest + 1 := by
  unfold isDate
  constructor
  · intro h
    split at h
    · rename_i length hlength
      rw [decide_eq_true_eq] at h
      exact ⟨month - 1, length, day - 1, hlength, by omega, by omega, by omega⟩
    · cases h
  · rintro ⟨i, length, rest, hlength, hrest, rfl, rfl⟩
    rw [Nat.add_sub_cancel, hlength]
    simp only [decide_eq_true_eq]
    omega

/-- Every day has a date, and the day with this date is that day. -/
theorem isDate_dateOfDay (day : Nat) {year month dayOfMonth : Nat}
    (h : dateOfDay day = (year, month, dayOfMonth)) :
    isDate year month dayOfMonth = true ∧ dayOfDate year month dayOfMonth = day := by
  unfold dateOfDay at h
  obtain ⟨rfl, hmonth⟩ := Prod.mk.inj h
  obtain ⟨hle, hlt⟩ := yearOfDay_bounds day
  rw [daysBeforeYear_succ] at hlt
  have hinside : day - daysBeforeYear (yearOfDay day) <
      (monthLengths (isLeap (yearOfDay day))).sum := by omega
  obtain ⟨i, length, rest, hlength, hrest, hday, hdate⟩ := exists_monthAndDay hinside 1
  rw [hdate] at hmonth
  obtain ⟨rfl, rfl⟩ := Prod.mk.inj hmonth
  constructor
  · exact isDate_iff.mpr ⟨i, length, rest, hlength, hrest, Nat.add_comm 1 i, rfl⟩
  · rw [dayOfDate, Nat.add_sub_cancel_left, Nat.add_sub_cancel]
    omega

/-- Days are ordered as their dates are, by year, month and day. -/
theorem dayOfDate_lt_iff {year month day year' month' day' : Nat}
    (h : isDate year month day = true) (h' : isDate year' month' day' = true) :
    dayOfDate year month day < dayOfDate year' month' day' ↔
      year < year' ∨ year = year' ∧ (month < month' ∨ month = month' ∧ day < day') := by
  obtain ⟨i, length, rest, hlength, hrest, rfl, rfl⟩ := isDate_iff.mp h
  obtain ⟨j, length', rest', hlength', hrest', rfl, rfl⟩ := isDate_iff.mp h'
  have hsum := sum_take_add_lt_sum hlength hrest
  have hsum' := sum_take_add_lt_sum hlength' hrest'
  have hyear := daysBeforeYear_succ year
  have hyear' := daysBeforeYear_succ year'
  simp only [dayOfDate, Nat.add_sub_cancel]
  rcases Nat.lt_trichotomy year year' with hlt | rfl | hgt
  · have hle := strictMono_daysBeforeYear.monotone (Nat.succ_le_of_lt hlt)
    rw [Nat.succ_eq_add_one] at hle
    omega
  · have hmonths := sum_take_add_lt_iff hlength hrest hlength' hrest'
    omega
  · have hle := strictMono_daysBeforeYear.monotone (Nat.succ_le_of_lt hgt)
    rw [Nat.succ_eq_add_one] at hle
    omega

/-- The date of a day is the only one that has this day. -/
theorem dateOfDay_eq_iff {day year month dayOfMonth : Nat} :
    dateOfDay day = (year, month, dayOfMonth) ↔
      isDate year month dayOfMonth = true ∧ dayOfDate year month dayOfMonth = day := by
  constructor
  · exact isDate_dateOfDay day
  · rintro ⟨hdate, rfl⟩
    obtain ⟨year', month', dayOfMonth', h⟩ : ∃ y m d,
        dateOfDay (dayOfDate year month dayOfMonth) = (y, m, d) := ⟨_, _, _, rfl⟩
    obtain ⟨hdate', hday⟩ := isDate_dateOfDay _ h
    -- the computed date has the same day, so neither date is before the other
    have hlt := dayOfDate_lt_iff hdate hdate'
    have hgt := dayOfDate_lt_iff hdate' hdate
    rw [h, Prod.mk.injEq, Prod.mk.injEq]
    omega

theorem isDate_bounds {year : Int} {month day : Nat} (h : isDate year month day = true) :
    month < 100 ∧ day < 100 := by
  have hlengths : ∀ leap, ∀ length ∈ monthLengths leap, length < 100 := by decide
  obtain ⟨i, length, rest, hlength, hrest, rfl, rfl⟩ := isDate_iff.mp h
  have hi : i < 12 := (List.getElem?_eq_some_iff.mp hlength).1
  have hlt := hlengths _ length (List.mem_of_getElem? hlength)
  omega

end LogQuery.Time
