import HttpRouter.Calendar.Date
import Mathlib.Algebra.BigOperators.Group.List.Basic
import Mathlib.Algebra.GroupWithZero.Nat

/-!
# Dates and their numbers

The days of the calendar are numbered without a gap, so that dates and numbers correspond to each other. The year of a
day is guessed from the average length of a year, which is never far from the beginning of a year (`lt_yearStart_add`,
`yearStart_lt_add`) and so gives the year up to one; the month is found by counting off the days of the months before.

* `fallsIn_yearOfNumber`: the year that is found is the one that the day falls in;
* `ofNumber_number`, `number_ofNumber`: a date is found again from its number, and a number from its date;
* `valid_ofNumber`: the days below `dayCount` are the days of the calendar.
-/

namespace HttpRouter.Calendar

/-! ## Years -/

theorem isLeap_iff {year : Nat} : isLeap year = true ↔ 4 ∣ year ∧ (¬ 100 ∣ year ∨ 400 ∣ year) := by
  simp [isLeap, Nat.dvd_iff_mod_eq_zero]

theorem sum_monthLengths (year : Nat) : (monthLengths year).sum = if isLeap year then 366 else 365 := by
  rw [monthLengths]
  split <;> rfl

/-- A year has the days of its months. -/
theorem yearStart_succ {year : Nat} (h : 1 ≤ year) :
    yearStart (year + 1) = yearStart year + (monthLengths year).sum := by
  obtain ⟨y, rfl⟩ := Nat.exists_eq_add_of_le' h
  have hcentury : 400 ∣ y + 1 → 100 ∣ y + 1 := fun h => Nat.dvd_trans (by decide) h
  have hfourth : 100 ∣ y + 1 → 4 ∣ y + 1 := fun h => Nat.dvd_trans (by decide) h
  have hle : y / 100 ≤ y / 4 := Nat.div_le_div_left (by decide) (by decide)
  simp only [sum_monthLengths, isLeap_iff, yearStart, Nat.add_sub_cancel, Nat.succ_div]
  by_cases h4 : 4 ∣ y + 1 <;> by_cases h100 : 100 ∣ y + 1 <;> by_cases h400 : 400 ∣ y + 1 <;>
    simp_all <;> omega

/-- A later year begins later, by a year at least. -/
theorem yearStart_succ_le {year year' : Nat} (hone : 1 ≤ year) (h : year < year') :
    yearStart (year + 1) ≤ yearStart year' := by
  induction h with
  | refl => exact Nat.le_refl _
  | @step year' h ih =>
    rw [yearStart_succ (Nat.le_trans hone (Nat.le_of_succ_le h))]
    exact Nat.le_add_right_of_le ih

/-- Every four hundred years the calendar begins again. -/
theorem yearStart_add (cycles : Nat) {year : Nat} (h : 1 ≤ year) :
    yearStart (cycles * 400 + year) = cycles * 146097 + yearStart year := by
  simp only [yearStart]
  omega

/-- A year begins less than two days before the average says, -/
theorem lt_yearStart_add (y : Nat) : y * 146097 < (yearStart (y + 1) + 2) * 400 := by
  have hcentury : y / 100 = y / 4 / 25 := by rw [Nat.div_div_eq_div_mul]
  have hcycle : y / 400 = y / 4 / 25 / 4 := by rw [Nat.div_div_eq_div_mul, Nat.div_div_eq_div_mul]
  simp only [yearStart, Nat.add_sub_cancel, hcentury, hcycle]
  omega

/-- and less than one day after. -/
theorem yearStart_lt_add (y : Nat) : yearStart (y + 1) * 400 < y * 146097 + 400 := by
  have hcentury : y / 100 = y / 4 / 25 := by rw [Nat.div_div_eq_div_mul]
  have hcycle : y / 400 = y / 4 / 25 / 4 := by rw [Nat.div_div_eq_div_mul, Nat.div_div_eq_div_mul]
  simp only [yearStart, Nat.add_sub_cancel, hcentury, hcycle]
  omega

/-- Whether a day falls in a year. -/
structure FallsIn (n year : Nat) : Prop where
  one_le : 1 ≤ year
  start_le : yearStart year ≤ n
  lt_next : n < yearStart (year + 1)

/-- A day falls in one year only. -/
theorem FallsIn.unique {n year year' : Nat} (h : FallsIn n year) (h' : FallsIn n year') : year = year' := by
  rcases Nat.lt_trichotomy year year' with hlt | heq | hlt
  · have := yearStart_succ_le h.one_le hlt
    have := h.lt_next
    have := h'.start_le
    omega
  · exact heq
  · have := yearStart_succ_le h'.one_le hlt
    have := h'.lt_next
    have := h.start_le
    omega

namespace Date

/-- **The year of a day** is found. -/
theorem fallsIn_yearOfNumber (n : Nat) : FallsIn n (yearOfNumber n) := by
  -- The guess, of which the year before, the year itself and the year after come into question.
  obtain ⟨y, hy⟩ : ∃ y, y = n * 400 / 146097 := ⟨_, rfl⟩
  have hlow : y * 146097 ≤ n * 400 := by omega
  have hhigh : n * 400 < (y + 1) * 146097 := by omega
  have hnext := lt_yearStart_add (y + 1 + 1)
  rw [yearOfNumber, ← hy]
  split
  · next hbefore =>
    cases y with
    | zero => cases hbefore
    | succ y =>
      have hstart := yearStart_lt_add y
      refine ⟨Nat.le_add_left 1 y, ?_, hbefore⟩
      show yearStart (y + 1) ≤ n
      omega
  · next hstart =>
    split
    · next hafter => exact ⟨by omega, hafter, by omega⟩
    · next hbefore => exact ⟨by omega, by omega, by omega⟩

/-! ## Months -/

/-- **The month of a day** is found by counting off the months before it. -/
theorem ofDayOfYear_eq (lengths : List Nat) {k : Nat} (hk : k < lengths.length) {day : Nat} (hday : day < lengths[k])
    (month : Nat) : ofDayOfYear ((lengths.take k).sum + day) month lengths = (month + k, day + 1) := by
  induction lengths generalizing k month with
  | nil => cases hk
  | cons length rest ih =>
    cases k with
    | zero =>
      have hday : day < length := hday
      rw [List.take_zero, List.sum_nil, Nat.zero_add, ofDayOfYear, if_pos hday]
      rfl
    | succ k =>
      have hcounted : length + (rest.take k).sum + day - length = (rest.take k).sum + day := by omega
      rw [List.take_succ_cons, List.sum_cons, ofDayOfYear, if_neg (by omega), hcounted,
        ih (Nat.lt_of_succ_lt_succ hk) hday, Nat.add_right_comm, Nat.add_assoc]

/-- A day of a year is one of some month. -/
theorem exists_month {lengths : List Nat} {n : Nat} (h : n < lengths.sum) :
    ∃ (k : Nat) (hk : k < lengths.length) (day : Nat), day < lengths[k] ∧ n = (lengths.take k).sum + day := by
  induction lengths generalizing n with
  | nil => cases h
  | cons length rest ih =>
    rw [List.sum_cons] at h
    by_cases hn : n < length
    · exact ⟨0, Nat.succ_pos _, n, hn, (Nat.zero_add n).symm⟩
    · obtain ⟨k, hk, day, hday, heq⟩ := ih (show n - length < rest.sum by omega)
      refine ⟨k + 1, Nat.succ_lt_succ hk, day, hday, ?_⟩
      rw [List.take_succ_cons, List.sum_cons]
      omega

/-- The days of the first months of a year are not more than those of the year. -/
theorem sum_take_add_le (lengths : List Nat) {k : Nat} (hk : k < lengths.length) :
    (lengths.take k).sum + lengths[k] ≤ lengths.sum := by
  calc (lengths.take k).sum + lengths[k] = (lengths.take (k + 1)).sum := by
        rw [List.take_succ_eq_append_getElem hk, List.sum_append, List.sum_singleton]
    _ ≤ (lengths.take (k + 1)).sum + (lengths.drop (k + 1)).sum := Nat.le_add_right _ _
    _ = lengths.sum := List.sum_take_add_sum_drop _ _

/-! ## Dates and numbers -/

theorem number_eq (d : Date) :
    d.number = yearStart d.year + ((monthLengths d.year).take (d.month - 1)).sum + (d.day - 1) := by
  rw [number, List.sum_eq_foldl]

/-- The length of a month of the year. -/
theorem monthLength_succ {year k : Nat} (hk : k < (monthLengths year).length) :
    monthLength year (k + 1) = (monthLengths year)[k] := by
  rw [monthLength, if_neg (Nat.succ_ne_zero k), Nat.add_sub_cancel, List.getD_eq_getElem?_getD,
    List.getElem?_eq_getElem hk, Option.getD_some]

/-- No month has more than 31 days. -/
theorem day_le {d : Date} (h : d.Valid) : d.day ≤ 31 := by
  obtain ⟨-, -, hmonth, hlast, -, hday⟩ := h
  obtain ⟨k, hk⟩ := Nat.exists_eq_add_of_le' hmonth
  have hlength : k < (monthLengths d.year).length := by
    rw [length_monthLengths]
    omega
  have hshort : ∀ length ∈ monthLengths d.year, length ≤ 31 := by
    rw [monthLengths]
    split <;> decide
  rw [hk, monthLength_succ hlength] at hday
  exact Nat.le_trans hday (hshort _ (List.getElem_mem hlength))

/-- The date of a day of a month of a year is the one with the number of that day. -/
theorem ofNumber_eq {year k day : Nat} (hyear : 1 ≤ year) (hk : k < (monthLengths year).length)
    (hday : day < (monthLengths year)[k]) :
    ofNumber (yearStart year + ((monthLengths year).take k).sum + day) = ⟨year, k + 1, day + 1⟩ := by
  have hsum := sum_take_add_le (monthLengths year) hk
  have hnext := yearStart_succ hyear
  have hfalls : FallsIn (yearStart year + ((monthLengths year).take k).sum + day) year :=
    ⟨hyear, by omega, by omega⟩
  have hcounted : yearStart year + ((monthLengths year).take k).sum + day - yearStart year =
      ((monthLengths year).take k).sum + day := by omega
  simp only [ofNumber, (fallsIn_yearOfNumber _).unique hfalls, hcounted, ofDayOfYear_eq _ hk hday, Nat.add_comm 1]

/-- **A date is found again from its number.** -/
theorem ofNumber_number {d : Date} (h : d.Valid) : ofNumber d.number = d := by
  obtain ⟨year, month, day⟩ := d
  obtain ⟨hyear, -, hmonth, hlast, hday, hlength⟩ := h
  obtain ⟨k, rfl⟩ := Nat.exists_eq_add_of_le' hmonth
  obtain ⟨day, rfl⟩ := Nat.exists_eq_add_of_le' hday
  have hk : k < (monthLengths year).length := Nat.lt_of_succ_le hlast
  rw [monthLength_succ hk] at hlength
  rw [number_eq]
  exact ofNumber_eq hyear hk hlength

/-- Every number is that of a day of some month of some year. -/
theorem exists_eq_number (n : Nat) :
    ∃ (year k day : Nat) (hk : k < (monthLengths year).length), FallsIn n year ∧ day < (monthLengths year)[k] ∧
      n = yearStart year + ((monthLengths year).take k).sum + day := by
  have hfalls := fallsIn_yearOfNumber n
  have hnext := hfalls.lt_next
  rw [yearStart_succ hfalls.one_le] at hnext
  have hstart := hfalls.start_le
  have hday : n - yearStart (yearOfNumber n) < (monthLengths (yearOfNumber n)).sum := by omega
  obtain ⟨k, hk, day, hday, heq⟩ := exists_month hday
  exact ⟨_, k, day, hk, hfalls, hday, by omega⟩

/-- **A number is found again from its date.** -/
theorem number_ofNumber (n : Nat) : (ofNumber n).number = n := by
  obtain ⟨year, k, day, hk, hfalls, hday, rfl⟩ := exists_eq_number n
  rw [ofNumber_eq hfalls.one_le hk hday, number_eq]
  rfl

/-- The year of a date is the one that its day falls in. -/
theorem fallsIn_year_ofNumber (n : Nat) : FallsIn n (ofNumber n).year :=
  fallsIn_yearOfNumber n

/-- A day from the beginning of a year on falls in that year or a later one. -/
theorem le_year_ofNumber {n year : Nat} (h : yearStart year ≤ n) : year ≤ (ofNumber n).year := by
  have hfalls := fallsIn_year_ofNumber n
  refine Nat.le_of_not_lt fun hlate => ?_
  exact Nat.not_lt_of_le (Nat.le_trans (yearStart_succ_le hfalls.one_le hlate) h) hfalls.lt_next

/-- **The days of the calendar** are those with numbers below the count of them. -/
theorem valid_ofNumber {n : Nat} (h : n < dayCount) : (ofNumber n).Valid := by
  obtain ⟨year, k, day, hk, hfalls, hday, rfl⟩ := exists_eq_number n
  rw [ofNumber_eq hfalls.one_le hk hday]
  refine ⟨hfalls.one_le, ?_, Nat.le_add_left 1 k, hk, Nat.le_add_left 1 day, ?_⟩
  · -- A later year would begin behind the last day.
    refine Nat.le_of_not_lt fun hlate => ?_
    have hstart := yearStart_succ_le (by decide) hlate
    exact Nat.not_lt_of_le (Nat.le_trans hstart hfalls.start_le) h
  · rw [monthLength_succ hk]
    exact hday

end Date

end HttpRouter.Calendar
