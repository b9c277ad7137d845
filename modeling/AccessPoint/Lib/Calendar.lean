import Mathlib.Algebra.BigOperators.Group.List.Basic
import Mathlib.Algebra.Order.Ring.Int

/-!
# The Gregorian calendar

Days are numbered from the first of January of the year 0, in both directions, by the rules of the
Gregorian calendar. `dayNumber` counts the days before a date, and `ofDayNumber` finds the date of
a day: it guesses the year from the mean length of one, which is off by one year at most.

`dayNumber_ofDayNumber` is the round trip. Months and days of a month are counted from 0.
-/

namespace Calendar

/-- A date, its month and its day counted from 0. -/
structure Date where
  year : Int
  month : Nat
  day : Int
  deriving DecidableEq, Repr

/-- A leap year. -/
def isLeap (year : Int) : Bool :=
  year % 4 = 0 && (year % 100 ≠ 0 || year % 400 = 0)

/-- The days of the months of a year. -/
def monthLengths (year : Int) : List Int :=
  [31, if isLeap year then 29 else 28, 31, 30, 31, 30, 31, 31, 30, 31, 30, 31]

/-- The number of the first day of a year: 365 for every year before it, and one for each leap
year. -/
def daysToYear (year : Int) : Int :=
  365 * year + (year + 3) / 4 - (year + 99) / 100 + (year + 399) / 400

/-- The number of the day of a date. -/
def dayNumber (date : Date) : Int :=
  daysToYear date.year + ((monthLengths date.year).take date.month).sum + date.day

/-- The year of a day: 400 years have 146097 days. -/
def yearOf (n : Int) : Int :=
  let year := 400 * n / 146097
  if n < daysToYear year then year - 1
  else if daysToYear (year + 1) ≤ n then year + 1
  else year

/-- The part that the `d`th element falls into, and its place there. -/
def locate : List Int → Int → Nat × Int
  | [], d => (0, d)
  | length :: lengths, d =>
    if d < length then (0, d)
    else ((locate lengths (d - length)).1 + 1, (locate lengths (d - length)).2)

/-- The date of a day. -/
def ofDayNumber (n : Int) : Date :=
  let year := yearOf n
  let located := locate (monthLengths year) (n - daysToYear year)
  { year, month := located.1, day := located.2 }

/-- The day of the week of a day, with Sunday as 0. -/
def weekday (n : Int) : Int :=
  (n + 6) % 7

/-! ## Years -/

theorem daysToYear_succ (year : Int) :
    daysToYear (year + 1) = daysToYear year + (monthLengths year).sum := by
  cases hleap : isLeap year with
  | true =>
    have hyear : year % 4 = 0 ∧ (year % 100 ≠ 0 ∨ year % 400 = 0) := by simpa [isLeap] using hleap
    have hsum : (monthLengths year).sum = 366 := by simp [monthLengths, hleap]
    rw [hsum, daysToYear, daysToYear]
    omega
  | false =>
    have hyear : ¬ (year % 4 = 0 ∧ (year % 100 ≠ 0 ∨ year % 400 = 0)) := by
      intro h
      have htrue : isLeap year = true := by simpa [isLeap] using h
      rw [hleap] at htrue
      cases htrue
    have hsum : (monthLengths year).sum = 365 := by simp [monthLengths, hleap]
    rw [hsum, daysToYear, daysToYear]
    omega

/-- **The guess is right after one correction.** -/
theorem yearOf_spec (n : Int) : daysToYear (yearOf n) ≤ n ∧ n < daysToYear (yearOf n + 1) := by
  have hlow : ∀ year : Int, year = 400 * n / 146097 → daysToYear (year - 1) ≤ n := by
    intro year hyear
    unfold daysToYear
    omega
  have hhigh : ∀ year : Int, year = 400 * n / 146097 → n < daysToYear (year + 1 + 1) := by
    intro year hyear
    unfold daysToYear
    omega
  unfold yearOf
  dsimp only
  split
  · next hless =>
    rw [Int.sub_add_cancel]
    exact ⟨hlow _ rfl, hless⟩
  · next hless =>
    split
    · next hmore => exact ⟨hmore, hhigh _ rfl⟩
    · next hmore => exact ⟨by omega, by omega⟩

/-! ## Months -/

/-- An element lies in the part it is located in, behind all the parts before. -/
theorem locate_spec (lengths : List Int) (d : Int) (h0 : 0 ≤ d) (hd : d < lengths.sum) :
    (locate lengths d).1 < lengths.length ∧ 0 ≤ (locate lengths d).2 ∧
      (∃ length ∈ lengths, (locate lengths d).2 < length) ∧
      (lengths.take (locate lengths d).1).sum + (locate lengths d).2 = d := by
  induction lengths generalizing d with
  | nil =>
    rw [List.sum_nil] at hd
    omega
  | cons length lengths ih =>
    rw [List.sum_cons] at hd
    by_cases hfirst : d < length
    · rw [locate, if_pos hfirst]
      exact ⟨Nat.succ_pos _, h0, ⟨length, List.mem_cons_self, hfirst⟩, by simp⟩
    · obtain ⟨hlt, hpos, ⟨other, hmem, hother⟩, hsum⟩ :=
        ih (d - length) (by omega) (by omega)
      rw [locate, if_neg hfirst]
      refine ⟨Nat.succ_lt_succ hlt, hpos, ⟨other, List.mem_cons_of_mem _ hmem, hother⟩, ?_⟩
      rw [List.take_succ_cons, List.sum_cons]
      omega

/-! ## Dates -/

/-- The day within its year. -/
theorem yearDay_bounds (n : Int) :
    0 ≤ n - daysToYear (yearOf n) ∧
      n - daysToYear (yearOf n) < (monthLengths (yearOf n)).sum := by
  obtain ⟨hlow, hhigh⟩ := yearOf_spec n
  rw [daysToYear_succ] at hhigh
  omega

/-- **The date of a day has the number of the day.** -/
theorem dayNumber_ofDayNumber (n : Int) : dayNumber (ofDayNumber n) = n := by
  obtain ⟨h0, hlt⟩ := yearDay_bounds n
  obtain ⟨-, -, -, hsum⟩ := locate_spec _ _ h0 hlt
  have hdate : dayNumber (ofDayNumber n) = daysToYear (yearOf n) +
      ((monthLengths (yearOf n)).take
        (locate (monthLengths (yearOf n)) (n - daysToYear (yearOf n))).1).sum +
      (locate (monthLengths (yearOf n)) (n - daysToYear (yearOf n))).2 := rfl
  omega

/-- No month has more than 31 days. -/
theorem le_of_mem_monthLengths {year length : Int} (h : length ∈ monthLengths year) :
    length ≤ 31 := by
  simp only [monthLengths, List.mem_cons, List.not_mem_nil, or_false] at h
  split at h <;> omega

/-- A date has a month of the year and a day of a month. -/
theorem ofDayNumber_bounds (n : Int) :
    (ofDayNumber n).month < 12 ∧ 0 ≤ (ofDayNumber n).day ∧ (ofDayNumber n).day < 31 := by
  obtain ⟨h0, hlt⟩ := yearDay_bounds n
  obtain ⟨hmonth, hday, ⟨length, hmem, hlength⟩, -⟩ := locate_spec _ _ h0 hlt
  exact ⟨hmonth, hday, Int.lt_of_lt_of_le hlength (le_of_mem_monthLengths hmem)⟩

end Calendar
