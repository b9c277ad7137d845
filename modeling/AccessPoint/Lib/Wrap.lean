import Mathlib.Data.Nat.Basic
import Mathlib.Data.UInt

/-!
# Readings of a counter that wraps

A counter goes up without bound and is read modulo `n`. Two readings say which of two counts is
the larger one only while the counter does not wrap between them; `mod_le_mod_iff` is the exact
condition, for counts that are less than half a turn from a common start.
-/

namespace Wrap

variable {n s x y : Nat}

/-- Counts of one turn compare as their readings do. -/
theorem mod_le_mod_of_div_eq (h : x / n = y / n) : x % n ≤ y % n ↔ x ≤ y := by
  have hx : n * (x / n) + x % n = x := Nat.div_add_mod x n
  have hy : n * (y / n) + y % n = y := Nat.div_add_mod y n
  rw [h] at hx
  omega

/-- A count on an earlier turn, half a turn away at most, has the larger reading. -/
theorem mod_lt_mod_of_div_lt (hn : 2 * (y - x) < n) (h : x / n < y / n) : y % n < x % n := by
  have hx : n * (x / n) + x % n = x := Nat.div_add_mod x n
  have hy : n * (y / n) + y % n = y := Nat.div_add_mod y n
  have hturn : n * (x / n) + n ≤ n * (y / n) := Nat.mul_le_mul_left n h
  have hlt : y % n < n := Nat.mod_lt y (by omega)
  omega

/-- **Readings compare as the counts do exactly when the counter does not wrap between them.** -/
theorem mod_le_mod_iff {half : Nat} (hn : n = 2 * half) (hx : s ≤ x ∧ x < s + half)
    (hy : s ≤ y ∧ y < s + half) : (x % n ≤ y % n ↔ x ≤ y) ↔ x / n = y / n := by
  constructor
  · intro h
    rcases Nat.lt_trichotomy (x / n) (y / n) with hlt | heq | hgt
    · have hread : y % n < x % n := mod_lt_mod_of_div_lt (by omega) hlt
      have hcount : x < y := Nat.lt_of_div_lt_div hlt
      omega
    · exact heq
    · have hread : x % n < y % n := mod_lt_mod_of_div_lt (by omega) hgt
      have hcount : y < x := Nat.lt_of_div_lt_div hgt
      omega
  · exact mod_le_mod_of_div_eq

end Wrap
