import Mathlib.Order.Basic

/-!
# Loops that may not end

The body of a loop takes a state to the next, with an answer if the loop ends there. `after body n`
is the loop after `n` iterations, or as it ended.

- `after_of_ended`: a loop that has ended stays as it is.
- `after_add`: a loop that goes on, goes on from where it is.
- `ends_at`: the iteration at which a loop ends says all of it.
-/

namespace DoWhile

variable {σ β : Type*} {body : σ → σ × Option β}

/-- The state after some iterations, and the answer if the loop has ended. -/
def after (body : σ → σ × Option β) : Nat → σ → σ × Option β
  | 0, s => (s, none)
  | n + 1, s =>
    match after body n s with
    | (s, none) => body s
    | (s, some answer) => (s, some answer)

variable {s s' t : σ} {answer : β} {m n : Nat}

@[simp] theorem after_zero : after body 0 s = (s, none) := rfl

/-- One more iteration of a loop that goes on. -/
theorem after_succ (h : after body n s = (s', none)) : after body (n + 1) s = body s' := by
  rw [after, h]

theorem after_succ_of_ended (h : after body n s = (s', some answer)) :
    after body (n + 1) s = (s', some answer) := by
  rw [after, h]

/-- A loop that has ended stays as it is. -/
theorem after_of_ended (h : after body m s = (s', some answer)) (hle : m ≤ n) :
    after body n s = (s', some answer) := by
  induction hle with
  | refl => exact h
  | step _ ih => exact after_succ_of_ended ih

/-- A loop that goes on, goes on from where it is. -/
theorem after_add (h : after body m s = (s', none)) (n : Nat) :
    after body (m + n) s = after body n s' := by
  induction n with
  | zero => exact h
  | succ n ih => rw [← Nat.add_assoc, after, ih, after]

/-- **A loop that goes on for `m` iterations and ends with the next.** -/
theorem ends_at (h : after body m s = (s', none)) (hend : body s' = (t, some answer))
    (hlt : m < n) : after body n s = (t, some answer) :=
  after_of_ended ((after_succ h).trans hend) hlt

end DoWhile
