import Mathlib.Logic.Function.Iterate
import AccessPoint.Lib.DoWhile
import AccessPoint.Script.RunScript

/-!
# The retries of `APsim::open`

`open` polls the event loop, and calls `m_pClientEngine.Open` if it finds the connection, or gives
up one of its tries if it does not. It goes on while it has tries left and does not find the
connection then. A connection that is found and lost again in `Open` costs no try.

What the poll and `Open` make of the connection is data here: two observations for each iteration,
which may be anything. `gives_up_iff` says when `open` gives up in time and calls `Open` once at
most: when the connection it finds first is still there after `Open`.

The loop of `AccessPoint.Script.RunScript` is this one in an environment that loses no connection.
-/

namespace AccessPoint.Script

open IoService

/-- `m_pSocket->IsConnected()` and `m_pClientEngine.IsTransportConnected()`. -/
structure Connection where
  isConnected : Bool
  isTransportConnected : Bool
  deriving DecidableEq, Repr

/-- Both are connected. -/
def Connection.established (c : Connection) : Bool :=
  c.isConnected && c.isTransportConnected

/-- The connection after the poll of each iteration, and after its call of `Open`, if there is
one. -/
structure Environment where
  afterPoll : Nat → Connection
  afterOpen : Nat → Connection

/-- The variables of `open`: the iterations so far, `tries`, and the calls of `Open`. -/
structure OpenLoop where
  iteration : Nat
  tries : Int
  opens : Nat
  deriving DecidableEq, Repr

namespace OpenLoop

/-- Before the first iteration. -/
def start : OpenLoop :=
  { iteration := 0, tries := maxTries, opens := 0 }

/-- The `while`, for what the iteration sees last, and what `open` returns behind it: `tries`, as a
`bool`. -/
def goesOn (seen : Connection) (s : OpenLoop) : OpenLoop × Option Bool :=
  if !seen.established && s.tries > 0 then (s, none) else (s, some (s.tries ≠ 0))

/-- One iteration. `m_pSocket` is set as long as the `APsim` lives. -/
def body (env : Environment) (s : OpenLoop) : OpenLoop × Option Bool :=
  let polled := env.afterPoll s.iteration
  let iteration := s.iteration + 1
  if polled.established then
    goesOn (env.afterOpen s.iteration) { s with iteration, opens := s.opens + 1 }
  else goesOn polled { s with iteration, tries := s.tries - 1 }

/-- The loop after some iterations. -/
def after (env : Environment) (n : Nat) : OpenLoop × Option Bool :=
  DoWhile.after (body env) n start

/-- `open` returns after `max_tries` iterations at most, calls `Open` once at most, and has called
it when it returns true. -/
structure GivesUp (env : Environment) : Prop where
  returns : ∃ n ≤ maxTries, ∃ s answer, after env n = (s, some answer)
  once : ∀ n, (after env n).1.opens ≤ 1
  opened : ∀ n, (after env n).2 = some true → (after env n).1.opens = 1

/-- The connection that is found first, if one of the tries finds it, is still there after
`Open`. -/
def StaysConnected (env : Environment) : Prop :=
  ∀ k < maxTries, (∀ j < k, (env.afterPoll j).established = false) →
    (env.afterPoll k).established = true → (env.afterOpen k).established = true

/-! ## One iteration -/

section Iteration

variable {env : Environment} {s : OpenLoop}

/-- Without the connection a try is given up. -/
theorem body_unconnected (h : (env.afterPoll s.iteration).established = false) :
    body env s =
      ({ s with iteration := s.iteration + 1, tries := s.tries - 1 },
        if 1 < s.tries then none else some (decide (s.tries - 1 ≠ 0))) := by
  unfold body
  rw [if_neg (by simp [h]), goesOn, h]
  by_cases htries : 1 < s.tries
  · simp [htries]
  · simp [htries]

/-- With the connection `Open` is called; if that loses it, the loop goes on with the tries it
had. -/
theorem body_connected (h : (env.afterPoll s.iteration).established = true)
    (htries : 0 < s.tries) :
    body env s =
      ({ s with iteration := s.iteration + 1, opens := s.opens + 1 },
        if (env.afterOpen s.iteration).established then some true else none) := by
  unfold body
  rw [if_pos h, goesOn]
  cases (env.afterOpen s.iteration).established with
  | true =>
    have hne : s.tries ≠ 0 := by omega
    simp [hne]
  | false => simp [htries]

end Iteration

/-! ## Some iterations -/

section Iterations

variable {env : Environment} {s : OpenLoop} {k : Nat}

/-- While no poll finds the connection, the tries go down. -/
theorem idle (htries : (k : Int) < s.tries)
    (h : ∀ j < k, (env.afterPoll (s.iteration + j)).established = false) :
    DoWhile.after (body env) k s =
      ({ s with iteration := s.iteration + k, tries := s.tries - k }, none) := by
  induction k with
  | zero => simp
  | succ k ih =>
    have hprev := ih (by omega) fun j hj => h j (by omega)
    rw [DoWhile.after_succ hprev, body_unconnected (h k (by omega)), if_pos (by simp; omega)]
    simp
    omega

/-- The loop before the `k`th poll, when no poll has found the connection. -/
theorem after_idle (hk : k < maxTries)
    (h : ∀ j < k, (env.afterPoll j).established = false) :
    after env k = ({ iteration := k, tries := maxTries - k, opens := 0 }, none) := by
  have hidle := @idle env start k (by simpa [start] using hk)
    (by simpa [start] using h)
  simpa [start, after] using hidle

/-- When no try finds the connection, `open` returns false with the last. -/
theorem after_exhausted (h : ∀ j < maxTries, (env.afterPoll j).established = false) {n : Nat}
    (hn : maxTries ≤ n) :
    after env n = ({ iteration := maxTries, tries := 0, opens := 0 }, some false) := by
  have hpos : 0 < maxTries := by decide
  have hidle := after_idle (k := maxTries - 1) (by decide) fun j hj => h j (by omega)
  apply DoWhile.ends_at hidle _ (by omega)
  rw [body_unconnected (h (maxTries - 1) (by decide)), if_neg (by decide)]
  rfl

/-- When a try finds the connection and `Open` keeps it, `open` returns true with that try. -/
theorem after_found (hk : k < maxTries) (hidle : ∀ j < k, (env.afterPoll j).established = false)
    (hfound : (env.afterPoll k).established = true)
    (hkept : (env.afterOpen k).established = true) {n : Nat} (hn : k < n) :
    after env n = ({ iteration := k + 1, tries := maxTries - k, opens := 1 }, some true) := by
  apply DoWhile.ends_at (after_idle hk hidle) _ hn
  rw [body_connected hfound (by simp; omega), if_pos hkept]

/-- When `Open` loses it, the loop goes on with all the tries it had. -/
theorem after_lost (hk : k < maxTries) (hidle : ∀ j < k, (env.afterPoll j).established = false)
    (hfound : (env.afterPoll k).established = true)
    (hlost : (env.afterOpen k).established = false) :
    after env (k + 1) = ({ iteration := k + 1, tries := maxTries - k, opens := 1 }, none) := by
  apply (DoWhile.after_succ (after_idle hk hidle)).trans
  rw [body_connected hfound (by simp; omega), hlost]
  rfl

end Iterations

/-! ## All of them -/

/-- What never is, or a first time that it is. -/
theorem never_or_first (p : Nat → Bool) (m : Nat) :
    (∀ j < m, p j = false) ∨ ∃ k < m, (∀ j < k, p j = false) ∧ p k = true := by
  induction m with
  | zero => exact .inl nofun
  | succ m ih =>
    rcases ih with hnever | ⟨k, hk, hfirst⟩
    · cases hm : p m with
      | true => exact .inr ⟨m, Nat.lt_succ_self m, hnever, hm⟩
      | false =>
        refine .inl fun j hj => ?_
        rcases Nat.lt_succ_iff_lt_or_eq.mp hj with hlt | rfl
        · exact hnever j hlt
        · exact hm
    · exact .inr ⟨k, Nat.lt_succ_of_lt hk, hfirst⟩

variable {env : Environment}

/-- **`open` gives up** when it keeps the connection that it finds first. -/
theorem StaysConnected.givesUp (h : StaysConnected env) : GivesUp env := by
  rcases never_or_first (fun k => (env.afterPoll k).established) maxTries with
    hnever | ⟨k, hk, hidle, hfound⟩
  · have hall : ∀ n, (after env n).1.opens = 0 ∧ (after env n).2 ≠ some true := by
      intro n
      by_cases hn : maxTries ≤ n
      · rw [after_exhausted hnever hn]
        exact ⟨rfl, nofun⟩
      · rw [after_idle (Nat.lt_of_not_le hn) fun j hj => hnever j (by omega)]
        exact ⟨rfl, nofun⟩
    refine ⟨⟨maxTries, Nat.le_refl _, _, _, after_exhausted hnever (Nat.le_refl _)⟩, ?_, ?_⟩
    · intro n
      rw [(hall n).1]
      exact Nat.zero_le 1
    · intro n htrue
      exact absurd htrue (hall n).2
  · have hkept := h k hk hidle hfound
    have hall : ∀ n, k < n ∨ (after env n).1.opens = 0 ∧ (after env n).2 = none := by
      intro n
      by_cases hn : k < n
      · exact .inl hn
      · rw [after_idle (by omega) fun j hj => hidle j (by omega)]
        exact .inr ⟨rfl, rfl⟩
    refine ⟨⟨k + 1, hk, _, _, after_found hk hidle hfound hkept (Nat.lt_succ_self k)⟩, ?_, ?_⟩
    · intro n
      rcases hall n with hn | ⟨hopens, -⟩
      · exact Nat.le_of_eq (by rw [after_found hk hidle hfound hkept hn])
      · rw [hopens]
        exact Nat.zero_le 1
    · intro n htrue
      rcases hall n with hn | ⟨-, hnone⟩
      · rw [after_found hk hidle hfound hkept hn]
      · rw [hnone] at htrue
        cases htrue

/-- A connection that is found first and lost: `Open` is called again, or the tries outlast the
iterations. -/
theorem GivesUp.kept (h : GivesUp env) {k : Nat} (hk : k < maxTries)
    (hidle : ∀ j < k, (env.afterPoll j).established = false)
    (hfound : (env.afterPoll k).established = true) : (env.afterOpen k).established = true := by
  by_contra hnot
  rw [Bool.not_eq_true] at hnot
  have hlost := after_lost hk hidle hfound hnot
  rcases never_or_first (fun j => (env.afterPoll (k + 1 + j)).established) (maxTries - k - 1) with
    hnever | ⟨m, hm, hidle', hagain⟩
  · have hgoing := (DoWhile.after_add hlost (maxTries - k - 1)).trans
      (idle (by simp; omega) hnever)
    rw [show k + 1 + (maxTries - k - 1) = maxTries by omega] at hgoing
    obtain ⟨n, hn, s, answer, hended⟩ := h.returns
    cases hgoing.symm.trans (DoWhile.after_of_ended hended hn)
  · have hgoing := (DoWhile.after_add hlost m).trans (idle (by simp; omega) hidle')
    have hnext := (DoWhile.after_succ hgoing).trans
      (body_connected hagain (by simp; omega))
    have honce := h.once (k + 1 + m + 1)
    unfold after at honce
    rw [hnext] at honce
    exact Nat.not_succ_le_self 1 honce

/-- **`open` gives up in time exactly when the connection that it finds first is still there after
`Open`.** The environment is any sequence of what the polls and the calls of `Open` leave behind.
Giving up in time is to return after `max_tries` iterations at most, to have called `Open` once at
most, and to have called it when the answer is true. A connection that is lost at once is looked for
again with no try used up. -/
theorem gives_up_iff (env : Environment) : GivesUp env ↔ StaysConnected env := by
  constructor
  · intro h k hk hidle hfound
    exact h.kept hk hidle hfound
  · exact StaysConnected.givesUp

/-- A connection that is there after every poll and lost in every `Open`. -/
def flapping : Environment where
  afterPoll _ := { isConnected := true, isTransportConnected := true }
  afterOpen _ := { isConnected := false, isTransportConnected := false }

/-- Then `open` never returns. -/
theorem flapping_goes_on (n : Nat) :
    after flapping n = ({ iteration := n, tries := maxTries, opens := n }, none) := by
  induction n with
  | zero => rfl
  | succ n ih =>
    apply (DoWhile.after_succ ih).trans
    have htries : (0 : Int) < maxTries := by decide
    rw [body_connected rfl htries]
    rfl

theorem not_gives_up : ¬ ∀ env : Environment, GivesUp env := by
  intro h
  have honce := (h flapping).once 2
  rw [flapping_goes_on 2] at honce
  exact absurd honce (by decide)

/-! ## The loop of a round -/

/-- What `open` sees of its `APsim`. -/
def observed (w : Loop Library Handler) : Connection :=
  { isConnected := w.state.apsim.isOpen, isTransportConnected := w.state.apsim.transportConnected }

/-- The request that `Open` sends changes nothing of it. -/
theorem observed_respond (reaction : Option (Nat × Apdu)) (w : Loop Library Handler) :
    observed (respond reaction w) = observed w := by
  cases reaction with
  | none => rfl
  | some reaction => rfl

/-- The event loop and the meter as an environment. -/
def environmentOf (meter : Meter) (w : Loop Library Handler) : Environment where
  afterPoll k := observed ((poll run)^[k + 1] w)
  afterOpen k := observed (respond meter.onOpen ((poll run)^[k + 1] w))

theorem afterOpen_environmentOf (meter : Meter) (w : Loop Library Handler) (k : Nat) :
    (environmentOf meter w).afterOpen k = (environmentOf meter w).afterPoll k :=
  observed_respond meter.onOpen _

/-- The loop of a round is left with the first poll that finds the connection. -/
theorem tryOpen_iff (meter : Meter) {tries : Nat} {w : Loop Library Handler} :
    (tryOpen meter tries w).2 = true ↔
      ∃ k < tries, ((environmentOf meter w).afterPoll k).established = true := by
  induction tries generalizing w with
  | zero => exact iff_of_false nofun (fun ⟨_, hk, _⟩ => absurd hk (Nat.not_lt_zero _))
  | succ tries ih =>
    have hnext : ∀ k, (environmentOf meter (poll run w)).afterPoll k =
        (environmentOf meter w).afterPoll (k + 1) := fun _ => rfl
    have hpolled : (observed (poll run w)).established =
        ((poll run w).state.apsim.isOpen && (poll run w).state.apsim.transportConnected) := rfl
    unfold tryOpen
    cases hfound : (observed (poll run w)).established with
    | true =>
      rw [if_pos (hpolled ▸ hfound)]
      exact iff_of_true rfl ⟨0, Nat.succ_pos tries, hfound⟩
    | false =>
      rw [if_neg (by rw [← hpolled, hfound]; nofun), ih]
      constructor
      · intro ⟨k, hk, hconnected⟩
        exact ⟨k + 1, Nat.succ_lt_succ hk, hconnected⟩
      · intro ⟨k, hk, hconnected⟩
        cases k with
        | zero =>
          have hnow : (observed (poll run w)).established = true := hconnected
          rw [hfound] at hnow
          cases hnow
        | succ k => exact ⟨k, Nat.lt_of_succ_lt_succ hk, hconnected⟩

/-- **The loop of a round is this one**, and gives up in time. -/
theorem tryOpen_refines (meter : Meter) (w : Loop Library Handler) :
    GivesUp (environmentOf meter w) ∧
      ∃ n ≤ maxTries, ∃ s,
        after (environmentOf meter w) n = (s, some (tryOpen meter maxTries w).2) := by
  have hkept : ∀ k, ((environmentOf meter w).afterPoll k).established = true →
      ((environmentOf meter w).afterOpen k).established = true := by
    intro k hfound
    rw [afterOpen_environmentOf]
    exact hfound
  refine ⟨StaysConnected.givesUp fun k _ _ => hkept k, ?_⟩
  rcases never_or_first (fun k => ((environmentOf meter w).afterPoll k).established) maxTries with
    hnever | ⟨k, hk, hidle, hfound⟩
  · have hfalse : (tryOpen meter maxTries w).2 = false := by
      rw [← Bool.not_eq_true, tryOpen_iff]
      intro ⟨k, hk, hfound⟩
      rw [hnever k hk] at hfound
      cases hfound
    rw [hfalse]
    exact ⟨maxTries, Nat.le_refl _, _, after_exhausted hnever (Nat.le_refl _)⟩
  · rw [(tryOpen_iff meter).mpr ⟨k, hk, hfound⟩]
    exact ⟨k + 1, hk, _, after_found hk hidle hfound (hkept k hfound) (Nat.lt_succ_self k)⟩

end OpenLoop

end AccessPoint.Script
