import Mathlib.Data.List.Perm.Basic
import AccessPoint.Lib.Run

/-!
# Notices that are due

A machine whose steps have effects gives notice by one of them. The notices are counted, and some
steps start the count anew. What there is to give notice of is made by the steps and falls due
later, in an order that the environment decides: `due` counts what was made and waits.

- `Lawful`: a step leaves due or gives no more than was due and it makes, and exactly that when it
  makes anything; and what is due can be given.
- `Lawful.once_iff`: the exact condition for at most one notice. Whatever makes one makes it alone,
  when none has been given and none is due.
-/

/-- What gives notices: a step with its effects, the effect that is the notice, the steps that start
the count anew, what is due, what a step makes, and the steps that only give what is due. -/
structure Notifier (σ α ε : Type*) where
  step : σ → α → σ × Option ε
  notice : ε
  starts : σ → α → Bool
  due : σ → Nat
  makes : σ → α → Nat
  Gives : σ → α → Prop

namespace Notifier

/-- A state, and the notices given since the count last started. -/
structure Counted (σ : Type*) where
  state : σ
  notices : Nat
  deriving DecidableEq, Repr

variable {σ α ε : Type*} [DecidableEq ε] (N : Notifier σ α ε)

/-- What an effect gives. -/
def given (effect : Option ε) : Nat :=
  if effect = some N.notice then 1 else 0

/-- One step, counted. -/
def count (t : Counted σ) (a : α) : Counted σ :=
  { state := (N.step t.state a).1
    notices := if N.starts t.state a then 0 else t.notices + N.given (N.step t.state a).2 }

/-- A step that only gives what is due. -/
def Giving (t : Counted σ) (a : α) : Prop :=
  N.Gives t.state a

/-- At most one notice has been given, also when what is due has been. -/
def AtMostOnce (t : Counted σ) : Prop :=
  ∀ as, Run.Along N.count N.Giving t as → (as.foldl N.count t).notices ≤ 1

/-- A step that makes no notice, or makes one when none is given or due. -/
def Lone (t : Counted σ) (a : α) : Prop :=
  N.makes t.state a ≠ 0 → N.makes t.state a = 1 ∧ t.notices = 0 ∧ N.due t.state = 0

/-- What a step makes is given at once or due after it; what gives nothing may forget. -/
structure Settles (s : σ) (a : α) : Prop where
  le : N.due (N.step s a).1 + N.given (N.step s a).2 ≤ N.due s + N.makes s a
  eq : N.makes s a ≠ 0 → N.due (N.step s a).1 + N.given (N.step s a).2 = N.due s + N.makes s a

/-- The laws: steps settle, those that start the count or only give make nothing, those that only
give do not start it, and what is due can be given, after a step that sees to it. -/
structure Lawful : Prop where
  settles : ∀ s a, N.Settles s a
  makes_of_starts : ∀ s a, N.starts s a = true → N.makes s a = 0
  makes_of_gives : ∀ s a, N.Gives s a → N.makes s a = 0
  starts_of_gives : ∀ s a, N.Gives s a → N.starts s a = false
  give : ∀ s, N.due s ≠ 0 → ∃ a b s' s'',
    N.Gives s a ∧ N.step s a = (s', none) ∧
      N.Gives s' b ∧ N.step s' b = (s'', some N.notice) ∧ N.due s'' + 1 = N.due s

variable {N} {s s' : σ} {a : α} {effect : Option ε} {t : Counted σ}

theorem Settles.of_eq (hstep : N.step s a = (s', effect))
    (h : N.due s' + N.given effect = N.due s + N.makes s a) : N.Settles s a := by
  have hsettled : N.due (N.step s a).1 + N.given (N.step s a).2 = N.due s + N.makes s a := by
    rwa [hstep]
  exact ⟨Nat.le_of_eq hsettled, fun _ => hsettled⟩

theorem Settles.of_le (hstep : N.step s a = (s', effect)) (hnone : N.makes s a = 0)
    (h : N.due s' + N.given effect ≤ N.due s) : N.Settles s a := by
  refine ⟨?_, absurd hnone⟩
  rwa [hstep, hnone]

/-- Taking one thing out of what waits. -/
theorem countP_eraseIdx {β : Type*} {p : β → Bool} {xs : List β} {which : Nat} {x : β}
    (h : xs[which]? = some x) :
    (xs.eraseIdx which).countP p + (if p x then 1 else 0) = xs.countP p := by
  obtain ⟨hlt, rfl⟩ := List.getElem?_eq_some_iff.mp h
  rw [← List.countP_cons]
  exact (List.getElem_cons_eraseIdx_perm hlt).countP_eq p

namespace Lawful

/-- What is given and due after a step. -/
theorem count_le (L : N.Lawful) (t : Counted σ) (a : α) :
    (N.count t a).notices + N.due (N.count t a).state ≤
      t.notices + N.due t.state + N.makes t.state a := by
  have hle := (L.settles t.state a).le
  unfold count
  dsimp only
  split
  · omega
  · omega

/-- And exactly that, if it makes anything. -/
theorem count_eq (L : N.Lawful) (h : N.makes t.state a ≠ 0) :
    (N.count t a).notices + N.due (N.count t a).state =
      t.notices + N.due t.state + N.makes t.state a := by
  have heq := (L.settles t.state a).eq h
  unfold count
  dsimp only
  rw [if_neg]
  · omega
  · intro hstarts
    exact h (L.makes_of_starts t.state a hstarts)

/-- One step that only gives. -/
theorem count_of_gives (L : N.Lawful) (hgives : N.Gives t.state a)
    (hstep : N.step t.state a = (s', effect)) :
    N.count t a = { state := s', notices := t.notices + N.given effect } := by
  unfold count
  rw [L.starts_of_gives t.state a hgives, if_neg Bool.false_ne_true, hstep]

/-- What is due can be given in a run. -/
theorem give_one (L : N.Lawful) (h : N.due t.state ≠ 0) :
    ∃ as, Run.Along N.count N.Giving t as ∧
      (as.foldl N.count t).notices = t.notices + 1 ∧
        N.due (as.foldl N.count t).state + 1 = N.due t.state := by
  obtain ⟨a, b, s', s'', hgives, hstep, hgives', hstep', hdue⟩ := L.give t.state h
  have hfirst := L.count_of_gives hgives hstep
  have hsecond : N.count (N.count t a) b = { state := s'', notices := t.notices + 1 } := by
    rw [hfirst]
    refine (L.count_of_gives hgives' hstep').trans ?_
    simp [given]
  refine ⟨[a, b], ⟨hgives, ?_, trivial⟩, ?_⟩
  · rw [hfirst]
    exact hgives'
  · show (N.count (N.count t a) b).notices = _ ∧ N.due (N.count (N.count t a) b).state + 1 = _
    rw [hsecond]
    exact ⟨rfl, hdue⟩

/-- What is given and what is due together are at most one. -/
theorem atMostOnce_of_le (L : N.Lawful) (h : t.notices + N.due t.state ≤ 1) : N.AtMostOnce t := by
  intro as hgives
  have hkeeps : ∀ (t : Counted σ) a, t.notices + N.due t.state ≤ 1 → N.Giving t a →
      (N.count t a).notices + N.due (N.count t a).state ≤ 1 := by
    intro t a ht ha
    have hle := L.count_le t a
    rw [L.makes_of_gives t.state a ha] at hle
    exact Nat.le_trans hle ht
  exact Nat.le_trans (Nat.le_add_right _ _) (hgives.invariant h hkeeps)

/-- Everything due can be given, the induction being on what is due. -/
theorem le_of_atMostOnce (L : N.Lawful) (h : N.AtMostOnce t) : t.notices + N.due t.state ≤ 1 := by
  induction hdue : N.due t.state generalizing t with
  | zero => exact h [] trivial
  | succ n ih =>
    obtain ⟨as, hgives, hnotices, hless⟩ := L.give_one (t := t) (by omega)
    have hrest : N.AtMostOnce (as.foldl N.count t) := by
      intro bs hbs
      rw [← List.foldl_append]
      exact h (as ++ bs) (Run.along_append.mpr ⟨hgives, hbs⟩)
    have hle := ih hrest (by omega)
    omega

/-- **At most one notice** in every state of a run, and of what is due in it: when every step that
makes one makes it alone. -/
theorem once_iff (L : N.Lawful) {as : List α} (h0 : t.notices + N.due t.state ≤ 1) :
    Run.Always N.count N.AtMostOnce t as ↔ Run.Along N.count N.Lone t as := by
  refine Run.always_iff_along h0 ?_ (fun t ht => L.atMostOnce_of_le ht) ?_
  · intro t a ht hlone
    have hle := L.count_le t a
    by_cases hmakes : N.makes t.state a = 0
    · omega
    · obtain ⟨hone, hgiven, hdue⟩ := hlone hmakes
      omega
  · intro t a ht hnot honce
    obtain ⟨hmakes, halone⟩ := Classical.not_imp.mp hnot
    have heq := L.count_eq hmakes
    have hle := L.le_of_atMostOnce honce
    omega

end Lawful

end Notifier
