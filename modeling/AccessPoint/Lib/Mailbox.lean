import AccessPoint.Lib.Run
import Mathlib.Data.List.Perm.Basic
import Mathlib.Data.List.ReduceOption

/-!
# A mailbox with room for one letter

Letters are sent, get lost on the way, or arrive in any order. A mailbox has room for one of them:
a letter that arrives takes the place of the one that waits. Its owner comes when it likes, takes
what waits, and gives an answer to it, or to nothing.

`Accounts` is the account that can be given of all letters at any time, and `accounts_run` gives it.
-/

/-- The letters sent, those on the way, those that have arrived, the one that waits, the answers
given, each to a letter or to none, and the letters that were lost or replaced. -/
structure Mailbox (ρ : Type*) where
  sent : List ρ
  onTheWay : List ρ
  arrived : List ρ
  waiting : Option ρ
  answered : List (Option ρ)
  dropped : List ρ
  deriving DecidableEq, Repr

namespace Mailbox

/-- What happens to the letters; `which` is a place among those on the way. -/
inductive Event (ρ : Type*) where
  | send (letter : ρ)
  | arrive (which : Nat)
  | lose (which : Nat)
  | answer
  deriving DecidableEq, Repr

variable {ρ : Type*}

/-- No letter has been sent. -/
def empty : Mailbox ρ :=
  { sent := [], onTheWay := [], arrived := [], waiting := none, answered := [], dropped := [] }

/-- One event. -/
def step (m : Mailbox ρ) : Event ρ → Mailbox ρ
  | .send letter =>
    { m with
      sent := m.sent ++ [letter]
      onTheWay := m.onTheWay ++ [letter] }
  | .arrive which =>
    match m.onTheWay[which]? with
    | none => m
    | some letter =>
      { m with
        onTheWay := m.onTheWay.eraseIdx which
        arrived := m.arrived ++ [letter]
        waiting := some letter
        dropped := m.dropped ++ m.waiting.toList }
  | .lose which =>
    match m.onTheWay[which]? with
    | none => m
    | some letter =>
      { m with
        onTheWay := m.onTheWay.eraseIdx which
        dropped := m.dropped ++ [letter] }
  | .answer => { m with waiting := none, answered := m.answered ++ [m.waiting] }

/-- The letters that have been answered, and the one that is going to be. -/
def kept (m : Mailbox ρ) : List ρ :=
  m.answered.reduceOption ++ m.waiting.toList

/-- The account of the letters sent: each is on its way, or has been dropped, or waits, or has been
answered once; those that were kept were so in the order in which they arrived; and the last that
arrived was. -/
structure Accounts (m : Mailbox ρ) : Prop where
  all : m.sent.Perm (m.onTheWay ++ m.dropped ++ m.kept)
  order : m.kept.Sublist m.arrived
  newest : m.kept.getLast? = m.arrived.getLast?

theorem Accounts.empty : (empty (ρ := ρ)).Accounts :=
  ⟨.nil, List.nil_sublist [], rfl⟩

variable {m : Mailbox ρ}

theorem kept_answer (m : Mailbox ρ) : (m.step .answer).kept = m.kept := by
  rw [kept, step, List.reduceOption_append, List.reduceOption_singleton, Option.toList_none,
    List.append_nil, kept]

/-- A letter that is no longer on the way, counted. -/
theorem count_taken [DecidableEq ρ] {which : Nat} (h : which < m.onTheWay.length) (letter : ρ) :
    m.onTheWay.count letter =
      [m.onTheWay[which]].count letter + (m.onTheWay.eraseIdx which).count letter := by
  rw [← (List.getElem_cons_eraseIdx_perm h).count_eq letter, ← List.count_append]
  rfl

/-- **One event keeps the account.** The letters are counted one by one. -/
theorem Accounts.step (h : m.Accounts) (event : Event ρ) : (m.step event).Accounts := by
  classical
  cases event with
  | send letter =>
    refine ⟨?_, h.order, h.newest⟩
    refine List.perm_iff_count.mpr fun a => ?_
    have hall := h.all.count_eq a
    simp only [Mailbox.step, kept, List.count_append] at hall ⊢
    omega
  | answer =>
    have hkept := kept_answer m
    refine ⟨?_, ?_, ?_⟩
    · rw [hkept]
      exact h.all
    · rw [hkept]
      exact h.order
    · rw [hkept]
      exact h.newest
  | lose which =>
    simp only [Mailbox.step]
    cases hletter : m.onTheWay[which]? with
    | none => exact h
    | some letter =>
      obtain ⟨hlt, rfl⟩ := List.getElem?_eq_some_iff.mp hletter
      refine ⟨?_, h.order, h.newest⟩
      refine List.perm_iff_count.mpr fun a => ?_
      have hall := h.all.count_eq a
      have htaken := count_taken hlt a
      simp only [kept, List.count_append] at hall ⊢
      omega
  | arrive which =>
    simp only [Mailbox.step]
    cases hletter : m.onTheWay[which]? with
    | none => exact h
    | some letter =>
      obtain ⟨hlt, rfl⟩ := List.getElem?_eq_some_iff.mp hletter
      refine ⟨?_, ?_, ?_⟩
      · refine List.perm_iff_count.mpr fun a => ?_
        have hall := h.all.count_eq a
        have htaken := count_taken hlt a
        simp only [kept, Option.toList_some, List.count_append] at hall ⊢
        omega
      · exact ((List.sublist_append_left _ _).trans h.order).append (List.Sublist.refl _)
      · show (m.answered.reduceOption ++ [m.onTheWay[which]]).getLast? =
          (m.arrived ++ [m.onTheWay[which]]).getLast?
        rw [List.getLast?_concat, List.getLast?_concat]

/-- **The account of any run.** -/
theorem accounts_run (events : List (Event ρ)) : (events.foldl step empty).Accounts :=
  Run.invariant step empty events Accounts.empty fun _ event h => h.step event

end Mailbox
