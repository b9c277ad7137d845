import AccessPoint.Lib.Throwing

/-!
# Opening a device in steps

A device is opened by one operation, which throws on a device that is open, and then set up by a
list of others, any of which may throw. The call answers with success when none does, and turns
every exception into a failure. Nothing closes the device again.

`leaves_iff` is the exact condition for a failed call to leave the device as open or closed as it
was, so that a later call cannot tell: the device was open, or opening it failed, or there was no
failure.
-/

namespace Opening

open Throwing

/-- A device, its operations behind the opening, and what follows when none throws. Only the opening
opens it. -/
structure Device (σ α : Type) where
  isOpen : σ → Bool
  opened : σ → σ
  steps : List α
  configure : α → σ → σ
  finish : σ → σ
  isOpen_opened : ∀ s, isOpen (opened s) = true
  isOpen_configure : ∀ a s, isOpen (configure a s) = isOpen s
  isOpen_finish : ∀ s, isOpen (finish s) = isOpen s

/-- The operations that throw in one call. -/
structure Faults (α : Type) where
  opening : Bool
  step : α → Bool

namespace Device

variable {σ α : Type} (D : Device σ α) (faults : Faults α)

/-- The opening. -/
def openStep : Call Unit σ Unit :=
  .of fun s => if D.isOpen s || faults.opening then (.error (), s) else (.ok (), D.opened s)

/-- One of the operations behind it. -/
def step (a : α) : Call Unit σ Unit :=
  .of fun s => if faults.step a then (.error (), s) else (.ok (), D.configure a s)

/-- Some of them in turn. -/
def setUp : List α → Call Unit σ Unit
  | [] => pure ()
  | a :: as => do
    D.step faults a
    setUp as

/-- The call. -/
def openCall : Call Unit σ Bool :=
  tryCatch (do
      D.openStep faults
      D.setUp faults D.steps
      .assign D.finish
      pure true)
    fun _ => pure false

/-- A call that fails leaves the device as open or closed as it was, and a later call returns and
leaves what it would have without it. -/
def LeavesAsItWas (s : σ) : Prop :=
  let failed := (D.openCall faults).at s
  failed.1 ≠ .ok true →
    D.isOpen failed.2 = D.isOpen s ∧
      ∀ later : Faults α, ((D.openCall later).at failed.2).1 = ((D.openCall later).at s).1 ∧
        D.isOpen ((D.openCall later).at failed.2).2 = D.isOpen ((D.openCall later).at s).2

variable {D faults} {s : σ}

theorem setUp_of_ok {as : List α} (h : ∀ a ∈ as, faults.step a = false) :
    (D.setUp faults as).at s = (.ok (), as.foldl (fun s a => D.configure a s) s) := by
  induction as generalizing s with
  | nil => rfl
  | cons a as ih =>
    obtain ⟨ha, has⟩ := List.forall_mem_cons.mp h
    have hstep : (D.step faults a).at s = (.ok (), D.configure a s) := if_neg (by simp [ha])
    rw [setUp, at_bind, hstep]
    exact ih has

theorem setUp_of_fault {P : σ → Prop} {as : List α} (hP : ∀ a s, P s → P (D.configure a s))
    (hs : P s) (h : ¬ ∀ a ∈ as, faults.step a = false) :
    ∃ s', (D.setUp faults as).at s = (.error (), s') ∧ P s' := by
  induction as generalizing s with
  | nil => exact absurd (List.forall_mem_nil _) h
  | cons a as ih =>
    rw [setUp, at_bind]
    cases ha : faults.step a with
    | true =>
      have hstep : (D.step faults a).at s = (.error (), s) := if_pos ha
      rw [hstep]
      exact ⟨s, rfl, hs⟩
    | false =>
      have hstep : (D.step faults a).at s = (.ok (), D.configure a s) := if_neg (by simp [ha])
      have has : ¬ ∀ a ∈ as, faults.step a = false :=
        fun has => h (List.forall_mem_cons.mpr ⟨ha, has⟩)
      rw [hstep]
      exact ih (hP a s hs) has

/-- A device that is open, or that cannot be opened, is left alone. -/
theorem openCall_refused (h : D.isOpen s = true ∨ faults.opening = true) :
    (D.openCall faults).at s = (.ok false, s) := by
  have hopen : (D.openStep faults).at s = (.error (), s) := if_pos (by simpa using h)
  rw [openCall, at_tryCatch, at_bind, hopen]
  rfl

theorem openStep_of_closed (hclosed : D.isOpen s = false) (hopening : faults.opening = false) :
    (D.openStep faults).at s = (.ok (), D.opened s) :=
  if_neg (by simp [hclosed, hopening])

/-- Without a fault the device is opened and set up. -/
theorem openCall_ok (hclosed : D.isOpen s = false) (hopening : faults.opening = false)
    (hsteps : ∀ a ∈ D.steps, faults.step a = false) :
    (D.openCall faults).at s =
      (.ok true, D.finish (D.steps.foldl (fun s a => D.configure a s) (D.opened s))) := by
  rw [openCall, at_tryCatch, at_bind, openStep_of_closed hclosed hopening]
  simp only [at_bind, setUp_of_ok hsteps, at_assign, at_pure]

/-- With a fault behind the opening the device is left as the operations before it left it. -/
theorem openCall_fault {P : σ → Prop} (hP : ∀ a s, P s → P (D.configure a s))
    (hopened : P (D.opened s)) (hclosed : D.isOpen s = false) (hopening : faults.opening = false)
    (hsteps : ¬ ∀ a ∈ D.steps, faults.step a = false) :
    ∃ s', (D.openCall faults).at s = (.ok false, s') ∧ P s' := by
  obtain ⟨s', hs', hP'⟩ := setUp_of_fault hP hopened hsteps
  refine ⟨s', ?_, hP'⟩
  rw [openCall, at_tryCatch, at_bind, openStep_of_closed hclosed hopening]
  simp only [at_bind, hs', at_pure]

/-- It stays open. -/
theorem isOpen_of_fault (hclosed : D.isOpen s = false) (hopening : faults.opening = false)
    (hsteps : ¬ ∀ a ∈ D.steps, faults.step a = false) :
    ∃ s', (D.openCall faults).at s = (.ok false, s') ∧ D.isOpen s' = true := by
  apply openCall_fault (P := fun s => D.isOpen s = true) _ (D.isOpen_opened s) hclosed hopening
    hsteps
  intro a s hs
  rwa [D.isOpen_configure]

theorem isOpen_configureAll (as : List α) :
    D.isOpen (as.foldl (fun s a => D.configure a s) s) = D.isOpen s := by
  induction as generalizing s with
  | nil => rfl
  | cons a as ih => exact ih.trans (D.isOpen_configure a s)

/-- **A device is open after a call iff it was, or the opening worked.** -/
theorem isOpen_openCall : D.isOpen ((D.openCall faults).at s).2 = true ↔
    D.isOpen s = true ∨ faults.opening = false := by
  by_cases hrefused : D.isOpen s = true ∨ faults.opening = true
  · rw [openCall_refused hrefused]
    apply (or_iff_left_of_imp _).symm
    intro hopening
    exact hrefused.resolve_right (by simp [hopening])
  · obtain ⟨hclosed, hopening⟩ := not_or.mp hrefused
    rw [Bool.not_eq_true] at hclosed hopening
    apply iff_of_true _ (.inr hopening)
    by_cases hsteps : ∀ a ∈ D.steps, faults.step a = false
    · rw [openCall_ok hclosed hopening hsteps, D.isOpen_finish, isOpen_configureAll]
      exact D.isOpen_opened s
    · obtain ⟨s', hs', hopen⟩ := isOpen_of_fault hclosed hopening hsteps
      rwa [hs']

/-- **When a failed call leaves no trace.** -/
theorem leaves_iff : D.LeavesAsItWas faults s ↔
    D.isOpen s = true ∨ faults.opening = true ∨ ∀ a ∈ D.steps, faults.step a = false := by
  by_cases hrefused : D.isOpen s = true ∨ faults.opening = true
  · refine iff_of_true ?_ (or_assoc.mp (.inl hrefused))
    intro _
    rw [openCall_refused hrefused]
    exact ⟨rfl, fun _ => ⟨rfl, rfl⟩⟩
  · obtain ⟨hclosed, hopening⟩ := not_or.mp hrefused
    rw [Bool.not_eq_true] at hclosed hopening
    by_cases hsteps : ∀ a ∈ D.steps, faults.step a = false
    · refine iff_of_true ?_ (.inr (.inr hsteps))
      intro hfailed
      exact absurd (by rw [openCall_ok hclosed hopening hsteps]) hfailed
    · obtain ⟨s', hs', hopen⟩ := isOpen_of_fault hclosed hopening hsteps
      refine iff_of_false ?_ ?_
      · intro hleaves
        have hsame := (hleaves (by rw [hs']; nofun)).1
        rw [hs', hclosed] at hsame
        cases hopen.symm.trans hsame
      · rw [← or_assoc]
        exact not_or.mpr ⟨hrefused, hsteps⟩

end Device

end Opening
