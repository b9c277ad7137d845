import Mathlib.Data.List.Basic

/-!
# Runs of a labelled step

A step is a function of a state and a label, a schedule is a list of labels, and a run
is the fold of the step over the schedule. A label that a state does not offer is one
that leaves the state as it is. Whatever the environment decides stands in the labels, so
a statement about every schedule is a statement about every order of events.

- `Along step G s as`: every label of the schedule `as`, taken in its turn from `s`, meets
  `G` in the state it is taken in.
- `Along.invariant`: what every step that meets `G` keeps holds at the end of a run along
  `G`. `invariant` is its unguarded case.
- `Along.refine`: a run that does not end broken has met `G` throughout, if violating `G` breaks
  it for good.
- `along_iff_cut`: a run is along `G` when `G` holds of every step the schedule can be cut at.
- `along_history`: the same when the state is the history itself.
- `along_congr`, `along_iff`: a run along one statement about its steps is one along another, if
  the two agree wherever the invariant holds.
- `Always step P s as`: every state of the run meets `P`. `always_iff_along` is the exact
  condition on the steps for it, when violating `G` violates `P` at once.
- `Along.simulates`: a run is a run of something else, for an observer who sees its steps as steps
  of that.
- `split_cases`: two positions of one schedule are ordered, one way, the other, or equal.
-/

namespace Run

variable {σ α : Type*} {step : σ → α → σ} {G H W : σ → α → Prop} {I B P : σ → Prop}

/-- Every label is taken in a state where it meets `G`. -/
def Along (step : σ → α → σ) (G : σ → α → Prop) : σ → List α → Prop
  | _, [] => True
  | s, a :: as => G s a ∧ Along step G (step s a) as

@[simp] theorem along_nil {s : σ} : Along step G s [] := trivial

@[simp] theorem along_cons {s : σ} {a : α} {as : List α} :
    Along step G s (a :: as) ↔ G s a ∧ Along step G (step s a) as := Iff.rfl

theorem along_true {s : σ} (as : List α) : Along step (fun _ _ => True) s as := by
  induction as generalizing s with
  | nil => trivial
  | cons a as ih => exact ⟨trivial, ih⟩

/-- A run along `G` is one of its beginning and one of what follows. -/
theorem along_append {s : σ} {as bs : List α} :
    Along step G s (as ++ bs) ↔ Along step G s as ∧ Along step G (as.foldl step s) bs := by
  induction as generalizing s with
  | nil => simp
  | cons a as ih => simp only [List.cons_append, along_cons, ih, List.foldl_cons, and_assoc]

/-- A statement about the labels alone. -/
theorem along_forall {H : α → Prop} {s : σ} {as : List α} :
    Along step (fun _ a => H a) s as ↔ ∀ a ∈ as, H a := by
  induction as generalizing s with
  | nil => simp
  | cons a as ih => simp only [along_cons, ih, List.forall_mem_cons]

/-- **The invariant rule of a guarded run.** -/
theorem Along.invariant {s : σ} {as : List α} (h : Along step G s as) (h0 : I s)
    (keeps : ∀ s a, I s → G s a → I (step s a)) : I (as.foldl step s) := by
  induction as generalizing s with
  | nil => exact h0
  | cons a as ih => exact ih h.2 (keeps s a h0 h.1)

/-- The invariant rule of a run. -/
theorem invariant (step : σ → α → σ) (s : σ) (as : List α) (h0 : I s)
    (keeps : ∀ s a, I s → I (step s a)) : I (as.foldl step s) := by
  induction as generalizing s with
  | nil => exact h0
  | cons a as ih => exact ih (step s a) (keeps s a h0)

/-- **The rule of the first violation.** Every label that violates `G`, in a state with the
invariant, breaks the run for good; so a run along `H` that does not end broken is one along
`G`. -/
theorem Along.refine {s : σ} {as : List α} (h : Along step H s as) (h0 : I s)
    (keeps : ∀ s a, I s → G s a → I (step s a))
    (breaks : ∀ s a, I s → H s a → ¬ G s a → B (step s a)) (stays : ∀ s a, B s → B (step s a))
    (hend : ¬ B (as.foldl step s)) : Along step G s as := by
  induction as generalizing s with
  | nil => trivial
  | cons a as ih =>
    by_cases hg : G s a
    · exact ⟨hg, ih h.2 (keeps s a h0 hg) hend⟩
    · exact absurd (Run.invariant step (step s a) as (breaks s a h0 h.1 hg) stays) hend

/-- **A run along `G` meets it wherever its schedule is cut.** -/
theorem along_iff_cut {s : σ} {as : List α} :
    Along step G s as ↔
      ∀ before a after, as = before ++ a :: after → G (before.foldl step s) a := by
  constructor
  · intro h before a after hcut
    rw [hcut, along_append, along_cons] at h
    exact h.2.1
  · intro h
    induction as generalizing s with
    | nil => trivial
    | cons a as ih =>
      refine ⟨h [] a as rfl, ih ?_⟩
      intro before b after hcut
      exact h (a :: before) b after (by rw [hcut, List.cons_append])

/-- A statement about each step and what came before it. -/
theorem along_history {H : List α → α → Prop} {as : List α} :
    Along (fun history a => history ++ [a]) H [] as ↔
      ∀ before a after, as = before ++ a :: after → H before a := by
  have hfold : ∀ before : List α, before.foldl (fun history a => history ++ [a]) [] = before := by
    intro before
    rw [List.foldl_append_eq_append, List.nil_append, ← List.flatMap_def, List.flatMap_singleton']
  rw [along_iff_cut]
  simp only [hfold]

/-- **Two statements about the steps of a run**, of which one keeps an invariant under which, and
under what is known of the steps, they are the same. -/
theorem along_congr {s : σ} {as : List α} (hw : Along step W s as) (h0 : I s)
    (keeps : ∀ s a, I s → W s a → G s a → I (step s a))
    (agree : ∀ s a, I s → W s a → (H s a ↔ G s a)) :
    Along step H s as ↔ Along step G s as := by
  induction as generalizing s with
  | nil => exact Iff.rfl
  | cons a as ih =>
    rw [along_cons, along_cons, agree s a h0 hw.1]
    refine and_congr_right ?_
    intro hg
    exact ih hw.2 (keeps s a h0 hw.1 hg)

/-- The same when nothing more is known of the steps. -/
theorem along_iff {s : σ} {as : List α} (h0 : I s)
    (keeps : ∀ s a, I s → G s a → I (step s a)) (agree : ∀ s a, I s → (H s a ↔ G s a)) :
    Along step H s as ↔ Along step G s as :=
  along_congr (along_true as) h0 (fun s a hs _ => keeps s a hs) (fun s a hs _ => agree s a hs)

/-! ## Every state of a run -/

/-- Every state of the run meets `P`, the first and the last among them. -/
def Always (step : σ → α → σ) (P : σ → Prop) (s : σ) (as : List α) : Prop :=
  P s ∧ Along step (fun s a => P (step s a)) s as

@[simp] theorem always_nil {s : σ} : Always step P s [] ↔ P s :=
  and_iff_left trivial

/-- The states of a run are those of its beginning and those of what follows. -/
theorem always_append {s : σ} {as bs : List α} :
    Always step P s (as ++ bs) ↔ Always step P s as ∧ Always step P (as.foldl step s) bs := by
  induction as generalizing s with
  | nil =>
    constructor
    · intro h
      exact ⟨always_nil.mpr h.1, h⟩
    · rintro ⟨-, h⟩
      exact h
  | cons a as ih =>
    have hcons : ∀ as, Always step P s (a :: as) ↔ P s ∧ Always step P (step s a) as :=
      fun as => Iff.rfl
    rw [List.cons_append, hcons, hcons, ih, List.foldl_cons, and_assoc]

/-- The last state of a run. -/
theorem Always.last {s : σ} {as : List α} (h : Always step P s as) : P (as.foldl step s) := by
  have hend := always_append.mp (by rwa [List.append_nil] : Always step P s (as ++ []))
  exact hend.2.1

/-- **What a guarded run keeps holds in every state of it.** -/
theorem Along.always {s : σ} {as : List α} (h : Along step G s as) (h0 : I s)
    (keeps : ∀ s a, I s → G s a → I (step s a)) (holds : ∀ s, I s → P s) :
    Always step P s as := by
  refine ⟨holds s h0, ?_⟩
  induction as generalizing s with
  | nil => trivial
  | cons a as ih =>
    have hstep : I (step s a) := keeps s a h0 h.1
    exact ⟨holds _ hstep, ih h.2 hstep⟩

/-- **The exact condition for a property of every state**: the steps meet `G`, which keeps the
invariant, and a step that does not meet it ends in a state without the property. -/
theorem always_iff_along {s : σ} {as : List α} (h0 : I s)
    (keeps : ∀ s a, I s → G s a → I (step s a)) (holds : ∀ s, I s → P s)
    (breaks : ∀ s a, I s → ¬ G s a → ¬ P (step s a)) :
    Always step P s as ↔ Along step G s as := by
  rw [Always, and_iff_right (holds s h0)]
  refine along_iff h0 keeps ?_
  intro s a hs
  constructor
  · intro hp
    by_contra hg
    exact breaks s a hs hg hp
  · intro hg
    exact holds _ (keeps s a hs hg)

/-! ## A run seen as a run of something else -/

section Views

variable {τ β : Type*} {step' : τ → β → τ} {R : σ → τ → Prop}

/-- What an observer makes of a schedule, who sees some labels of its own in every step. -/
def views (step : σ → α → σ) (view : σ → α → List β) : σ → List α → List β
  | _, [] => []
  | s, a :: as => view s a ++ views step view (step s a) as

/-- **The rule of simulation**: if one step and what is seen of it keep two states related, a run
and what is seen of it do. -/
theorem Along.simulates {s : σ} {t : τ} {as : List α} (h : Along step G s as)
    (view : σ → α → List β) (h0 : R s t)
    (keeps : ∀ s t a, R s t → G s a → R (step s a) ((view s a).foldl step' t)) :
    R (as.foldl step s) ((views step view s as).foldl step' t) := by
  induction as generalizing s t with
  | nil => exact h0
  | cons a as ih =>
    rw [views, List.foldl_append, List.foldl_cons]
    exact ih h.2 (keeps s t a h0 h.1)

end Views

/-- Two positions of one list. -/
theorem split_cases {as bs cs ds : List α} {x y : α} (h : as ++ x :: bs = cs ++ y :: ds) :
    (∃ ws, cs = as ++ x :: ws ∧ bs = ws ++ y :: ds) ∨
      (as = cs ∧ x = y ∧ bs = ds) ∨ ∃ ws, as = cs ++ y :: ws ∧ ds = ws ++ x :: bs := by
  rcases List.append_eq_append_iff.mp h with ⟨ws, hcs, hx⟩ | ⟨ws, has, hy⟩
  · cases ws with
    | nil =>
      simp only [List.nil_append, List.cons.injEq] at hx
      exact .inr (.inl ⟨by rw [hcs, List.append_nil], hx.1, hx.2⟩)
    | cons w ws =>
      simp only [List.cons_append, List.cons.injEq] at hx
      exact .inl ⟨ws, by rw [hcs, hx.1], hx.2⟩
  · cases ws with
    | nil =>
      simp only [List.nil_append, List.cons.injEq] at hy
      exact .inr (.inl ⟨by rw [has, List.append_nil], hy.1.symm, hy.2.symm⟩)
    | cons w ws =>
      simp only [List.cons_append, List.cons.injEq] at hy
      exact .inr (.inr ⟨ws, by rw [has, hy.1], hy.2⟩)

end Run
