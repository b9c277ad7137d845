import Mathlib.Data.Prod.Basic

/-!
# Calls that throw and keep what they did

A call on a state gives a value or throws, and leaves a state either way: what it did before
it threw stays done. `at s` runs it, and the rules below say what each construct leaves.

- `at_bind`: a call that throws is not followed by the next.
- `at_tryCatch`: a handler starts in the state that the exception left.
- `at_focus`: a call on one field of the state leaves the others alone.
- `Keeps P call`: the call keeps `P`, whether it throws or not. `Keeps.bind` and
  `Keeps.focus` take a call apart.
- `Reads call`: the call leaves the state as it is. `Reads.bind` takes it apart.
- `SeesOnly view call`: what the call does depends on a view of the state and on nothing else.
  `SeesOnly.bind` takes it apart.
-/

namespace Throwing

/-- A call on a state that may throw. -/
abbrev Call (ε σ α : Type) :=
  ExceptT ε (StateM σ) α

variable {ε σ τ α β : Type}

/-- What a call gives, and the state it leaves. -/
def Call.at (call : Call ε σ α) (s : σ) : Except ε α × σ :=
  call s

/-- A call as a function of the state. -/
def Call.of (run : σ → Except ε α × σ) : Call ε σ α :=
  fun s => run s

/-- A call on one field. -/
def Call.focus (get : σ → τ) (set : τ → σ → σ) (call : Call ε τ α) : Call ε σ α :=
  .of fun s =>
    let (result, field) := call.at (get s)
    (result, set field s)

/-- The value of a computation that may throw and touches nothing. -/
def Call.ofExcept : Except ε α → Call ε σ α
  | .ok a => pure a
  | .error e => throw e

/-- A value read off the state. -/
def Call.read (value : σ → α) : Call ε σ α :=
  .of fun s => (.ok (value s), s)

/-- A value that the state has, or else the exception. -/
def Call.require (value : σ → Option α) (e : ε) : Call ε σ α :=
  .of fun s =>
    match value s with
    | some a => (.ok a, s)
    | none => (.error e, s)

/-- An assignment. -/
def Call.assign (change : σ → σ) : Call ε σ Unit :=
  .of fun s => (.ok (), change s)

variable {s : σ}

@[simp] theorem at_pure (a : α) : (pure a : Call ε σ α).at s = (.ok a, s) := rfl

@[simp] theorem at_throw (e : ε) : (throw e : Call ε σ α).at s = (.error e, s) := rfl

@[simp] theorem at_ofExcept (result : Except ε α) :
    (Call.ofExcept result : Call ε σ α).at s = (result, s) := by
  cases result with
  | ok a => rfl
  | error e => rfl

@[simp] theorem at_read (value : σ → α) :
    (Call.read value : Call ε σ α).at s = (.ok (value s), s) := rfl

theorem at_require_some {value : σ → Option α} {a : α} (h : value s = some a) (e : ε) :
    (Call.require value e).at s = (.ok a, s) := by
  simp only [Call.require, Call.of, Call.at, h]

theorem at_require_none {value : σ → Option α} (h : value s = none) (e : ε) :
    (Call.require value e).at s = (.error e, s) := by
  simp only [Call.require, Call.of, Call.at, h]

@[simp] theorem at_assign (change : σ → σ) :
    (Call.assign change : Call ε σ Unit).at s = (.ok (), change s) := rfl

theorem at_focus (get : σ → τ) (set : τ → σ → σ) (call : Call ε τ α) :
    (Call.focus get set call).at s = ((call.at (get s)).1, set (call.at (get s)).2 s) := rfl

/-- **A call that is followed by another.** -/
theorem at_bind (call : Call ε σ α) (next : α → Call ε σ β) :
    (call >>= next).at s =
      match call.at s with
      | (.ok a, s) => (next a).at s
      | (.error e, s) => (.error e, s) := by
  have hbind : (call >>= next).at s = ExceptT.bindCont next (call.at s).1 (call.at s).2 := rfl
  rw [hbind]
  cases call.at s with
  | mk result after =>
    cases result with
    | ok a => rfl
    | error e => rfl

/-- **`try … catch`.** -/
theorem at_tryCatch (call : Call ε σ α) (handler : ε → Call ε σ α) :
    (tryCatch call handler).at s =
      match call.at s with
      | (.ok a, s) => (.ok a, s)
      | (.error e, s) => (handler e).at s := by
  have hcatch : (tryCatch call handler).at s =
      (match (call.at s).1 with
        | .ok a => (pure a : Call ε σ α)
        | .error e => handler e).at (call.at s).2 := rfl
  rw [hcatch]
  cases call.at s with
  | mk result after =>
    cases result with
    | ok a => rfl
    | error e => rfl

/-! ## What a call keeps -/

/-- From a state with `P` the call leaves one with `P`, whether it throws or not. -/
def Keeps (P : σ → Prop) (call : Call ε σ α) : Prop :=
  ∀ s, P s → P (call.at s).2

variable {P : σ → Prop}

theorem Keeps.pure (a : α) : Keeps P (Pure.pure a : Call ε σ α) := by
  intro s hs
  exact hs

theorem Keeps.ofExcept (result : Except ε α) : Keeps P (Call.ofExcept result : Call ε σ α) := by
  intro s hs
  rwa [at_ofExcept]

theorem Keeps.assign {change : σ → σ} (h : ∀ s, P s → P (change s)) :
    Keeps P (Call.assign change : Call ε σ Unit) := by
  intro s hs
  exact h s hs

/-- **Both halves of a sequence keep it.** -/
theorem Keeps.bind {call : Call ε σ α} {next : α → Call ε σ β} (h : Keeps P call)
    (hnext : ∀ a, Keeps P (next a)) : Keeps P (call >>= next) := by
  intro s hs
  rw [at_bind]
  cases hcall : call.at s with
  | mk result after =>
    have hafter : P after := by
      have hkeeps := h s hs
      rwa [hcall] at hkeeps
    cases result with
    | ok a => exact hnext a after hafter
    | error e => exact hafter

/-- A call on a field keeps what does not depend on the field. -/
theorem Keeps.focus {get : σ → τ} {set : τ → σ → σ} (call : Call ε τ α)
    (h : ∀ field s, P s → P (set field s)) : Keeps P (Call.focus get set call) := by
  intro s hs
  rw [at_focus]
  exact h _ s hs

/-! ## Calls that only read -/

/-- The call leaves every state as it is. -/
def Reads (call : Call ε σ α) : Prop :=
  ∀ s, (call.at s).2 = s

theorem Reads.pure (a : α) : Reads (Pure.pure a : Call ε σ α) :=
  fun _ => rfl

theorem Reads.throw (e : ε) : Reads (throw e : Call ε σ α) :=
  fun _ => rfl

theorem Reads.read (value : σ → α) : Reads (Call.read value : Call ε σ α) :=
  fun _ => rfl

theorem Reads.require (value : σ → Option α) (e : ε) : Reads (Call.require value e) := by
  intro s
  cases hvalue : value s with
  | none => rw [at_require_none hvalue]
  | some a => rw [at_require_some hvalue]

theorem Reads.bind {call : Call ε σ α} {next : α → Call ε σ β} (h : Reads call)
    (hnext : ∀ a, Reads (next a)) : Reads (call >>= next) := by
  intro s
  have hstate := h s
  rw [at_bind]
  cases hcall : call.at s with
  | mk result after =>
    rw [hcall] at hstate
    obtain rfl : after = s := hstate
    cases result with
    | ok a => exact hnext a after
    | error e => rfl

theorem Reads.keeps {call : Call ε σ α} (h : Reads call) : Keeps P call := by
  intro s hs
  rwa [h s]

/-- A call that only reads gives a value or throws, and that is all. -/
theorem Reads.at_eq {call : Call ε σ α} (h : Reads call) (s : σ) :
    call.at s = ((call.at s).1, s) :=
  Prod.ext rfl (h s)

/-! ## Calls that see no more than a view -/

variable {γ : Type}

/-- In two states with one view the call gives the same, and it leaves them with one view. -/
def SeesOnly (view : σ → τ) (call : Call ε σ α) : Prop :=
  ∀ s t, view s = view t →
    (call.at s).1 = (call.at t).1 ∧ view (call.at s).2 = view (call.at t).2

variable {view : σ → τ}

theorem SeesOnly.pure (a : α) : SeesOnly view (Pure.pure a : Call ε σ α) :=
  fun _ _ h => ⟨rfl, h⟩

theorem SeesOnly.throw (e : ε) : SeesOnly view (throw e : Call ε σ α) :=
  fun _ _ h => ⟨rfl, h⟩

theorem SeesOnly.assign {change : σ → σ} (h : ∀ s t, view s = view t →
    view (change s) = view (change t)) : SeesOnly view (Call.assign change : Call ε σ Unit) :=
  fun s t hview => ⟨rfl, h s t hview⟩

/-- **Both halves of a sequence see no more.** -/
theorem SeesOnly.bind {call : Call ε σ α} {next : α → Call ε σ β} (h : SeesOnly view call)
    (hnext : ∀ a, SeesOnly view (next a)) : SeesOnly view (call >>= next) := by
  intro s t hview
  obtain ⟨hresult, hafter⟩ := h s t hview
  rw [at_bind, at_bind]
  cases hs : call.at s with
  | mk result s' =>
    cases ht : call.at t with
    | mk other t' =>
      rw [hs, ht] at hresult hafter
      obtain rfl : result = other := hresult
      cases result with
      | ok a => exact hnext a s' t' hafter
      | error e => exact ⟨rfl, hafter⟩

/-- A call on one field, if the rest of the view does not change with it. -/
theorem SeesOnly.focus {get : σ → γ} {set : γ → σ → σ} {call : Call ε γ α}
    (hget : ∀ s t, view s = view t → get s = get t)
    (hset : ∀ field s t, view s = view t → view (set field s) = view (set field t)) :
    SeesOnly view (Call.focus get set call) := by
  intro s t hview
  rw [at_focus, at_focus, hget s t hview]
  exact ⟨rfl, hset _ s t hview⟩

end Throwing
