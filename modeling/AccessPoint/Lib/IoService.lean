import Mathlib.Data.List.Basic

/-!
# A polled event loop

An event loop holds the operations that are outstanding, each with its completion handler.
`poll` runs the handlers that are ready when it is called, in order, and returns. It stops
the loop when it leaves no operation outstanding, and a stopped loop runs nothing: what is
started on it afterwards stays where it is.

Time is counted in polls. An operation says how many of them go by before it is ready, or
that it is not going to be; a handler may start operations and change the wait of others.

- `poll_stopped`: after a poll of a loop that was going, it is stopped exactly if nothing is
  outstanding.
- `poll_induct`: what holds before the first ready handler, and is kept from each to the
  next, holds after the poll. The statement carried may speak of the handlers to come.
- `poll_part`: the outstanding operations of a kind that no handler touches only come closer.
- `lateness_later`: and they come one poll closer.
- `poll_once`: when one of the ready handlers takes one statement to another and the rest
  keep both, the poll does too.
-/

namespace IoService

variable {σ κ : Type*}

/-- An outstanding operation: the polls before the one that finds it ready, and its handler. -/
structure Operation (κ : Type*) where
  wait : Option Nat
  handler : κ
  deriving DecidableEq, Repr

/-- The next poll runs the handler. -/
def Operation.ready (op : Operation κ) : Bool :=
  op.wait == some 0

/-- A poll that does not run the handler goes by. -/
def Operation.tick (op : Operation κ) : Operation κ :=
  { op with wait := op.wait.map (· - 1) }

/-- An event loop, and the state its handlers share. -/
structure Loop (σ κ : Type*) where
  state : σ
  outstanding : List (Operation κ)
  stopped : Bool
  deriving DecidableEq, Repr

/-- What a handler does to the state and to the operations outstanding. -/
abbrev Run (σ κ : Type*) :=
  κ → σ × List (Operation κ) → σ × List (Operation κ)

/-- The operations that a poll finds not ready, as it leaves them. -/
def later (ops : List (Operation κ)) : List (Operation κ) :=
  (ops.filter fun op => !op.ready).map Operation.tick

/-- Ready handlers, one after the other. -/
def runReady (run : Run σ κ) (ready : List (Operation κ)) (s : σ × List (Operation κ)) :
    σ × List (Operation κ) :=
  ready.foldl (fun s op => run op.handler s) s

/-- `io_service::poll`. -/
def poll (run : Run σ κ) (loop : Loop σ κ) : Loop σ κ :=
  if loop.stopped then loop
  else
    let ready := loop.outstanding.filter Operation.ready
    let s := runReady run ready (loop.state, later loop.outstanding)
    { state := s.1, outstanding := s.2, stopped := s.2.isEmpty }

variable {run : Run σ κ} {loop : Loop σ κ}

theorem poll_of_stopped (h : loop.stopped = true) : poll run loop = loop := by
  simp [poll, h]

theorem poll_stopped (h : loop.stopped = false) :
    (poll run loop).stopped = (poll run loop).outstanding.isEmpty := by
  simp [poll, h]

/-! ## Operations of one kind -/

/-- The operations whose handler is of a kind. -/
def part (kind : κ → Bool) (ops : List (Operation κ)) : List (Operation κ) :=
  ops.filter fun op => kind op.handler

@[simp] theorem part_nil {kind : κ → Bool} : part kind [] = [] := rfl

@[simp] theorem part_append {kind : κ → Bool} (ops ops' : List (Operation κ)) :
    part kind (ops ++ ops') = part kind ops ++ part kind ops' :=
  List.filter_append ..

theorem part_cons {kind : κ → Bool} (op : Operation κ) (ops : List (Operation κ)) :
    part kind (op :: ops) = if kind op.handler then op :: part kind ops else part kind ops := by
  simp [part, List.filter_cons]

theorem mem_part {kind : κ → Bool} {op : Operation κ} {ops : List (Operation κ)} :
    op ∈ part kind ops ↔ op ∈ ops ∧ kind op.handler = true := by
  simp [part]

/-- A change of the operations that keeps every handler's kind. -/
theorem part_map {kind : κ → Bool} {f : Operation κ → Operation κ} (ops : List (Operation κ))
    (hkind : ∀ op, kind (f op).handler = kind op.handler) :
    part kind (ops.map f) = (part kind ops).map f := by
  simp only [part, List.filter_map, Function.comp_def, hkind]

/-- And that leaves those of the kind alone. -/
theorem part_map_same {kind : κ → Bool} {f : Operation κ → Operation κ} (ops : List (Operation κ))
    (hkind : ∀ op, kind (f op).handler = kind op.handler)
    (hsame : ∀ op, kind op.handler = true → f op = op) :
    part kind (ops.map f) = part kind ops := by
  rw [part_map ops hkind]
  exact (List.map_congr_left fun op hop => hsame op (mem_part.mp hop).2).trans (List.map_id _)

theorem part_filter (kind : κ → Bool) (p : Operation κ → Bool) (ops : List (Operation κ)) :
    part kind (ops.filter p) = (part kind ops).filter p := by
  simp only [part, List.filter_filter, Bool.and_comm]

theorem part_comm (kind kind' : κ → Bool) (ops : List (Operation κ)) :
    part kind (part kind' ops) = part kind' (part kind ops) :=
  part_filter kind _ ops

theorem part_later (kind : κ → Bool) (ops : List (Operation κ)) :
    part kind (later ops) = later (part kind ops) := by
  simp only [part, later, List.filter_map, List.filter_filter, Function.comp_def, Operation.tick,
    Bool.and_comm]

/-! ## One poll -/

/-- **The induction over the ready handlers of a poll.** -/
theorem poll_induct (run : Run σ κ) (loop : Loop σ κ)
    {I : List (Operation κ) → σ × List (Operation κ) → Prop} (h : loop.stopped = false)
    (h0 : I (loop.outstanding.filter Operation.ready) (loop.state, later loop.outstanding))
    (keeps : ∀ op ready s, op ∈ loop.outstanding → op.ready = true →
      I (op :: ready) s → I ready (run op.handler s)) :
    I [] ((poll run loop).state, (poll run loop).outstanding) := by
  have hfold : ∀ ready s, (∀ op ∈ ready, op ∈ loop.outstanding ∧ op.ready = true) →
      I ready s → I [] (runReady run ready s) := by
    intro ready
    induction ready with
    | nil => exact fun s _ hs => hs
    | cons op ready ih =>
      intro s hmem hs
      obtain ⟨hop, hready⟩ := hmem op List.mem_cons_self
      have hrest : ∀ op ∈ ready, op ∈ loop.outstanding ∧ op.ready = true :=
        fun op hop => hmem op (List.mem_cons_of_mem _ hop)
      exact ih _ hrest (keeps op ready s hop hready hs)
  have hpoll := hfold _ _ (fun op hop => List.mem_filter.mp hop) h0
  simpa [poll, h] using hpoll

/-- **A part that no handler touches only comes closer.** -/
theorem poll_part {kind : κ → Bool} (h : loop.stopped = false)
    (keeps : ∀ handler s, part kind (run handler s).2 = part kind s.2) :
    part kind (poll run loop).outstanding = later (part kind loop.outstanding) := by
  refine poll_induct run loop
    (I := fun _ s => part kind s.2 = later (part kind loop.outstanding)) h
    (part_later kind loop.outstanding) fun op _ s _ _ hs => ?_
  rw [keeps]
  exact hs

/-- **A poll with at most one ready handler of a kind**: before it runs one statement is kept,
after it another. -/
theorem poll_once (kind : κ → Bool) {P Q : σ × List (Operation κ) → Prop} (h : loop.stopped = false)
    {op : Operation κ}
    (hop : part kind (loop.outstanding.filter Operation.ready) = [op])
    (h0 : P (loop.state, later loop.outstanding))
    (runs : ∀ s, P s → Q (run op.handler s))
    (before : ∀ handler s, kind handler = false → P s → P (run handler s))
    (after : ∀ handler s, kind handler = false → Q s → Q (run handler s)) :
    Q ((poll run loop).state, (poll run loop).outstanding) := by
  have hlast := poll_induct run loop
    (I := fun ready s => part kind ready = [op] ∧ P s ∨ part kind ready = [] ∧ Q s) h
    (.inl ⟨hop, h0⟩) fun op' ready s _ _ hs => ?_
  · rcases hlast with ⟨hnil, -⟩ | ⟨-, hafter⟩
    · cases hnil
    · exact hafter
  · cases hkind : kind op'.handler with
    | false =>
      simp only [part_cons, hkind, Bool.false_eq_true, if_false] at hs
      rcases hs with ⟨hready, hs⟩ | ⟨hready, hs⟩
      · exact .inl ⟨hready, before _ s hkind hs⟩
      · exact .inr ⟨hready, after _ s hkind hs⟩
    | true =>
      simp only [part_cons, hkind, if_true, List.cons.injEq, reduceCtorEq, false_and,
        or_false] at hs
      obtain ⟨⟨rfl, hready⟩, hs⟩ := hs
      exact .inr ⟨hready, runs s hs⟩

/-- A poll that finds no handler of a kind ready. -/
theorem poll_never (kind : κ → Bool) {I : σ × List (Operation κ) → Prop} (h : loop.stopped = false)
    (hnone : part kind (loop.outstanding.filter Operation.ready) = [])
    (h0 : I (loop.state, later loop.outstanding))
    (keeps : ∀ handler s, kind handler = false → I s → I (run handler s)) :
    I ((poll run loop).state, (poll run loop).outstanding) := by
  refine poll_induct run loop (I := fun _ s => I s) h h0 fun op _ s hop hready hs => ?_
  refine keeps _ s ?_ hs
  cases hkind : kind op.handler with
  | false => rfl
  | true =>
    have hmem : op ∈ part kind (loop.outstanding.filter Operation.ready) :=
      mem_part.mpr ⟨List.mem_filter.mpr ⟨hop, hready⟩, hkind⟩
    rw [hnone] at hmem
    cases hmem

/-! ## How long operations last -/

theorem mem_later {op : Operation κ} {ops : List (Operation κ)} :
    op ∈ later ops ↔ ∃ op', op' ∈ ops ∧ op'.wait ≠ some 0 ∧ op'.tick = op := by
  simp [later, Operation.ready, and_assoc]

/-- The polls until the last of the operations that are going to be ready has been run. -/
def lateness (ops : List (Operation κ)) : Nat :=
  ops.foldr (fun op late => max (op.wait.elim 0 (· + 1)) late) 0

@[simp] theorem lateness_nil : lateness ([] : List (Operation κ)) = 0 := rfl

theorem lateness_cons (op : Operation κ) (ops : List (Operation κ)) :
    lateness (op :: ops) = max (op.wait.elim 0 (· + 1)) (lateness ops) := rfl

/-- The operations of a kind and the others. -/
theorem lateness_part (kind : κ → Bool) (ops : List (Operation κ)) :
    lateness ops =
      max (lateness (part kind ops)) (lateness (part (fun handler => !kind handler) ops)) := by
  induction ops with
  | nil => rfl
  | cons op ops ih =>
    rw [lateness_cons, ih, part_cons, part_cons]
    cases kind op.handler with
    | true =>
      simp only [if_true, Bool.not_true, Bool.false_eq_true, if_false, lateness_cons]
      omega
    | false =>
      simp only [if_true, Bool.not_false, Bool.false_eq_true, if_false, lateness_cons]
      omega

/-- **A poll brings operations that are left alone one poll closer.** -/
theorem lateness_later (ops : List (Operation κ)) : lateness (later ops) = lateness ops - 1 := by
  induction ops with
  | nil => rfl
  | cons op ops ih =>
    obtain ⟨wait, handler⟩ := op
    rcases wait with _ | _ | wait
    · simpa [later, Operation.ready, Operation.tick, lateness_cons] using ih
    · simp only [lateness_cons, Option.elim]
      rw [show later ({ wait := some 0, handler } :: ops) = later ops from rfl, ih]
      omega
    · simp only [lateness_cons, Option.elim]
      rw [show later ({ wait := some (wait + 1), handler } :: ops) =
        { wait := some wait, handler } :: later ops from rfl, lateness_cons, ih]
      simp only [Option.elim]
      omega

/-- Operations that are all going to be ready, and are late by nothing, are none. -/
theorem eq_nil_of_lateness {ops : List (Operation κ)} (hwait : ∀ op ∈ ops, op.wait ≠ none)
    (h : lateness ops = 0) : ops = [] := by
  cases ops with
  | nil => rfl
  | cons op ops =>
    obtain ⟨wait, hop⟩ := Option.ne_none_iff_exists'.mp (hwait op List.mem_cons_self)
    rw [lateness_cons, hop] at h
    simp only [Option.elim] at h
    omega

end IoService
