import AccessPoint.Lib.Run

/-!
# The outgoing byte stream

The write half of a connected `LinuxTCPSocket`. A synchronous `Write` is `asio::write` with
`transfer_all` and returns when the whole buffer is on the wire. An asynchronous `Write`
starts `asio::async_write` when a write callback is registered, and returns `SUCCESSFUL`
either way.

Both asio operations are repeated partial writes until the buffer is exhausted, and the
partial writes of several operations in flight may alternate: a schedule says which
operation the kernel takes how many bytes from, and when. No transport error occurs. The
buffer of an asynchronous operation is the caller's own `DLMSVector`: it is taken to live and to
stay unchanged until the operation completes, which is what asio asks of its caller.

`wire_eq_accepted_iff` says which schedules put exactly the concatenation of the accepted
data on the wire: those in which no data is handed to an asynchronous `Write` without a
callback, and the kernel takes no byte of a `Write` while an earlier one has bytes left.
The first half is about any bytes, the second, that no other schedule will do, about bytes
that can be told apart.
-/

namespace AccessPoint.Socket

variable {α : Type*}

/-- A write that has been started: what is left of its buffer, and whether its caller is
waiting in it. -/
structure WriteOp (α : Type*) where
  rest : List α
  blocking : Bool
  deriving DecidableEq, Repr

/-- The socket's write side. `accepted` is the concatenation, in call order, of the data of
the `Write` calls that return `SUCCESSFUL`. -/
structure Writer (α : Type*) where
  hasWrite : Bool
  inFlight : List (WriteOp α)
  wire : List α
  accepted : List α
  deriving DecidableEq, Repr

/-- A user call, a partial write of an operation in flight, or its completion. -/
inductive WriteEvent (α : Type*) where
  | register (hasWrite : Bool)
  | write (data : List α) (asynchronous : Bool)
  | progress (which count : Nat)
  | complete (which : Nat)
  deriving DecidableEq, Repr

/-- The bytes operations in flight have left, in call order. -/
def pending (inFlight : List (WriteOp α)) : List α :=
  inFlight.flatMap (·.rest)

namespace Writer

/-- A connected socket nothing has been written to. -/
def fresh (hasWrite : Bool) : Writer α :=
  { hasWrite, inFlight := [], wire := [], accepted := [] }

/-- A caller is inside a synchronous `Write`. -/
def blocked (s : Writer α) : Bool :=
  s.inFlight.any (·.blocking)

/-- `Write`. -/
def write (s : Writer α) (data : List α) (asynchronous : Bool) : Writer α :=
  let s := { s with accepted := s.accepted ++ data }
  if asynchronous then
    if s.hasWrite then { s with inFlight := s.inFlight ++ [{ rest := data, blocking := false }] }
    else s
  else
    { s with inFlight := s.inFlight ++ [{ rest := data, blocking := true }] }

/-- The kernel takes up to `count` bytes of an operation. -/
def progress (s : Writer α) (which count : Nat) : Writer α :=
  match s.inFlight[which]? with
  | none => s
  | some op =>
    { s with
      inFlight := s.inFlight.set which { op with rest := op.rest.drop count }
      wire := s.wire ++ op.rest.take count }

/-- An exhausted operation completes: its handler runs, or its caller returns. -/
def complete (s : Writer α) (which : Nat) : Writer α :=
  match s.inFlight[which]? with
  | none => s
  | some op => if op.rest.isEmpty then { s with inFlight := s.inFlight.eraseIdx which } else s

/-- One event. No call is made while the caller is inside a synchronous `Write`. -/
def step (s : Writer α) : WriteEvent α → Writer α
  | .register hasWrite => if s.blocked then s else { s with hasWrite }
  | .write data asynchronous => if s.blocked then s else s.write data asynchronous
  | .progress which count => s.progress which count
  | .complete which => s.complete which

/-- The bytes on the wire and the bytes left in flight are the bytes accepted. -/
def Faithful (s : Writer α) : Prop :=
  s.wire ++ pending s.inFlight = s.accepted

/-- An asynchronous `Write` that has data finds a callback, and the kernel takes bytes of an
operation only when the earlier ones are exhausted. -/
def InTurn (s : Writer α) : WriteEvent α → Prop
  | .write data asynchronous =>
    s.blocked = false → asynchronous = true → s.hasWrite = false → data = []
  | .progress which count =>
    ∀ op, s.inFlight[which]? = some op → op.rest.take count ≠ [] →
      pending (s.inFlight.take which) = []
  | _ => True

/-! ## Pending bytes -/

theorem pending_append (xs ys : List (WriteOp α)) : pending (xs ++ ys) = pending xs ++ pending ys :=
  List.flatMap_append

/-- The operation at a position, with what stands before and behind it. -/
theorem pending_split {inFlight : List (WriteOp α)} {which : Nat} {op : WriteOp α}
    (h : inFlight[which]? = some op) :
    pending inFlight =
      pending (inFlight.take which) ++ (op.rest ++ pending (inFlight.drop (which + 1))) := by
  obtain ⟨hlt, rfl⟩ := List.getElem?_eq_some_iff.mp h
  conv_lhs => rw [← List.take_append_drop which inFlight, List.drop_eq_getElem_cons hlt]
  rw [pending_append]
  rfl

theorem pending_set {inFlight : List (WriteOp α)} {which : Nat} {op op' : WriteOp α}
    (h : inFlight[which]? = some op) :
    pending (inFlight.set which op') =
      pending (inFlight.take which) ++ (op'.rest ++ pending (inFlight.drop (which + 1))) := by
  obtain ⟨hlt, -⟩ := List.getElem?_eq_some_iff.mp h
  have hset : (inFlight.set which op')[which]? = some op' := by
    rw [List.getElem?_set_self hlt]
  rw [pending_split hset, List.take_set_of_le (Nat.le_refl _),
    List.drop_set_of_lt (Nat.lt_succ_self _)]

theorem pending_eraseIdx {inFlight : List (WriteOp α)} {which : Nat} {op : WriteOp α}
    (h : inFlight[which]? = some op) (hrest : op.rest = []) :
    pending (inFlight.eraseIdx which) = pending inFlight := by
  rw [pending_split h, hrest, List.nil_append, List.eraseIdx_eq_take_drop_succ, pending_append]

/-! ## Schedules in turn -/

/-- **One event in turn keeps the stream faithful.** -/
theorem Faithful.step {s : Writer α} (h : s.Faithful) {event : WriteEvent α}
    (hturn : s.InTurn event) : (s.step event).Faithful := by
  unfold Faithful at h ⊢
  cases event with
  | register hasWrite =>
    simp only [Writer.step]
    split <;> exact h
  | write data asynchronous =>
    simp only [Writer.step]
    split
    next => exact h
    next hblocked =>
      cases asynchronous with
      | false => simp [write, pending, ← h]
      | true =>
        cases hw : s.hasWrite with
        | true => simp [write, hw, pending, ← h]
        | false =>
          have hdata := hturn (by simpa using hblocked) rfl hw
          simpa [write, hw, hdata] using h
  | progress which count =>
    simp only [Writer.step, progress]
    cases hop : s.inFlight[which]? with
    | none => exact h
    | some op =>
      simp only [pending_set hop]
      rw [pending_split hop] at h
      by_cases htake : op.rest.take count = []
      · -- the kernel took nothing
        have hdrop : op.rest.drop count = op.rest := by
          have hsplit := List.take_append_drop count op.rest
          rwa [htake, List.nil_append] at hsplit
        rw [htake, hdrop, List.append_nil]
        exact h
      · have hearlier := hturn op hop htake
        rw [hearlier, List.nil_append] at h ⊢
        rw [← h, List.append_assoc, ← List.append_assoc (op.rest.take count), List.take_append_drop]
  | complete which =>
    simp only [Writer.step, complete]
    cases hop : s.inFlight[which]? with
    | none => exact h
    | some op =>
      simp only
      split
      next hrest => rw [pending_eraseIdx hop (List.isEmpty_iff.mp hrest)]; exact h
      next => exact h

theorem faithful_run {s : Writer α} (h : s.Faithful) {events : List (WriteEvent α)}
    (hturn : Run.Along Writer.step InTurn s events) : (events.foldl Writer.step s).Faithful :=
  hturn.invariant h fun _ _ hs hg => hs.step hg

/-! ## Schedules out of turn -/

/-- The wire and the accepted data only grow, and no step adds more bytes to them than to
the accepted data. -/
theorem step_grows (s : Writer α) (event : WriteEvent α) :
    s.wire <+: (s.step event).wire ∧ s.accepted <+: (s.step event).accepted ∧
      (s.step event).wire.length + (pending (s.step event).inFlight).length + s.accepted.length ≤
        s.wire.length + (pending s.inFlight).length + (s.step event).accepted.length := by
  cases event with
  | register hasWrite =>
    simp only [Writer.step]
    split <;> exact ⟨List.prefix_refl _, List.prefix_refl _, Nat.le_refl _⟩
  | write data asynchronous =>
    simp only [Writer.step]
    split
    next => exact ⟨List.prefix_refl _, List.prefix_refl _, Nat.le_refl _⟩
    next =>
      unfold write
      cases asynchronous with
      | false =>
        simp [pending]
        omega
      | true =>
        cases s.hasWrite with
        | false => simp [pending]
        | true =>
          simp [pending]
          omega
  | progress which count =>
    simp only [Writer.step, progress]
    cases hop : s.inFlight[which]? with
    | none => exact ⟨List.prefix_refl _, List.prefix_refl _, Nat.le_refl _⟩
    | some op =>
      refine ⟨List.prefix_append _ _, List.prefix_refl _, ?_⟩
      have hlen := congrArg List.length (List.take_append_drop count op.rest)
      rw [List.length_append] at hlen
      simp only [pending_set hop, pending_split hop, List.length_append]
      omega
  | complete which =>
    simp only [Writer.step, complete]
    cases hop : s.inFlight[which]? with
    | none => exact ⟨List.prefix_refl _, List.prefix_refl _, Nat.le_refl _⟩
    | some op =>
      simp only
      split
      next hrest =>
        refine ⟨List.prefix_refl _, List.prefix_refl _, ?_⟩
        simp only [pending_eraseIdx hop (List.isEmpty_iff.mp hrest)]
        omega
      next => exact ⟨List.prefix_refl _, List.prefix_refl _, Nat.le_refl _⟩

/-- Beyond repair: the wire has left the accepted data for good, or data is missing. -/
def Broken (s : Writer α) : Prop :=
  (∀ more, ¬ s.wire <+: s.accepted ++ more) ∨
    s.wire.length + (pending s.inFlight).length < s.accepted.length

theorem Broken.step {s : Writer α} (h : s.Broken) (event : WriteEvent α) :
    (s.step event).Broken := by
  obtain ⟨hwire, ⟨more, haccepted⟩, hlen⟩ := s.step_grows event
  rcases h with h | h
  · refine .inl fun more' hpre => h (more ++ more') ?_
    rw [← List.append_assoc, haccepted]
    exact hwire.trans hpre
  · exact .inr (by omega)

/-- **One event out of turn breaks a faithful stream**, when the bytes can be told apart: a
dropped buffer is missing, and a byte taken too early stands where another belongs. -/
theorem broken_of_not_inTurn {s : Writer α} (h : s.Faithful) (hdistinct : s.accepted.Nodup)
    {event : WriteEvent α} (hturn : ¬ s.InTurn event) : (s.step event).Broken := by
  unfold Faithful at h
  cases event with
  | register hasWrite => exact absurd trivial hturn
  | complete which => exact absurd trivial hturn
  | write data asynchronous =>
    obtain ⟨hblocked, rfl, hw, hdata⟩ : s.blocked = false ∧ asynchronous = true ∧
        s.hasWrite = false ∧ data ≠ [] := by simpa [InTurn] using hturn
    have hstep : s.step (.write data true) = { s with accepted := s.accepted ++ data } := by
      simp [Writer.step, hblocked, write, hw]
    have hpos := List.length_pos_iff.mpr hdata
    have hlen := congrArg List.length h
    simp only [List.length_append] at hlen
    refine .inr ?_
    simp only [hstep, List.length_append]
    omega
  | progress which count =>
    obtain ⟨op, hop, htake, hearlier⟩ : ∃ op, s.inFlight[which]? = some op ∧
        op.rest.take count ≠ [] ∧ pending (s.inFlight.take which) ≠ [] := by
      simpa only [InTurn, not_forall, exists_prop, ne_eq] using hturn
    refine .inl fun more hpre => ?_
    simp only [Writer.step, progress, hop] at hpre
    rw [pending_split hop] at h
    obtain ⟨a, as, ha⟩ := List.exists_cons_of_ne_nil hearlier
    obtain ⟨b, bs, hb⟩ := List.exists_cons_of_ne_nil htake
    -- the next byte of the accepted data is an earlier operation's, the wire got this one's
    rw [← h, ha, hb, List.append_assoc, List.prefix_append_right_inj, List.cons_append,
      List.cons_append, List.cons_prefix_cons] at hpre
    have hmem : b ∈ op.rest := List.mem_of_mem_take (hb ▸ List.mem_cons_self)
    rw [← h, ha] at hdistinct
    have hnodup := (List.nodup_append.mp hdistinct).2.1
    rw [List.cons_append, List.nodup_cons] at hnodup
    refine hnodup.1 (List.mem_append_right _ (List.mem_append_left _ ?_))
    rw [← hpre.1]
    exact hmem

/-- A schedule that ends faithful, with bytes that can be told apart, was in turn
throughout. -/
theorem inTurn_of_wire_eq {s : Writer α} (h : s.Faithful) {events : List (WriteEvent α)}
    (hquiet : (events.foldl Writer.step s).inFlight = [])
    (hdistinct : (events.foldl Writer.step s).accepted.Nodup)
    (hwire : (events.foldl Writer.step s).wire = (events.foldl Writer.step s).accepted) :
    Run.Along Writer.step InTurn s events := by
  refine (Run.along_true events).refine (B := fun s => s.Broken ∨ ¬ s.accepted.Nodup) h
    (fun _ _ hs hturn => hs.step hturn) ?_ ?_ ?_
  · intro s event hs _ hturn
    by_cases hnodup : s.accepted.Nodup
    · exact .inl (broken_of_not_inTurn hs hnodup hturn)
    · exact .inr fun hafter => hnodup ((s.step_grows event).2.1.sublist.nodup hafter)
  · rintro s event (hbroken | hnodup)
    · exact .inl (hbroken.step event)
    · exact .inr fun hafter => hnodup ((s.step_grows event).2.1.sublist.nodup hafter)
  · rintro ((hdeparted | hmissing) | hnodup)
    · refine hdeparted [] ?_
      rw [hwire]
      exact List.prefix_append _ []
    · rw [hquiet, hwire] at hmissing
      exact absurd hmissing (Nat.lt_irrefl _)
    · exact hnodup hdistinct

/-- **When the wire carries the accepted data**: once nothing is in flight, a schedule in turn has
put exactly the accepted data on the wire, in call order; and for bytes that can be told apart only
such a schedule has. Writes of both kinds are any number, cut into any partial writes by the kernel.
No transport error occurs, and the caller leaves the buffer of an asynchronous `Write` alone until
that completes. -/
theorem wire_eq_accepted_iff (hasWrite : Bool) (events : List (WriteEvent α))
    (hquiet : (events.foldl Writer.step (fresh hasWrite)).inFlight = []) :
    (Run.Along Writer.step InTurn (fresh hasWrite) events →
      (events.foldl Writer.step (fresh hasWrite)).wire =
        (events.foldl Writer.step (fresh hasWrite)).accepted) ∧
      ((events.foldl Writer.step (fresh hasWrite)).accepted.Nodup →
        (events.foldl Writer.step (fresh hasWrite)).wire =
          (events.foldl Writer.step (fresh hasWrite)).accepted →
        Run.Along Writer.step InTurn (fresh hasWrite) events) := by
  refine ⟨fun hturn => ?_, inTurn_of_wire_eq (show Faithful (fresh hasWrite) from rfl) hquiet⟩
  have hfaithful := faithful_run (s := fresh hasWrite) rfl hturn
  rw [Faithful, hquiet, pending, List.flatMap_nil, List.append_nil] at hfaithful
  exact hfaithful

/-- Two writes of two bytes each, one after the other. -/
theorem wire_eq_accepted_iff_in_turn :
    ([.write [1, 2] true, .progress 0 1, .write [3, 4] false, .progress 0 1, .progress 1 2,
      .complete 1, .complete 0].foldl Writer.step (fresh (α := UInt8) true)).wire =
        [1, 2, 3, 4] :=
  (wire_eq_accepted_iff true _ (by decide)).1 (by simp [InTurn]; decide)

/-- A synchronous `Write` overtakes what the kernel has not yet taken of an asynchronous
one. -/
theorem write_overtakes :
    ¬ ∀ (hasWrite : Bool) (events : List (WriteEvent UInt8)),
        (events.foldl Writer.step (fresh hasWrite)).inFlight = [] →
          (events.foldl Writer.step (fresh hasWrite)).wire =
            (events.foldl Writer.step (fresh hasWrite)).accepted :=
  fun h => absurd
    (h true [.write [1, 2] true, .progress 0 1, .write [3, 4] false, .progress 1 2, .complete 1,
      .progress 0 1, .complete 0] (by decide))
    (by decide)

end Writer

end AccessPoint.Socket
