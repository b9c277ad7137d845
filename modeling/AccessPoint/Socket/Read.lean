import AccessPoint.Lib.Run

/-!
# The incoming byte stream

The read half of a connected `LinuxTCPSocket`. An asynchronous `Read` starts
`asio::async_read` with `transfer_exactly` into `m_ReadBuffer`; `AppendAsyncReadResult` moves
bytes from the buffer to a caller's vector. A synchronous `Read` grows the vector by what the
kernel has and reads straight from the socket.

An asynchronous operation fetches bytes into the region it has prepared and commits them to
the buffer when its handler runs, again and again until it has what it wants. asio asks the
program for one read operation at a time on a stream, and `Read` does not see to it: from the
moment a second one is started, what a commit leaves in the buffer is up to the event.

`delivered_prefix_iff` says which schedules hand the callers a prefix of the stream: those in
which no asynchronous `Read` is started while one is outstanding, and every synchronous
`Read` that finds bytes finds nothing buffered or fetched ahead of them and gets them all.
-/

namespace AccessPoint.Socket

variable {α : Type*}

/-- An asynchronous read that is outstanding: what it still wants, and what it has fetched
into its region and not committed. -/
structure ReadOp (α : Type*) where
  need : Nat
  fetched : List α
  deriving DecidableEq, Repr

/-- What `read_some` returns: a count, a disconnection, or another error. -/
inductive ReadSome where
  | bytes (count : Nat)
  | disconnected
  | failed
  deriving DecidableEq, Repr

/-- The bytes `read_some` stores, of those the kernel has. -/
def ReadSome.actualBytes (available : Nat) : ReadSome → Nat
  | .bytes count => min count available
  | .disconnected => 0
  | .failed => 0

/-- What a synchronous `Read` tells its caller, and whether it calls `m_Close`. -/
structure ReadReply where
  success : Bool
  actualBytes : Option Nat
  closed : Bool
  deriving DecidableEq, Repr

/-- The socket's read side. `incoming` is what the kernel has, `buffer` is `m_ReadBuffer`,
`delivered` is what the callers' vectors got, in call order, and `received` is the stream. -/
structure Reader (α : Type*) where
  incoming : List α
  reading : List (ReadOp α)
  overlapped : Bool
  buffer : List α
  delivered : List α
  received : List α
  deriving DecidableEq, Repr

/-- Bytes that arrive, a user call, or a step of an outstanding read. -/
inductive ReadEvent (α : Type*) where
  | arrive (bytes : List α)
  | readAsync (readAtLeast : Nat)
  | readSync (result : ReadSome)
  | append (readAtLeast : Nat)
  | fetch (which count : Nat)
  | commit (which : Nat) (found : List α)
  | abort (which : Nat)
  deriving DecidableEq, Repr

/-- The bytes fetched and not committed. -/
def fetchedBytes (reading : List (ReadOp α)) : List α :=
  reading.flatMap (·.fetched)

/-- `AppendAsyncReadResult`, on the vector and the buffer. Without a length it asks the stream
for its end; a stream buffer that cannot seek has none, and the vector cannot grow by the
largest `size_t`. -/
def appendAsyncReadResult (fill : α) (vector buffer : List α) (readAtLeast : Nat) :
    Option (List α × List α × Bool) :=
  if readAtLeast = 0 then none
  else
    let stored := buffer.take readAtLeast
    let extra := List.replicate (readAtLeast - stored.length) fill
    some (vector ++ (stored ++ extra), buffer.drop readAtLeast, readAtLeast ≤ buffer.length)

namespace Reader

/-- A connected socket nothing has been received on. -/
def fresh : Reader α :=
  { incoming := [], reading := [], overlapped := false, buffer := [], delivered := []
    received := [] }

/-- `Read` with a null vector. -/
def readAsync (s : Reader α) (readAtLeast : Nat) : Reader α :=
  { s with
    reading := s.reading ++ [{ need := if readAtLeast = 0 then 1 else readAtLeast, fetched := [] }]
    overlapped := s.overlapped || !s.reading.isEmpty }

/-- `Read` with a vector. -/
def readSync (fill : α) (s : Reader α) (result : ReadSome) : Reader α × ReadReply :=
  let available := s.incoming.length
  if available = 0 then (s, { success := false, actualBytes := none, closed := false })
  else
    let actualBytes := result.actualBytes available
    let extra := List.replicate (available - actualBytes) fill
    ({ s with
        incoming := s.incoming.drop actualBytes
        delivered := s.delivered ++ (s.incoming.take actualBytes ++ extra) },
      { success := result ≠ .failed
        actualBytes := some actualBytes
        closed := result = .disconnected })

/-- `AppendAsyncReadResult` with at least 1 and at most what is buffered. -/
def append (fill : α) (s : Reader α) (readAtLeast : Nat) : Reader α :=
  if s.buffer.length < readAtLeast then s
  else
    match appendAsyncReadResult fill s.delivered s.buffer readAtLeast with
    | none => s
    | some (delivered, buffer, _) => { s with delivered, buffer }

/-- An outstanding read fetches bytes, up to what it wants. -/
def fetch (s : Reader α) (which count : Nat) : Reader α :=
  match s.reading[which]? with
  | none => s
  | some op =>
    if op.fetched.isEmpty then
      let count := min count op.need
      { s with
        incoming := s.incoming.drop count
        reading := s.reading.set which { op with fetched := s.incoming.take count } }
    else s

/-- An outstanding read commits what it has fetched, and is over when it has what it wants. -/
def commit (s : Reader α) (which : Nat) (found : List α) : Reader α :=
  match s.reading[which]? with
  | none => s
  | some op =>
    let need := op.need - op.fetched.length
    { s with
      buffer := if s.overlapped then found else s.buffer ++ op.fetched
      reading :=
        if need = 0 then s.reading.eraseIdx which
        else s.reading.set which { need, fetched := [] } }

/-- An outstanding read ends with an error. -/
def abort (s : Reader α) (which : Nat) : Reader α :=
  match s.reading[which]? with
  | none => s
  | some op =>
    if op.fetched.isEmpty then { s with reading := s.reading.eraseIdx which } else s

/-- One event; `fill` is what `AppendExtra` grows a vector with. -/
def step (fill : α) (s : Reader α) : ReadEvent α → Reader α
  | .arrive bytes => { s with incoming := s.incoming ++ bytes, received := s.received ++ bytes }
  | .readAsync readAtLeast => s.readAsync readAtLeast
  | .readSync result => (s.readSync fill result).1
  | .append readAtLeast => s.append fill readAtLeast
  | .fetch which count => s.fetch which count
  | .commit which found => s.commit which found
  | .abort which => s.abort which

/-- No asynchronous `Read` is started while one is outstanding. -/
def Alone (s : Reader α) : ReadEvent α → Prop
  | .readAsync _ => s.reading = []
  | _ => True

/-- And a synchronous `Read` that finds bytes is next in line and gets them all. -/
def InTurn (s : Reader α) : ReadEvent α → Prop
  | .readAsync _ => s.reading = []
  | .readSync result =>
    s.incoming ≠ [] →
      s.buffer = [] ∧ fetchedBytes s.reading = [] ∧
        result.actualBytes s.incoming.length = s.incoming.length
  | _ => True

/-- What the callers got, what is buffered, what is fetched and what the kernel has are the
stream, in this order, and at most one read is outstanding. -/
structure Faithful (s : Reader α) : Prop where
  alone : s.overlapped = false
  one : s.reading.length ≤ 1
  stream : s.delivered ++ (s.buffer ++ (fetchedBytes s.reading ++ s.incoming)) = s.received

theorem Faithful.fresh : (fresh (α := α)).Faithful :=
  ⟨rfl, Nat.zero_le _, rfl⟩

/-- The outstanding read of a faithful reader. -/
theorem Faithful.reading_eq {s : Reader α} (h : s.Faithful) {which : Nat} {op : ReadOp α}
    (hop : s.reading[which]? = some op) : which = 0 ∧ s.reading = [op] := by
  have hone := h.one
  cases hreading : s.reading with
  | nil => simp [hreading] at hop
  | cons first rest =>
    rw [hreading] at hop hone
    have hrest : rest = [] := by
      rw [List.length_cons] at hone
      exact List.eq_nil_of_length_eq_zero (by omega)
    subst hrest
    cases which with
    | zero =>
      obtain rfl : first = op := by simpa using hop
      exact ⟨rfl, rfl⟩
    | succ which => simp at hop

/-- The stream with the outstanding read, by what that has fetched. -/
theorem Faithful.stream_of_op {s : Reader α} (h : s.Faithful) {which : Nat} {op : ReadOp α}
    (hop : s.reading[which]? = some op) :
    s.delivered ++ (s.buffer ++ (op.fetched ++ s.incoming)) = s.received := by
  have hstream := h.stream
  rwa [(h.reading_eq hop).2, fetchedBytes, List.flatMap_singleton] at hstream

/-! ## One event -/

/-- What is buffered goes to the vector as it is. -/
theorem appendAsyncReadResult_of_le {fill : α} {vector buffer : List α} {readAtLeast : Nat}
    (hpos : readAtLeast ≠ 0) (hle : readAtLeast ≤ buffer.length) :
    appendAsyncReadResult fill vector buffer readAtLeast =
      some (vector ++ buffer.take readAtLeast, buffer.drop readAtLeast, true) := by
  simp [appendAsyncReadResult, hpos, hle]

theorem append_cases (s : Reader α) (fill : α) (readAtLeast : Nat) :
    s.append fill readAtLeast = s ∨
      s.append fill readAtLeast =
        { s with
          delivered := s.delivered ++ s.buffer.take readAtLeast
          buffer := s.buffer.drop readAtLeast } := by
  unfold append
  split
  next => exact .inl rfl
  next hle =>
    by_cases hpos : readAtLeast = 0
    · simp [appendAsyncReadResult, hpos]
    · rw [appendAsyncReadResult_of_le hpos (Nat.le_of_not_lt hle)]
      exact .inr rfl

theorem Faithful.fetch {s : Reader α} (h : s.Faithful) (which count : Nat) :
    (s.fetch which count).Faithful := by
  unfold Reader.fetch
  cases hop : s.reading[which]? with
  | none => exact h
  | some op =>
    simp only
    split
    next hempty =>
      have hstream := h.stream_of_op hop
      obtain ⟨rfl, hreading⟩ := h.reading_eq hop
      rw [List.isEmpty_iff.mp hempty, List.nil_append] at hstream
      refine ⟨h.alone, by simp [hreading], ?_⟩
      simp only [hreading, List.set_cons_zero, fetchedBytes, List.flatMap_singleton,
        List.take_append_drop]
      exact hstream
    next => exact h

theorem Faithful.commit {s : Reader α} (h : s.Faithful) (which : Nat) (found : List α) :
    (s.commit which found).Faithful := by
  unfold Reader.commit
  cases hop : s.reading[which]? with
  | none => exact h
  | some op =>
    have hstream := h.stream_of_op hop
    obtain ⟨rfl, hreading⟩ := h.reading_eq hop
    refine ⟨h.alone, ?_, ?_⟩
    · simp only [hreading, List.eraseIdx_cons_zero, List.set_cons_zero]
      split
      next => exact Nat.zero_le _
      next => exact Nat.le_refl _
    · -- the read is over, or goes on with an empty region
      have hfetched : fetchedBytes
          (if op.need - op.fetched.length = 0 then s.reading.eraseIdx 0
            else s.reading.set 0 { need := op.need - op.fetched.length, fetched := [] }) = [] := by
        rw [hreading]
        split
        next => rfl
        next => rfl
      simp only [hfetched, h.alone, Bool.false_eq_true, if_false, List.nil_append]
      rw [List.append_assoc s.buffer]
      exact hstream

theorem Faithful.abort {s : Reader α} (h : s.Faithful) (which : Nat) :
    (s.abort which).Faithful := by
  unfold Reader.abort
  cases hop : s.reading[which]? with
  | none => exact h
  | some op =>
    simp only
    split
    next hempty =>
      have hstream := h.stream_of_op hop
      obtain ⟨rfl, hreading⟩ := h.reading_eq hop
      rw [List.isEmpty_iff.mp hempty] at hstream
      refine ⟨h.alone, by simp [hreading], ?_⟩
      rw [hreading]
      exact hstream
    next => exact h

theorem Faithful.append {s : Reader α} (h : s.Faithful) (fill : α) (readAtLeast : Nat) :
    (s.append fill readAtLeast).Faithful := by
  rcases s.append_cases fill readAtLeast with hsame | hmoved
  · rw [hsame]
    exact h
  · rw [hmoved]
    refine ⟨h.alone, h.one, ?_⟩
    simp only
    rw [List.append_assoc, ← List.append_assoc (s.buffer.take _), List.take_append_drop]
    exact h.stream

theorem Faithful.readSync {s : Reader α} (h : s.Faithful) (fill : α) {result : ReadSome}
    (hturn : s.InTurn (.readSync result)) : (s.readSync fill result).1.Faithful := by
  unfold Reader.readSync
  simp only
  split
  next => exact h
  next havailable =>
    obtain ⟨hbuffer, hfetched, hall⟩ := hturn (mt List.length_eq_zero_iff.mpr havailable)
    have hstream := h.stream
    rw [hbuffer, hfetched, List.nil_append, List.nil_append] at hstream
    refine ⟨h.alone, h.one, ?_⟩
    simp only [hall, hbuffer, hfetched, List.take_length, List.drop_length, Nat.sub_self,
      List.replicate_zero, List.append_nil]
    exact hstream

/-- **One event in turn keeps the stream faithful.** -/
theorem Faithful.step {s : Reader α} (h : s.Faithful) (fill : α) {event : ReadEvent α}
    (hturn : s.InTurn event) : (s.step fill event).Faithful := by
  cases event with
  | arrive bytes =>
    refine ⟨h.alone, h.one, ?_⟩
    simp only [Reader.step, ← h.stream, List.append_assoc]
  | readAsync readAtLeast =>
    have hreading : s.reading = [] := hturn
    have hstream := h.stream
    rw [hreading] at hstream
    refine ⟨by simp [Reader.step, readAsync, h.alone, hreading], ?_, ?_⟩
    · simp [Reader.step, readAsync, hreading]
    · simp only [Reader.step, readAsync, hreading, List.nil_append]
      exact hstream
  | readSync result => exact h.readSync fill hturn
  | append readAtLeast => exact h.append fill readAtLeast
  | fetch which count => exact h.fetch which count
  | commit which found => exact h.commit which found
  | abort which => exact h.abort which

theorem faithful_run (fill : α) {events : List (ReadEvent α)}
    (hturn : Run.Along (step fill) InTurn fresh events) :
    (events.foldl (step fill) fresh).Faithful :=
  hturn.invariant Faithful.fresh fun _ _ hs hg => hs.step fill hg

/-! ## Schedules out of turn -/

/-- What the callers got and what was received only grow. -/
theorem step_grows (s : Reader α) (fill : α) (event : ReadEvent α) :
    s.delivered <+: (s.step fill event).delivered ∧
      s.received <+: (s.step fill event).received := by
  cases event with
  | arrive bytes => exact ⟨List.prefix_refl _, List.prefix_append _ _⟩
  | readAsync readAtLeast => exact ⟨List.prefix_refl _, List.prefix_refl _⟩
  | readSync result =>
    simp only [Reader.step, readSync]
    split
    next => exact ⟨List.prefix_refl _, List.prefix_refl _⟩
    next => exact ⟨List.prefix_append _ _, List.prefix_refl _⟩
  | append readAtLeast =>
    simp only [Reader.step]
    rcases s.append_cases fill readAtLeast with hsame | hmoved
    · rw [hsame]
      exact ⟨List.prefix_refl _, List.prefix_refl _⟩
    · rw [hmoved]
      exact ⟨List.prefix_append _ _, List.prefix_refl _⟩
  | fetch which count =>
    simp only [Reader.step, Reader.fetch]
    split
    next => exact ⟨List.prefix_refl _, List.prefix_refl _⟩
    next => split <;> exact ⟨List.prefix_refl _, List.prefix_refl _⟩
  | commit which found =>
    simp only [Reader.step, Reader.commit]
    split <;> exact ⟨List.prefix_refl _, List.prefix_refl _⟩
  | abort which =>
    simp only [Reader.step, Reader.abort]
    split
    next => exact ⟨List.prefix_refl _, List.prefix_refl _⟩
    next => split <;> exact ⟨List.prefix_refl _, List.prefix_refl _⟩

/-- What the callers got is no beginning of the stream, however it goes on, when its bytes can
be told apart from each other and from `fill`. -/
def Departed (fill : α) (s : Reader α) : Prop :=
  ∀ more, (s.received ++ more).Nodup → fill ∉ s.received ++ more →
    ¬ s.delivered <+: s.received ++ more

theorem Departed.step {fill : α} {s : Reader α} (h : s.Departed fill) (event : ReadEvent α) :
    (s.step fill event).Departed fill := by
  intro more hdistinct hfill hpre
  obtain ⟨hdelivered, later, hreceived⟩ := s.step_grows fill event
  rw [← hreceived, List.append_assoc] at hdistinct hfill hpre
  exact h (later ++ more) hdistinct hfill (hdelivered.trans hpre)

/-- **A synchronous `Read` out of turn departs from the stream**: its bytes come before what is
buffered or fetched, or what it did not get is made up. -/
theorem departed_of_not_inTurn {s : Reader α} (h : s.Faithful) {fill : α} {result : ReadSome}
    (hturn : ¬ s.InTurn (.readSync result)) : (s.readSync fill result).1.Departed fill := by
  have hreceived : (s.readSync fill result).1.received = s.received := by
    unfold readSync
    simp only
    split
    next => rfl
    next => rfl
  intro more
  rw [hreceived]
  intro hdistinct hfill hpre
  have hstream := h.stream
  simp only [InTurn, Classical.not_imp, not_and_or] at hturn
  obtain ⟨hincoming, hturn⟩ := hturn
  have havailable : s.incoming.length ≠ 0 := mt List.length_eq_zero_iff.mp hincoming
  simp only [readSync, if_neg havailable] at hpre
  by_cases hall : result.actualBytes s.incoming.length = s.incoming.length
  · -- it got everything, ahead of its turn
    simp only [hall, List.take_length, Nat.sub_self, List.replicate_zero, List.append_nil]
      at hpre
    have hearlier : s.buffer ++ fetchedBytes s.reading ≠ [] := by
      intro hnil
      obtain ⟨hbuffer, hfetched⟩ := List.append_eq_nil_iff.mp hnil
      tauto
    obtain ⟨a, as, ha⟩ := List.exists_cons_of_ne_nil hearlier
    obtain ⟨b, bs, hb⟩ := List.exists_cons_of_ne_nil hincoming
    rw [← List.append_assoc s.buffer, ha] at hstream
    rw [← hstream, List.append_assoc, List.prefix_append_right_inj, hb, List.cons_append,
      List.cons_append, List.cons_prefix_cons] at hpre
    rw [← hstream, hb, hpre.1] at hdistinct
    simp [List.nodup_append] at hdistinct
  · -- it got less than the vector has grown by
    have hless : 0 < s.incoming.length - result.actualBytes s.incoming.length := by
      have hle : result.actualBytes s.incoming.length ≤ s.incoming.length := by
        cases result with
        | bytes count => exact Nat.min_le_right _ _
        | disconnected => exact Nat.zero_le _
        | failed => exact Nat.zero_le _
      omega
    refine hfill (hpre.subset ?_)
    refine List.mem_append_right _ (List.mem_append_right _ ?_)
    exact List.mem_replicate.mpr ⟨by omega, rfl⟩

/-- A schedule without overlapping reads that ends with a prefix delivered, of bytes that can
be told apart, was in turn throughout. -/
theorem inTurn_of_delivered_prefix {s : Reader α} (h : s.Faithful) {fill : α}
    {events : List (ReadEvent α)} (halone : Run.Along (step fill) Alone s events)
    (hdistinct : (events.foldl (step fill) s).received.Nodup)
    (hfill : fill ∉ (events.foldl (step fill) s).received)
    (hpre : (events.foldl (step fill) s).delivered <+: (events.foldl (step fill) s).received) :
    Run.Along (step fill) InTurn s events := by
  refine halone.refine (B := Departed fill) h (fun _ _ hs hturn => hs.step fill hturn) ?_
    (fun _ event hs => hs.step event) ?_
  · intro s event hs halone hturn
    cases event with
    | readSync result => exact departed_of_not_inTurn hs hturn
    | readAsync readAtLeast => exact absurd halone hturn
    | arrive bytes => exact absurd trivial hturn
    | append readAtLeast => exact absurd trivial hturn
    | fetch which count => exact absurd trivial hturn
    | commit which found => exact absurd trivial hturn
    | abort which => exact absurd trivial hturn
  · intro hdeparted
    have hnot := hdeparted []
    rw [List.append_nil] at hnot
    exact hnot hdistinct hfill hpre

/-- **When the callers get a prefix of the stream**: a schedule in turn delivers one; and when reads
do not overlap and the bytes can be told apart, only such a schedule does. The first half is about
any bytes, any segmentation and any mixture of the two kinds of `Read`. The second needs bytes of
which none occurs twice and none is the filler, since equal bytes can stand for each other by
chance. What overlapping reads leave in the buffer is up to asio, and nothing is said of it. -/
theorem delivered_prefix_iff (fill : α) (events : List (ReadEvent α)) :
    (Run.Along (step fill) InTurn fresh events →
      (events.foldl (step fill) fresh).delivered <+: (events.foldl (step fill) fresh).received) ∧
      (Run.Along (step fill) Alone fresh events →
        (events.foldl (step fill) fresh).received.Nodup →
        fill ∉ (events.foldl (step fill) fresh).received →
        (events.foldl (step fill) fresh).delivered <+: (events.foldl (step fill) fresh).received →
        Run.Along (step fill) InTurn fresh events) := by
  refine ⟨fun hturn => ?_, inTurn_of_delivered_prefix Faithful.fresh⟩
  exact ⟨_, (faithful_run fill hturn).stream⟩

/-- A synchronous `Read` overtakes the byte an asynchronous one has left in the buffer. -/
theorem sync_read_overtakes :
    ¬ ∀ (fill : UInt8) (events : List (ReadEvent UInt8)),
        (events.foldl (step fill) fresh).delivered <+: (events.foldl (step fill) fresh).received :=
  fun h => absurd
    (h 0 [.readAsync 0, .arrive [1, 2], .fetch 0 1, .commit 0 [], .readSync (.bytes 1), .append 1])
    (by decide)

end Reader

end AccessPoint.Socket
