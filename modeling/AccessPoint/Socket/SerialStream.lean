import AccessPoint.Socket.Read
import Mathlib.Algebra.BigOperators.Group.List.Basic
import Mathlib.Algebra.GroupWithZero.Nat

/-!
# The incoming byte stream of a serial socket

The read half of a `LinuxSerialSocket`. An asynchronous `Read` is the one of a TCP socket. A
synchronous one reads into `m_ReadBuffer` too: it waits until the port has given as many new bytes
as it asks for, and then takes that many from the front of the buffer, so that what was there
before goes first. An error throws out of the call, and what was read until then stays buffered.

`delivered_in_order` is the integrity of the stream, for every schedule in which no `Read` is
started while an asynchronous one is outstanding; with two reads on one buffer, what the buffer
holds is up to asio. `behind_by_stranded` is about callers that take what a completed read has
announced: they always find it, and the bytes of every read that ended with an error stay between
them and the stream for good.
-/

namespace AccessPoint.Socket

variable {α : Type*}

/-- How the `asio::read` of a synchronous `Read` ends: with all its bytes, or with an error after
some of them. -/
inductive SyncRead where
  | transferred
  | failed (count : Nat)
  deriving DecidableEq, Repr

/-- What a synchronous `Read` tells its caller. -/
inductive SyncReply where
  | returned (success : Bool)
  | threw
  deriving DecidableEq, Repr

/-- What happens to a serial socket's read side. `found` is the buffer that reads which overlap
leave. -/
inductive SerialEvent (α : Type*) where
  | arrive (bytes : List α)
  | readAsync (readAtLeast : Nat)
  | readSync (readAtLeast : Nat) (result : SyncRead) (found : List α)
  | append (readAtLeast : Nat)
  | fetch (which count : Nat)
  | commit (which : Nat) (found : List α)
  | abort (which : Nat)
  deriving DecidableEq, Repr

/-- `ReadAtLeast ? ReadAtLeast : 1`. -/
def exactly (readAtLeast : Nat) : Nat :=
  if readAtLeast = 0 then 1 else readAtLeast

namespace SerialReader

/-- The port's bytes go to the buffer. -/
def take (s : Reader α) (count : Nat) (found : List α) : Reader α :=
  { s with
    incoming := s.incoming.drop count
    overlapped := s.overlapped || !s.reading.isEmpty
    buffer :=
      if s.overlapped || !s.reading.isEmpty then found else s.buffer ++ s.incoming.take count }

/-- `Read` with a vector. A call that has not got its bytes yet has not returned. -/
def readSync (fill : α) (s : Reader α) (readAtLeast : Nat) (result : SyncRead)
    (found : List α) : Reader α × Option SyncReply :=
  match result with
  | .transferred =>
    let actualBytes := exactly readAtLeast
    if s.incoming.length < actualBytes then (s, none)
    else
      let s := take s actualBytes found
      match appendAsyncReadResult fill s.delivered s.buffer actualBytes with
      | none => (s, some .threw)
      | some (delivered, buffer, appended) =>
        ({ s with delivered, buffer }, some (.returned appended))
  | .failed count => (take s (min count (exactly readAtLeast - 1)) found, some .threw)

/-- One event; `fill` is what `AppendExtra` grows a vector with. -/
def step (fill : α) (s : Reader α) : SerialEvent α → Reader α
  | .arrive bytes => { s with incoming := s.incoming ++ bytes, received := s.received ++ bytes }
  | .readAsync readAtLeast => s.readAsync readAtLeast
  | .readSync readAtLeast result found => (readSync fill s readAtLeast result found).1
  | .append readAtLeast => s.append fill readAtLeast
  | .fetch which count => s.fetch which count
  | .commit which found => s.commit which found
  | .abort which => s.abort which

/-- No `Read` is started, or comes back, while an asynchronous one is outstanding. -/
def Alone (s : Reader α) : SerialEvent α → Prop
  | .readAsync _ => s.reading = []
  | .readSync readAtLeast .transferred _ =>
    exactly readAtLeast ≤ s.incoming.length → s.reading = []
  | .readSync _ (.failed _) _ => s.reading = []
  | _ => True

theorem exactly_pos (readAtLeast : Nat) : exactly readAtLeast ≠ 0 := by
  unfold exactly
  split
  next => exact Nat.one_ne_zero
  next h => exact h

/-! ## One event -/

/-- With nothing outstanding the bytes go behind what is buffered. -/
theorem take_of_alone {s : Reader α} (h : s.Faithful) (halone : s.reading = []) (count : Nat)
    (found : List α) :
    take s count found =
      { s with
        incoming := s.incoming.drop count
        buffer := s.buffer ++ s.incoming.take count } := by
  unfold take
  simp only [h.alone, halone, List.isEmpty_nil, Bool.not_true, Bool.or_self, Bool.false_eq_true,
    if_false]

theorem faithful_take {s : Reader α} (h : s.Faithful) (halone : s.reading = []) (count : Nat)
    (found : List α) : (take s count found).Faithful := by
  rw [take_of_alone h halone]
  refine ⟨h.alone, h.one, ?_⟩
  have hstream := h.stream
  simp only [halone, fetchedBytes, List.flatMap_nil, List.nil_append] at hstream ⊢
  rw [List.append_assoc, List.take_append_drop]
  exact hstream

/-- **A synchronous `Read` that is alone** takes the oldest bytes nobody has, as many as it asks
for, and reports success. -/
theorem readSync_of_alone {s : Reader α} (h : s.Faithful) (halone : s.reading = []) (fill : α)
    {readAtLeast : Nat} (found : List α) (havailable : exactly readAtLeast ≤ s.incoming.length) :
    readSync fill s readAtLeast .transferred found =
      ({ s with
          incoming := s.incoming.drop (exactly readAtLeast)
          buffer := (s.buffer ++ s.incoming.take (exactly readAtLeast)).drop (exactly readAtLeast)
          delivered := s.delivered ++
            (s.buffer ++ s.incoming.take (exactly readAtLeast)).take (exactly readAtLeast) },
        some (.returned true)) := by
  have hbuffered : exactly readAtLeast ≤
      (s.buffer ++ s.incoming.take (exactly readAtLeast)).length := by
    rw [List.length_append, List.length_take, Nat.min_eq_left havailable]
    exact Nat.le_add_left _ _
  simp only [readSync, if_neg (Nat.not_lt.mpr havailable), take_of_alone h halone]
  rw [Reader.appendAsyncReadResult_of_le (exactly_pos readAtLeast) hbuffered]

theorem readSync_waits {s : Reader α} (fill : α) {readAtLeast : Nat} (found : List α)
    (havailable : s.incoming.length < exactly readAtLeast) :
    readSync fill s readAtLeast .transferred found = (s, none) := by
  simp only [readSync, if_pos havailable]

theorem faithful_readSync {s : Reader α} (h : s.Faithful) (fill : α) {readAtLeast : Nat}
    {result : SyncRead} {found : List α} (halone : Alone s (.readSync readAtLeast result found)) :
    (readSync fill s readAtLeast result found).1.Faithful := by
  cases result with
  | failed count => exact faithful_take h halone _ _
  | transferred =>
    rcases Nat.lt_or_ge s.incoming.length (exactly readAtLeast) with hwaits | havailable
    · rw [readSync_waits fill found hwaits]
      exact h
    · rw [readSync_of_alone h (halone havailable) fill found havailable]
      have htaken := (faithful_take h (halone havailable) (exactly readAtLeast) found).stream
      rw [take_of_alone h (halone havailable)] at htaken
      refine ⟨h.alone, h.one, ?_⟩
      simp only at htaken ⊢
      rw [← htaken, List.append_assoc]
      congr 1
      rw [← List.append_assoc, List.take_append_drop]

/-- **One event that does not overlap a read keeps the stream faithful.** -/
theorem faithful_step {s : Reader α} (h : s.Faithful) (fill : α) {event : SerialEvent α}
    (halone : Alone s event) : (step fill s event).Faithful := by
  cases event with
  | arrive bytes => exact h.step fill (show s.InTurn (.arrive bytes) from trivial)
  | readAsync readAtLeast => exact h.step fill (show s.InTurn (.readAsync readAtLeast) from halone)
  | readSync readAtLeast result found => exact faithful_readSync h fill halone
  | append readAtLeast => exact h.append fill readAtLeast
  | fetch which count => exact h.fetch which count
  | commit which found => exact h.commit which found
  | abort which => exact h.abort which

/-! ## The stream -/

/-- **The integrity of the stream.** While reads do not overlap, every byte the port has received is
in one place, in every state of the run: with the callers, then in the buffer, then with the read
that has fetched it, then at the port, and in this order. So the callers have a prefix of what was
received; no byte is lost, doubled or overtaken. Partial transfers, errors and timeouts of the reads
come in any order. What two reads on one buffer would leave in it is not said. -/
theorem delivered_in_order (fill : α) (events : List (SerialEvent α))
    (halone : Run.Along (step fill) Alone Reader.fresh events) :
    Run.Always (step fill)
      (fun s => s.delivered <+: s.received ∧
        s.delivered ++ (s.buffer ++ (fetchedBytes s.reading ++ s.incoming)) = s.received)
      Reader.fresh events := by
  refine halone.always Reader.Faithful.fresh (fun _ _ hs hg => faithful_step hs fill hg) ?_
  intro s hs
  exact ⟨⟨_, hs.stream⟩, hs.stream⟩

/-- An asynchronous read of two bytes, and a synchronous one behind it. -/
theorem delivered_in_order_turns :
    Run.Always (step (0 : UInt8))
      (fun s => s.delivered <+: s.received ∧
        s.delivered ++ (s.buffer ++ (fetchedBytes s.reading ++ s.incoming)) = s.received)
      Reader.fresh
      [.readAsync 2, .arrive [1, 2, 3], .fetch 0 2, .commit 0 [], .append 1,
        .readSync 1 .transferred []] :=
  delivered_in_order 0 _ (by simp [Alone]; decide)

/-! ## What callers are behind -/

/-- The read side with what its callers can know of it. `wanted` is what the outstanding read was
started for, `owed` are the counts of the completed reads whose bytes have not been taken, and
`stranded` counts the bytes of the reads that ended with an error. -/
structure Ledger (α : Type*) where
  reader : Reader α
  wanted : Nat
  owed : List Nat
  stranded : Nat
  deriving DecidableEq, Repr

namespace Ledger

/-- Nothing has been read. -/
def fresh : Ledger α :=
  { reader := .fresh, wanted := 0, owed := [], stranded := 0 }

/-- The bytes that outstanding reads have put into the buffer. -/
def committed (l : Ledger α) : Nat :=
  (l.reader.reading.map fun op => l.wanted - op.need).sum

/-- The outstanding read is over after a step. -/
def ends (l : Ledger α) (after : Reader α) : Bool :=
  !l.reader.reading.isEmpty && after.reading.isEmpty

/-- The reads whose bytes are there for the taking, after an event. -/
def owedAfter (l : Ledger α) (after : Reader α) : SerialEvent α → List Nat
  | .commit _ _ => if l.ends after then l.owed ++ [l.wanted] else l.owed
  | .append readAtLeast => l.owed.erase readAtLeast
  | _ => l.owed

/-- The bytes that an event leaves in the buffer without announcing them. -/
def strandedBy (l : Ledger α) (after : Reader α) : SerialEvent α → Nat
  | .abort _ => if l.ends after then l.committed else 0
  | .readSync readAtLeast (.failed count) _ =>
    min (min count (exactly readAtLeast - 1)) l.reader.incoming.length
  | _ => 0

/-- The count of the read that is outstanding after an event. -/
def wantedAfter (l : Ledger α) : SerialEvent α → Nat
  | .readAsync readAtLeast => exactly readAtLeast
  | _ => l.wanted

/-- One event. -/
def step (fill : α) (l : Ledger α) (event : SerialEvent α) : Ledger α :=
  let after := SerialReader.step fill l.reader event
  { reader := after
    wanted := l.wantedAfter event
    owed := l.owedAfter after event
    stranded := l.stranded + l.strandedBy after event }

/-- Reads do not overlap, and a caller takes what a completed read has announced, once. -/
def Disciplined (l : Ledger α) : SerialEvent α → Prop
  | .append readAtLeast => readAtLeast ∈ l.owed
  | event => Alone l.reader event

/-- The buffer holds what is owed, what is committed and what is stranded. -/
structure Balanced (l : Ledger α) : Prop where
  faithful : l.reader.Faithful
  positive : 0 ∉ l.owed
  fits : ∀ op ∈ l.reader.reading, op.need ≤ l.wanted ∧ op.fetched.length ≤ op.need ∧ 0 < op.need
  buffered : l.reader.buffer.length = l.owed.sum + l.committed + l.stranded

theorem Balanced.fresh : (fresh (α := α)).Balanced :=
  ⟨Reader.Faithful.fresh, nofun, nofun, rfl⟩

variable {l : Ledger α}

theorem committed_of_alone (h : l.reader.reading = []) : l.committed = 0 := by
  rw [committed, h, List.map_nil, List.sum_nil]

theorem committed_of_one {op : ReadOp α} (h : l.reader.reading = [op]) :
    l.committed = l.wanted - op.need := by
  rw [committed, h, List.map_singleton, List.sum_singleton]

/-- What is owed is buffered. -/
theorem Balanced.le_buffer (h : l.Balanced) {readAtLeast : Nat} (hmem : readAtLeast ∈ l.owed) :
    readAtLeast ≤ l.reader.buffer.length := by
  have hsum := List.sum_erase hmem
  rw [h.buffered]
  omega

/-- So the caller gets it. -/
theorem Balanced.append_eq (h : l.Balanced) (fill : α) {readAtLeast : Nat}
    (hmem : readAtLeast ∈ l.owed) :
    appendAsyncReadResult fill l.reader.delivered l.reader.buffer readAtLeast =
      some (l.reader.delivered ++ l.reader.buffer.take readAtLeast,
        l.reader.buffer.drop readAtLeast, true) := by
  refine Reader.appendAsyncReadResult_of_le ?_ (h.le_buffer hmem)
  rintro rfl
  exact h.positive hmem

/-! ### What each event does to the balance -/

theorem Balanced.arrive (h : l.Balanced) (fill : α) (bytes : List α) :
    (l.step fill (.arrive bytes)).Balanced :=
  ⟨faithful_step h.faithful fill (show Alone _ (.arrive bytes) from trivial), h.positive, h.fits,
    h.buffered⟩

theorem Balanced.readAsync (h : l.Balanced) (fill : α) {readAtLeast : Nat}
    (halone : l.reader.reading = []) : (l.step fill (.readAsync readAtLeast)).Balanced := by
  have hreading : (l.step fill (.readAsync readAtLeast)).reader.reading =
      [{ need := exactly readAtLeast, fetched := [] }] := by
    simp only [step, SerialReader.step, Reader.readAsync, halone, List.nil_append, exactly]
  refine ⟨faithful_step h.faithful fill (show Alone _ (.readAsync readAtLeast) from halone),
    h.positive, ?_, ?_⟩
  · intro op hop
    rw [hreading, List.mem_singleton] at hop
    subst hop
    exact ⟨Nat.le_refl _, Nat.zero_le _, Nat.pos_of_ne_zero (exactly_pos readAtLeast)⟩
  · have hbefore := h.buffered
    rw [committed_of_alone halone] at hbefore
    rw [committed_of_one hreading]
    show l.reader.buffer.length = l.owed.sum + (exactly readAtLeast - exactly readAtLeast) +
      (l.stranded + 0)
    omega

theorem Balanced.append (h : l.Balanced) (fill : α) {readAtLeast : Nat}
    (hmem : readAtLeast ∈ l.owed) : (l.step fill (.append readAtLeast)).Balanced := by
  have hreader : SerialReader.step fill l.reader (.append readAtLeast) =
      { l.reader with
        delivered := l.reader.delivered ++ l.reader.buffer.take readAtLeast
        buffer := l.reader.buffer.drop readAtLeast } := by
    simp only [SerialReader.step, Reader.append, if_neg (Nat.not_lt.mpr (h.le_buffer hmem)),
      h.append_eq fill hmem]
  refine ⟨faithful_step h.faithful fill (show Alone _ (.append readAtLeast) from trivial),
    ?_, ?_, ?_⟩
  · exact fun hzero => h.positive (List.mem_of_mem_erase hzero)
  · show ∀ op ∈ (SerialReader.step fill l.reader (.append readAtLeast)).reading, _
    rw [hreader]
    exact h.fits
  · have hsum := List.sum_erase hmem
    have hbefore := h.buffered
    have hafter : (l.step fill (.append readAtLeast)).committed = l.committed := by
      simp only [committed, step, hreader, wantedAfter]
    rw [hafter]
    show (SerialReader.step fill l.reader (.append readAtLeast)).buffer.length =
      (l.owed.erase readAtLeast).sum + l.committed + (l.stranded + 0)
    rw [hreader, List.length_drop]
    omega

theorem Balanced.readSync (h : l.Balanced) (fill : α) {readAtLeast : Nat} {result : SyncRead}
    {found : List α} (halone : Alone l.reader (.readSync readAtLeast result found)) :
    (l.step fill (.readSync readAtLeast result found)).Balanced := by
  have hbefore := h.buffered
  cases result with
  | failed count =>
    have hreading : l.reader.reading = [] := halone
    have hreader := take_of_alone h.faithful hreading (min count (exactly readAtLeast - 1)) found
    refine ⟨faithful_step h.faithful fill halone, h.positive, h.fits, ?_⟩
    show (take l.reader _ found).buffer.length = l.owed.sum + l.committed + (l.stranded + _)
    rw [hreader, List.length_append, List.length_take, hbefore, strandedBy]
    omega
  | transferred =>
    refine ⟨faithful_step h.faithful fill halone, h.positive, ?_, ?_⟩
    all_goals rcases Nat.lt_or_ge l.reader.incoming.length (exactly readAtLeast)
      with hwaits | havailable
    · show ∀ op ∈ (SerialReader.readSync fill l.reader readAtLeast .transferred found).1.reading, _
      rw [readSync_waits fill found hwaits]
      exact h.fits
    · show ∀ op ∈ (SerialReader.readSync fill l.reader readAtLeast .transferred found).1.reading, _
      rw [readSync_of_alone h.faithful (halone havailable) fill found havailable]
      exact h.fits
    · have hreader : (l.step fill (.readSync readAtLeast .transferred found)).reader = l.reader :=
        congrArg Prod.fst (readSync_waits fill found hwaits)
      rw [committed, hreader]
      exact hbefore
    · -- as many bytes come in as go out
      have hreader := congrArg Prod.fst
        (readSync_of_alone h.faithful (halone havailable) fill found havailable)
      show (SerialReader.readSync fill l.reader readAtLeast .transferred found).1.buffer.length =
        l.owed.sum + (((SerialReader.readSync fill l.reader readAtLeast .transferred found).1
          |>.reading.map fun op => l.wanted - op.need).sum) + (l.stranded + 0)
      rw [hreader, List.length_drop, List.length_append, List.length_take,
        Nat.min_eq_left havailable]
      have hcommitted : (l.reader.reading.map fun op => l.wanted - op.need).sum = l.committed := rfl
      simp only [hcommitted]
      omega

/-- The outstanding read, if an event finds one. -/
theorem Balanced.outstanding (h : l.Balanced) {which : Nat} {op : ReadOp α}
    (hop : l.reader.reading[which]? = some op) :
    which = 0 ∧ l.reader.reading = [op] ∧ op.need ≤ l.wanted ∧ op.fetched.length ≤ op.need ∧
      0 < op.need ∧ l.reader.buffer.length = l.owed.sum + (l.wanted - op.need) + l.stranded := by
  obtain ⟨hwhich, hreading⟩ := h.faithful.reading_eq hop
  obtain ⟨hneed, hfetched, hpos⟩ := h.fits op (List.mem_of_getElem? hop)
  refine ⟨hwhich, hreading, hneed, hfetched, hpos, ?_⟩
  rw [← committed_of_one hreading]
  exact h.buffered

theorem ends_self : l.ends l.reader = false := by
  unfold ends
  cases l.reader.reading.isEmpty with
  | false => rfl
  | true => rfl

/-- A step of an outstanding read that finds nothing to do. -/
theorem step_idle (fill : α) {event : SerialEvent α}
    (hreader : SerialReader.step fill l.reader event = l.reader)
    (hkind : (∃ which count, event = .fetch which count) ∨
      (∃ which found, event = .commit which found) ∨ ∃ which, event = .abort which) :
    l.step fill event = l := by
  rcases hkind with ⟨which, count, rfl⟩ | ⟨which, found, rfl⟩ | ⟨which, rfl⟩
  · simp only [step, hreader, owedAfter, strandedBy, wantedAfter, Nat.add_zero]
  · simp only [step, hreader, owedAfter, strandedBy, wantedAfter, ends_self, Bool.false_eq_true,
      if_false, Nat.add_zero]
  · simp only [step, hreader, owedAfter, strandedBy, wantedAfter, ends_self, Bool.false_eq_true,
      if_false, Nat.add_zero]

theorem Balanced.fetch (h : l.Balanced) (fill : α) (which count : Nat) :
    (l.step fill (.fetch which count)).Balanced := by
  have hfaithful := faithful_step h.faithful fill (show Alone _ (.fetch which count) from trivial)
  cases hop : l.reader.reading[which]? with
  | none =>
    rw [step_idle fill (by simp only [SerialReader.step, Reader.fetch, hop])
      (.inl ⟨which, count, rfl⟩)]
    exact h
  | some op =>
    obtain ⟨rfl, hreading, hneed, hfetched, hpos, hbuffered⟩ := h.outstanding hop
    by_cases hempty : op.fetched.isEmpty = true
    · have hafter : SerialReader.step fill l.reader (.fetch 0 count) =
          { l.reader with
            incoming := l.reader.incoming.drop (min count op.need)
            reading :=
              [{ op with fetched := l.reader.incoming.take (min count op.need) }] } := by
        simp only [SerialReader.step, Reader.fetch, hop, if_pos hempty]
        rw [hreading, List.set_cons_zero]
      have hone := congrArg Reader.reading hafter
      refine ⟨hfaithful, h.positive, ?_, ?_⟩
      · intro op' hop'
        rw [show (l.step fill (.fetch 0 count)).reader.reading = _ from hone,
          List.mem_singleton] at hop'
        subst hop'
        refine ⟨hneed, ?_, hpos⟩
        rw [List.length_take]
        exact Nat.le_trans (Nat.min_le_left _ _) (Nat.min_le_right _ _)
      · rw [committed_of_one hone]
        show (SerialReader.step fill l.reader (.fetch 0 count)).buffer.length = _
        rw [hafter]
        exact hbuffered
    · rw [step_idle fill (by simp only [SerialReader.step, Reader.fetch, hop, if_neg hempty])
        (.inl ⟨0, count, rfl⟩)]
      exact h

/-- An outstanding read that has got all it wants is owed to its caller. -/
theorem Balanced.commit (h : l.Balanced) (fill : α) (which : Nat) (found : List α) :
    (l.step fill (.commit which found)).Balanced := by
  have hfaithful := faithful_step h.faithful fill (show Alone _ (.commit which found) from trivial)
  cases hop : l.reader.reading[which]? with
  | none =>
    rw [step_idle fill (by simp only [SerialReader.step, Reader.commit, hop])
      (.inr (.inl ⟨which, found, rfl⟩))]
    exact h
  | some op =>
    obtain ⟨rfl, hreading, hneed, hfetched, hpos, hbuffered⟩ := h.outstanding hop
    have hafter : SerialReader.step fill l.reader (.commit 0 found) =
        { l.reader with
          buffer := l.reader.buffer ++ op.fetched
          reading :=
            if op.need - op.fetched.length = 0 then []
            else [{ need := op.need - op.fetched.length, fetched := [] }] } := by
      simp only [SerialReader.step, Reader.commit, hop, h.faithful.alone, Bool.false_eq_true,
        if_false]
      rw [hreading, List.eraseIdx_cons_zero, List.set_cons_zero]
    have hbuffer : (l.step fill (.commit 0 found)).reader.buffer.length =
        l.reader.buffer.length + op.fetched.length := by
      show (SerialReader.step fill l.reader (.commit 0 found)).buffer.length = _
      rw [hafter, List.length_append]
    have hreading' := congrArg Reader.reading hafter
    by_cases hdone : op.need - op.fetched.length = 0
    · rw [if_pos hdone] at hreading'
      have hends : l.ends (SerialReader.step fill l.reader (.commit 0 found)) = true := by
        rw [ends, hreading, hreading']
        rfl
      have howed : (l.step fill (.commit 0 found)).owed = l.owed ++ [l.wanted] := if_pos hends
      refine ⟨hfaithful, ?_, ?_, ?_⟩
      · rw [howed, List.mem_append, List.mem_singleton]
        rintro (hzero | hzero)
        · exact h.positive hzero
        · omega
      · intro op' hop'
        rw [show (l.step fill (.commit 0 found)).reader.reading = _ from hreading'] at hop'
        cases hop'
      · rw [committed_of_alone hreading', hbuffer, hbuffered, howed, List.sum_append,
          List.sum_singleton]
        show _ = _ + 0 + (l.stranded + 0)
        omega
    · rw [if_neg hdone] at hreading'
      have hends : l.ends (SerialReader.step fill l.reader (.commit 0 found)) = false := by
        rw [ends, hreading, hreading']
        rfl
      have howed : (l.step fill (.commit 0 found)).owed = l.owed :=
        if_neg (by rw [hends]; exact Bool.false_ne_true)
      refine ⟨hfaithful, by rw [howed]; exact h.positive, ?_, ?_⟩
      · intro op' hop'
        rw [show (l.step fill (.commit 0 found)).reader.reading = _ from hreading',
          List.mem_singleton] at hop'
        subst hop'
        exact ⟨Nat.le_trans (Nat.sub_le _ _) hneed, Nat.zero_le _, Nat.pos_of_ne_zero hdone⟩
      · rw [committed_of_one hreading', hbuffer, hbuffered, howed]
        show _ = _ + (l.wanted - (op.need - op.fetched.length)) + (l.stranded + 0)
        omega

/-- An outstanding read that ends with an error leaves what it has committed. -/
theorem Balanced.abort (h : l.Balanced) (fill : α) (which : Nat) :
    (l.step fill (.abort which)).Balanced := by
  have hfaithful := faithful_step h.faithful fill (show Alone _ (.abort which) from trivial)
  cases hop : l.reader.reading[which]? with
  | none =>
    rw [step_idle fill (by simp only [SerialReader.step, Reader.abort, hop])
      (.inr (.inr ⟨which, rfl⟩))]
    exact h
  | some op =>
    obtain ⟨rfl, hreading, hneed, hfetched, hpos, hbuffered⟩ := h.outstanding hop
    by_cases hempty : op.fetched.isEmpty = true
    · have hafter : SerialReader.step fill l.reader (.abort 0) =
          { l.reader with reading := [] } := by
        simp only [SerialReader.step, Reader.abort, hop, if_pos hempty]
        rw [hreading, List.eraseIdx_cons_zero]
      have hreading' := congrArg Reader.reading hafter
      have hends : l.ends (SerialReader.step fill l.reader (.abort 0)) = true := by
        rw [ends, hreading, hreading']
        rfl
      have hstranded : (l.step fill (.abort 0)).stranded = l.stranded + l.committed :=
        congrArg (l.stranded + ·) (if_pos hends)
      refine ⟨hfaithful, h.positive, ?_, ?_⟩
      · intro op' hop'
        rw [show (l.step fill (.abort 0)).reader.reading = _ from hreading'] at hop'
        cases hop'
      · have hbefore := h.buffered
        rw [committed_of_alone hreading', hstranded]
        show (SerialReader.step fill l.reader (.abort 0)).buffer.length = l.owed.sum + 0 + _
        rw [hafter]
        show l.reader.buffer.length = _
        omega
    · rw [step_idle fill (by simp only [SerialReader.step, Reader.abort, hop, if_neg hempty])
        (.inr (.inr ⟨0, rfl⟩))]
      exact h

/-- **One event of disciplined callers** keeps the balance. -/
theorem Balanced.step (h : l.Balanced) (fill : α) {event : SerialEvent α}
    (hdisciplined : l.Disciplined event) : (l.step fill event).Balanced := by
  cases event with
  | arrive bytes => exact h.arrive fill bytes
  | readAsync readAtLeast => exact h.readAsync fill hdisciplined
  | readSync readAtLeast result found => exact h.readSync fill hdisciplined
  | append readAtLeast => exact h.append fill hdisciplined
  | fetch which count => exact h.fetch fill which count
  | commit which found => exact h.commit fill which found
  | abort which => exact h.abort fill which

theorem balanced_run (fill : α) {events : List (SerialEvent α)}
    (h : Run.Along (step fill) Disciplined fresh events) :
    (events.foldl (step fill) fresh).Balanced :=
  h.invariant Balanced.fresh fun _ _ hl hg => hl.step fill hg

/-- What is stranded stays so. -/
theorem stranded_le (fill : α) (l : Ledger α) (events : List (SerialEvent α)) :
    l.stranded ≤ (events.foldl (step fill) l).stranded := by
  refine Run.invariant (I := fun after : Ledger α => l.stranded ≤ after.stranded) _ _ _
    (Nat.le_refl _) ?_
  intro after event hle
  exact Nat.le_trans hle (Nat.le_add_right _ _)

/-- Once nothing is on its way, the callers have all but what is stranded. -/
theorem Balanced.delivered_eq (h : l.Balanced) (howed : l.owed = [])
    (hreading : l.reader.reading = []) (hincoming : l.reader.incoming = []) :
    l.reader.delivered = l.reader.received.take (l.reader.received.length - l.stranded) := by
  have hstream := h.faithful.stream
  have hbuffered := h.buffered
  rw [committed_of_alone hreading, howed, List.sum_nil, Nat.zero_add] at hbuffered
  rw [hreading, hincoming, List.append_nil] at hstream
  have hfetched : fetchedBytes ([] : List (ReadOp α)) = [] := rfl
  rw [hfetched, List.append_nil] at hstream
  rw [← hstream, List.length_append, hbuffered, Nat.add_sub_cancel, List.take_left]

/-- **Callers stay behind by what is stranded**: when reads do not overlap and each completed one is
taken once, a caller always finds what it takes; but once all is taken, the callers have the stream
without its last bytes, as many as the reads that ended with an error had committed, and that many
only grow. So an error is paid for by every later reader, who gets bytes that were meant for an
earlier one. Nothing in the class gives them back. -/
theorem behind_by_stranded (fill : α) (events : List (SerialEvent α))
    (h : Run.Along (step fill) Disciplined fresh events) :
    let l := events.foldl (step fill) fresh
    (∀ readAtLeast ∈ l.owed,
      appendAsyncReadResult fill l.reader.delivered l.reader.buffer readAtLeast =
        some (l.reader.delivered ++ l.reader.buffer.take readAtLeast,
          l.reader.buffer.drop readAtLeast, true)) ∧
    (l.owed = [] → l.reader.reading = [] → l.reader.incoming = [] →
      l.reader.delivered = l.reader.received.take (l.reader.received.length - l.stranded)) ∧
    ∀ more, l.stranded ≤ ((events ++ more).foldl (step fill) fresh).stranded := by
  intro l
  have hbalanced : l.Balanced := balanced_run fill h
  refine ⟨fun _ hmem => hbalanced.append_eq fill hmem, hbalanced.delivered_eq, ?_⟩
  intro more
  rw [List.foldl_append]
  exact stranded_le fill l more

/-- A read of two bytes that is cut short after one, and a synchronous one: its caller gets the
byte that was left, and not its own last. -/
theorem behind_by_stranded_timeout :
    let l := [.readAsync 2, .arrive [1], .fetch 0 2, .commit 0 [], .abort 0, .arrive [2, 3],
      .readSync 2 .transferred []].foldl (step (0 : UInt8)) fresh
    l.reader.delivered = [1, 2] ∧ l.reader.delivered = l.reader.received.take (3 - 1) := by
  have hrun := behind_by_stranded (0 : UInt8)
    [.readAsync 2, .arrive [1], .fetch 0 2, .commit 0 [], .abort 0, .arrive [2, 3],
      .readSync 2 .transferred []] (by simp [Disciplined, Alone]; decide)
  exact ⟨rfl, hrun.2.1 rfl rfl rfl⟩

end Ledger

end SerialReader

end AccessPoint.Socket
