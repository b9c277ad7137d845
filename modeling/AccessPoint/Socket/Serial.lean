import AccessPoint.Lib.Run
import AccessPoint.Socket.Tcp

/-!
# A serial socket and its read timer

`LinuxSerialSocket`: asynchronous reads and writes on `m_Port`, and one `m_ReadTimer` for the
timeouts of all reads. Starting a read with a timeout, starting one without, and the handler of
a read all cancel the wait that is set; a wait that ends by itself runs `ASIO_Read_Timeout`,
which cancels everything on the port.

What asio does is in the events. Cancelling or closing the port completes its outstanding reads
and writes with `operation_aborted`; cancelling the timer does the same to a wait that has not
ended, and does not recall the handler of one that has. `cancel()` throws on a port that is not
open, and a transfer started there fails with `bad_descriptor`.

`ASIO_Read_Handler` takes every abort for a timeout. `times_out_on_its_own` says when it is one:
if the port is cancelled, by `Close()` or by a timeout handler, only while every read that is
outstanding has a timeout of its own that has ended. A step that cancels it otherwise can be
followed by the report of a timeout that never was.
-/

namespace AccessPoint.Serial

open Tcp (Callbacks)

/-- The error codes that the handlers tell apart. -/
inductive Code where
  | success
  | eof
  | connectionReset
  | operationAborted
  | badDescriptor
  | failed
  deriving DecidableEq, Repr

/-- What the port gives a transfer by itself. -/
inductive Outcome where
  | success
  | eof
  | connectionReset
  | failed
  deriving DecidableEq, Repr

/-- Its error code. -/
def Outcome.code : Outcome → Code
  | .success => .success
  | .eof => .eof
  | .connectionReset => .connectionReset
  | .failed => .failed

/-- `ERROR_TYPE`, as far as the handlers give it to a callback. -/
inductive ErrorType where
  | successful
  | errTimeout
  | unsuccessful
  deriving DecidableEq, Repr

/-- An asynchronous read: its number among all reads, the bytes it waits for, and the arguments'
timeout. -/
structure SerialRead where
  number : Nat
  exactly : Nat
  timeOutInMS : Nat
  deriving DecidableEq, Repr

/-- A completion that waits for its handler. -/
inductive Completion where
  | read (code : Code) (read : SerialRead)
  | written (code : Code)
  | waited (aborted : Bool) (read : SerialRead)
  deriving DecidableEq, Repr

/-- What a step does that its caller can see. -/
inductive Effect where
  | connectCallback
  | readCallback (error : ErrorType) (read : SerialRead)
  | writeCallback (error : ErrorType)
  | closeCallback
  | threw
  deriving DecidableEq, Repr

/-- The socket. `armed` is the read whose timeout `m_ReadTimer` waits for, and `reads` counts
the asynchronous reads. -/
structure LinuxSerialSocket where
  callbacks : Callbacks
  isOpen : Bool
  reading : List SerialRead
  writing : Nat
  armed : Option SerialRead
  ready : List Completion
  reads : Nat
  deriving DecidableEq, Repr

/-- A user call, or a step of the event loop. -/
inductive Event where
  | openCall (device options : Bool)
  | closeCall
  | readCall (readAtLeast timeOutInMS : Nat)
  | writeCall
  | readSync (success : Bool)
  | register (callbacks : Callbacks)
  | readDone (which : Nat) (outcome : Outcome)
  | writeDone (outcome : Outcome)
  | expire
  | deliver (which : Nat)
  deriving DecidableEq, Repr

namespace LinuxSerialSocket

/-- A socket just created. -/
def fresh (callbacks : Callbacks) : LinuxSerialSocket :=
  { callbacks, isOpen := false, reading := [], writing := 0, armed := none, ready := []
    reads := 0 }

/-- What cancelling the port does to its transfers. -/
def abortTransfers (s : LinuxSerialSocket) : LinuxSerialSocket :=
  { s with
    reading := []
    writing := 0
    ready := s.ready ++ (s.reading.map (.read .operationAborted) ++
      List.replicate s.writing (.written .operationAborted)) }

/-- `m_Port.cancel()`, which throws unless the port is open. -/
def cancelPort (s : LinuxSerialSocket) : Option LinuxSerialSocket :=
  if s.isOpen then some s.abortTransfers else none

/-- `m_ReadTimer.cancel()`. -/
def cancelTimer (s : LinuxSerialSocket) : LinuxSerialSocket :=
  match s.armed with
  | none => s
  | some read => { s with armed := none, ready := s.ready ++ [.waited true read] }

/-- `OnClose`. -/
def onClose (s : LinuxSerialSocket) : Option Effect :=
  if s.callbacks.close then some .closeCallback else none

/-- `ASIO_Write_Handler`. -/
def writeHandler (s : LinuxSerialSocket) (code : Code) : Option Effect :=
  if code = .eof ∨ code = .connectionReset ∨ code = .operationAborted then s.onClose
  else if s.callbacks.write then
    some (.writeCallback
      (if code ≠ .success ∨ s.isOpen = false then .unsuccessful else .successful))
  else none

/-- `ASIO_Read_Handler`. -/
def readHandler (s : LinuxSerialSocket) (code : Code) (read : SerialRead) :
    LinuxSerialSocket × Option Effect :=
  if code = .badDescriptor then (s, none)
  else
    let s := s.cancelTimer
    if code = .connectionReset ∨ code = .eof then (s, s.onClose)
    else if s.callbacks.read then
      let errorCode : ErrorType :=
        if code = .operationAborted then .errTimeout
        else if code ≠ .success then .unsuccessful
        else .successful
      (s, some (.readCallback errorCode read))
    else (s, none)

/-- `ASIO_Read_Timeout`. -/
def readTimeout (s : LinuxSerialSocket) (aborted : Bool) : LinuxSerialSocket × Option Effect :=
  if aborted then (s, none)
  else
    match s.cancelPort with
    | some s => (s, none)
    | none => (s, some .threw)

/-- `Open`: the port is opened, unless it is open or there is no such device, and then its
options are set, which may throw and leaves it open. -/
def openSocket (s : LinuxSerialSocket) (device options : Bool) :
    LinuxSerialSocket × Option Effect :=
  if s.isOpen = true ∨ device = false then (s, none)
  else
    let s := { s with isOpen := true }
    if options = false then (s, none)
    else (s, if s.callbacks.connect then some .connectCallback else none)

/-- `Read` with a null vector. -/
def readAsync (s : LinuxSerialSocket) (readAtLeast timeOutInMS : Nat) : LinuxSerialSocket :=
  let read : SerialRead :=
    { number := s.reads, exactly := if readAtLeast = 0 then 1 else readAtLeast, timeOutInMS }
  let s := { s with reads := s.reads + 1 }
  let s :=
    if s.isOpen then { s with reading := s.reading ++ [read] }
    else { s with ready := s.ready ++ [.read .badDescriptor read] }
  if timeOutInMS ≠ 0 then { s.cancelTimer with armed := some read } else s.cancelTimer

/-- `Write`, asynchronous. -/
def writeAsync (s : LinuxSerialSocket) : LinuxSerialSocket :=
  if s.callbacks.write then
    if s.isOpen then { s with writing := s.writing + 1 }
    else { s with ready := s.ready ++ [.written .badDescriptor] }
  else s

/-- `Close`: `cancel()`, `close()` and `OnClose`. -/
def close (s : LinuxSerialSocket) : LinuxSerialSocket × Option Effect :=
  match s.cancelPort with
  | some s =>
    let s := { s with isOpen := false }
    (s, s.onClose)
  | none => (s, some .threw)

/-- The handler of a completion. -/
def handle (s : LinuxSerialSocket) : Completion → LinuxSerialSocket × Option Effect
  | .read code read => s.readHandler code read
  | .written code => (s, s.writeHandler code)
  | .waited aborted _ => s.readTimeout aborted

/-- The state a completion's handler starts in. -/
def taken (s : LinuxSerialSocket) (which : Nat) : LinuxSerialSocket :=
  { s with ready := s.ready.eraseIdx which }

/-- One event and what it does that a caller can see. An event that is not offered changes
nothing; a synchronous read calls no callback, and throws when it fails. -/
def stepEffect (s : LinuxSerialSocket) : Event → LinuxSerialSocket × Option Effect
  | .openCall device options => s.openSocket device options
  | .closeCall => s.close
  | .readCall readAtLeast timeOutInMS => (s.readAsync readAtLeast timeOutInMS, none)
  | .writeCall => (s.writeAsync, none)
  | .readSync success => (s, if success then none else some .threw)
  | .register callbacks => ({ s with callbacks }, none)
  | .readDone which outcome =>
    match s.reading[which]? with
    | some read =>
      ({ s with
         reading := s.reading.eraseIdx which
         ready := s.ready ++ [.read outcome.code read] }, none)
    | none => (s, none)
  | .writeDone outcome =>
    if s.writing = 0 then (s, none)
    else ({ s with writing := s.writing - 1, ready := s.ready ++ [.written outcome.code] }, none)
  | .expire =>
    match s.armed with
    | some read => ({ s with armed := none, ready := s.ready ++ [.waited false read] }, none)
    | none => (s, none)
  | .deliver which =>
    match s.ready[which]? with
    | some completion => (s.taken which).handle completion
    | none => (s, none)

/-- One event. -/
def step (s : LinuxSerialSocket) (event : Event) : LinuxSerialSocket :=
  (s.stepEffect event).1

/-- The effect of one event. -/
def effect (s : LinuxSerialSocket) (event : Event) : Option Effect :=
  (s.stepEffect event).2

variable {s : LinuxSerialSocket}

/-- `Open` changes only whether the port is open. -/
theorem openSocket_cases (s : LinuxSerialSocket) (device options : Bool) :
    ∃ isOpen effect, s.openSocket device options = ({ s with isOpen }, effect) ∧
      (s.isOpen = true → isOpen = true) ∧ (effect = none ∨ effect = some .connectCallback) := by
  unfold openSocket
  split
  · exact ⟨s.isOpen, none, rfl, id, .inl rfl⟩
  · dsimp only
    split
    · exact ⟨true, none, rfl, fun _ => rfl, .inl rfl⟩
    · refine ⟨true, _, rfl, fun _ => rfl, ?_⟩
      split
      · exact .inr rfl
      · exact .inl rfl

/-- What cancels the port does it on an open one. -/
theorem close_of_open (h : s.isOpen = true) :
    s.close = ({ s.abortTransfers with isOpen := false }, s.onClose) := by
  unfold close cancelPort
  rw [if_pos h]
  rfl

theorem close_of_closed (h : s.isOpen = false) : s.close = (s, some .threw) := by
  unfold close cancelPort
  rw [if_neg (by rw [h]; exact Bool.false_ne_true)]

theorem readTimeout_of_open (h : s.isOpen = true) :
    s.readTimeout false = (s.abortTransfers, none) := by
  unfold readTimeout cancelPort
  rw [if_neg Bool.false_ne_true, if_pos h]

theorem readTimeout_of_closed (h : s.isOpen = false) :
    s.readTimeout false = (s, some .threw) := by
  unfold readTimeout cancelPort
  rw [if_neg Bool.false_ne_true, if_neg (by rw [h]; exact Bool.false_ne_true)]

/-- What the port and the timer do, where an operation or a wait is there for it. -/
theorem stepEffect_readDone (s : LinuxSerialSocket) (which : Nat) (outcome : Outcome) :
    (s.reading[which]? = none ∧ s.stepEffect (.readDone which outcome) = (s, none)) ∨
      ∃ read, s.reading[which]? = some read ∧
        s.stepEffect (.readDone which outcome) =
          ({ s with
             reading := s.reading.eraseIdx which
             ready := s.ready ++ [.read outcome.code read] }, none) := by
  cases hread : s.reading[which]? with
  | none => exact .inl ⟨rfl, by simp only [stepEffect, hread]⟩
  | some read => exact .inr ⟨read, rfl, by simp only [stepEffect, hread]⟩

theorem stepEffect_writeDone (s : LinuxSerialSocket) (outcome : Outcome) :
    (s.writing = 0 ∧ s.stepEffect (.writeDone outcome) = (s, none)) ∨
      s.writing ≠ 0 ∧ s.stepEffect (.writeDone outcome) =
        ({ s with
           writing := s.writing - 1
           ready := s.ready ++ [.written outcome.code] }, none) := by
  by_cases hwriting : s.writing = 0
  · exact .inl ⟨hwriting, if_pos hwriting⟩
  · exact .inr ⟨hwriting, if_neg hwriting⟩

theorem stepEffect_expire (s : LinuxSerialSocket) :
    s.stepEffect .expire = (s, none) ∨
      ∃ read, s.stepEffect .expire =
        ({ s with armed := none, ready := s.ready ++ [.waited false read] }, none) := by
  cases harmed : s.armed with
  | none => exact .inl (by simp only [stepEffect, harmed])
  | some read => exact .inr ⟨read, by simp only [stepEffect, harmed]⟩

theorem stepEffect_deliver {which : Nat} {completion : Completion}
    (h : s.ready[which]? = some completion) :
    s.stepEffect (.deliver which) = (s.taken which).handle completion := by
  simp only [stepEffect, h]

theorem stepEffect_deliver_none {which : Nat} (h : s.ready[which]? = none) :
    s.stepEffect (.deliver which) = (s, none) := by
  simp only [stepEffect, h]

/-- Reads and writes are outstanding only on an open port. -/
def Idle (s : LinuxSerialSocket) : Prop :=
  s.isOpen = false → s.reading = [] ∧ s.writing = 0

theorem Idle.fresh (callbacks : Callbacks) : (fresh callbacks).Idle :=
  fun _ => ⟨rfl, rfl⟩

/-- Cancelling the timer touches the timer and what is ready. -/
theorem cancelTimer_frame (s : LinuxSerialSocket) :
    s.cancelTimer.isOpen = s.isOpen ∧ s.cancelTimer.reading = s.reading ∧
      s.cancelTimer.writing = s.writing ∧ s.cancelTimer.callbacks = s.callbacks := by
  unfold cancelTimer
  split <;> exact ⟨rfl, rfl, rfl, rfl⟩

theorem Idle.cancelTimer (h : s.Idle) : s.cancelTimer.Idle := by
  obtain ⟨hopen, hreading, hwriting, -⟩ := s.cancelTimer_frame
  intro hclosed
  rw [hreading, hwriting]
  exact h (hopen ▸ hclosed)

theorem Idle.readAsync (h : s.Idle) (readAtLeast timeOutInMS : Nat) :
    (s.readAsync readAtLeast timeOutInMS).Idle := by
  have hstarted : ∀ read : SerialRead,
      (if s.isOpen then { s with reads := s.reads + 1, reading := s.reading ++ [read] }
        else { s with
          reads := s.reads + 1
          ready := s.ready ++ [.read .badDescriptor read] } : LinuxSerialSocket).Idle := by
    intro read
    split
    · rename_i hopen
      intro hclosed
      cases hopen.symm.trans hclosed
    · exact h
  unfold LinuxSerialSocket.readAsync
  dsimp only
  split
  · exact (hstarted _).cancelTimer
  · exact (hstarted _).cancelTimer

/-- So after the handlers. -/
theorem Idle.handle (h : s.Idle) (completion : Completion) :
    (s.handle completion).1.Idle := by
  cases completion with
  | written code => exact h
  | read code read =>
    show (s.readHandler code read).1.Idle
    unfold readHandler
    split
    · exact h
    · dsimp only
      split
      · exact h.cancelTimer
      · split <;> exact h.cancelTimer
  | waited aborted read =>
    show (s.readTimeout aborted).1.Idle
    cases aborted with
    | true => exact h
    | false =>
      cases hopen : s.isOpen with
      | true =>
        rw [readTimeout_of_open hopen]
        exact fun _ => ⟨rfl, rfl⟩
      | false =>
        rw [readTimeout_of_closed hopen]
        exact h

theorem Idle.step (h : s.Idle) (event : Event) : (s.step event).Idle := by
  cases event with
  | openCall device options =>
    show (s.openSocket device options).1.Idle
    obtain ⟨isOpen, effect, hstep, hopen, -⟩ := s.openSocket_cases device options
    rw [hstep]
    intro hclosed
    apply h
    cases hwas : s.isOpen with
    | true => cases (hopen hwas).symm.trans hclosed
    | false => rfl
  | closeCall =>
    show s.close.1.Idle
    cases hopen : s.isOpen with
    | true =>
      rw [close_of_open hopen]
      exact fun _ => ⟨rfl, rfl⟩
    | false =>
      rw [close_of_closed hopen]
      exact h
  | readCall readAtLeast timeOutInMS => exact h.readAsync readAtLeast timeOutInMS
  | writeCall =>
    show s.writeAsync.Idle
    unfold writeAsync
    split
    · split
      · rename_i hopen
        intro hclosed
        cases hopen.symm.trans hclosed
      · exact h
    · exact h
  | readSync success => exact h
  | register callbacks => exact h
  | readDone which outcome =>
    show (s.stepEffect (.readDone which outcome)).1.Idle
    rcases s.stepEffect_readDone which outcome with ⟨-, hstep⟩ | ⟨read, hread, hstep⟩
    · rwa [hstep]
    · intro hclosed
      rw [hstep] at hclosed
      rw [(h hclosed).1] at hread
      cases hread
  | writeDone outcome =>
    show (s.stepEffect (.writeDone outcome)).1.Idle
    rcases s.stepEffect_writeDone outcome with ⟨-, hstep⟩ | ⟨hwriting, hstep⟩
    · rwa [hstep]
    · intro hclosed
      rw [hstep] at hclosed
      exact absurd (h hclosed).2 hwriting
  | expire =>
    show (s.stepEffect .expire).1.Idle
    rcases s.stepEffect_expire with hstep | ⟨read, hstep⟩
    · rwa [hstep]
    · rw [hstep]
      exact h
  | deliver which =>
    show (s.stepEffect (.deliver which)).1.Idle
    cases hwhich : s.ready[which]? with
    | none => rwa [stepEffect_deliver_none hwhich]
    | some completion =>
      have htaken : (s.taken which).Idle := h
      rw [stepEffect_deliver hwhich]
      exact htaken.handle completion

/-- Cancelling the port aborts the outstanding reads. -/
theorem mem_abortTransfers {read : SerialRead}
    (h : .read .operationAborted read ∈ s.abortTransfers.ready) :
    .read .operationAborted read ∈ s.ready ∨ read ∈ s.reading := by
  rcases List.mem_append.mp h with hready | haborted
  · exact .inl hready
  · rcases List.mem_append.mp haborted with hread | hwritten
    · obtain ⟨read', hread', heq⟩ := List.mem_map.mp hread
      cases heq
      exact .inr hread'
    · cases List.eq_of_mem_replicate hwritten

theorem aborted_mem {read : SerialRead} (h : read ∈ s.reading) :
    .read .operationAborted read ∈ s.abortTransfers.ready :=
  List.mem_append_right _ (List.mem_append_left _ (List.mem_map_of_mem h))

/-- Cancelling the timer leaves no wait, and adds no completion of a read. -/
theorem cancelTimer_armed (s : LinuxSerialSocket) : s.cancelTimer.armed = none := by
  unfold cancelTimer
  split
  · assumption
  · rfl

theorem mem_cancelTimer {code : Code} {read : SerialRead}
    (h : .read code read ∈ s.cancelTimer.ready) : .read code read ∈ s.ready := by
  unfold cancelTimer at h
  split at h
  · exact h
  · rcases List.mem_append.mp h with hready | hwaited
    · exact hready
    · cases List.mem_singleton.mp hwaited

/-- The handler of a write reports no read. -/
theorem writeHandler_quiet (s : LinuxSerialSocket) (code : Code) (read : SerialRead) :
    s.writeHandler code ≠ some (.readCallback .errTimeout read) := by
  intro h
  unfold writeHandler onClose at h
  split at h
  · split at h <;> cases h
  · split at h <;> cases h

/-- The handler of a read at most cancels the timer, and reports a timeout for an abort. -/
theorem readHandler_cases {s s' : LinuxSerialSocket} {code : Code} {read : SerialRead}
    {effect : Option Effect} (h : s.readHandler code read = (s', effect)) :
    (s' = s ∨ s' = s.cancelTimer) ∧
      ∀ read', effect = some (.readCallback .errTimeout read') →
        code = .operationAborted ∧ read = read' := by
  unfold readHandler onClose at h
  split at h
  · cases h
    exact ⟨.inl rfl, nofun⟩
  · dsimp only at h
    split at h
    · cases h
      refine ⟨.inr rfl, ?_⟩
      intro read' heffect
      split at heffect <;> cases heffect
    · split at h
      · cases h
        refine ⟨.inr rfl, ?_⟩
        intro read' heffect
        split at heffect
        · cases heffect
          exact ⟨by assumption, rfl⟩
        · split at heffect <;> cases heffect
      · cases h
        exact ⟨.inr rfl, nofun⟩

/-- Starting a read arms the timer only for a timeout. -/
theorem readAsync_armed {s : LinuxSerialSocket} {readAtLeast timeOutInMS : Nat} {read : SerialRead}
    (h : (s.readAsync readAtLeast timeOutInMS).armed = some read) : read.timeOutInMS ≠ 0 := by
  unfold readAsync at h
  dsimp only at h
  split at h
  · rename_i htimeout
    cases h
    exact htimeout
  · rw [cancelTimer_armed] at h
    cases h

/-- And aborts nothing. -/
theorem mem_readAsync {s : LinuxSerialSocket} {readAtLeast timeOutInMS : Nat} {read : SerialRead}
    (h : .read .operationAborted read ∈ (s.readAsync readAtLeast timeOutInMS).ready) :
    .read .operationAborted read ∈ s.ready := by
  have hcancelled : ∀ t : LinuxSerialSocket,
      t.ready = s.ready ∨ (∃ read', t.ready = s.ready ++ [.read .badDescriptor read']) →
        .read .operationAborted read ∈ t.cancelTimer.ready →
          .read .operationAborted read ∈ s.ready := by
    intro t ht hmem
    have hready := mem_cancelTimer hmem
    rcases ht with ht | ⟨read', ht⟩
    · rwa [ht] at hready
    · rw [ht] at hready
      rcases List.mem_append.mp hready with hold | hnew
      · exact hold
      · cases List.mem_singleton.mp hnew
  have harmed : ∀ (t : LinuxSerialSocket) (read' : SerialRead),
      .read .operationAborted read ∈
          (if timeOutInMS ≠ 0 then { t.cancelTimer with armed := some read' }
            else t.cancelTimer).ready →
        .read .operationAborted read ∈ t.cancelTimer.ready := by
    intro t read' hmem
    split at hmem <;> exact hmem
  have hmem := harmed _ _ h
  refine hcancelled _ ?_ hmem
  split
  · exact .inl rfl
  · exact .inr ⟨_, rfl⟩

end LinuxSerialSocket

/-! ## Timeouts -/

/-- A socket with the history of its reads: those whose bytes have all arrived, those whose
timeout ended before that, and those that were reported as timed out. -/
structure Timed where
  socket : LinuxSerialSocket
  arrived : List SerialRead
  lapsed : List SerialRead
  timedOut : List SerialRead
  deriving DecidableEq, Repr

namespace Timed

open LinuxSerialSocket

/-- A socket just created. -/
def fresh (callbacks : Callbacks) : Timed :=
  { socket := .fresh callbacks, arrived := [], lapsed := [], timedOut := [] }

/-- The reads whose bytes have all arrived after an event. -/
def arrivedAfter (t : Timed) : Event → List SerialRead
  | .readDone which .success => t.arrived ++ t.socket.reading[which]?.toList
  | _ => t.arrived

/-- The reads whose timeout ended before their bytes had all arrived. -/
def lapsedAfter (t : Timed) : Event → List SerialRead
  | .expire => t.lapsed ++ (t.socket.armed.toList.filter fun read => read ∉ t.arrived)
  | _ => t.lapsed

/-- The reads that were reported as timed out. -/
def timedOutAfter (t : Timed) (event : Event) : List SerialRead :=
  match t.socket.effect event with
  | some (.readCallback .errTimeout read) => t.timedOut ++ [read]
  | _ => t.timedOut

/-- One event. -/
def step (t : Timed) (event : Event) : Timed :=
  { socket := t.socket.step event
    arrived := t.arrivedAfter event
    lapsed := t.lapsedAfter event
    timedOut := t.timedOutAfter event }

/-- A read is reported as timed out only if it was started with a timeout, which ended before
its bytes had all arrived. -/
def OnlyOwn (t : Timed) : Prop :=
  ∀ read ∈ t.timedOut, read.timeOutInMS ≠ 0 ∧ read ∈ t.lapsed

/-- Every read that is outstanding has a timeout that has ended. -/
def AllLapsed (t : Timed) : Prop :=
  ∀ read ∈ t.socket.reading, read ∈ t.lapsed

/-- An event that does not cancel the port, or finds every read lapsed. -/
def Patient (t : Timed) : Event → Prop
  | .closeCall => t.AllLapsed
  | .deliver which =>
    match t.socket.ready[which]? with
    | some (.waited false _) => t.AllLapsed
    | _ => True
  | _ => True

/-- What patient events keep: the timer waits only for reads with a timeout, only such reads
lapse, and only lapsed reads have been aborted or reported. -/
structure Good (t : Timed) : Prop where
  armed : ∀ read, t.socket.armed = some read → read.timeOutInMS ≠ 0
  lapsed : ∀ read ∈ t.lapsed, read.timeOutInMS ≠ 0
  aborted : ∀ read, .read .operationAborted read ∈ t.socket.ready → read ∈ t.lapsed
  timedOut : ∀ read ∈ t.timedOut, read ∈ t.lapsed

theorem Good.fresh (callbacks : Callbacks) : (fresh callbacks).Good :=
  ⟨nofun, nofun, nofun, nofun⟩

theorem Good.onlyOwn {t : Timed} (h : t.Good) : t.OnlyOwn := by
  intro read hread
  exact ⟨h.lapsed read (h.timedOut read hread), h.timedOut read hread⟩

/-- No read that has lapsed is forgotten. -/
theorem mem_lapsedAfter {t : Timed} {read : SerialRead} (h : read ∈ t.lapsed) (event : Event) :
    read ∈ t.lapsedAfter event := by
  cases event with
  | expire => exact List.mem_append_left _ h
  | _ => exact h

/-- A read that lapses is one that the timer waited for. -/
theorem of_mem_lapsedAfter {t : Timed} {read : SerialRead} {event : Event}
    (h : read ∈ t.lapsedAfter event) : read ∈ t.lapsed ∨ t.socket.armed = some read := by
  cases event with
  | expire =>
    rcases List.mem_append.mp h with hold | hnew
    · exact .inl hold
    · exact .inr (Option.mem_toList.mp (List.mem_filter.mp hnew).1)
  | _ => exact .inl h

/-- An event that arms the timer only for a read with a timeout, and aborts and reports only what
has lapsed. -/
theorem Good.of_step {t : Timed} (h : t.Good) {event : Event} {s' : LinuxSerialSocket}
    {effect : Option Effect} (hstep : t.socket.stepEffect event = (s', effect))
    (harmed : ∀ read, s'.armed = some read → t.socket.armed = some read ∨ read.timeOutInMS ≠ 0)
    (haborted : ∀ read, .read .operationAborted read ∈ s'.ready →
      .read .operationAborted read ∈ t.socket.ready ∨ read ∈ t.lapsed)
    (hreported : ∀ read, effect = some (.readCallback .errTimeout read) → read ∈ t.lapsed) :
    (t.step event).Good := by
  have hsocket : (t.step event).socket = s' := congrArg Prod.fst hstep
  have heffect : t.socket.effect event = effect := congrArg Prod.snd hstep
  refine ⟨?_, ?_, ?_, ?_⟩
  · intro read hread
    rw [hsocket] at hread
    exact (harmed read hread).elim (h.armed read) id
  · intro read hread
    exact (of_mem_lapsedAfter hread).elim (h.lapsed read) (h.armed read)
  · intro read hread
    rw [hsocket] at hread
    exact mem_lapsedAfter ((haborted read hread).elim (h.aborted read) id) event
  · show ∀ read ∈ t.timedOutAfter event, read ∈ t.lapsedAfter event
    intro read hread
    refine mem_lapsedAfter ?_ event
    unfold timedOutAfter at hread
    split at hread
    · rename_i read' heq
      rcases List.mem_append.mp hread with hold | hnew
      · exact h.timedOut read hold
      · rw [List.mem_singleton.mp hnew]
        exact hreported read' (heffect.symm.trans heq)
    · exact h.timedOut read hread

/-- An event that leaves the timer and what waits as they are. -/
theorem Good.of_frame {t : Timed} (h : t.Good) {event : Event} {s' : LinuxSerialSocket}
    {effect : Option Effect} (hstep : t.socket.stepEffect event = (s', effect))
    (harmed : s'.armed = t.socket.armed) (hready : s'.ready = t.socket.ready)
    (hquiet : ∀ read, effect ≠ some (.readCallback .errTimeout read)) : (t.step event).Good := by
  refine h.of_step hstep ?_ ?_ ?_
  · intro read hread
    exact .inl (harmed ▸ hread)
  · intro read hread
    exact .inl (hready ▸ hread)
  · intro read hread
    exact absurd hread (hquiet read)

/-- An event that lets a completion wait, which is no aborted read. -/
theorem Good.of_append {t : Timed} (h : t.Good) {event : Event} {s' : LinuxSerialSocket}
    {completion : Completion} (hstep : t.socket.stepEffect event = (s', none))
    (harmed : s'.armed = t.socket.armed ∨ s'.armed = none)
    (hready : s'.ready = t.socket.ready ++ [completion])
    (hother : ∀ read, completion ≠ .read .operationAborted read) : (t.step event).Good := by
  refine h.of_step hstep ?_ ?_ nofun
  · intro read hread
    rcases harmed with hsame | hnone
    · exact .inl (hsame ▸ hread)
    · rw [hnone] at hread
      cases hread
  · intro read hread
    rw [hready] at hread
    rcases List.mem_append.mp hread with hold | hnew
    · exact .inl hold
    · exact absurd (List.mem_singleton.mp hnew).symm (hother read)

/-- The handler of a completion: an abort that it reports was there, and a timeout that was not
cancelled aborts only what has lapsed. -/
theorem Good.deliver {t : Timed} (h : t.Good) {which : Nat}
    (hpatient : t.Patient (.deliver which)) : (t.step (.deliver which)).Good := by
  cases hwhich : t.socket.ready[which]? with
  | none => exact h.of_frame (stepEffect_deliver_none hwhich) rfl rfl nofun
  | some completion =>
    have hstep := stepEffect_deliver hwhich
    simp only [Patient, hwhich] at hpatient
    have htaken : ∀ completion, completion ∈ (t.socket.taken which).ready →
        completion ∈ t.socket.ready := fun _ hmem => List.mem_of_mem_eraseIdx hmem
    cases completion with
    | written code =>
      refine h.of_step hstep (fun _ hread => .inl hread) (fun _ hread => .inl (htaken _ hread)) ?_
      intro read hread
      exact absurd hread (writeHandler_quiet _ code read)
    | read code read' =>
      have hmem : .read code read' ∈ t.socket.ready := List.mem_of_getElem? hwhich
      cases hhandled : (t.socket.taken which).readHandler code read' with
      | mk s' effect =>
        obtain ⟨hcancelled, hreported⟩ := readHandler_cases hhandled
        refine h.of_step (hstep.trans hhandled) ?_ ?_ ?_
        · intro read hread
          rcases hcancelled with rfl | rfl
          · exact .inl hread
          · rw [cancelTimer_armed] at hread
            cases hread
        · intro read hread
          rcases hcancelled with rfl | rfl
          · exact .inl (htaken _ hread)
          · exact .inl (htaken _ (mem_cancelTimer hread))
        · intro read hread
          obtain ⟨hcode, hread'⟩ := hreported read hread
          rw [hcode, hread'] at hmem
          exact h.aborted read hmem
    | waited aborted read' =>
      cases aborted with
      | true =>
        exact h.of_step hstep (fun _ hread => .inl hread) (fun _ hread => .inl (htaken _ hread))
          nofun
      | false =>
        have htimeout : t.socket.stepEffect (.deliver which) =
            (t.socket.taken which).readTimeout false := hstep
        cases hopen : (t.socket.taken which).isOpen with
        | true =>
          rw [readTimeout_of_open hopen] at htimeout
          refine h.of_step htimeout (fun _ hread => .inl hread) ?_ nofun
          intro read hread
          exact (mem_abortTransfers hread).imp (htaken _) (hpatient read)
        | false =>
          rw [readTimeout_of_closed hopen] at htimeout
          exact h.of_step htimeout (fun _ hread => .inl hread)
            (fun _ hread => .inl (htaken _ hread)) nofun

/-- **A patient event** keeps it. -/
theorem Good.step {t : Timed} (h : t.Good) {event : Event} (hpatient : t.Patient event) :
    (t.step event).Good := by
  cases event with
  | openCall device options =>
    obtain ⟨isOpen, effect, hstep, -, hquiet⟩ := t.socket.openSocket_cases device options
    refine h.of_frame hstep rfl rfl ?_
    rintro read rfl
    exact hquiet.elim nofun nofun
  | closeCall =>
    have hstep : t.socket.stepEffect .closeCall = t.socket.close := rfl
    cases hopen : t.socket.isOpen with
    | true =>
      rw [close_of_open hopen] at hstep
      refine h.of_step hstep (fun _ hread => .inl hread) ?_ ?_
      · intro read hread
        exact (mem_abortTransfers hread).imp_right (hpatient read)
      · intro read hread
        unfold onClose at hread
        split at hread <;> cases hread
    | false =>
      rw [close_of_closed hopen] at hstep
      exact h.of_frame hstep rfl rfl nofun
  | readCall readAtLeast timeOutInMS =>
    exact h.of_step rfl (fun _ hread => .inr (readAsync_armed hread))
      (fun _ hread => .inl (mem_readAsync hread)) nofun
  | writeCall =>
    have hstep : t.socket.stepEffect .writeCall = (t.socket.writeAsync, none) := rfl
    unfold writeAsync at hstep
    split at hstep
    · split at hstep
      · exact h.of_frame hstep rfl rfl nofun
      · exact h.of_append hstep (.inl rfl) rfl nofun
    · exact h.of_frame hstep rfl rfl nofun
  | readSync success =>
    apply h.of_frame rfl rfl rfl
    intro read hread
    cases success with
    | true => cases hread
    | false => cases hread
  | register callbacks =>
    exact h.of_frame rfl rfl rfl nofun
  | readDone which outcome =>
    rcases t.socket.stepEffect_readDone which outcome with ⟨-, hstep⟩ | ⟨read', -, hstep⟩
    · exact h.of_frame hstep rfl rfl nofun
    · apply h.of_append hstep (.inl rfl) rfl
      intro read hread
      cases outcome <;> cases hread
  | writeDone outcome =>
    rcases t.socket.stepEffect_writeDone outcome with ⟨-, hstep⟩ | ⟨-, hstep⟩
    · exact h.of_frame hstep rfl rfl nofun
    · exact h.of_append hstep (.inl rfl) rfl nofun
  | expire =>
    rcases t.socket.stepEffect_expire with hstep | ⟨read', hstep⟩
    · exact h.of_frame hstep rfl rfl nofun
    · exact h.of_append hstep (.inr rfl) rfl nofun
  | deliver which => exact h.deliver hpatient

/-- The socket of a run. -/
theorem foldl_socket (t : Timed) (events : List Event) :
    (events.foldl step t).socket = events.foldl LinuxSerialSocket.step t.socket := by
  induction events generalizing t with
  | nil => rfl
  | cons event events ih => exact ih (t.step event)

/-- An event that is not patient leaves a read aborted that has not lapsed. -/
theorem aborted_of_not_patient {t : Timed} (hidle : t.socket.Idle) {event : Event}
    (hnot : ¬ t.Patient event) :
    ∃ read, read ∉ (t.step event).lapsed ∧
      .read .operationAborted read ∈ (t.step event).socket.ready := by
  have hcancel : ¬ t.AllLapsed → t.socket.isOpen = true ∧
      ∃ read, read ∉ t.lapsed ∧ read ∈ t.socket.reading := by
    intro hlapsed
    obtain ⟨read, hrest⟩ := not_forall.mp hlapsed
    obtain ⟨hread, hnew⟩ := Classical.not_imp.mp hrest
    refine ⟨?_, read, hnew, hread⟩
    by_contra hclosed
    rw [(hidle (eq_false_of_ne_true hclosed)).1] at hread
    cases hread
  match event with
  | .openCall device options => exact absurd trivial hnot
  | .readCall readAtLeast timeOutInMS => exact absurd trivial hnot
  | .writeCall => exact absurd trivial hnot
  | .readSync success => exact absurd trivial hnot
  | .register callbacks => exact absurd trivial hnot
  | .readDone which outcome => exact absurd trivial hnot
  | .writeDone outcome => exact absurd trivial hnot
  | .expire => exact absurd trivial hnot
  | .closeCall =>
    obtain ⟨hopen, read, hnew, hread⟩ := hcancel hnot
    refine ⟨read, hnew, ?_⟩
    show _ ∈ t.socket.close.1.ready
    rw [close_of_open hopen]
    exact aborted_mem hread
  | .deliver which =>
    cases hwhich : t.socket.ready[which]? with
    | none =>
      simp only [Patient, hwhich] at hnot
      exact absurd trivial hnot
    | some completion =>
      simp only [Patient, hwhich] at hnot
      cases completion with
      | read code read => exact absurd trivial hnot
      | written code => exact absurd trivial hnot
      | waited aborted read =>
        cases aborted with
        | true => exact absurd trivial hnot
        | false =>
          obtain ⟨hopen, read, hnew, hread⟩ := hcancel hnot
          refine ⟨read, hnew, ?_⟩
          have hstep : t.socket.stepEffect (.deliver which) =
              (t.socket.taken which).readTimeout false := stepEffect_deliver hwhich
          show _ ∈ (t.socket.stepEffect (.deliver which)).1.ready
          have hopen' : (t.socket.taken which).isOpen = true := hopen
          rw [hstep, readTimeout_of_open hopen']
          exact aborted_mem hread

/-- The handler of an aborted read reports a timeout. -/
theorem reports_aborted {t : Timed} {read : SerialRead} {which : Nat}
    (hcallback : t.socket.callbacks.read = true)
    (hwhich : t.socket.ready[which]? = some (.read .operationAborted read)) :
    read ∈ (t.step (.deliver which)).timedOut := by
  have heffect : t.socket.effect (.deliver which) = some (.readCallback .errTimeout read) := by
    have hregistered : (t.socket.taken which).cancelTimer.callbacks.read = true := by
      rw [(t.socket.taken which).cancelTimer_frame.2.2.2]
      exact hcallback
    simp [effect, stepEffect, hwhich, handle, readHandler, hregistered]
  show read ∈ t.timedOutAfter (.deliver which)
  unfold timedOutAfter
  rw [heffect]
  exact List.mem_append_right _ (List.mem_singleton.mpr rfl)

/-- **When a read times out on its own**: in every state of a run that cancels the port only when
every outstanding read has a timeout that has ended; and after an event that cancels it otherwise,
one more handler can report a timeout that never was. The reads are any number, with timeouts or
without, on one timer that the latest of them resets. The second half is about the event at which a
run leaves the condition, with the callbacks registered; it is not claimed that every such run does
report one. -/
theorem times_out_on_its_own (callbacks : Callbacks) :
    (∀ events, Run.Along step Patient (fresh callbacks) events →
      Run.Always step OnlyOwn (fresh callbacks) events) ∧
    ∀ events event, ¬ (events.foldl step (fresh callbacks)).Patient event →
      ∃ registered which,
        ¬ ((events ++ [event, .register registered, .deliver which]).foldl step
          (fresh callbacks)).OnlyOwn := by
  constructor
  · intro events h
    exact h.always (Good.fresh callbacks) (fun _ _ ht hpatient => ht.step hpatient)
      fun _ ht => ht.onlyOwn
  · intro events event hnot
    have hidle : (events.foldl step (fresh callbacks)).socket.Idle := by
      rw [foldl_socket]
      exact Run.invariant _ _ _ (.fresh callbacks) fun _ event hs => hs.step event
    obtain ⟨read, hnew, haborted⟩ := aborted_of_not_patient hidle hnot
    obtain ⟨which, hwhich⟩ := List.mem_iff_getElem?.mp haborted
    refine ⟨⟨true, true, true, true⟩, which, ?_⟩
    rw [List.foldl_append]
    intro honly
    exact hnew (honly read (reports_aborted rfl hwhich)).2

/-- Closing the port reports a timeout of a read that has none. -/
theorem close_times_out :
    ¬ ∀ (callbacks : Callbacks) (events : List Event),
      Run.Always step OnlyOwn (fresh callbacks) events := by
  intro h
  have hrun := h ⟨true, true, true, true⟩
    [.openCall true true, .readCall 1 0, .closeCall, .deliver 0]
  have honly := hrun.last ⟨0, 1, 0⟩ (by decide)
  exact honly.1 rfl

end Timed

end AccessPoint.Serial
