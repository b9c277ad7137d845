import AccessPoint.Lib.Notice
import AccessPoint.Socket.Serial
import AccessPoint.Socket.Tcp

/-!
# How often a socket tells that it is closed

The close callback of `LinuxTCPSocket` is called by the handlers of reads and writes and by a
synchronous read; that of `LinuxSerialSocket` by those handlers and by `Close()`. None of them
records that it did, so every transfer that the end of a connection takes with it tells again.

Here both sockets count the calls since the last open that succeeded. `close_notified_once_iff`
says when there is at most one, also when all the handlers that wait have run: if whatever ends a
transfer, or tells of the end itself, does it once and finds neither a call made since the last open
nor an ended transfer whose handler waits.

At most one is said of a state and of what follows from it: `AtMostOnce` lets the handlers that wait
run, and callbacks be registered before they do. So a run in which no close callback was ever set
counts as one that can tell twice when two ended transfers wait, since whoever sets one then is
told of both.
-/

namespace AccessPoint.Tcp

open LinuxTCPSocket

/-- A read or a write that is over with the connection. -/
def Completion.ended : Completion → Bool
  | .read code | .written code => code.disconnects
  | _ => false

/-- The operation is a read or a write. -/
def Operation.isTransfer : Operation → Bool
  | .read | .write => true
  | _ => false

namespace CloseNotice

/-- A connect or an accept succeeds. -/
def opens (s : LinuxTCPSocket) : Event → Bool
  | .done which .success =>
    match s.outstanding[which]? with
    | some (.connect _ _) | some (.accept _) => true
    | _ => false
  | _ => false

/-- The ended transfers whose handlers wait. -/
def due (s : LinuxTCPSocket) : Nat :=
  s.ready.countP Completion.ended

/-- The reads and writes that closing the socket ends. -/
def transfers (s : LinuxTCPSocket) : Nat :=
  s.outstanding.countP Operation.isTransfer

/-- What an event ends or tells of: a transfer completes with the connection, or the socket is
closed, by `Close()`, by `Open` or by a connect handler that goes on to the next endpoint; a
synchronous read tells at once. -/
def ends (s : LinuxTCPSocket) : Event → Nat
  | .done which code =>
    match s.outstanding[which]? with
    | some .read | some .write => if code.disconnects then 1 else 0
    | _ => 0
  | .closeCall => transfers s
  | .openCall (some _) _ => if s.mode = .client then transfers s else 0
  | .readSync available code =>
    if s.descriptor ≠ .closed ∧ available ≠ 0 ∧ code.endedByPeer = true ∧
      s.callbacks.close = true then 1 else 0
  | .deliver which =>
    match s.ready[which]? with
    | some (.connected _ code (_ :: _)) =>
      if code = .success ∧ s.callbacks.connect = true then 0 else transfers s
    | _ => 0
  | _ => 0

/-- The handler of a read or a write runs, or the callbacks are registered. -/
def Tells (s : LinuxTCPSocket) : Event → Prop
  | .register _ => True
  | .deliver which =>
    match s.ready[which]? with
    | some (.read _) | some (.written _) => True
    | _ => False
  | _ => False

/-- The calls of the close callback are the notices, since a connect or an accept last
succeeded. -/
def calls : Notifier LinuxTCPSocket Event Effect :=
  { step := stepEffect, notice := .closeCallback, starts := opens, due := due, makes := ends
    Gives := Tells }

theorem given_eq (effect : Option Effect) :
    calls.given effect = if effect = some .closeCallback then 1 else 0 := rfl

/-- Closing the socket ends its transfers. -/
theorem countP_closeSocket (s : LinuxTCPSocket) :
    s.closeSocket.ready.countP Completion.ended =
      s.ready.countP Completion.ended + transfers s := by
  have haborted : ∀ op ∈ s.outstanding,
      (Completion.ended op.abort && op.onSocket) = true ↔ op.isTransfer = true := by
    intro op _
    cases op with
    | resolve opening => simp [Operation.abort, Completion.ended, Operation.isTransfer]
    | connect opening it => simp [Operation.abort, Completion.ended, Operation.isTransfer]
    | accept opening => simp [Operation.abort, Completion.ended, Operation.isTransfer]
    | read => exact ⟨fun _ => rfl, fun _ => rfl⟩
    | write => exact ⟨fun _ => rfl, fun _ => rfl⟩
  rw [closeSocket, List.countP_append, List.countP_map, List.countP_filter]
  exact congrArg _ (List.countP_congr haborted)

/-- A transfer started on a closed socket fails, which is no end. -/
theorem countP_startTransfer (s : LinuxTCPSocket) (op : Operation) {failure : Completion}
    (hfailure : failure.ended = false) :
    (s.startTransfer op failure).ready.countP Completion.ended =
      s.ready.countP Completion.ended := by
  unfold startTransfer
  split
  · rw [List.countP_append]
    simp [hfailure]
  · rfl

/-- A completion that comes to wait. -/
theorem countP_finish (s : LinuxTCPSocket) (which : Nat) (completion : Completion) :
    (s.finish which completion).ready.countP Completion.ended =
      s.ready.countP Completion.ended + (if completion.ended then 1 else 0) := by
  rw [finish, List.countP_append, List.countP_singleton]

theorem countP_established (s : LinuxTCPSocket) (code : Code) :
    (s.established code).ready.countP Completion.ended = s.ready.countP Completion.ended := by
  unfold established
  split <;> rfl

/-- `Open` ends the transfers of a client. -/
theorem countP_openSocket (s : LinuxTCPSocket) (destination : Option StdString)
    (acceptor : Acceptor) :
    (s.openSocket destination acceptor).1.ready.countP Completion.ended =
      due s + ends s (.openCall destination acceptor) := by
  rcases s.openSocket_cases destination acceptor with
    ⟨⟨hclient, hsome⟩, hopen⟩ | ⟨hleaves, acceptorOpen, hopen⟩
  · obtain ⟨destination, rfl⟩ := Option.ne_none_iff_exists'.mp hsome
    rw [hopen, ends, if_pos hclient]
    exact countP_closeSocket s
  · have hnone : ends s (.openCall destination acceptor) = 0 := by
      cases destination with
      | none => rfl
      | some destination => exact if_neg fun hclient => hleaves ⟨hclient, nofun⟩
    rw [hnone]
    rcases hopen with hopen | ⟨-, hopen | hopen⟩
    · rw [hopen]
      rfl
    · rw [hopen]
      rfl
    · rw [hopen]
      exact List.countP_append

/-- A transfer that completes is ended when it completes with the connection. -/
theorem countP_complete (s : LinuxTCPSocket) (which : Nat) (code : Code) :
    (s.complete which code).ready.countP Completion.ended = due s + ends s (.done which code) := by
  cases hop : s.outstanding[which]? with
  | none =>
    simp only [complete, ends, hop]
    rfl
  | some op =>
    cases op with
    | resolve opening =>
      simp only [complete, ends, hop]
      rfl
    | connect opening it =>
      simp only [complete, ends, hop, countP_established]
      exact countP_finish _ _ _
    | accept opening =>
      simp only [complete, ends, hop, countP_established]
      exact countP_finish _ _ _
    | read =>
      simp only [complete, ends, hop]
      exact countP_finish _ _ _
    | write =>
      simp only [complete, ends, hop]
      exact countP_finish _ _ _

/-- A synchronous read tells of what it ends. -/
theorem given_readSync (s : LinuxTCPSocket) (available : Nat) (code : Code) :
    calls.given (s.readSync available code) = ends s (.readSync available code) := by
  unfold readSync
  by_cases hclosed : s.descriptor = .closed
  · simp [ends, calls, Notifier.given, hclosed]
  · by_cases havailable : available = 0
    · simp [ends, calls, Notifier.given, hclosed, havailable]
    · by_cases hended : code.endedByPeer = true
      · by_cases hclose : s.callbacks.close = true
        · simp [ends, calls, Notifier.given, hclosed, havailable, hended, hclose]
        · simp [ends, calls, Notifier.given, hclosed, havailable, hended, hclose]
      · simp [ends, calls, Notifier.given, hclosed, havailable, hended]

/-- The handlers of reads and writes tell of what is ended. -/
theorem given_readHandler_le (s : LinuxTCPSocket) (code : Code) :
    calls.given (s.readHandler code) ≤ if Completion.ended (.read code) then 1 else 0 := by
  rw [given_eq]
  unfold readHandler Completion.ended
  by_cases hended : code.disconnects = true
  · rw [if_pos hended, if_pos hended]
    split <;> simp
  · rw [if_neg hended, if_neg hended]
    split <;> simp

theorem given_writeHandler_le (s : LinuxTCPSocket) (code : Code) :
    calls.given (s.writeHandler code) ≤ if Completion.ended (.written code) then 1 else 0 := by
  rw [given_eq]
  unfold writeHandler Completion.ended
  by_cases hended : code.disconnects = true
  · rw [if_pos hended, if_pos hended]
    split <;> simp
  · rw [if_neg hended, if_neg hended]
    split <;> simp

/-- The handler of a completion. -/
theorem settles_deliver (s : LinuxTCPSocket) (which : Nat) : calls.Settles s (.deliver which) := by
  cases hwhich : s.ready[which]? with
  | none =>
    refine .of_eq (stepEffect_deliver_none hwhich) ?_
    simp [ends, hwhich, calls, Notifier.given, due]
  | some completion =>
    have htaken : (s.taken which).ready.countP Completion.ended +
        (if completion.ended then 1 else 0) = due s := Notifier.countP_eraseIdx hwhich
    have hstep := stepEffect_deliver hwhich
    cases completion with
    | resolved opening endpoints =>
      have hnone : ends s (.deliver which) = 0 := by simp only [ends, hwhich]
      cases endpoints with
      | none => exact .of_le hstep hnone (Nat.le_of_eq htaken)
      | some endpoints => exact .of_le hstep hnone (Nat.le_of_eq htaken)
    | connected opening code it =>
      have hstep : s.stepEffect (.deliver which) =
          (s.taken which).connectHandler opening code it := hstep
      have hcallbacks : (s.taken which).callbacks = s.callbacks := rfl
      unfold connectHandler at hstep
      rw [hcallbacks] at hstep
      by_cases hsuccess : code = .success ∧ s.callbacks.connect = true
      · have hnone : ends s (.deliver which) = 0 := by
          cases it <;> simp [ends, hwhich, hsuccess]
        rw [if_pos hsuccess] at hstep
        split at hstep
        · exact .of_le hstep hnone (Nat.le_of_eq htaken)
        · exact .of_le hstep hnone (Nat.le_of_eq htaken)
      · rw [if_neg hsuccess] at hstep
        cases it with
        | nil =>
          have hnone : ends s (.deliver which) = 0 := by simp only [ends, hwhich]
          exact .of_le hstep hnone (Nat.le_of_eq htaken)
        | cons endpoint it =>
          have hends : ends s (.deliver which) = transfers s := by
            simp only [ends, hwhich, if_neg hsuccess]
          refine .of_eq hstep ?_
          show _ = due s + ends s (.deliver which)
          rw [hends, ← htaken]
          exact countP_closeSocket (s.taken which)
    | accepted opening code =>
      have hnone : ends s (.deliver which) = 0 := by simp only [ends, hwhich]
      have hstep : s.stepEffect (.deliver which) =
          (s.taken which).acceptHandler code := hstep
      unfold acceptHandler at hstep
      split at hstep
      · split at hstep
        · exact .of_le hstep hnone (Nat.le_of_eq htaken)
        · exact .of_le hstep hnone (Nat.le_of_eq htaken)
      · exact .of_le hstep hnone (Nat.le_of_eq htaken)
    | read code =>
      have hnone : ends s (.deliver which) = 0 := by simp only [ends, hwhich]
      have hgiven :=
        Nat.add_le_add_left (given_readHandler_le (s.taken which) code) (due (s.taken which))
      exact .of_le hstep hnone (Nat.le_trans hgiven (Nat.le_of_eq htaken))
    | written code =>
      have hnone : ends s (.deliver which) = 0 := by simp only [ends, hwhich]
      have hgiven :=
        Nat.add_le_add_left (given_writeHandler_le (s.taken which) code) (due (s.taken which))
      exact .of_le hstep hnone (Nat.le_trans hgiven (Nat.le_of_eq htaken))

theorem settles (s : LinuxTCPSocket) (event : Event) : calls.Settles s event := by
  cases event with
  | openCall destination acceptor => exact .of_eq rfl (countP_openSocket s destination acceptor)
  | closeCall => exact .of_eq rfl (countP_closeSocket s)
  | readCall => exact .of_eq rfl (countP_startTransfer s .read rfl)
  | writeCall =>
    refine .of_eq rfl ?_
    show s.writeAsync.ready.countP Completion.ended = due s
    unfold writeAsync
    split
    · exact countP_startTransfer s .write rfl
    · rfl
  | readSync available code =>
    exact .of_eq rfl (congrArg (due s + ·) (given_readSync s available code))
  | writeSync code => exact .of_eq rfl rfl
  | register callbacks => exact .of_eq rfl rfl
  | resolveDone which endpoints =>
    rcases stepEffect_resolveDone s which endpoints with hstep | ⟨opening, -, hstep⟩
    · exact .of_eq hstep rfl
    · exact .of_eq hstep (countP_finish s which (.resolved opening endpoints))
  | done which code => exact .of_eq rfl (countP_complete s which code)
  | peerReset => exact .of_eq rfl rfl
  | deliver which => exact settles_deliver s which

/-- What opens the connection ends nothing. -/
theorem ends_of_opens {s : LinuxTCPSocket} {event : Event} (h : opens s event = true) :
    ends s event = 0 := by
  unfold opens at h
  split at h
  · split at h
    · rename_i hop
      simp only [ends, hop]
    · rename_i hop
      simp only [ends, hop]
    · cases h
  · cases h

/-- Nor does what only tells. -/
theorem ends_of_tells {s : LinuxTCPSocket} {event : Event} (h : Tells s event) :
    ends s event = 0 := by
  unfold Tells at h
  split at h
  · rfl
  · split at h
    · rename_i hwhich
      simp only [ends, hwhich]
    · rename_i hwhich
      simp only [ends, hwhich]
    · exact h.elim
  · exact h.elim

theorem opens_of_tells {s : LinuxTCPSocket} {event : Event} (h : Tells s event) :
    opens s event = false := by
  unfold Tells at h
  split at h
  · rfl
  · rfl
  · exact h.elim

/-- The handler of an ended transfer calls the close callback. -/
theorem handle_ended {s : LinuxTCPSocket} {completion : Completion}
    (hended : completion.ended = true) (hclose : s.callbacks.close = true) :
    s.handle completion = (s, some .closeCallback) := by
  cases completion with
  | resolved opening endpoints => cases hended
  | connected opening code it => cases hended
  | accepted opening code => cases hended
  | read code =>
    have hcode : code.disconnects = true := hended
    simp only [handle, readHandler, hcode, hclose, if_true]
  | written code =>
    have hcode : code.disconnects = true := hended
    simp only [handle, writeHandler, hcode, hclose, if_true]

theorem tells_ended {s : LinuxTCPSocket} {which : Nat} {completion : Completion}
    (hended : completion.ended = true) (hwhich : s.ready[which]? = some completion) :
    Tells s (.deliver which) := by
  simp only [Tells, hwhich]
  cases completion with
  | resolved opening endpoints => cases hended
  | connected opening code it => cases hended
  | accepted opening code => cases hended
  | read code => trivial
  | written code => trivial

/-- So what is due can be told, once the callbacks are registered. -/
theorem tells_due (s : LinuxTCPSocket) (h : due s ≠ 0) :
    ∃ a b s' s'', Tells s a ∧ s.stepEffect a = (s', none) ∧
      Tells s' b ∧ s'.stepEffect b = (s'', some .closeCallback) ∧ due s'' + 1 = due s := by
  obtain ⟨completion, hmem, hended⟩ := List.countP_pos_iff.mp (Nat.pos_of_ne_zero h)
  obtain ⟨which, hwhich⟩ := List.mem_iff_getElem?.mp hmem
  let s' : LinuxTCPSocket := { s with callbacks := ⟨true, true, true, true⟩ }
  have hready : s'.ready[which]? = some completion := hwhich
  have hstep : s'.stepEffect (.deliver which) = (s'.taken which, some .closeCallback) := by
    rw [stepEffect_deliver hready]
    exact handle_ended hended rfl
  have htaken : due (s'.taken which) + 1 = due s := by
    have hcount := Notifier.countP_eraseIdx (p := Completion.ended) hready
    rwa [if_pos hended] at hcount
  exact ⟨.register s'.callbacks, .deliver which, s', s'.taken which, trivial, rfl,
    tells_ended hended hready, hstep, htaken⟩

theorem lawful : calls.Lawful where
  settles := settles
  makes_of_starts _ _ := ends_of_opens
  makes_of_gives _ _ := ends_of_tells
  starts_of_gives _ _ := opens_of_tells
  give := tells_due

end CloseNotice

end AccessPoint.Tcp

namespace AccessPoint.Serial

open LinuxSerialSocket

/-- What the port gives a transfer when the connection is over. -/
def Outcome.disconnects : Outcome → Bool
  | .eof | .connectionReset => true
  | _ => false

/-- A read or a write whose handler tells that the socket is closed. -/
def Completion.ended : Completion → Bool
  | .read code _ => code = .eof ∨ code = .connectionReset
  | .written code => code = .eof ∨ code = .connectionReset ∨ code = .operationAborted
  | .waited _ _ => false

namespace CloseNotice

/-- `Open` succeeds. -/
def opens (s : LinuxSerialSocket) : Event → Bool
  | .openCall true true => s.isOpen = false
  | _ => false

/-- The ended transfers whose handlers wait. -/
def due (s : LinuxSerialSocket) : Nat :=
  s.ready.countP Completion.ended

/-- What an event ends or tells of: a transfer completes with the connection, or the writes are
aborted, by `Close()`, which tells of itself as well, or by a timeout. -/
def ends (s : LinuxSerialSocket) : Event → Nat
  | .readDone which outcome =>
    match s.reading[which]? with
    | some _ => if outcome.disconnects then 1 else 0
    | none => 0
  | .writeDone outcome => if s.writing ≠ 0 ∧ outcome.disconnects = true then 1 else 0
  | .closeCall => if s.isOpen then s.writing + (if s.callbacks.close then 1 else 0) else 0
  | .deliver which =>
    match s.ready[which]? with
    | some (.waited false _) => if s.isOpen then s.writing else 0
    | _ => 0
  | _ => 0

/-- The handler of a read or a write runs, or the callbacks are registered. -/
def Tells (s : LinuxSerialSocket) : Event → Prop
  | .register _ => True
  | .deliver which =>
    match s.ready[which]? with
    | some (.read _ _) | some (.written _) => True
    | _ => False
  | _ => False

/-- The calls of the close callback are the notices, since `Open` last succeeded. -/
def calls : Notifier LinuxSerialSocket Event Effect :=
  { step := stepEffect, notice := .closeCallback, starts := opens, due := due, makes := ends
    Gives := Tells }

theorem given_eq (effect : Option Effect) :
    calls.given effect = if effect = some .closeCallback then 1 else 0 := rfl

/-- Cancelling the port ends its writes: an aborted read is taken for a timeout. -/
theorem due_abortTransfers (s : LinuxSerialSocket) : due s.abortTransfers = due s + s.writing := by
  have hreads : s.reading.countP (Completion.ended ∘ .read .operationAborted) = 0 := by
    apply List.countP_eq_zero.mpr
    intro read _ hended
    simp [Completion.ended] at hended
  have hwrites : (List.replicate s.writing (Completion.written .operationAborted)).countP
      Completion.ended = s.writing := by
    rw [List.countP_replicate, if_pos (by decide)]
  rw [due, abortTransfers, List.countP_append, List.countP_append, List.countP_map, hreads, hwrites,
    Nat.zero_add]
  rfl

/-- Cancelling the timer ends nothing. -/
theorem due_cancelTimer (s : LinuxSerialSocket) : due s.cancelTimer = due s := by
  unfold cancelTimer
  split
  · rfl
  · exact List.countP_append

/-- A completion that comes to wait. -/
theorem due_append {s t : LinuxSerialSocket} (completion : Completion)
    (h : t.ready = s.ready ++ [completion]) :
    due t = due s + (if completion.ended then 1 else 0) := by
  rw [due, h, List.countP_append, List.countP_singleton]
  rfl

/-- A read started on a closed port fails, which is no end. -/
theorem due_readAsync (s : LinuxSerialSocket) (readAtLeast timeOutInMS : Nat) :
    due (s.readAsync readAtLeast timeOutInMS) = due s := by
  have harmed : ∀ (t : LinuxSerialSocket) (read : SerialRead),
      due (if timeOutInMS ≠ 0 then { t.cancelTimer with armed := some read } else t.cancelTimer) =
        due t := by
    intro t read
    split
    · exact due_cancelTimer t
    · exact due_cancelTimer t
  apply (harmed _ _).trans
  split
  · rfl
  · exact due_append (.read .badDescriptor _) rfl

/-- The handlers of reads and writes tell of what is ended. -/
theorem given_readHandler_le (s : LinuxSerialSocket) (code : Code) (read : SerialRead) :
    calls.given (s.readHandler code read).2 ≤
      if Completion.ended (.read code read) then 1 else 0 := by
  rw [given_eq]
  unfold readHandler onClose
  by_cases hbad : code = .badDescriptor
  · simp [hbad]
  · rw [if_neg hbad]
    by_cases hended : code = .connectionReset ∨ code = .eof
    · have hread : Completion.ended (.read code read) = true := decide_eq_true hended.symm
      rw [if_pos hended, if_pos hread]
      split <;> simp
    · rw [if_neg hended]
      split <;> simp

theorem given_writeHandler_le (s : LinuxSerialSocket) (code : Code) :
    calls.given (s.writeHandler code) ≤ if Completion.ended (.written code) then 1 else 0 := by
  rw [given_eq]
  unfold writeHandler onClose Completion.ended
  by_cases hended : code = .eof ∨ code = .connectionReset ∨ code = .operationAborted
  · rw [if_pos hended, if_pos (decide_eq_true hended)]
    split <;> simp
  · rw [if_neg hended]
    split <;> simp

/-- The handler of a completion. -/
theorem settles_deliver (s : LinuxSerialSocket) (which : Nat) :
    calls.Settles s (.deliver which) := by
  cases hwhich : s.ready[which]? with
  | none =>
    have hnone : ends s (.deliver which) = 0 := by simp only [ends, hwhich]
    exact .of_le (stepEffect_deliver_none hwhich) hnone (Nat.le_refl _)
  | some completion =>
    have htaken : due (s.taken which) + (if completion.ended then 1 else 0) = due s :=
      Notifier.countP_eraseIdx hwhich
    have hstep := stepEffect_deliver hwhich
    cases completion with
    | read code read =>
      have hnone : ends s (.deliver which) = 0 := by simp only [ends, hwhich]
      cases hhandled : (s.taken which).readHandler code read with
      | mk s' effect =>
        have hgiven := given_readHandler_le (s.taken which) code read
        rw [hhandled] at hgiven
        have hdue : due s' = due (s.taken which) := by
          rcases (readHandler_cases hhandled).1 with rfl | rfl
          · rfl
          · exact due_cancelTimer _
        refine .of_le (hstep.trans hhandled) hnone ?_
        show due s' + calls.given effect ≤ due s
        rw [hdue, ← htaken]
        exact Nat.add_le_add_left hgiven _
    | written code =>
      have hnone : ends s (.deliver which) = 0 := by simp only [ends, hwhich]
      have hgiven :=
        Nat.add_le_add_left (given_writeHandler_le (s.taken which) code) (due (s.taken which))
      exact .of_le hstep hnone (Nat.le_trans hgiven (Nat.le_of_eq htaken))
    | waited aborted read =>
      cases aborted with
      | true =>
        have hnone : ends s (.deliver which) = 0 := by simp only [ends, hwhich]
        exact .of_le hstep hnone (Nat.le_of_eq htaken)
      | false =>
        have htimeout : s.stepEffect (.deliver which) = (s.taken which).readTimeout false := hstep
        have htaken : due (s.taken which) = due s := htaken
        cases hopen : s.isOpen with
        | true =>
          have hopen' : (s.taken which).isOpen = true := hopen
          rw [readTimeout_of_open hopen'] at htimeout
          have hends : ends s (.deliver which) = s.writing := by
            simp only [ends, hwhich, hopen, if_true]
          refine .of_eq htimeout ?_
          show due (s.taken which).abortTransfers = due s + ends s (.deliver which)
          rw [hends, due_abortTransfers, htaken]
          rfl
        | false =>
          have hopen' : (s.taken which).isOpen = false := hopen
          rw [readTimeout_of_closed hopen'] at htimeout
          have hnone : ends s (.deliver which) = 0 := by
            simp only [ends, hwhich, hopen, Bool.false_eq_true, if_false]
          exact .of_le htimeout hnone (Nat.le_of_eq htaken)

theorem settles (s : LinuxSerialSocket) (event : Event) : calls.Settles s event := by
  cases event with
  | openCall device options =>
    obtain ⟨isOpen, effect, hstep, -, hquiet⟩ := s.openSocket_cases device options
    refine .of_eq hstep ?_
    rcases hquiet with rfl | rfl
    · rfl
    · rfl
  | closeCall =>
    have hstep : s.stepEffect .closeCall = s.close := rfl
    cases hopen : s.isOpen with
    | true =>
      rw [close_of_open hopen] at hstep
      have hends : ends s .closeCall = s.writing + (if s.callbacks.close then 1 else 0) := by
        simp only [ends, hopen, if_true]
      have hgiven : calls.given s.onClose = if s.callbacks.close then 1 else 0 := by
        unfold onClose
        split <;> rfl
      refine .of_eq hstep ?_
      show due s.abortTransfers + calls.given s.onClose = due s + ends s .closeCall
      rw [hends, hgiven, due_abortTransfers, Nat.add_assoc]
    | false =>
      rw [close_of_closed hopen] at hstep
      have hnone : ends s .closeCall = 0 := by
        simp only [ends, hopen, Bool.false_eq_true, if_false]
      exact .of_le hstep hnone (Nat.le_refl _)
  | readCall readAtLeast timeOutInMS => exact .of_eq rfl (due_readAsync s readAtLeast timeOutInMS)
  | writeCall =>
    refine .of_eq rfl ?_
    show due s.writeAsync = due s
    unfold writeAsync
    split
    · split
      · rfl
      · exact due_append (.written .badDescriptor) rfl
    · rfl
  | readSync success =>
    refine .of_eq rfl ?_
    cases success with
    | true => rfl
    | false => rfl
  | register callbacks => exact .of_eq rfl rfl
  | readDone which outcome =>
    rcases s.stepEffect_readDone which outcome with ⟨hread, hstep⟩ | ⟨read, hread, hstep⟩
    · have hnone : ends s (.readDone which outcome) = 0 := by simp only [ends, hread]
      exact .of_le hstep hnone (Nat.le_refl _)
    · have hends : ends s (.readDone which outcome) = if outcome.disconnects then 1 else 0 := by
        simp only [ends, hread]
      refine .of_eq hstep ?_
      show due _ = due s + ends s (.readDone which outcome)
      rw [hends, due_append (.read outcome.code read) rfl]
      cases outcome <;> rfl
  | writeDone outcome =>
    rcases s.stepEffect_writeDone outcome with ⟨hwriting, hstep⟩ | ⟨hwriting, hstep⟩
    · have hnone : ends s (.writeDone outcome) = 0 := by simp [ends, hwriting]
      exact .of_le hstep hnone (Nat.le_refl _)
    · refine .of_eq hstep ?_
      show due _ = due s + ends s (.writeDone outcome)
      rw [due_append (.written outcome.code) rfl]
      cases outcome <;> simp [ends, hwriting, Outcome.disconnects, Outcome.code, Completion.ended]
  | expire =>
    rcases s.stepEffect_expire with hstep | ⟨read, hstep⟩
    · exact .of_eq hstep rfl
    · exact .of_eq hstep (due_append (.waited false read) rfl)
  | deliver which => exact settles_deliver s which

/-- What opens the port ends nothing. -/
theorem ends_of_opens {s : LinuxSerialSocket} {event : Event} (h : opens s event = true) :
    ends s event = 0 := by
  unfold opens at h
  split at h
  · rfl
  · cases h

/-- Nor does what only tells. -/
theorem ends_of_tells {s : LinuxSerialSocket} {event : Event} (h : Tells s event) :
    ends s event = 0 := by
  unfold Tells at h
  split at h
  · rfl
  · split at h
    · rename_i hwhich
      simp only [ends, hwhich]
    · rename_i hwhich
      simp only [ends, hwhich]
    · exact h.elim
  · exact h.elim

theorem opens_of_tells {s : LinuxSerialSocket} {event : Event} (h : Tells s event) :
    opens s event = false := by
  unfold Tells at h
  split at h
  · rfl
  · rfl
  · exact h.elim

/-- The handler of an ended transfer calls the close callback. -/
theorem handle_ended {s : LinuxSerialSocket} {completion : Completion}
    (hended : completion.ended = true) (hclose : s.callbacks.close = true) :
    (s.handle completion).2 = some .closeCallback ∧ due (s.handle completion).1 = due s := by
  cases completion with
  | read code read =>
    have hcode : code = .eof ∨ code = .connectionReset := of_decide_eq_true hended
    have hopen : code ≠ .badDescriptor := by
      rintro rfl
      exact hcode.elim nofun nofun
    have hcallbacks : s.cancelTimer.callbacks.close = true := by
      rw [s.cancelTimer_frame.2.2.2]
      exact hclose
    have hstep : s.handle (.read code read) = (s.cancelTimer, some .closeCallback) := by
      simp [handle, readHandler, onClose, hopen, hcode.symm, hcallbacks]
    rw [hstep]
    exact ⟨rfl, due_cancelTimer s⟩
  | written code =>
    have hcode : code = .eof ∨ code = .connectionReset ∨ code = .operationAborted :=
      of_decide_eq_true hended
    simp only [handle, writeHandler, onClose, if_pos hcode, hclose, if_true]
    exact ⟨trivial, trivial⟩
  | waited aborted read => cases hended

theorem tells_ended {s : LinuxSerialSocket} {which : Nat} {completion : Completion}
    (hended : completion.ended = true) (hwhich : s.ready[which]? = some completion) :
    Tells s (.deliver which) := by
  simp only [Tells, hwhich]
  cases completion with
  | read code read => trivial
  | written code => trivial
  | waited aborted read => cases hended

/-- So what is due can be told, once the callbacks are registered. -/
theorem tells_due (s : LinuxSerialSocket) (h : due s ≠ 0) :
    ∃ a b s' s'', Tells s a ∧ s.stepEffect a = (s', none) ∧
      Tells s' b ∧ s'.stepEffect b = (s'', some .closeCallback) ∧ due s'' + 1 = due s := by
  obtain ⟨completion, hmem, hended⟩ := List.countP_pos_iff.mp (Nat.pos_of_ne_zero h)
  obtain ⟨which, hwhich⟩ := List.mem_iff_getElem?.mp hmem
  let s' : LinuxSerialSocket := { s with callbacks := ⟨true, true, true, true⟩ }
  have hready : s'.ready[which]? = some completion := hwhich
  have hcallbacks : (s'.taken which).callbacks.close = true := rfl
  obtain ⟨heffect, hdue⟩ := handle_ended hended hcallbacks
  have hstep : s'.stepEffect (.deliver which) =
      (((s'.taken which).handle completion).1, some .closeCallback) := by
    rw [stepEffect_deliver hready, ← heffect]
  have htaken : due ((s'.taken which).handle completion).1 + 1 = due s := by
    have hcount := Notifier.countP_eraseIdx (p := Completion.ended) hready
    rw [if_pos hended] at hcount
    rw [hdue]
    exact hcount
  exact ⟨.register s'.callbacks, .deliver which, s', _, trivial, rfl,
    tells_ended hended hready, hstep, htaken⟩

theorem lawful : calls.Lawful where
  settles := settles
  makes_of_starts _ _ := ends_of_opens
  makes_of_gives _ _ := ends_of_tells
  starts_of_gives _ _ := opens_of_tells
  give := tells_due

end CloseNotice

end AccessPoint.Serial

namespace AccessPoint

/-- **When a socket tells at most once that it is closed**, in every state of a run and of what its
handlers have yet to tell: when whatever ends a transfer or tells of the end does it once, with
nothing told since the last successful open and no ended transfer that waits. The two sockets have
the proof in common, from the laws of a `Notifier`. That the close callback is called at all is not
said, and a run in which nobody has registered one may still be counted as one that tells twice. -/
theorem close_notified_once_iff (mode : Tcp.Mode) (callbacks : Tcp.Callbacks)
    (events : List Tcp.Event) (serialEvents : List Serial.Event) :
    (Run.Always Tcp.CloseNotice.calls.count Tcp.CloseNotice.calls.AtMostOnce
          ⟨.fresh mode callbacks, 0⟩ events ↔
        Run.Along Tcp.CloseNotice.calls.count Tcp.CloseNotice.calls.Lone
          ⟨.fresh mode callbacks, 0⟩ events) ∧
      (Run.Always Serial.CloseNotice.calls.count Serial.CloseNotice.calls.AtMostOnce
          ⟨.fresh callbacks, 0⟩ serialEvents ↔
        Run.Along Serial.CloseNotice.calls.count Serial.CloseNotice.calls.Lone
          ⟨.fresh callbacks, 0⟩ serialEvents) := by
  constructor
  · exact Tcp.CloseNotice.lawful.once_iff (Nat.zero_le 1)
  · exact Serial.CloseNotice.lawful.once_iff (Nat.zero_le 1)

/-- A connection with a read and a write outstanding is told of twice when it is closed, and a
serial one with a write. -/
theorem close_notified_twice :
    (¬ ∀ (mode : Tcp.Mode) (callbacks : Tcp.Callbacks) (events : List Tcp.Event),
      (events.foldl Tcp.CloseNotice.calls.count ⟨.fresh mode callbacks, 0⟩).notices ≤ 1) ∧
    ¬ ∀ (callbacks : Tcp.Callbacks) (events : List Serial.Event),
      (events.foldl Serial.CloseNotice.calls.count ⟨.fresh callbacks, 0⟩).notices ≤ 1 := by
  constructor
  · intro h
    have htwice := h .client ⟨true, true, true, true⟩
      [.openCall (some "meter".toList) .notOpened,
        .resolveDone 0 (some (⟨"::1".toList, 4059⟩, [])), .deliver 0, .done 0 .success, .deliver 0,
        .readCall, .writeCall, .closeCall, .deliver 0, .deliver 0]
    revert htwice
    decide
  · intro h
    have htwice := h ⟨true, true, true, true⟩
      [.openCall true true, .writeCall, .closeCall, .deliver 0]
    revert htwice
    decide

end AccessPoint
