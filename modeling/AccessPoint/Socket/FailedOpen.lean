import AccessPoint.Lib.Opening
import AccessPoint.Socket.Serial
import Mathlib.Data.List.Induction

/-!
# What a failed `Open` leaves behind

`LinuxTCPSocket::Open` in server mode and `LinuxSerialSocket::Open` are chains of operations on the
acceptor and on the port. A handler around the chain turns an exception into a return code; nothing
closes the descriptor that the first operation has opened.

The two chains are devices of `AccessPoint.Lib.Opening`, and refine the `Open` of the two socket
models, which tell apart only whether the first operation or a later one throws.
`failed_open_iff` says when a failed `Open` leaves no trace.
-/

namespace AccessPoint.Socket

open Opening Throwing

/-- The operations on the acceptor behind its opening. -/
inductive AcceptorStep where
  | setOption
  | bind
  | listen
  deriving DecidableEq, Repr

/-- The port options, in the order of `SetPortOptions`. -/
inductive PortOption where
  | baudRate
  | characterSize
  | parity
  | stopBits
  | flowControl
  deriving DecidableEq, Repr

/-- A call of `Open`, with the operations that throw in it, or of `Close`. -/
inductive SocketCall (α : Type) where
  | openCall (faults : Faults α)
  | closeCall

/-- The acceptor of a socket in server mode. -/
def acceptor : Device Tcp.LinuxTCPSocket AcceptorStep where
  isOpen := (·.acceptorOpen)
  opened s := { s with acceptorOpen := true }
  steps := [.setOption, .bind, .listen]
  configure _ s := s
  finish := Tcp.LinuxTCPSocket.asyncAccept
  isOpen_opened _ := rfl
  isOpen_configure _ _ := rfl
  isOpen_finish s := by
    unfold Tcp.LinuxTCPSocket.asyncAccept
    split <;> rfl

/-- The port of a serial socket. The call of the connect callback is an effect of `Open`. -/
def port : Device Serial.LinuxSerialSocket PortOption where
  isOpen := (·.isOpen)
  opened s := { s with isOpen := true }
  steps := [.baudRate, .characterSize, .parity, .stopBits, .flowControl]
  configure _ s := s
  finish s := s
  isOpen_opened _ := rfl
  isOpen_configure _ _ := rfl
  isOpen_finish _ := rfl

/-! ## The chains refine `Open` -/

/-- What the acceptor does as a whole. -/
def acceptorOf (faults : Faults AcceptorStep) : Tcp.Acceptor :=
  if faults.opening then .notOpened
  else if acceptor.steps.any faults.step then .notListening
  else .listening

/-- **The server branch of `Open`, operation by operation.** -/
theorem acceptor_refines (s : Tcp.LinuxTCPSocket) (faults : Faults AcceptorStep) :
    (acceptor.openCall faults).at s =
      (.ok (s.openServer (acceptorOf faults)).2, (s.openServer (acceptorOf faults)).1) := by
  unfold Tcp.LinuxTCPSocket.openServer acceptorOf
  by_cases hopen : s.acceptorOpen = true
  · rw [Device.openCall_refused (.inl hopen), if_pos hopen]
  · rw [if_neg hopen]
    by_cases hopening : faults.opening = true
    · rw [Device.openCall_refused (.inr hopening), if_pos hopening]
    · have hclosed : acceptor.isOpen s = false := eq_false_of_ne_true hopen
      rw [if_neg hopening]
      rw [Bool.not_eq_true] at hopening
      by_cases hsteps : ∀ a ∈ acceptor.steps, faults.step a = false
      · rw [Device.openCall_ok hclosed hopening hsteps, if_neg (by simpa using hsteps)]
        rfl
      · obtain ⟨s', hs', rfl⟩ := Device.openCall_fault (P := (· = acceptor.opened s))
          (fun _ _ h => h) rfl hclosed hopening hsteps
        rw [hs', if_pos (by simpa using hsteps)]
        rfl

/-- **`Open` of a serial socket, operation by operation.** -/
theorem port_refines (s : Serial.LinuxSerialSocket) (faults : Faults PortOption) :
    ((port.openCall faults).at s).2 =
      (s.openSocket (!faults.opening) (!port.steps.any faults.step)).1 := by
  unfold Serial.LinuxSerialSocket.openSocket
  by_cases hrefused : s.isOpen = true ∨ faults.opening = true
  · rw [Device.openCall_refused hrefused, if_pos (by simpa using hrefused)]
  · rw [if_neg (by simpa using hrefused)]
    obtain ⟨hclosed, hopening⟩ := not_or.mp hrefused
    rw [Bool.not_eq_true] at hclosed hopening
    by_cases hsteps : ∀ a ∈ port.steps, faults.step a = false
    · rw [Device.openCall_ok hclosed hopening hsteps, if_neg (by simpa using hsteps)]
      rfl
    · obtain ⟨s', hs', rfl⟩ := Device.openCall_fault (P := (· = port.opened s))
        (fun _ _ h => h) rfl hclosed hopening hsteps
      rw [hs', if_pos (by simpa using hsteps)]
      rfl

/-! ## Runs of calls -/

/-- One call on a socket in server mode; `Open` counts its calls. -/
def serverStep (s : Tcp.LinuxTCPSocket) : SocketCall AcceptorStep → Tcp.LinuxTCPSocket
  | .openCall faults => ((acceptor.openCall faults).at { s with opens := s.opens + 1 }).2
  | .closeCall => s.close

/-- One call on a serial socket. -/
def serialStep (s : Serial.LinuxSerialSocket) : SocketCall PortOption → Serial.LinuxSerialSocket
  | .openCall faults => ((port.openCall faults).at s).2
  | .closeCall => s.close.1

/-- The calls on a new socket in server mode. -/
def serverRun (callbacks : Tcp.Callbacks) (calls : List (SocketCall AcceptorStep)) :
    Tcp.LinuxTCPSocket :=
  calls.foldl serverStep (.fresh .server callbacks)

/-- The calls on a new serial socket. -/
def serialRun (callbacks : Tcp.Callbacks) (calls : List (SocketCall PortOption)) :
    Serial.LinuxSerialSocket :=
  calls.foldl serialStep (.fresh callbacks)

/-- The call as the model of the TCP socket has it. -/
def SocketCall.tcpEvent : SocketCall AcceptorStep → Tcp.Event
  | .openCall faults => .openCall none (acceptorOf faults)
  | .closeCall => .closeCall

/-- The call as the model of the serial socket has it. -/
def SocketCall.serialEvent : SocketCall PortOption → Serial.Event
  | .openCall faults => .openCall (!faults.opening) (!port.steps.any faults.step)
  | .closeCall => .closeCall

variable {callbacks : Tcp.Callbacks}

theorem serverStep_eq {s : Tcp.LinuxTCPSocket} (hmode : s.mode = .server)
    (call : SocketCall AcceptorStep) :
    serverStep s call = s.step call.tcpEvent ∧ (serverStep s call).mode = .server := by
  cases call with
  | closeCall => exact ⟨rfl, hmode⟩
  | openCall faults =>
    have hstep : serverStep s (.openCall faults) = (s.openSocket none (acceptorOf faults)).1 := by
      rw [serverStep, acceptor_refines, Tcp.LinuxTCPSocket.openSocket, hmode]
    refine ⟨hstep, ?_⟩
    rw [hstep, ← hmode]
    rcases s.openSocket_cases none (acceptorOf faults) with
      ⟨⟨-, hnone⟩, -⟩ | ⟨-, acceptorOpen, hopen | ⟨-, hopen | hopen⟩⟩
    · exact absurd rfl hnone
    · rw [hopen]
    · rw [hopen]
    · rw [hopen]

/-- The calls are a run of the TCP socket. -/
theorem serverRun_eq (calls : List (SocketCall AcceptorStep)) :
    serverRun callbacks calls =
      (calls.map SocketCall.tcpEvent).foldl Tcp.LinuxTCPSocket.step (.fresh .server callbacks) := by
  have hrun : ∀ s : Tcp.LinuxTCPSocket, s.mode = .server →
      calls.foldl serverStep s =
        (calls.map SocketCall.tcpEvent).foldl Tcp.LinuxTCPSocket.step s := by
    induction calls with
    | nil => exact fun _ _ => rfl
    | cons call calls ih =>
      intro s hmode
      obtain ⟨hstep, hserver⟩ := serverStep_eq hmode call
      rw [List.foldl_cons, ih _ hserver, hstep]
      rfl
  exact hrun _ rfl

/-- The calls are a run of the serial socket. -/
theorem serialRun_eq (calls : List (SocketCall PortOption)) :
    serialRun callbacks calls =
      (calls.map SocketCall.serialEvent).foldl Serial.LinuxSerialSocket.step
        (.fresh callbacks) := by
  have hstep : serialStep = fun s call => s.step (SocketCall.serialEvent call) := by
    ext1 s
    ext1 call
    cases call with
    | closeCall => rfl
    | openCall faults => exact port_refines s faults
  rw [serialRun, List.foldl_map, hstep]

/-- The acceptor is open iff some `Open` got past the opening: `Close` does not close it. -/
theorem acceptorOpen_serverRun {calls : List (SocketCall AcceptorStep)} :
    (serverRun callbacks calls).acceptorOpen = true ↔
      ∃ faults, .openCall faults ∈ calls ∧ faults.opening = false := by
  induction calls using List.reverseRecOn with
  | nil =>
    apply iff_of_false (by exact Bool.false_ne_true)
    rintro ⟨faults, hmem, -⟩
    cases hmem
  | append_singleton calls call ih =>
    rw [serverRun, List.foldl_concat]
    cases call with
    | closeCall =>
      calc (serverRun callbacks calls).acceptorOpen = true
        _ ↔ ∃ faults, .openCall faults ∈ calls ∧ faults.opening = false := ih
        _ ↔ ∃ faults, .openCall faults ∈ calls ++ [.closeCall] ∧ faults.opening = false := by simp
    | openCall faults =>
      calc (serverStep (serverRun callbacks calls) (.openCall faults)).acceptorOpen = true
        _ ↔ (serverRun callbacks calls).acceptorOpen = true ∨ faults.opening = false :=
          Device.isOpen_openCall (D := acceptor)
        _ ↔ (∃ earlier, .openCall earlier ∈ calls ∧ earlier.opening = false) ∨
              faults.opening = false := or_congr_left ih
        _ ↔ ∃ other, .openCall other ∈ calls ++ [.openCall faults] ∧ other.opening = false := ?_
      constructor
      · rintro (⟨earlier, hmem, hopening⟩ | hopening)
        · exact ⟨earlier, List.mem_append_left _ hmem, hopening⟩
        · exact ⟨faults, List.mem_concat_self, hopening⟩
      · rintro ⟨other, hmem, hopening⟩
        rcases List.mem_append.mp hmem with hmem | hmem
        · exact .inl ⟨other, hmem, hopening⟩
        · cases List.mem_singleton.mp hmem
          exact .inr hopening

theorem isOpen_close (s : Serial.LinuxSerialSocket) : s.close.1.isOpen = false := by
  unfold Serial.LinuxSerialSocket.close Serial.LinuxSerialSocket.cancelPort
  cases hopen : s.isOpen with
  | true => rfl
  | false => exact hopen

/-- The port is open iff some `Open` since the last `Close` got past the opening. -/
theorem isOpen_serialRun {calls : List (SocketCall PortOption)} :
    (serialRun callbacks calls).isOpen = true ↔
      ∃ earlier faults later, calls = earlier ++ .openCall faults :: later ∧
        faults.opening = false ∧ .closeCall ∉ later := by
  induction calls using List.reverseRecOn with
  | nil =>
    apply iff_of_false (by exact Bool.false_ne_true)
    rintro ⟨earlier, faults, later, heq, -⟩
    simp at heq
  | append_singleton calls call ih =>
    rw [serialRun, List.foldl_concat]
    cases call with
    | closeCall =>
      have hclosed : (serialStep (serialRun callbacks calls) .closeCall).isOpen = false :=
        isOpen_close _
      apply iff_of_false (by exact ne_true_of_eq_false hclosed)
      rintro ⟨earlier, faults, later, heq, -, hlater⟩
      obtain rfl | ⟨later, last, rfl⟩ := later.eq_nil_or_concat'
      · cases (List.append_inj' heq rfl).2
      · rw [← List.cons_append, ← List.append_assoc] at heq
        cases (List.append_inj' heq rfl).2
        exact hlater List.mem_concat_self
    | openCall faults =>
      calc (serialStep (serialRun callbacks calls) (.openCall faults)).isOpen = true
        _ ↔ (serialRun callbacks calls).isOpen = true ∨ faults.opening = false :=
          Device.isOpen_openCall (D := port)
        _ ↔ (∃ earlier first later, calls = earlier ++ .openCall first :: later ∧
              first.opening = false ∧ .closeCall ∉ later) ∨ faults.opening = false :=
          or_congr_left ih
        _ ↔ ∃ earlier first later,
              calls ++ [.openCall faults] = earlier ++ .openCall first :: later ∧
                first.opening = false ∧ .closeCall ∉ later := ?_
      constructor
      · rintro (⟨earlier, first, later, rfl, hopening, hlater⟩ | hopening)
        · exact ⟨earlier, first, later ++ [.openCall faults], by simp, hopening, by simpa⟩
        · exact ⟨calls, faults, [], rfl, hopening, List.not_mem_nil⟩
      · rintro ⟨earlier, first, later, heq, hopening, hlater⟩
        obtain rfl | ⟨later, last, rfl⟩ := later.eq_nil_or_concat'
        · cases (List.append_inj' heq rfl).2
          exact .inr hopening
        · rw [← List.cons_append, ← List.append_assoc] at heq
          exact .inl ⟨earlier, first, later, (List.append_inj' heq rfl).1, hopening,
            fun hmem => hlater (List.mem_append_left _ hmem)⟩

/-- **When a failed `Open` leaves no trace**, after any calls of `Open` and `Close`, each with
failures of its own: iff the socket was open, or opening it is what fails, or nothing behind the
opening does. What was open before is known from the calls alone: the acceptor if any of them got
past its opening, since `Close` leaves it, and the port if one since the last `Close` did. A trace
is one in the open state, or in what a later `Open` answers and leaves open; the options that were
set are none. -/
theorem failed_open_iff (callbacks : Tcp.Callbacks) (calls : List (SocketCall AcceptorStep))
    (faults : Faults AcceptorStep) (serialCalls : List (SocketCall PortOption))
    (portFaults : Faults PortOption) :
    (acceptor.LeavesAsItWas faults (serverRun callbacks calls) ↔
      (serverRun callbacks calls).acceptorOpen = true ∨ faults.opening = true ∨
        ∀ step ∈ [AcceptorStep.setOption, .bind, .listen], faults.step step = false) ∧
    (port.LeavesAsItWas portFaults (serialRun callbacks serialCalls) ↔
      (serialRun callbacks serialCalls).isOpen = true ∨ portFaults.opening = true ∨
        ∀ option ∈ [PortOption.baudRate, .characterSize, .parity, .stopBits, .flowControl],
          portFaults.step option = false) ∧
    ((serverRun callbacks calls).acceptorOpen = true ↔
      ∃ earlier, .openCall earlier ∈ calls ∧ earlier.opening = false) ∧
    ((serialRun callbacks serialCalls).isOpen = true ↔
      ∃ before earlier later, serialCalls = before ++ .openCall earlier :: later ∧
        earlier.opening = false ∧ .closeCall ∉ later) :=
  ⟨Device.leaves_iff, Device.leaves_iff, acceptorOpen_serverRun, isOpen_serialRun⟩

/-- `bind` throws on a new server socket, and a baud rate is refused on a new serial one. -/
theorem not_failed_open :
    ¬ acceptor.LeavesAsItWas { opening := false, step := (· = .bind) }
      (serverRun { connect := true, write := true, read := true, close := true } []) ∧
    ¬ port.LeavesAsItWas { opening := false, step := (· = .baudRate) }
      (serialRun { connect := true, write := true, read := true, close := true } []) :=
  ⟨Device.leaves_iff.not.mpr (by decide), Device.leaves_iff.not.mpr (by decide)⟩

end AccessPoint.Socket
