import AccessPoint.Socket.Connect

/-!
# A TCP socket with all its operations

`LinuxTCPSocket` in either mode, with every kind of asynchronous operation: a resolution and
the connects it leads to, an accept, reads and writes; and with the synchronous read and write,
which are over in one event. `AccessPoint.Socket.Connect` is its connect half alone.

What asio does is in the events. An operation that is outstanding completes at some point, and
its completion waits in `ready` until its handler runs; completions come and are delivered in
any order. Closing the socket completes its outstanding connects, reads and writes with
`operation_aborted`, leaves completions that are already waiting as they are, and does not
touch a resolution or an accept. A transfer started on a closed socket fails. The acceptor is
never closed, and opening it again throws.

An operation that an `Open` has led to carries the number of that `Open`, which the code does
not have. The bytes of the transfers are in `AccessPoint.Socket.Read` and
`AccessPoint.Socket.Write`.
-/

namespace AccessPoint.Tcp

open AccessPoint.Socket (Endpoint Descriptor)

/-- `IIP::Options::m_Mode`. -/
inductive Mode where
  | client
  | server
  deriving DecidableEq, Repr

/-- The error codes that the handlers tell apart. -/
inductive Code where
  | success
  | eof
  | connectionReset
  | operationAborted
  | failed
  deriving DecidableEq, Repr

/-- What the handlers of reads and writes take for a TCP disconnection. -/
def Code.disconnects : Code → Bool
  | .eof | .connectionReset | .operationAborted => true
  | _ => false

/-- What the peer has done to the connection. -/
def Code.endedByPeer : Code → Bool
  | .eof | .connectionReset => true
  | _ => false

/-- Which of the callbacks are set. -/
structure Callbacks where
  connect : Bool
  read : Bool
  write : Bool
  close : Bool
  deriving DecidableEq, Repr

/-- An operation that is outstanding. A connect has the rest of the endpoint list bound into its
handler. -/
inductive Operation where
  | resolve (opening : Nat)
  | connect (opening : Nat) (it : List Endpoint)
  | accept (opening : Nat)
  | read
  | write
  deriving DecidableEq, Repr

/-- A completion that waits for its handler. A resolution yields at least one endpoint or
fails. -/
inductive Completion where
  | resolved (opening : Nat) (endpoints : Option (Endpoint × List Endpoint))
  | connected (opening : Nat) (code : Code) (it : List Endpoint)
  | accepted (opening : Nat) (code : Code)
  | read (code : Code)
  | written (code : Code)
  deriving DecidableEq, Repr

/-- What a step does that its caller can see. -/
inductive Effect where
  | connectCallback (success : Bool)
  | readCallback (success : Bool)
  | writeCallback (success : Bool)
  | closeCallback
  | threw
  deriving DecidableEq, Repr

/-- The operation as it completes when it is aborted. -/
def Operation.abort : Operation → Completion
  | .resolve opening => .resolved opening none
  | .connect opening it => .connected opening .operationAborted it
  | .accept opening => .accepted opening .operationAborted
  | .read => .read .operationAborted
  | .write => .written .operationAborted

/-- The operation is one of `m_Socket`. -/
def Operation.onSocket : Operation → Bool
  | .connect _ _ | .read | .write => true
  | .resolve _ | .accept _ => false

/-- What the calls on `m_Acceptor` do: the first or one of the others throws, or none does. -/
inductive Acceptor where
  | notOpened
  | notListening
  | listening
  deriving DecidableEq, Repr

/-- The socket; `opens` counts the calls of `Open`. -/
structure LinuxTCPSocket where
  mode : Mode
  callbacks : Callbacks
  descriptor : Descriptor
  acceptorOpen : Bool
  outstanding : List Operation
  ready : List Completion
  opens : Nat
  deriving DecidableEq, Repr

/-- A user call, or a step of the event loop. The steps of the loop name an operation or a
completion by position. -/
inductive Event where
  | openCall (destination : Option StdString) (acceptor : Acceptor)
  | closeCall
  | readCall
  | writeCall
  | readSync (available : Nat) (code : Code)
  | writeSync (code : Code)
  | register (callbacks : Callbacks)
  | resolveDone (which : Nat) (endpoints : Option (Endpoint × List Endpoint))
  | done (which : Nat) (code : Code)
  | peerReset
  | deliver (which : Nat)
  deriving DecidableEq, Repr

/-- The user calls. -/
def Event.isCall : Event → Bool
  | .openCall _ _ | .closeCall | .readCall | .writeCall => true
  | .readSync _ _ | .writeSync _ | .register _ => true
  | _ => false

namespace LinuxTCPSocket

/-- A socket just created. -/
def fresh (mode : Mode) (callbacks : Callbacks) : LinuxTCPSocket :=
  { mode, callbacks, descriptor := .closed, acceptorOpen := false, outstanding := [], ready := []
    opens := 0 }

/-- `IsConnected`: `m_Socket.is_open()`. -/
def isConnected (s : LinuxTCPSocket) : Bool :=
  s.descriptor ≠ .closed

/-- `m_Socket.close()`. -/
def closeSocket (s : LinuxTCPSocket) : LinuxTCPSocket :=
  { s with
    descriptor := .closed
    outstanding := s.outstanding.filter fun op => !op.onSocket
    ready := s.ready ++ (s.outstanding.filter Operation.onSocket).map Operation.abort }

/-- `m_Socket.async_connect`. -/
def asyncConnect (s : LinuxTCPSocket) (opening : Nat) (it : List Endpoint) : LinuxTCPSocket :=
  { s with
    descriptor := if s.descriptor = .closed then .opened else s.descriptor
    outstanding := s.outstanding ++ [.connect opening it] }

/-- A transfer, or its failure on a closed socket. -/
def startTransfer (s : LinuxTCPSocket) (op : Operation) (failure : Completion) : LinuxTCPSocket :=
  if s.descriptor = .closed then { s with ready := s.ready ++ [failure] }
  else { s with outstanding := s.outstanding ++ [op] }

/-- `ASIO_Accept_Handler`. The trace line asks for `remote_endpoint()` before the callback is
called. -/
def acceptHandler (s : LinuxTCPSocket) (code : Code) : LinuxTCPSocket × Option Effect :=
  if s.callbacks.connect then
    if s.descriptor = .connected then (s, some (.connectCallback (code = .success)))
    else (s, some .threw)
  else (s, none)

/-- `ASIO_Resolver_Handler`. -/
def resolverHandler (s : LinuxTCPSocket) (opening : Nat) :
    Option (Endpoint × List Endpoint) → LinuxTCPSocket × Option Effect
  | none => (s, none)
  | some (_, it) => (s.asyncConnect opening it, none)

/-- `ASIO_Connect_Handler`. -/
def connectHandler (s : LinuxTCPSocket) (opening : Nat) (code : Code) (it : List Endpoint) :
    LinuxTCPSocket × Option Effect :=
  if code = .success ∧ s.callbacks.connect = true then
    if s.descriptor = .connected then (s, some (.connectCallback true)) else (s, some .threw)
  else
    match it with
    | [] => (s, none)
    | _ :: it => (s.closeSocket.asyncConnect opening it, none)

/-- `ASIO_Write_Handler`. -/
def writeHandler (s : LinuxTCPSocket) (code : Code) : Option Effect :=
  if code.disconnects then if s.callbacks.close then some .closeCallback else none
  else if s.callbacks.write then some (.writeCallback (code = .success ∧ s.descriptor ≠ .closed))
  else none

/-- `ASIO_Read_Handler`. -/
def readHandler (s : LinuxTCPSocket) (code : Code) : Option Effect :=
  if code.disconnects then if s.callbacks.close then some .closeCallback else none
  else if s.callbacks.read then some (.readCallback (code = .success))
  else none

/-- `m_Acceptor.async_accept(m_Socket, …)`, which fails when the socket is open already. -/
def asyncAccept (s : LinuxTCPSocket) : LinuxTCPSocket :=
  if s.descriptor = .closed then { s with outstanding := s.outstanding ++ [.accept s.opens] }
  else { s with ready := s.ready ++ [.accepted s.opens .failed] }

/-- The server branch of `Open`. -/
def openServer (s : LinuxTCPSocket) (acceptor : Acceptor) : LinuxTCPSocket × Bool :=
  if s.acceptorOpen then (s, false)
  else
    match acceptor with
    | .notOpened => (s, false)
    | .notListening => ({ s with acceptorOpen := true }, false)
    | .listening => ({ s with acceptorOpen := true }.asyncAccept, true)

/-- The client branch of `Open`. -/
def openClient (s : LinuxTCPSocket) (destination : Option StdString) : LinuxTCPSocket × Bool :=
  match destination with
  | none => (s, false)
  | some _ =>
    let s := s.closeSocket
    ({ s with outstanding := s.outstanding ++ [.resolve s.opens] }, true)

/-- `Open`, which is one more call of it. -/
def openSocket (s : LinuxTCPSocket) (destination : Option StdString) (acceptor : Acceptor) :
    LinuxTCPSocket × Bool :=
  let s := { s with opens := s.opens + 1 }
  match s.mode with
  | .server => s.openServer acceptor
  | .client => s.openClient destination

/-- `Close`. -/
def close (s : LinuxTCPSocket) : LinuxTCPSocket :=
  s.closeSocket

/-- `Read` with a null vector. -/
def readAsync (s : LinuxTCPSocket) : LinuxTCPSocket :=
  s.startTransfer .read (.read .failed)

/-- `Write`, asynchronous. -/
def writeAsync (s : LinuxTCPSocket) : LinuxTCPSocket :=
  if s.callbacks.write then s.startTransfer .write (.written .failed) else s

/-- What `Read` with a vector tells the callbacks: `available()` throws on a closed socket, and
`read_some` is not called when nothing is available. -/
def readSync (s : LinuxTCPSocket) (available : Nat) (code : Code) : Option Effect :=
  if s.descriptor = .closed then some .threw
  else if available = 0 then none
  else if code.endedByPeer then if s.callbacks.close then some .closeCallback else none
  else none

/-- The handler of a completion. -/
def handle (s : LinuxTCPSocket) : Completion → LinuxTCPSocket × Option Effect
  | .resolved opening endpoints => s.resolverHandler opening endpoints
  | .connected opening code it => s.connectHandler opening code it
  | .accepted _ code => s.acceptHandler code
  | .read code => (s, s.readHandler code)
  | .written code => (s, s.writeHandler code)

/-- An outstanding operation is over, and its completion waits. -/
def finish (s : LinuxTCPSocket) (which : Nat) (completion : Completion) : LinuxTCPSocket :=
  { s with outstanding := s.outstanding.eraseIdx which, ready := s.ready ++ [completion] }

/-- A connect or an accept that succeeds connects the socket. -/
def established (s : LinuxTCPSocket) (code : Code) : LinuxTCPSocket :=
  if code = .success then { s with descriptor := .connected } else s

/-- An outstanding operation of the socket or the acceptor completes. -/
def complete (s : LinuxTCPSocket) (which : Nat) (code : Code) : LinuxTCPSocket :=
  match s.outstanding[which]? with
  | some (.connect opening it) => (s.finish which (.connected opening code it)).established code
  | some (.accept opening) => (s.finish which (.accepted opening code)).established code
  | some .read => s.finish which (.read code)
  | some .write => s.finish which (.written code)
  | some (.resolve _) => s
  | none => s

/-- One event and what it does that a caller can see. An event that is not offered changes
nothing. -/
def stepEffect (s : LinuxTCPSocket) : Event → LinuxTCPSocket × Option Effect
  | .openCall destination acceptor => ((s.openSocket destination acceptor).1, none)
  | .closeCall => (s.close, none)
  | .readCall => (s.readAsync, none)
  | .writeCall => (s.writeAsync, none)
  | .readSync available code => (s, s.readSync available code)
  -- a synchronous `Write` returns its error, and no callback is told
  | .writeSync _ => (s, none)
  | .register callbacks => ({ s with callbacks }, none)
  | .resolveDone which endpoints =>
    match s.outstanding[which]? with
    | some (.resolve opening) => (s.finish which (.resolved opening endpoints), none)
    | _ => (s, none)
  | .done which code => (s.complete which code, none)
  | .peerReset =>
    ({ s with descriptor := if s.descriptor = .connected then .opened else s.descriptor }, none)
  | .deliver which =>
    match s.ready[which]? with
    | some completion => { s with ready := s.ready.eraseIdx which }.handle completion
    | none => (s, none)

/-- One event. -/
def step (s : LinuxTCPSocket) (event : Event) : LinuxTCPSocket :=
  (s.stepEffect event).1

/-- The effect of one event. -/
def effect (s : LinuxTCPSocket) (event : Event) : Option Effect :=
  (s.stepEffect event).2

/-- The state a completion's handler starts in. -/
def taken (s : LinuxTCPSocket) (which : Nat) : LinuxTCPSocket :=
  { s with ready := s.ready.eraseIdx which }

variable {s : LinuxTCPSocket}

theorem stepEffect_deliver {which : Nat} {completion : Completion}
    (h : s.ready[which]? = some completion) :
    s.stepEffect (.deliver which) = (s.taken which).handle completion := by
  simp [stepEffect, h, taken]

theorem stepEffect_deliver_none {which : Nat} (h : s.ready[which]? = none) :
    s.stepEffect (.deliver which) = (s, none) := by
  simp [stepEffect, h]

/-- A resolution completes, if it is one. -/
theorem stepEffect_resolveDone (s : LinuxTCPSocket) (which : Nat)
    (endpoints : Option (Endpoint × List Endpoint)) :
    s.stepEffect (.resolveDone which endpoints) = (s, none) ∨
      ∃ opening, s.outstanding[which]? = some (.resolve opening) ∧
        s.stepEffect (.resolveDone which endpoints) =
          (s.finish which (.resolved opening endpoints), none) := by
  cases hop : s.outstanding[which]? with
  | none => exact .inl (by simp only [stepEffect, hop])
  | some op =>
    cases op with
    | resolve opening => exact .inr ⟨opening, rfl, by simp only [stepEffect, hop]⟩
    | connect opening it => exact .inl (by simp only [stepEffect, hop])
    | accept opening => exact .inl (by simp only [stepEffect, hop])
    | read => exact .inl (by simp only [stepEffect, hop])
    | write => exact .inl (by simp only [stepEffect, hop])

/-- **What `Open` can do**: on a client with a destination, close the socket and start a
resolution; on a server, start an accept, which may fail at once; or nothing but open the
acceptor. -/
theorem openSocket_cases (s : LinuxTCPSocket) (destination : Option StdString)
    (acceptor : Acceptor) :
    (s.mode = .client ∧ destination ≠ none) ∧
        (s.openSocket destination acceptor).1 =
          { s.closeSocket with
            outstanding := s.closeSocket.outstanding ++ [.resolve (s.opens + 1)]
            opens := s.opens + 1 } ∨
      ¬ (s.mode = .client ∧ destination ≠ none) ∧ ∃ acceptorOpen,
        (s.openSocket destination acceptor).1 = { s with acceptorOpen, opens := s.opens + 1 } ∨
        s.mode = .server ∧
          ((s.openSocket destination acceptor).1 =
              { s with
                acceptorOpen
                outstanding := s.outstanding ++ [.accept (s.opens + 1)]
                opens := s.opens + 1 } ∨
            (s.openSocket destination acceptor).1 =
              { s with
                acceptorOpen
                ready := s.ready ++ [.accepted (s.opens + 1) .failed]
                opens := s.opens + 1 }) := by
  cases hmode : s.mode with
  | server =>
    refine .inr ⟨by simp, ?_⟩
    simp only [openSocket, hmode, openServer]
    split
    · exact ⟨s.acceptorOpen, .inl rfl⟩
    · cases acceptor with
      | notOpened => exact ⟨s.acceptorOpen, .inl rfl⟩
      | notListening => exact ⟨true, .inl rfl⟩
      | listening =>
        refine ⟨true, .inr ⟨trivial, ?_⟩⟩
        simp only [asyncAccept]
        split
        · exact .inl rfl
        · exact .inr rfl
  | client =>
    simp only [openSocket, hmode]
    cases destination with
    | none => exact .inr ⟨by simp, s.acceptorOpen, .inl rfl⟩
    | some destination => exact .inl ⟨by simp, by simp [openClient, closeSocket, hmode]⟩

/-- A transfer touches only what is outstanding and what waits. -/
theorem startTransfer_frame (s : LinuxTCPSocket) (op : Operation) (failure : Completion) :
    ∃ outstanding ready, s.startTransfer op failure = { s with outstanding, ready } := by
  unfold startTransfer
  split
  · exact ⟨_, _, rfl⟩
  · exact ⟨_, _, rfl⟩

/-- The handlers leave the callbacks as they are. -/
theorem handle_callbacks (s : LinuxTCPSocket) (completion : Completion) :
    (s.handle completion).1.callbacks = s.callbacks := by
  cases completion with
  | resolved opening endpoints =>
    cases endpoints with
    | none => rfl
    | some endpoints => rfl
  | connected opening code it =>
    show (s.connectHandler opening code it).1.callbacks = s.callbacks
    unfold connectHandler
    split
    · split <;> rfl
    · split <;> rfl
  | accepted opening code =>
    show (s.acceptHandler code).1.callbacks = s.callbacks
    unfold acceptHandler
    split
    · split <;> rfl
    · rfl
  | read code => rfl
  | written code => rfl

/-- Only registering callbacks changes them. -/
theorem step_callbacks (s : LinuxTCPSocket) {event : Event}
    (h : ∀ callbacks, event ≠ .register callbacks) : (s.step event).callbacks = s.callbacks := by
  cases event with
  | openCall destination acceptor =>
    show (s.openSocket destination acceptor).1.callbacks = s.callbacks
    rcases s.openSocket_cases destination acceptor with
      ⟨-, hopen⟩ | ⟨-, acceptorOpen, hopen | ⟨-, hopen | hopen⟩⟩
    · rw [hopen]
      rfl
    · rw [hopen]
    · rw [hopen]
    · rw [hopen]
  | closeCall => rfl
  | readCall =>
    obtain ⟨outstanding, ready, hstart⟩ := s.startTransfer_frame .read (.read .failed)
    show (s.startTransfer .read (.read .failed)).callbacks = s.callbacks
    rw [hstart]
  | writeCall =>
    obtain ⟨outstanding, ready, hstart⟩ := s.startTransfer_frame .write (.written .failed)
    show s.writeAsync.callbacks = s.callbacks
    unfold writeAsync
    split
    · rw [hstart]
    · rfl
  | readSync available code => rfl
  | writeSync code => rfl
  | register callbacks => exact absurd rfl (h callbacks)
  | resolveDone which endpoints =>
    show (s.stepEffect (.resolveDone which endpoints)).1.callbacks = s.callbacks
    rcases stepEffect_resolveDone s which endpoints with hstep | ⟨opening, -, hstep⟩
    · rw [hstep]
    · rw [hstep]
      rfl
  | done which code =>
    show (s.complete which code).callbacks = s.callbacks
    unfold complete established
    split
    · split <;> rfl
    · split <;> rfl
    · rfl
    · rfl
    · rfl
    · rfl
  | peerReset => rfl
  | deliver which =>
    show (s.stepEffect (.deliver which)).1.callbacks = s.callbacks
    cases hwhich : s.ready[which]? with
    | none => rw [stepEffect_deliver_none hwhich]
    | some completion =>
      rw [stepEffect_deliver hwhich]
      exact handle_callbacks _ _

/-! ## What is outstanding, and what waits -/

/-- Every operation that is outstanding is of one kind, and every completion that waits of
another. -/
structure Populated (Q : Operation → Prop) (R : Completion → Prop) (s : LinuxTCPSocket) : Prop where
  outstanding : ∀ op ∈ s.outstanding, Q op
  ready : ∀ completion ∈ s.ready, R completion

section

variable {Q : Operation → Prop} {R : Completion → Prop}

theorem Populated.fresh (mode : Mode) (callbacks : Callbacks) :
    (fresh mode callbacks).Populated Q R :=
  ⟨nofun, nofun⟩

/-- Closing the socket, when the operations of the kind are aborted as the other kind. -/
theorem Populated.closeSocket (h : s.Populated Q R)
    (habort : ∀ op, Q op → op.onSocket = true → R op.abort) : s.closeSocket.Populated Q R := by
  constructor
  · intro op hop
    exact h.outstanding op (List.mem_filter.mp hop).1
  · intro completion hmem
    rcases List.mem_append.mp hmem with hready | haborted
    · exact h.ready completion hready
    · obtain ⟨op, hop, rfl⟩ := List.mem_map.mp haborted
      obtain ⟨hop, hsocket⟩ := List.mem_filter.mp hop
      exact habort op (h.outstanding op hop) hsocket

theorem Populated.start (h : s.Populated Q R) (op : Operation) (hop : Q op)
    {t : LinuxTCPSocket} (hout : t.outstanding = s.outstanding ++ [op])
    (hready : t.ready = s.ready) : t.Populated Q R := by
  constructor
  · rw [hout]
    intro op' hop'
    rcases List.mem_append.mp hop' with hold | hnew
    · exact h.outstanding op' hold
    · rw [List.mem_singleton.mp hnew]
      exact hop
  · rw [hready]
    exact h.ready

theorem Populated.await (h : s.Populated Q R) (completion : Completion) (hcompletion : R completion)
    {t : LinuxTCPSocket} (hout : ∀ op ∈ t.outstanding, op ∈ s.outstanding)
    (hready : t.ready = s.ready ++ [completion]) : t.Populated Q R := by
  constructor
  · intro op hop
    exact h.outstanding op (hout op hop)
  · rw [hready]
    intro completion' hmem
    rcases List.mem_append.mp hmem with hold | hnew
    · exact h.ready completion' hold
    · rw [List.mem_singleton.mp hnew]
      exact hcompletion

theorem Populated.taken (h : s.Populated Q R) (which : Nat) : (s.taken which).Populated Q R :=
  ⟨h.outstanding, fun completion hmem => h.ready completion (List.mem_of_mem_eraseIdx hmem)⟩

theorem Populated.finish (h : s.Populated Q R) (which : Nat) (completion : Completion)
    (hcompletion : R completion) : (s.finish which completion).Populated Q R :=
  h.await completion hcompletion (fun _ hop => List.mem_of_mem_eraseIdx hop) rfl

theorem Populated.established (h : s.Populated Q R) (code : Code) :
    (s.established code).Populated Q R := by
  unfold LinuxTCPSocket.established
  split
  · exact ⟨h.outstanding, h.ready⟩
  · exact h

theorem Populated.startTransfer (h : s.Populated Q R) (op : Operation) (failure : Completion)
    (hop : Q op) (hfailure : R failure) : (s.startTransfer op failure).Populated Q R := by
  unfold LinuxTCPSocket.startTransfer
  split
  · exact h.await failure hfailure (fun _ hop => hop) rfl
  · exact h.start op hop rfl rfl

end

end LinuxTCPSocket

end AccessPoint.Tcp
