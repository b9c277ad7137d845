import AccessPoint.Lib.Run
import AccessPoint.Request.Config

/-!
# Opening and closing a client socket

The connect half of `LinuxTCPSocket` in client mode: `Open` closes the socket and starts a
resolution, `ASIO_Resolver_Handler` starts a connect to the first endpoint, and
`ASIO_Connect_Handler` either reports the connection or goes on to the next endpoint.

What asio does is in the events. An operation that is outstanding completes at some point,
and its completion waits in `ready` until its handler runs; completions are delivered in
any order. Closing the socket completes its outstanding connects with
`operation_aborted`, leaves completions that are already waiting as they are, and does not
touch a resolution. `async_connect` opens a closed socket when it starts, and
`remote_endpoint()` throws on a socket that is not connected.

The handlers see a `Close()` only as one more error code, so each of them can undo it.
`stays_closed_iff` says from which states `Close()` is final: no resolution is outstanding
or waiting with endpoints, and no connect that is outstanding or waiting has an endpoint
left to try, except a waiting success for which a connect callback is registered.
-/

namespace AccessPoint.Socket

/-- `tcp::endpoint`. -/
structure Endpoint where
  address : StdString
  port : Nat
  deriving DecidableEq, Repr

/-- The native socket under `m_Socket`. -/
inductive Descriptor where
  | closed
  | opened
  | connected
  deriving DecidableEq, Repr

/-- The error codes a connect completes with. -/
inductive ConnectCode where
  | success
  | refused
  | operationAborted
  deriving DecidableEq, Repr

/-- A completion that waits for its handler. `it` is the rest of the endpoint list, bound
into the handler. A resolution yields at least one endpoint or fails. -/
inductive Completion where
  | resolved (endpoints : Option (Endpoint × List Endpoint))
  | connected (code : ConnectCode) (it : List Endpoint)
  deriving DecidableEq, Repr

/-- What a handler does that its caller can see. -/
inductive Effect where
  | asyncConnect (endpoint : Endpoint)
  | connectCallback
  | threw
  deriving DecidableEq, Repr

/-- A connect that is outstanding: its endpoint, and the rest of the endpoint list bound into
its handler. -/
structure Attempt where
  endpoint : Endpoint
  it : List Endpoint
  deriving DecidableEq, Repr

/-- The socket: whether `m_Connect` is set, the number of resolutions and the connects that
are outstanding, and the completions that wait. -/
structure TcpSocket where
  descriptor : Descriptor
  hasConnect : Bool
  resolving : Nat
  connecting : List Attempt
  ready : List Completion
  deriving DecidableEq, Repr

namespace TcpSocket

/-- A socket just created, with or without a connect callback. -/
def fresh (hasConnect : Bool) : TcpSocket :=
  { descriptor := .closed, hasConnect, resolving := 0, connecting := [], ready := [] }

/-- `IsConnected`: `m_Socket.is_open()`. -/
def isConnected (s : TcpSocket) : Bool :=
  s.descriptor ≠ .closed

/-- `m_Socket.close()`. -/
def closeSocket (s : TcpSocket) : TcpSocket :=
  { s with
    descriptor := .closed
    connecting := []
    ready := s.ready ++ s.connecting.map fun attempt => .connected .operationAborted attempt.it }

/-- `m_Socket.async_connect`. -/
def asyncConnect (s : TcpSocket) (endpoint : Endpoint) (it : List Endpoint) : TcpSocket :=
  { s with
    descriptor := if s.descriptor = .closed then .opened else s.descriptor
    connecting := s.connecting ++ [{ endpoint, it }] }

/-- `ASIO_Resolver_Handler`. -/
def resolverHandler (s : TcpSocket) : Option (Endpoint × List Endpoint) → TcpSocket × List Effect
  | none => (s, [])
  | some (endpoint, it) => (s.asyncConnect endpoint it, [.asyncConnect endpoint])

/-- `ASIO_Connect_Handler`. The trace line asks for `remote_endpoint()` before the callback
is called. -/
def connectHandler (s : TcpSocket) (code : ConnectCode) (it : List Endpoint) :
    TcpSocket × List Effect :=
  if code = .success ∧ s.hasConnect = true then
    if s.descriptor = .connected then (s, [.connectCallback]) else (s, [.threw])
  else
    match it with
    | [] => (s, [])
    | endpoint :: it => (s.closeSocket.asyncConnect endpoint it, [.asyncConnect endpoint])

/-- `Open` in client mode. -/
def openClient (s : TcpSocket) (destination : Option StdString) : TcpSocket × Bool :=
  match destination with
  | none => (s, false)
  | some _ =>
    let s := s.closeSocket
    ({ s with resolving := s.resolving + 1 }, true)

/-- `Close`. -/
def close (s : TcpSocket) : TcpSocket :=
  s.closeSocket

end TcpSocket

/-- A user call, or a step of the event loop. `connectDone` and `deliver` name an
outstanding connect and a waiting completion by position. -/
inductive Event where
  | openCall (destination : Option StdString)
  | closeCall
  | resolveDone (endpoints : Option (Endpoint × List Endpoint))
  | connectDone (which : Nat) (ok : Bool)
  | peerReset
  | deliver (which : Nat)
  deriving DecidableEq, Repr

namespace TcpSocket

/-- The handler of a completion. -/
def handle (s : TcpSocket) : Completion → TcpSocket × List Effect
  | .resolved endpoints => s.resolverHandler endpoints
  | .connected code it => s.connectHandler code it

/-- One event and what it does that a caller can see. -/
def stepEffects (s : TcpSocket) : Event → TcpSocket × List Effect
  | .openCall destination => ((s.openClient destination).1, [])
  | .closeCall => (s.close, [])
  | .resolveDone endpoints =>
    if s.resolving = 0 then (s, [])
    else ({ s with resolving := s.resolving - 1, ready := s.ready ++ [.resolved endpoints] }, [])
  | .connectDone which ok =>
    match s.connecting[which]? with
    | none => (s, [])
    | some attempt =>
      let code := if ok then .success else .refused
      ({ s with
         descriptor := if ok then .connected else s.descriptor
         connecting := s.connecting.eraseIdx which
         ready := s.ready ++ [.connected code attempt.it] }, [])
  | .peerReset =>
    ({ s with descriptor := if s.descriptor = .connected then .opened else s.descriptor }, [])
  | .deliver which =>
    match s.ready[which]? with
    | none => (s, [])
    | some completion => { s with ready := s.ready.eraseIdx which }.handle completion

/-- One event. -/
def step (s : TcpSocket) (event : Event) : TcpSocket :=
  (s.stepEffects event).1

/-- The effects of one event. -/
def effects (s : TcpSocket) (event : Event) : List Effect :=
  (s.stepEffects event).2

end TcpSocket

/-- A call of `Open`, with any argument. -/
def Event.isOpen : Event → Bool
  | .openCall _ => true
  | _ => false

namespace TcpSocket

/-- The event leaves the socket closed, starts no connect and calls no connect callback. -/
def Inert (s : TcpSocket) (event : Event) : Prop :=
  (∀ endpoint, .asyncConnect endpoint ∉ s.effects event) ∧ .connectCallback ∉ s.effects event ∧
    (s.step event).isConnected = false

/-- Whatever happens after `Close()` and before the next `Open()` is inert. -/
def StaysClosed (s : TcpSocket) : Prop :=
  ∀ events : List Event, (∀ event ∈ events, event.isOpen = false) →
    Run.Along step Inert s.close events

/-- A waiting completion whose handler, on a closed socket, does nothing or throws. -/
def Spent (hasConnect : Bool) : Completion → Prop
  | .resolved endpoints => endpoints = none
  | .connected code it => it = [] ∨ code = .success ∧ hasConnect = true

/-- No handler, outstanding or waiting, has an endpoint to connect to. -/
structure Settled (s : TcpSocket) : Prop where
  resolving : s.resolving = 0
  connecting : ∀ attempt ∈ s.connecting, attempt.it = []
  ready : ∀ completion ∈ s.ready, Spent s.hasConnect completion

/-! ## A settled socket stays closed -/

/-- A closed socket with nothing outstanding but spent completions. -/
structure Dead (s : TcpSocket) : Prop where
  closed : s.descriptor = .closed
  resolving : s.resolving = 0
  connecting : s.connecting = []
  ready : ∀ completion ∈ s.ready, Spent s.hasConnect completion

theorem Settled.dead {s : TcpSocket} (h : s.Settled) : s.close.Dead where
  closed := rfl
  resolving := h.resolving
  connecting := rfl
  ready completion hmem := by
    rcases List.mem_append.mp hmem with hready | hconnecting
    · exact h.ready completion hready
    · obtain ⟨attempt, hattempt, rfl⟩ := List.mem_map.mp hconnecting
      exact .inl (h.connecting attempt hattempt)

theorem settled_of_dead {s : TcpSocket} (h : s.close.Dead) : s.Settled where
  resolving := h.resolving
  connecting attempt hattempt := by
    have hspent := h.ready (.connected .operationAborted attempt.it)
      (List.mem_append_right _ (List.mem_map_of_mem hattempt))
    exact hspent.resolve_right (by simp)
  ready completion hmem := h.ready completion (List.mem_append_left _ hmem)

/-- The handler of a spent completion on a closed socket changes nothing. -/
theorem handle_spent {s : TcpSocket} {completion : Completion} (hclosed : s.descriptor = .closed)
    (h : Spent s.hasConnect completion) :
    s.handle completion = (s, []) ∨ s.handle completion = (s, [.threw]) := by
  cases completion with
  | resolved endpoints =>
    cases h
    exact .inl rfl
  | connected code it =>
    by_cases hcode : code = .success ∧ s.hasConnect = true
    · exact .inr (by simp [handle, connectHandler, if_pos hcode, hclosed])
    · rcases h with rfl | h
      · exact .inl (by simp [handle, connectHandler, if_neg hcode])
      · exact absurd h hcode

/-- An event that leaves a dead socket dead, and at most throws, is inert. -/
theorem inert_of_dead {s s' : TcpSocket} {event : Event} {effects : List Effect}
    (hstep : s.stepEffects event = (s', effects)) (heffects : effects = [] ∨ effects = [.threw])
    (hdead : s'.Dead) : s.Inert event ∧ (s.step event).Dead := by
  have hs : s.step event = s' := congrArg Prod.fst hstep
  have he : s.effects event = effects := congrArg Prod.snd hstep
  rw [Inert, hs, he]
  refine ⟨⟨fun endpoint => ?_, ?_, ?_⟩, hdead⟩
  · rcases heffects with rfl | rfl <;> simp
  · rcases heffects with rfl | rfl <;> simp
  · simp [isConnected, hdead.closed]

/-- What one event does to a dead socket. -/
theorem Dead.step {s : TcpSocket} (h : s.Dead) {event : Event} (hopen : event.isOpen = false) :
    s.Inert event ∧ (s.step event).Dead := by
  cases event with
  | openCall destination => cases hopen
  | closeCall =>
    have hdead : s.close.Dead :=
      ⟨rfl, h.resolving, rfl, by simpa [close, closeSocket, h.connecting] using h.ready⟩
    exact inert_of_dead rfl (.inl rfl) hdead
  | resolveDone endpoints =>
    have hstep : s.stepEffects (.resolveDone endpoints) = (s, []) := by
      simp [stepEffects, h.resolving]
    exact inert_of_dead hstep (.inl rfl) h
  | connectDone which ok =>
    have hstep : s.stepEffects (.connectDone which ok) = (s, []) := by
      simp [stepEffects, h.connecting]
    exact inert_of_dead hstep (.inl rfl) h
  | peerReset =>
    have hstep : s.stepEffects .peerReset = (s, []) := by
      have hne : ¬ s.descriptor = .connected := by simp [h.closed]
      simp only [stepEffects, if_neg hne]
    exact inert_of_dead hstep (.inl rfl) h
  | deliver which =>
    cases hw : s.ready[which]? with
    | none => exact inert_of_dead (by simp [stepEffects, hw]) (.inl rfl) h
    | some completion =>
      let s' : TcpSocket := { s with ready := s.ready.eraseIdx which }
      have hdead : s'.Dead := ⟨h.closed, h.resolving, h.connecting,
        fun c hc => h.ready c (List.mem_of_mem_eraseIdx hc)⟩
      have hstep : s.stepEffects (.deliver which) = s'.handle completion := by
        simp [stepEffects, hw, s']
      rcases handle_spent (s := s') h.closed (h.ready completion (List.mem_of_getElem? hw))
        with hh | hh
      · exact inert_of_dead (hstep.trans hh) (.inl rfl) hdead
      · exact inert_of_dead (hstep.trans hh) (.inr rfl) hdead

/-- Everything that happens to a dead socket is inert, by induction over the events. -/
theorem Dead.along {s : TcpSocket} (h : s.Dead) {events : List Event}
    (hopen : ∀ event ∈ events, event.isOpen = false) : Run.Along TcpSocket.step Inert s events := by
  induction events generalizing s with
  | nil => trivial
  | cons event events ih =>
    obtain ⟨hinert, hdead⟩ := h.step (hopen event List.mem_cons_self)
    exact ⟨hinert, ih hdead fun e he => hopen e (List.mem_cons_of_mem _ he)⟩

/-! ## A socket that is not settled can be reopened -/

/-- The handler of a completion that is not spent starts a connect. -/
theorem handle_not_spent {s : TcpSocket} {completion : Completion}
    (h : ¬ Spent s.hasConnect completion) :
    ∃ endpoint, .asyncConnect endpoint ∈ (s.handle completion).2 := by
  cases completion with
  | resolved endpoints =>
    cases endpoints with
    | none => exact absurd rfl h
    | some endpoints => exact ⟨endpoints.1, List.mem_singleton_self _⟩
  | connected code it =>
    obtain ⟨hit, hcode⟩ := not_or.mp h
    cases it with
    | nil => exact absurd rfl hit
    | cons endpoint it =>
      exact ⟨endpoint, by simp [handle, connectHandler, if_neg hcode]⟩

/-- Delivering a completion that is not spent is not inert. -/
theorem not_inert_deliver {s : TcpSocket} {completion : Completion} {which : Nat}
    (hw : s.ready[which]? = some completion) (h : ¬ Spent s.hasConnect completion) :
    ¬ s.Inert (.deliver which) := by
  intro hinert
  let s' : TcpSocket := { s with ready := s.ready.eraseIdx which }
  obtain ⟨endpoint, hmem⟩ := handle_not_spent (s := s') h
  refine hinert.1 endpoint ?_
  simpa [effects, stepEffects, hw] using hmem

/-- **When `Close()` is final**: from exactly the settled states. A state that is not settled has a
handler, outstanding or waiting, with an endpoint to connect to, and one or two steps of the event
loop run it. The state is any, whether a run leads to it or not, and what follows `Close()` is any
list of events without an `Open`. Inert is to start no connect, to call no connect callback and to
leave the descriptor closed. -/
theorem stays_closed_iff (s : TcpSocket) : s.StaysClosed ↔ s.Settled := by
  constructor
  · intro h
    refine settled_of_dead ⟨rfl, ?_, rfl, ?_⟩
    · by_contra hresolving
      have hresolving' : s.close.resolving ≠ 0 := hresolving
      -- the resolution succeeds after the close, and its handler runs
      let endpoint : Endpoint := { address := "::1".toList, port := 4059 }
      have hrun := h [.resolveDone (some (endpoint, [])), .deliver s.close.ready.length]
        (by simp [Event.isOpen])
      let after := s.close.step (.resolveDone (some (endpoint, [])))
      have hw : after.ready[s.close.ready.length]? = some (.resolved (some (endpoint, []))) := by
        simp [after, TcpSocket.step, stepEffects, hresolving']
      exact not_inert_deliver hw (by simp [Spent]) hrun.2.1
    · intro completion hmem
      by_contra hspent
      obtain ⟨which, hw⟩ := List.mem_iff_getElem?.mp hmem
      have hrun := h [.deliver which] (by simp [Event.isOpen])
      exact not_inert_deliver hw hspent hrun.1
  · intro h events hopen
    exact h.dead.along hopen

/-- A resolution that completes after `Close()` opens the socket again. -/
theorem slow_resolver_reopens :
    ¬ ∀ (hasConnect : Bool) (events : List Event),
      (events.foldl step (fresh hasConnect)).StaysClosed := by
  intro h
  have hrun := h true [.openCall (some "meter".toList)]
    [.resolveDone (some (⟨"::1".toList, 4059⟩, [])), .deliver 0] (by decide)
  exact absurd hrun.2.1.2.2 (by decide)

end TcpSocket

end AccessPoint.Socket
