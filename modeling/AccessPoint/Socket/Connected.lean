import AccessPoint.Lib.Run
import AccessPoint.Socket.Tcp

/-!
# What IsConnected says

`IsConnected()` is the open state of the descriptor under `m_Socket`. The descriptor is opened
when a connect starts, and it is closed only by `close()`: not when a connect fails and no
endpoint is left, and not when a handler learns that the peer has ended the connection.

`connection` is the fact the name stands for: the number of the `Open` that a TCP connection
has been established by, while it is neither closed here nor reported as ended.
`isConnected_sound_iff` says which runs keep the two together: on a client socket those in which
no resolution succeeds, and on a server socket those in which nobody calls `Open` while the
socket is open, no accept completes for any `Open` but the latest, and no read or write,
asynchronous or synchronous, reports the end of the connection while the socket is open.
-/

namespace AccessPoint.Tcp

open AccessPoint.Socket (Endpoint Descriptor)

/-- A socket, and the `Open` that its connection has been established by. -/
structure Tracked where
  socket : LinuxTCPSocket
  connection : Option Nat
  deriving DecidableEq, Repr

namespace Tracked

/-- A socket just created. -/
def fresh (mode : Mode) (callbacks : Callbacks) : Tracked :=
  { socket := .fresh mode callbacks, connection := none }

/-- The connection after an event: it is closed by `Open` on a client, by `Close` and by the
handler of a connect that goes on to the next endpoint, it is over when its end is reported to
the socket, and it is there when a connect or an accept succeeds. -/
def connectionAfter (t : Tracked) : Event → Option Nat
  | .openCall destination _ =>
    if t.socket.mode = .client ∧ destination ≠ none then none else t.connection
  | .closeCall => none
  | .readSync available code =>
    if t.socket.descriptor ≠ .closed ∧ available ≠ 0 ∧ code.endedByPeer = true then none
    else t.connection
  | .writeSync code =>
    if t.socket.descriptor ≠ .closed ∧ code.endedByPeer = true then none else t.connection
  | .done which code =>
    match t.socket.outstanding[which]? with
    | some (.connect opening _) | some (.accept opening) =>
      if code = .success then some opening else t.connection
    | _ => t.connection
  | .deliver which =>
    match t.socket.ready[which]? with
    | some (.read code) | some (.written code) => if code.endedByPeer then none else t.connection
    | some (.connected _ code (_ :: _)) =>
      if code = .success ∧ t.socket.callbacks.connect = true then t.connection else none
    | _ => t.connection
  | _ => t.connection

/-- One event. -/
def step (t : Tracked) (event : Event) : Tracked :=
  { socket := t.socket.step event, connection := t.connectionAfter event }

/-- `IsConnected()` is true only of a connection that the latest `Open` has established. -/
def Sound (t : Tracked) : Prop :=
  t.socket.isConnected = true → t.connection = some t.socket.opens

/-- An event that leaves `IsConnected()` sound. -/
def Honest (t : Tracked) : Event → Prop
  | .openCall destination _ =>
    t.socket.descriptor = .closed ∨ t.socket.mode = .client ∧ destination ≠ none
  | .readSync available code =>
    t.socket.descriptor ≠ .closed → available ≠ 0 → code.endedByPeer = false
  | .writeSync code => t.socket.descriptor ≠ .closed → code.endedByPeer = false
  | .done which code =>
    ∀ opening, t.socket.outstanding[which]? = some (.accept opening) → code = .success →
      opening = t.socket.opens
  | .deliver which =>
    match t.socket.ready[which]? with
    | some (.resolved _ endpoints) => endpoints = none
    | some (.read code) | some (.written code) =>
      t.socket.descriptor ≠ .closed → code.endedByPeer = false
    | _ => True
  | _ => True

end Tracked

/-! ## The invariant of honest runs -/

/-- The operations of a socket that has never started a connect. -/
def Operation.Fits (mode : Mode) : Operation → Prop
  | .resolve _ => mode = .client
  | .accept _ => mode = .server
  | .connect _ _ => False
  | .read => True
  | .write => True

/-- And its completions. -/
def Completion.Fits (mode : Mode) : Completion → Prop
  | .resolved _ _ => mode = .client
  | .accepted _ _ => mode = .server
  | .connected _ _ _ => False
  | .read _ => True
  | .written _ => True

theorem Operation.Fits.abort {mode : Mode} {op : Operation} (h : op.Fits mode)
    (hsocket : op.onSocket = true) : op.abort.Fits mode := by
  cases op with
  | resolve opening => cases hsocket
  | accept opening => cases hsocket
  | connect opening it => exact h
  | read => trivial
  | write => trivial

namespace Tracked

/-- A socket that has only been used honestly. A client has never been open. -/
structure Good (t : Tracked) : Prop where
  fits : t.socket.Populated (Operation.Fits t.socket.mode) (Completion.Fits t.socket.mode)
  client : t.socket.mode = .client → t.socket.descriptor = .closed
  closed : t.socket.descriptor = .closed → t.connection = none
  sound : t.Sound

theorem Good.fresh (mode : Mode) (callbacks : Callbacks) : (fresh mode callbacks).Good where
  fits := .fresh mode callbacks
  client _ := rfl
  closed _ := rfl
  sound h := by cases h

theorem sound_of_closed {t : Tracked} (h : t.socket.descriptor = .closed) : t.Sound := by
  intro hconnected
  simp [LinuxTCPSocket.isConnected, h] at hconnected

/-- A socket that is open has the connection of the latest `Open`. -/
theorem Good.connection {t : Tracked} (h : t.Good) (hopen : t.socket.descriptor ≠ .closed) :
    t.connection = some t.socket.opens :=
  h.sound (by simpa [LinuxTCPSocket.isConnected] using hopen)

/-- An event that changes neither the descriptor nor the connection nor the count. -/
theorem Good.frame {t : Tracked} (h : t.Good) {t' : Tracked}
    (hfits : t'.socket.Populated (Operation.Fits t.socket.mode) (Completion.Fits t.socket.mode))
    (hmode : t'.socket.mode = t.socket.mode)
    (hdescriptor : t'.socket.descriptor = t.socket.descriptor)
    (hopens : t'.socket.opens = t.socket.opens) (hconnection : t'.connection = t.connection) :
    t'.Good where
  fits := by rwa [hmode]
  client hclient := by
    rw [hdescriptor]
    exact h.client (hmode.symm.trans hclient)
  closed hclosed := by
    rw [hconnection]
    exact h.closed (hdescriptor.symm.trans hclosed)
  sound hconnected := by
    rw [hconnection, hopens]
    apply h.sound
    simpa [LinuxTCPSocket.isConnected, hdescriptor] using hconnected

/-- An event that leaves the socket closed. -/
theorem Good.of_closed {t' : Tracked}
    (hfits : t'.socket.Populated (Operation.Fits t'.socket.mode) (Completion.Fits t'.socket.mode))
    (hdescriptor : t'.socket.descriptor = .closed) (hconnection : t'.connection = none) :
    t'.Good where
  fits := hfits
  client _ := hdescriptor
  closed _ := hconnection
  sound := sound_of_closed hdescriptor

/-- `Open` keeps the operations those of the mode. -/
theorem openSocket_fits {s : LinuxTCPSocket}
    (h : s.Populated (Operation.Fits s.mode) (Completion.Fits s.mode))
    (destination : Option StdString) (acceptor : Acceptor) :
    (s.openSocket destination acceptor).1.mode = s.mode ∧
      (s.openSocket destination acceptor).1.Populated (Operation.Fits s.mode)
        (Completion.Fits s.mode) := by
  rcases s.openSocket_cases destination acceptor with
    ⟨⟨hclient, -⟩, hopen⟩ | ⟨-, acceptorOpen, hopen | ⟨hserver, hopen | hopen⟩⟩
  · have hclosed := h.closeSocket fun op hop hsocket => hop.abort hsocket
    rw [hopen]
    exact ⟨rfl, hclosed.start (.resolve (s.opens + 1)) hclient rfl rfl⟩
  · rw [hopen]
    exact ⟨rfl, h.outstanding, h.ready⟩
  · rw [hopen]
    exact ⟨rfl, h.start (.accept (s.opens + 1)) hserver rfl rfl⟩
  · rw [hopen]
    exact ⟨rfl, h.await (.accepted (s.opens + 1) .failed) hserver (fun _ hop => hop) rfl⟩

/-- `Open` opens no socket; on a client it closes it, if there is a destination. -/
theorem openSocket_descriptor (s : LinuxTCPSocket) (destination : Option StdString)
    (acceptor : Acceptor) :
    (s.openSocket destination acceptor).1.descriptor =
      if s.mode = .client ∧ destination ≠ none then .closed else s.descriptor := by
  rcases s.openSocket_cases destination acceptor with
    ⟨hcloses, hopen⟩ | ⟨hleaves, acceptorOpen, hopen | ⟨-, hopen | hopen⟩⟩
  · rw [hopen, if_pos hcloses]
    rfl
  · rw [hopen, if_neg hleaves]
  · rw [hopen, if_neg hleaves]
  · rw [hopen, if_neg hleaves]

/-- Every `Open` is counted. -/
theorem openSocket_opens (s : LinuxTCPSocket) (destination : Option StdString)
    (acceptor : Acceptor) : (s.openSocket destination acceptor).1.opens = s.opens + 1 := by
  rcases s.openSocket_cases destination acceptor with
    ⟨-, hopen⟩ | ⟨-, acceptorOpen, hopen | ⟨-, hopen | hopen⟩⟩
  · rw [hopen]
  · rw [hopen]
  · rw [hopen]
  · rw [hopen]

/-- An `Open` of a socket that is closed, or that it closes. -/
theorem Good.openCall {t : Tracked} (h : t.Good) {destination : Option StdString}
    {acceptor : Acceptor} (hhonest : t.Honest (.openCall destination acceptor)) :
    (t.step (.openCall destination acceptor)).Good := by
  obtain ⟨hmode, hfits⟩ := openSocket_fits h.fits destination acceptor
  have hdescriptor := openSocket_descriptor t.socket destination acceptor
  have hconnection : (t.step (.openCall destination acceptor)).connection =
      if t.socket.mode = .client ∧ destination ≠ none then none else t.connection := rfl
  refine Good.of_closed ?_ ?_ ?_
  · show (t.socket.openSocket destination acceptor).1.Populated _ _
    rw [show (t.step (.openCall destination acceptor)).socket.mode = _ from hmode]
    exact hfits
  · apply hdescriptor.trans
    split
    · rfl
    · rename_i hnot
      exact hhonest.resolve_right hnot
  · rw [hconnection]
    split
    · rfl
    · rename_i hnot
      exact h.closed (hhonest.resolve_right hnot)

/-- An operation completes: no accept succeeds but for the latest `Open`. -/
theorem Good.done {t : Tracked} (h : t.Good) {which : Nat} {code : Code}
    (hhonest : t.Honest (.done which code)) : (t.step (.done which code)).Good := by
  have hstep : t.step (.done which code) =
      { socket := t.socket.complete which code
        connection := t.connectionAfter (.done which code) } := rfl
  cases hop : t.socket.outstanding[which]? with
  | none =>
    simp only [LinuxTCPSocket.complete, connectionAfter, hop] at hstep
    rwa [hstep]
  | some op =>
    have hfits : op.Fits t.socket.mode := h.fits.outstanding op (List.mem_of_getElem? hop)
    cases op with
    | connect opening it => exact hfits.elim
    | resolve opening =>
      simp only [LinuxTCPSocket.complete, connectionAfter, hop] at hstep
      rwa [hstep]
    | read =>
      simp only [LinuxTCPSocket.complete, connectionAfter, hop] at hstep
      rw [hstep]
      exact h.frame (h.fits.finish which (.read code) trivial) rfl rfl rfl rfl
    | write =>
      simp only [LinuxTCPSocket.complete, connectionAfter, hop] at hstep
      rw [hstep]
      exact h.frame (h.fits.finish which (.written code) trivial) rfl rfl rfl rfl
    | accept opening =>
      simp only [LinuxTCPSocket.complete, connectionAfter, hop] at hstep
      rw [hstep]
      have hdone := h.fits.finish which (.accepted opening code) hfits
      by_cases hcode : code = .success
      · -- the socket is connected, by the latest `Open`
        subst hcode
        have hserver : t.socket.mode ≠ .client := by
          intro hclient
          exact absurd (hclient.symm.trans hfits) (by decide)
        refine ⟨hdone.established .success, fun hclient => absurd hclient hserver, nofun, ?_⟩
        intro _
        exact congrArg some (hhonest opening hop rfl)
      · rw [if_neg hcode, LinuxTCPSocket.established, if_neg hcode]
        exact h.frame hdone rfl rfl rfl rfl

/-- A handler runs: it learns of no endpoint, and of no end of an open connection. -/
theorem Good.deliver {t : Tracked} (h : t.Good) {which : Nat}
    (hhonest : t.Honest (.deliver which)) : (t.step (.deliver which)).Good := by
  have hstep : t.step (.deliver which) =
      { socket := (t.socket.stepEffect (.deliver which)).1
        connection := t.connectionAfter (.deliver which) } := rfl
  cases hw : t.socket.ready[which]? with
  | none =>
    rw [LinuxTCPSocket.stepEffect_deliver_none hw] at hstep
    simp only [connectionAfter, hw] at hstep
    rwa [hstep]
  | some completion =>
    rw [LinuxTCPSocket.stepEffect_deliver hw] at hstep
    simp only [connectionAfter, hw] at hstep
    simp only [Honest, hw] at hhonest
    have hfits : completion.Fits t.socket.mode := h.fits.ready completion (List.mem_of_getElem? hw)
    have htaken := h.fits.taken which
    -- a transfer changes no state, and reports the end only of a socket that is closed
    have htransfer : ∀ code : Code,
        (t.socket.descriptor ≠ .closed → code.endedByPeer = false) →
          ({ socket := t.socket.taken which
             connection := if code.endedByPeer = true then none else t.connection } :
              Tracked).Good := by
      intro code hcode
      refine h.frame htaken rfl rfl rfl ?_
      by_cases hended : code.endedByPeer = true
      · have hclosed : t.socket.descriptor = .closed := by
          by_contra hopen
          rw [hcode hopen] at hended
          cases hended
        simp [hended, h.closed hclosed]
      · simp [hended]
    cases completion with
    | connected opening code it => exact hfits.elim
    | resolved opening endpoints =>
      cases hhonest
      rw [hstep]
      exact h.frame htaken rfl rfl rfl rfl
    | accepted opening code =>
      have hhandle : ((t.socket.taken which).acceptHandler code).1 = t.socket.taken which := by
        unfold LinuxTCPSocket.acceptHandler
        split
        · split
          · rfl
          · rfl
        · rfl
      simp only [LinuxTCPSocket.handle, hhandle] at hstep
      rw [hstep]
      exact h.frame htaken rfl rfl rfl rfl
    | read code =>
      rw [hstep]
      exact htransfer code hhonest
    | written code =>
      rw [hstep]
      exact htransfer code hhonest

/-- A transfer is started. -/
theorem Good.startTransfer {t : Tracked} (h : t.Good) (op : Operation) (failure : Completion)
    (hop : op.Fits t.socket.mode) (hfailure : failure.Fits t.socket.mode) :
    ({ t with socket := t.socket.startTransfer op failure } : Tracked).Good := by
  have hfits := h.fits.startTransfer op failure hop hfailure
  obtain ⟨outstanding, ready, hframe⟩ := t.socket.startTransfer_frame op failure
  rw [hframe] at hfits ⊢
  exact h.frame hfits rfl rfl rfl rfl

/-- **An honest event leaves the socket good.** -/
theorem Good.step {t : Tracked} (h : t.Good) {event : Event} (hhonest : t.Honest event) :
    (t.step event).Good := by
  cases event with
  | openCall destination acceptor => exact h.openCall hhonest
  | done which code => exact h.done hhonest
  | deliver which => exact h.deliver hhonest
  | closeCall =>
    exact .of_closed (h.fits.closeSocket fun op hop hsocket => hop.abort hsocket) rfl rfl
  | readCall => exact h.startTransfer .read (.read .failed) trivial trivial
  | writeCall =>
    have hstep : t.step .writeCall = { t with socket := t.socket.writeAsync } := rfl
    rw [hstep, LinuxTCPSocket.writeAsync]
    split
    · exact h.startTransfer .write (.written .failed) trivial trivial
    · exact h
  | readSync available code =>
    have hstep : t.step (.readSync available code) =
        { t with connection := t.connectionAfter (.readSync available code) } := rfl
    rw [hstep, connectionAfter]
    split
    · rename_i hends
      obtain ⟨hopen, havailable, hended⟩ := hends
      rw [hhonest hopen havailable] at hended
      cases hended
    · exact h
  | writeSync code =>
    have hstep : t.step (.writeSync code) =
        { t with connection := t.connectionAfter (.writeSync code) } := rfl
    rw [hstep, connectionAfter]
    split
    · rename_i hends
      obtain ⟨hopen, hended⟩ := hends
      rw [hhonest hopen] at hended
      cases hended
    · exact h
  | register callbacks =>
    have hsame : t.socket.Populated (Operation.Fits t.socket.mode)
        (Completion.Fits t.socket.mode) := h.fits
    have hframe : (t.step (.register callbacks)).Good :=
      h.frame ⟨hsame.outstanding, hsame.ready⟩ rfl rfl rfl rfl
    exact hframe
  | resolveDone which endpoints =>
    have hstep : t.step (.resolveDone which endpoints) =
        { t with socket := (t.socket.stepEffect (.resolveDone which endpoints)).1 } := rfl
    rcases LinuxTCPSocket.stepEffect_resolveDone t.socket which endpoints with
      hsame | ⟨opening, hop, hdone⟩
    · rwa [hstep, hsame]
    · have hfits : (Operation.resolve opening).Fits t.socket.mode :=
        h.fits.outstanding _ (List.mem_of_getElem? hop)
      rw [hstep, hdone]
      exact h.frame (h.fits.finish which (.resolved opening endpoints) hfits) rfl rfl rfl rfl
  | peerReset =>
    have hstep : t.step .peerReset =
        { t with
          socket := { t.socket with
            descriptor :=
              if t.socket.descriptor = .connected then .opened else t.socket.descriptor } } := rfl
    by_cases hconnected : t.socket.descriptor = .connected
    · have hopen : t.socket.descriptor ≠ .closed := by
        rw [hconnected]
        decide
      rw [if_pos hconnected] at hstep
      rw [hstep]
      exact ⟨⟨h.fits.outstanding, h.fits.ready⟩, fun hclient => absurd (h.client hclient) hopen,
        nofun, fun _ => h.connection hopen⟩
    · rw [if_neg hconnected] at hstep
      rwa [hstep]

/-! ## Every other event misleads -/

/-- An open socket whose connection is not that of the latest `Open`. -/
theorem not_sound {t : Tracked} (hopen : t.socket.descriptor ≠ .closed)
    (hconnection : t.connection ≠ some t.socket.opens) : ¬ t.Sound := by
  intro hsound
  exact hconnection (hsound (by simpa [LinuxTCPSocket.isConnected] using hopen))

/-- A handler that is not honest leaves it wrong. -/
theorem Good.not_sound_deliver {t : Tracked} (h : t.Good) {which : Nat}
    (hnot : ¬ t.Honest (.deliver which)) : ¬ (t.step (.deliver which)).Sound := by
  have hstep : t.step (.deliver which) =
      { socket := (t.socket.stepEffect (.deliver which)).1
        connection := t.connectionAfter (.deliver which) } := rfl
  cases hw : t.socket.ready[which]? with
  | none =>
    simp only [Honest, hw] at hnot
    exact absurd trivial hnot
  | some completion =>
    have hfits : completion.Fits t.socket.mode :=
      h.fits.ready completion (List.mem_of_getElem? hw)
    rw [LinuxTCPSocket.stepEffect_deliver hw] at hstep
    simp only [connectionAfter, hw] at hstep
    simp only [Honest, hw] at hnot
    have hreport : ∀ code : Code,
        ¬ (t.socket.descriptor ≠ .closed → code.endedByPeer = false) →
          ¬ ({ socket := t.socket.taken which
               connection := if code.endedByPeer = true then none else t.connection } :
              Tracked).Sound := by
      intro code hends
      obtain ⟨hopen, hended⟩ := Classical.not_imp.mp hends
      rw [if_pos (by simpa using hended)]
      exact not_sound hopen nofun
    cases completion with
    | connected opening code it => exact hfits.elim
    | accepted opening code => exact absurd trivial hnot
    | resolved opening endpoints =>
      -- the connect opens the socket of a client, which has no connection
      obtain ⟨endpoint, hendpoint⟩ := Option.ne_none_iff_exists'.mp hnot
      have hclosed : t.socket.descriptor = .closed := h.client hfits
      subst hendpoint
      rw [hstep]
      refine not_sound ?_ ?_
      · simp [LinuxTCPSocket.handle, LinuxTCPSocket.resolverHandler,
          LinuxTCPSocket.asyncConnect, LinuxTCPSocket.taken, hclosed]
      · show t.connection ≠ _
        rw [h.closed hclosed]
        simp
    | read code =>
      rw [hstep]
      exact hreport code hnot
    | written code =>
      rw [hstep]
      exact hreport code hnot

/-- **An event that is not honest leaves `IsConnected()` wrong.** -/
theorem Good.not_sound_step {t : Tracked} (h : t.Good) {event : Event} (hnot : ¬ t.Honest event) :
    ¬ (t.step event).Sound := by
  match event with
  | .closeCall => exact absurd trivial hnot
  | .readCall => exact absurd trivial hnot
  | .writeCall => exact absurd trivial hnot
  | .register callbacks => exact absurd trivial hnot
  | .resolveDone which endpoints => exact absurd trivial hnot
  | .peerReset => exact absurd trivial hnot
  | .openCall destination acceptor =>
    obtain ⟨hopen, hclient⟩ := not_or.mp hnot
    refine not_sound ?_ ?_
    · apply ne_of_eq_of_ne (openSocket_descriptor t.socket destination acceptor)
      rwa [if_neg hclient]
    · show t.connectionAfter (.openCall destination acceptor) ≠
        some (t.socket.openSocket destination acceptor).1.opens
      rw [openSocket_opens, connectionAfter, if_neg hclient, h.connection hopen]
      simp
  | .readSync available code =>
    obtain ⟨hopen, hrest⟩ := Classical.not_imp.mp hnot
    obtain ⟨havailable, hended⟩ := Classical.not_imp.mp hrest
    refine not_sound hopen ?_
    show t.connectionAfter (.readSync available code) ≠ some t.socket.opens
    rw [connectionAfter, if_pos ⟨hopen, havailable, by simpa using hended⟩]
    simp
  | .writeSync code =>
    obtain ⟨hopen, hended⟩ := Classical.not_imp.mp hnot
    refine not_sound hopen ?_
    show t.connectionAfter (.writeSync code) ≠ some t.socket.opens
    rw [connectionAfter, if_pos ⟨hopen, by simpa using hended⟩]
    simp
  | .done which code =>
    obtain ⟨opening, hrest⟩ := not_forall.mp hnot
    obtain ⟨hop, hrest⟩ := Classical.not_imp.mp hrest
    obtain ⟨rfl, hne⟩ := Classical.not_imp.mp hrest
    have hstep : t.step (.done which .success) =
        { socket := t.socket.complete which .success
          connection := t.connectionAfter (.done which .success) } := rfl
    simp only [LinuxTCPSocket.complete, connectionAfter, hop, if_true] at hstep
    rw [hstep]
    refine not_sound nofun ?_
    intro hopening
    exact hne (Option.some.inj hopening)
  | .deliver which => exact h.not_sound_deliver hnot

/-- **When `IsConnected()` is sound** in every state of a run: when every event of it is honest.
The run is any order of user calls and of completions and handlers, in either mode. What honest
events leave is `Good`, and every other event leaves `IsConnected()` true of a connection that is
not there, at once; so the condition is exact. That the peer has gone is no fact of this model
before a read or a write reports it. -/
theorem isConnected_sound_iff (mode : Mode) (callbacks : Callbacks) (events : List Event) :
    Run.Always step Sound (fresh mode callbacks) events ↔
      Run.Along step Honest (fresh mode callbacks) events := by
  refine Run.always_iff_along (I := Good) (Good.fresh mode callbacks) ?_ ?_ ?_
  · intro t event ht hhonest
    exact ht.step hhonest
  · intro t ht
    exact ht.sound
  · intro t event ht hnot
    exact ht.not_sound_step hnot

/-- A client socket that has only begun to connect says that it is connected. -/
theorem connecting_reads_connected :
    ¬ ∀ (mode : Mode) (callbacks : Callbacks) (events : List Event),
      Run.Always step Sound (fresh mode callbacks) events := by
  intro h
  have hrun := h .client ⟨true, true, true, true⟩
    [.openCall (some "meter".toList) .notOpened,
      .resolveDone 0 (some (⟨"::1".toList, 4059⟩, [])), .deliver 0]
  have hsound := hrun.last (by decide)
  revert hsound
  decide

end Tracked

end AccessPoint.Tcp
