import AccessPoint.Lib.Run
import AccessPoint.Socket.Tcp

/-!
# Clients that go away

An `APsim` makes a client socket in `m_TCPSockets`, gives it to a transport, which registers its
callbacks, and opens it. `~APsim` polls the event loop, closes the socket and posts its removal;
then its engine deletes the transport. The socket keeps the callbacks until `RemoveSocket` runs.

Here any number of clients are made and destroyed on one loop. The poll in the destructor is loop
steps of the run, so a completion that waits when the socket is closed is one that came after it.
Removing a socket destroys its acceptor, its connection and its resolver, which aborts what is
outstanding. A handler that runs after that has no socket, and only its code is kept.

`no_event_reaches_dead_client_iff` says when nothing reaches a client that is gone, whatever the
loop does next: when every client is destroyed at a moment when its socket has nothing left to do
but to learn that its last endpoint failed.
-/

namespace AccessPoint.Release

open Tcp
open Tcp.LinuxTCPSocket (acceptHandler complete effect stepEffect stepEffect_deliver
  stepEffect_deliver_none stepEffect_resolveDone step_callbacks)
open AccessPoint.Socket (Endpoint Descriptor)

/-- The effect is a call of a callback. -/
def isCallback : Effect → Bool
  | .threw => false
  | _ => true

/-- The handler of the completion runs with a success code. -/
def succeeded : Completion → Bool
  | .resolved _ endpoints => endpoints.isSome
  | .connected _ code _ | .accepted _ code | .read code | .written code => code = .success

/-- The asio objects of the socket are destroyed. -/
def destroyed (s : LinuxTCPSocket) : LinuxTCPSocket :=
  { s with
    descriptor := .closed
    acceptorOpen := false
    outstanding := []
    ready := s.ready ++ s.outstanding.map Operation.abort }

/-- An `APsim` with its socket. `late` are the callbacks that handlers of the socket called after
the transport was deleted, `stale` the completions with success that ran after the removal. -/
structure APsim where
  socket : LinuxTCPSocket
  transport : Bool
  posted : Bool
  listed : Bool
  late : List Effect
  stale : List Completion
  deriving DecidableEq, Repr

/-- A step of one client: an event of its socket, its destruction, or the removal of its socket. -/
inductive ClientStep where
  | socket (event : Tcp.Event)
  | destroy
  | removeSocket
  deriving DecidableEq, Repr

/-- The step is one of the event loop. -/
def ClientStep.isLoop : ClientStep → Bool
  | .socket event => !event.isCall
  | .destroy => false
  | .removeSocket => true

namespace APsim

/-- `APsim::APsim`. -/
def create (meterURL : StdString) : APsim :=
  { socket := (LinuxTCPSocket.fresh .client ⟨true, true, true, true⟩).step
      (.openCall (some meterURL) .notOpened)
    transport := true
    posted := false
    listed := true
    late := []
    stale := [] }

/-- A call on the socket, which only a client that is there makes; it never registers other
callbacks. -/
def call (c : APsim) : Tcp.Event → APsim
  | .register _ => c
  | event => if c.transport then { c with socket := c.socket.step event } else c

/-- A loop step of a socket in `m_TCPSockets`. -/
def serve (c : APsim) (event : Tcp.Event) : APsim :=
  { c with
    socket := c.socket.step event
    late :=
      if c.transport then c.late
      else c.late ++ (c.socket.effect event).toList.filter isCallback }

/-- A loop step when the socket is gone. -/
def serveRemoved (c : APsim) : Tcp.Event → APsim
  | .deliver which =>
    { c with
      socket := c.socket.taken which
      stale := c.stale ++ (c.socket.ready[which]?).toList.filter succeeded }
  | _ => c

/-- `APsim::~APsim` from `ReleaseSocket` on, with `LinuxClientEngine::~LinuxClientEngine`. -/
def destroy (c : APsim) : APsim :=
  if c.transport then { c with socket := c.socket.close, transport := false, posted := true } else c

/-- `LinuxIP::RemoveSocket`, when it is queued. -/
def removeSocket (c : APsim) : APsim :=
  if c.posted then { c with socket := destroyed c.socket, posted := false, listed := false } else c

/-- One step. -/
def step (c : APsim) : ClientStep → APsim
  | .socket event =>
    if event.isCall then c.call event
    else if c.listed then c.serve event
    else c.serveRemoved event
  | .destroy => c.destroy
  | .removeSocket => c.removeSocket

/-- Nothing has reached the client after its end. -/
def Sound (c : APsim) : Prop :=
  c.late = [] ∧ c.stale = []

end APsim

/-- A client is made, or takes a step. -/
inductive LoopEvent where
  | create (meterURL : StdString)
  | client (which : Nat) (step : ClientStep)
  deriving DecidableEq, Repr

/-- The event is one of the event loop. -/
def LoopEvent.isLoop : LoopEvent → Bool
  | .create _ => false
  | .client _ step => step.isLoop

/-- One event. -/
def step (clients : List APsim) : LoopEvent → List APsim
  | .create meterURL => clients ++ [.create meterURL]
  | .client which step => clients.modify which (·.step step)

/-- No event reaches a dead client, whatever the loop does next. -/
def Safe (clients : List APsim) : Prop :=
  ∀ events : List LoopEvent, (∀ event ∈ events, event.isLoop = true) →
    ∀ c ∈ events.foldl step clients, c.Sound

/-- A completion whose handler does nothing on a closed socket. -/
def ignored : Completion → Bool
  | .resolved _ endpoints => endpoints.isNone
  | .connected _ code it => code ≠ .success ∧ it = []
  | .accepted _ code => code ≠ .success
  | .read _ | .written _ => false

/-- An operation that closing the socket makes such a completion: a connect to the last
endpoint. -/
def lastConnect : Operation → Bool
  | .connect _ it => it = []
  | _ => false

/-- Nothing but such operations is outstanding, and nothing but such completions wait. -/
def Drained (s : LinuxTCPSocket) : Prop :=
  s.Populated (lastConnect · = true) (ignored · = true)

/-- A client is destroyed only when its socket is drained. -/
def Quiet (clients : List APsim) : LoopEvent → Prop
  | .client which .destroy => ∀ c, clients[which]? = some c → c.transport = true → Drained c.socket
  | _ => True

/-! ## A drained socket stays silent -/

/-- A closed socket with nothing outstanding, and nothing that waits but what its handlers
ignore. -/
structure Spent (s : LinuxTCPSocket) : Prop where
  closed : s.descriptor = .closed
  outstanding : s.outstanding = []
  ready : ∀ completion ∈ s.ready, ignored completion = true

variable {s : LinuxTCPSocket}

/-- Closing a drained socket. -/
theorem Drained.spent (h : Drained s) : Spent s.closeSocket where
  closed := rfl
  outstanding := by
    apply List.filter_eq_nil_iff.mpr
    intro op hop
    have hlast := h.outstanding op hop
    cases op with
    | connect opening it => exact Bool.false_ne_true
    | resolve opening => cases hlast
    | accept opening => cases hlast
    | read => cases hlast
    | write => cases hlast
  ready := by
    have hclosed : s.closeSocket.Populated (lastConnect · = true) (ignored · = true) := by
      apply h.closeSocket
      intro op hlast _
      cases op with
      | connect opening it =>
        have hit : it = [] := of_decide_eq_true hlast
        rw [hit]
        rfl
      | resolve opening => cases hlast
      | accept opening => cases hlast
      | read => cases hlast
      | write => cases hlast
    exact hclosed.ready

theorem Spent.taken (h : Spent s) (which : Nat) : Spent (s.taken which) :=
  ⟨h.closed, h.outstanding,
    fun completion hmem => h.ready completion (List.mem_of_mem_eraseIdx hmem)⟩

theorem Spent.destroyed (h : Spent s) : Spent (destroyed s) where
  closed := rfl
  outstanding := rfl
  ready := by
    unfold Release.destroyed
    rw [h.outstanding]
    simpa using h.ready

/-- The handler of a completion that is ignored. -/
theorem Spent.handle (h : Spent s) {completion : Completion}
    (hignored : ignored completion = true) :
    (s.handle completion).1 = s ∧ (s.handle completion).2.toList.filter isCallback = [] := by
  cases completion with
  | resolved opening endpoints =>
    cases endpoints with
    | none => exact ⟨rfl, rfl⟩
    | some endpoints => cases hignored
  | connected opening code it =>
    obtain ⟨hcode, rfl⟩ : code ≠ .success ∧ it = [] := of_decide_eq_true hignored
    have hstep : s.handle (.connected opening code []) = (s, none) :=
      if_neg fun hsuccess => hcode hsuccess.1
    rw [hstep]
    exact ⟨rfl, rfl⟩
  | accepted opening code =>
    have hclosed : s.descriptor ≠ .connected := by
      rw [h.closed]
      nofun
    show (s.acceptHandler code).1 = s ∧ (s.acceptHandler code).2.toList.filter isCallback = []
    unfold acceptHandler
    rw [if_neg hclosed]
    split <;> exact ⟨rfl, rfl⟩
  | read code => cases hignored
  | written code => cases hignored

/-- A step of the event loop. -/
theorem Spent.step (h : Spent s) {event : Tcp.Event} (hloop : event.isCall = false) :
    Spent (s.step event) ∧ (s.effect event).toList.filter isCallback = [] := by
  cases event with
  | openCall destination acceptor => cases hloop
  | closeCall => cases hloop
  | readCall => cases hloop
  | writeCall => cases hloop
  | readSync available code => cases hloop
  | writeSync code => cases hloop
  | register callbacks => cases hloop
  | resolveDone which endpoints =>
    rcases stepEffect_resolveDone s which endpoints with hstep | ⟨opening, hop, -⟩
    · rw [LinuxTCPSocket.step, effect, hstep]
      exact ⟨h, rfl⟩
    · rw [h.outstanding] at hop
      cases hop
  | done which code =>
    have hstep : s.complete which code = s := by
      simp [complete, h.outstanding]
    show Spent (s.complete which code) ∧ _
    rw [hstep]
    exact ⟨h, rfl⟩
  | peerReset =>
    refine ⟨⟨?_, h.outstanding, h.ready⟩, rfl⟩
    show (if s.descriptor = .connected then Descriptor.opened else s.descriptor) = .closed
    rw [h.closed]
    rfl
  | deliver which =>
    cases hwhich : s.ready[which]? with
    | none =>
      rw [LinuxTCPSocket.step, effect, stepEffect_deliver_none hwhich]
      exact ⟨h, rfl⟩
    | some completion =>
      have hignored := h.ready completion (List.mem_of_getElem? hwhich)
      obtain ⟨hsame, hsilent⟩ := (h.taken which).handle hignored
      rw [LinuxTCPSocket.step, effect, stepEffect_deliver hwhich, hsame]
      exact ⟨h.taken which, hsilent⟩

/-- What is ignored has no success code. -/
theorem succeeded_of_ignored {completion : Completion} (h : ignored completion = true) :
    succeeded completion = false := by
  cases completion with
  | resolved opening endpoints =>
    cases endpoints with
    | none => rfl
    | some endpoints => cases h
  | connected opening code it =>
    exact decide_eq_false (of_decide_eq_true h : code ≠ .success ∧ it = []).1
  | accepted opening code => exact decide_eq_false (of_decide_eq_true h)
  | read code => cases h
  | written code => cases h

namespace APsim

/-- What holds of every client while all are destroyed drained. -/
structure Good (c : APsim) : Prop where
  sound : c.Sound
  callbacks : c.socket.callbacks = ⟨true, true, true, true⟩
  alive : c.transport = true → c.posted = false ∧ c.listed = true
  dead : c.transport = false → Spent c.socket

theorem Good.create (meterURL : StdString) : (create meterURL).Good where
  sound := ⟨rfl, rfl⟩
  callbacks := step_callbacks _ nofun
  alive _ := ⟨rfl, rfl⟩
  dead := nofun

variable {c : APsim}

/-- A call of the transport or of the client. -/
theorem Good.call (h : c.Good) (event : Tcp.Event) : (c.call event).Good := by
  have hcall : (∀ callbacks, event ≠ .register callbacks) →
      (if c.transport then { c with socket := c.socket.step event } else c).Good := by
    intro hevent
    cases htransport : c.transport with
    | true =>
      rw [if_pos rfl]
      exact ⟨h.sound, (step_callbacks _ hevent).trans h.callbacks, fun _ => h.alive htransport,
        nofun⟩
    | false =>
      rw [if_neg Bool.false_ne_true]
      exact h
  cases event with
  | register callbacks => exact h
  | _ => exact hcall nofun

/-- A loop step of a socket that is still listed. -/
theorem Good.serve (h : c.Good) {event : Tcp.Event} (hloop : event.isCall = false) :
    (c.serve event).Good := by
  have hcallbacks : (c.socket.step event).callbacks = ⟨true, true, true, true⟩ := by
    refine (step_callbacks c.socket ?_).trans h.callbacks
    rintro callbacks rfl
    cases hloop
  cases htransport : c.transport with
  | true =>
    refine ⟨⟨?_, h.sound.2⟩, hcallbacks, h.alive,
      fun hdead => absurd (htransport.symm.trans hdead) nofun⟩
    exact (if_pos htransport).trans h.sound.1
  | false =>
    obtain ⟨hspent, hsilent⟩ := (h.dead htransport).step hloop
    refine ⟨⟨?_, h.sound.2⟩, hcallbacks, h.alive, fun _ => hspent⟩
    have hlate : (c.serve event).late =
        c.late ++ (c.socket.effect event).toList.filter isCallback :=
      if_neg (by rw [htransport]; exact Bool.false_ne_true)
    rw [hlate, hsilent, h.sound.1]
    rfl

/-- A loop step of one that is removed. -/
theorem Good.serveRemoved (h : c.Good) (event : Tcp.Event) (hdead : c.transport = false) :
    (c.serveRemoved event).Good := by
  cases event with
  | deliver which =>
    refine ⟨⟨h.sound.1, ?_⟩, h.callbacks, h.alive, fun _ => (h.dead hdead).taken which⟩
    show c.stale ++ (c.socket.ready[which]?).toList.filter succeeded = []
    rw [h.sound.2]
    cases hwhich : c.socket.ready[which]? with
    | none => rfl
    | some completion =>
      have hignored := (h.dead hdead).ready completion (List.mem_of_getElem? hwhich)
      simp [succeeded_of_ignored hignored]
  | _ => exact h

theorem Good.step (h : c.Good) {clientStep : ClientStep}
    (hquiet : clientStep = .destroy → c.transport = true → Drained c.socket) :
    (c.step clientStep).Good := by
  cases clientStep with
  | socket event =>
    show (if event.isCall then c.call event else if c.listed then c.serve event
      else c.serveRemoved event).Good
    cases hcall : event.isCall with
    | true => exact h.call event
    | false =>
      cases hlisted : c.listed with
      | true => exact h.serve hcall
      | false =>
        apply h.serveRemoved event
        by_contra halive
        rw [Bool.not_eq_false] at halive
        exact absurd (hlisted.symm.trans (h.alive halive).2) nofun
  | destroy =>
    show c.destroy.Good
    unfold destroy
    split
    · rename_i halive
      exact ⟨h.sound, h.callbacks, nofun, fun _ => (hquiet rfl halive).spent⟩
    · exact h
  | removeSocket =>
    show c.removeSocket.Good
    unfold removeSocket
    split
    · rename_i hposted
      have hdead : c.transport = false := by
        by_contra halive
        rw [Bool.not_eq_false] at halive
        exact absurd (hposted.symm.trans (h.alive halive).1) nofun
      refine ⟨h.sound, h.callbacks, fun halive => absurd (hdead.symm.trans halive) nofun, ?_⟩
      intro _
      exact (h.dead hdead).destroyed
    · exact h

/-! ## Any other socket can be heard from -/

/-- The loop can go on so that something reaches the client. -/
def Fatal (c : APsim) : Prop :=
  ∃ steps : List ClientStep, (∀ clientStep ∈ steps, clientStep.isLoop = true) ∧
    ¬ (steps.foldl APsim.step c).Sound

/-- A client that is destroyed and whose socket is not yet removed. -/
structure Closing (c : APsim) : Prop where
  transport : c.transport = false
  posted : c.posted = true
  listed : c.listed = true
  callbacks : c.socket.callbacks = ⟨true, true, true, true⟩

theorem Fatal.of_step {clientStep : ClientStep} (hloop : clientStep.isLoop = true)
    (h : (c.step clientStep).Fatal) : c.Fatal := by
  obtain ⟨steps, hsteps, hnot⟩ := h
  exact ⟨clientStep :: steps, List.forall_mem_cons.mpr ⟨hloop, hsteps⟩, hnot⟩

/-- A loop step of such a client is one of its socket. -/
theorem Closing.step_eq (h : c.Closing) {event : Tcp.Event} (hloop : event.isCall = false) :
    c.step (.socket event) =
      { c with
        socket := c.socket.step event
        late := c.late ++ (c.socket.effect event).toList.filter isCallback } := by
  simp [APsim.step, serve, hloop, h.listed, h.transport]

theorem Closing.step (h : c.Closing) {event : Tcp.Event} (hloop : event.isCall = false) :
    (c.step (.socket event)).Closing := by
  rw [h.step_eq hloop]
  refine ⟨h.transport, h.posted, h.listed, (step_callbacks c.socket ?_).trans h.callbacks⟩
  rintro callbacks rfl
  cases hloop

/-- A completion with success can wait until the socket is removed. -/
theorem Closing.fatal_of_succeeded (h : c.Closing) {completion : Completion}
    (hmem : completion ∈ c.socket.ready) (hsuccess : succeeded completion = true) : c.Fatal := by
  obtain ⟨which, hwhich⟩ := List.mem_iff_getElem?.mp hmem
  refine ⟨[.removeSocket, .socket (.deliver which)],
    by simp [ClientStep.isLoop, Tcp.Event.isCall], ?_⟩
  intro hsound
  have hready : (destroyed c.socket).ready[which]? = some completion := by
    obtain ⟨hlt, -⟩ := List.getElem?_eq_some_iff.mp hwhich
    rw [← hwhich]
    exact List.getElem?_append_left hlt
  have hremoved : c.step .removeSocket =
      { c with socket := destroyed c.socket, posted := false, listed := false } := if_pos h.posted
  have hstale : ((c.step .removeSocket).step (.socket (.deliver which))).stale =
      c.stale ++ [completion] := by
    rw [hremoved]
    simp [APsim.step, serveRemoved, Tcp.Event.isCall, hready, hsuccess]
  have hempty : c.stale ++ [completion] = [] := hstale.symm.trans hsound.2
  exact List.cons_ne_nil _ _ (List.append_eq_nil_iff.mp hempty).2

/-- A handler that calls a callback reaches the client. -/
theorem Closing.fatal_of_callback (h : c.Closing) {completion : Completion}
    (hmem : completion ∈ c.socket.ready)
    (hcalls : ∀ s : LinuxTCPSocket, s.callbacks = ⟨true, true, true, true⟩ →
      ∃ called, (s.handle completion).2 = some called ∧ isCallback called = true) : c.Fatal := by
  obtain ⟨which, hwhich⟩ := List.mem_iff_getElem?.mp hmem
  obtain ⟨called, hcalled, hcallback⟩ := hcalls (c.socket.taken which) h.callbacks
  refine ⟨[.socket (.deliver which)], by simp [ClientStep.isLoop, Tcp.Event.isCall], ?_⟩
  intro hsound
  have hlate : (c.step (.socket (.deliver which))).late = c.late ++ [called] := by
    rw [h.step_eq rfl, effect, stepEffect_deliver hwhich, hcalled]
    simp [hcallback]
  have hempty : c.late ++ [called] = [] := hlate.symm.trans hsound.1
  exact List.cons_ne_nil _ _ (List.append_eq_nil_iff.mp hempty).2

/-- Whatever is outstanding can still succeed. -/
theorem Closing.fatal_of_outstanding (h : c.Closing) {op : Operation}
    (hmem : op ∈ c.socket.outstanding) : c.Fatal := by
  obtain ⟨which, hwhich⟩ := List.mem_iff_getElem?.mp hmem
  have hfatal : ∀ (event : Tcp.Event) (completion : Completion), event.isCall = false →
      succeeded completion = true → (c.socket.step event).ready = c.socket.ready ++ [completion] →
        c.Fatal := by
    intro event completion hloop hsuccess hready
    have hnext : (c.step (.socket event)).Fatal := by
      refine (h.step hloop).fatal_of_succeeded ?_ hsuccess
      rw [h.step_eq hloop, hready]
      exact List.mem_append_right _ (List.mem_singleton.mpr rfl)
    exact hnext.of_step (by simp [ClientStep.isLoop, hloop])
  have hdone : ∀ s : LinuxTCPSocket, (s.established .success).ready = s.ready := by
    intro s
    rfl
  cases op with
  | resolve opening =>
    refine hfatal (.resolveDone which (some (⟨[], 0⟩, [])))
      (.resolved opening (some (⟨[], 0⟩, []))) rfl rfl ?_
    simp [LinuxTCPSocket.step, stepEffect, hwhich, LinuxTCPSocket.finish]
  | connect opening it =>
    apply hfatal (.done which .success) (.connected opening .success it) rfl rfl
    simp [LinuxTCPSocket.step, stepEffect, complete, hwhich, hdone, LinuxTCPSocket.finish]
  | accept opening =>
    apply hfatal (.done which .success) (.accepted opening .success) rfl rfl
    simp [LinuxTCPSocket.step, stepEffect, complete, hwhich, hdone, LinuxTCPSocket.finish]
  | read =>
    apply hfatal (.done which .success) (.read .success) rfl rfl
    simp [LinuxTCPSocket.step, stepEffect, complete, hwhich, LinuxTCPSocket.finish]
  | write =>
    apply hfatal (.done which .success) (.written .success) rfl rfl
    simp [LinuxTCPSocket.step, stepEffect, complete, hwhich, LinuxTCPSocket.finish]

/-- Whatever waits and is not ignored reaches the client, or is about to succeed. -/
theorem Closing.fatal_of_ready (h : c.Closing) {completion : Completion}
    (hmem : completion ∈ c.socket.ready) (hheard : ignored completion = false) : c.Fatal := by
  cases completion with
  | resolved opening endpoints =>
    cases endpoints with
    | none => cases hheard
    | some endpoints => exact h.fatal_of_succeeded hmem rfl
  | connected opening code it =>
    by_cases hcode : code = .success
    · exact h.fatal_of_succeeded hmem (decide_eq_true hcode)
    · cases it with
      | nil => exact absurd ⟨hcode, rfl⟩ (of_decide_eq_false hheard)
      | cons endpoint it =>
        -- the handler goes on to the next endpoint
        obtain ⟨which, hwhich⟩ := List.mem_iff_getElem?.mp hmem
        have hstep : c.socket.step (.deliver which) =
            (c.socket.taken which).closeSocket.asyncConnect opening it := by
          rw [LinuxTCPSocket.step, stepEffect_deliver hwhich]
          exact congrArg Prod.fst (if_neg fun hsuccess => hcode hsuccess.1)
        have hout :
            .connect opening it ∈ (c.step (.socket (.deliver which))).socket.outstanding := by
          rw [h.step_eq rfl, hstep]
          exact List.mem_append_right _ (List.mem_singleton.mpr rfl)
        exact ((h.step rfl).fatal_of_outstanding hout).of_step rfl
  | accepted opening code =>
    have hcode : code = .success := by simpa [ignored] using hheard
    exact h.fatal_of_succeeded hmem (decide_eq_true hcode)
  | read code =>
    apply h.fatal_of_callback hmem
    intro s hcallbacks
    by_cases hended : code.disconnects = true
    · exact ⟨.closeCallback,
        by simp [LinuxTCPSocket.handle, LinuxTCPSocket.readHandler, hended, hcallbacks], rfl⟩
    · exact ⟨.readCallback (code = .success),
        by simp [LinuxTCPSocket.handle, LinuxTCPSocket.readHandler, hended, hcallbacks], rfl⟩
  | written code =>
    apply h.fatal_of_callback hmem
    intro s hcallbacks
    by_cases hended : code.disconnects = true
    · exact ⟨.closeCallback,
        by simp [LinuxTCPSocket.handle, LinuxTCPSocket.writeHandler, hended, hcallbacks], rfl⟩
    · exact ⟨.writeCallback (code = .success ∧ s.descriptor ≠ .closed),
        by simp [LinuxTCPSocket.handle, LinuxTCPSocket.writeHandler, hended, hcallbacks], rfl⟩

/-- **Destroying a client whose socket is not drained.** -/
theorem Good.fatal_destroy (h : c.Good) (halive : c.transport = true) (hnot : ¬ Drained c.socket) :
    (c.step .destroy).Fatal := by
  have hdestroy : c.step .destroy =
      { c with socket := c.socket.close, transport := false, posted := true } := if_pos halive
  have hclosing : (c.step .destroy).Closing := by
    rw [hdestroy]
    exact ⟨rfl, rfl, (h.alive halive).2, h.callbacks⟩
  by_contra hsafe
  have hready : ∀ completion ∈ c.socket.closeSocket.ready, ignored completion = true := by
    intro completion hmem
    by_contra hheard
    refine hsafe (hclosing.fatal_of_ready ?_ (eq_false_of_ne_true hheard))
    rw [hdestroy]
    exact hmem
  apply hnot
  -- an operation of the connection waits as its abort, any other is still outstanding
  constructor
  · intro op hop
    cases hsocket : op.onSocket with
    | true =>
      have haborted : op.abort ∈ c.socket.closeSocket.ready :=
        List.mem_append_right _ (List.mem_map_of_mem (List.mem_filter.mpr ⟨hop, hsocket⟩))
      have hignored := hready op.abort haborted
      cases op with
      | connect opening it =>
        exact decide_eq_true (of_decide_eq_true hignored : _ ∧ it = []).2
      | resolve opening => cases hsocket
      | accept opening => cases hsocket
      | read => cases hignored
      | write => cases hignored
    | false =>
      have hkept : op ∈ c.socket.closeSocket.outstanding :=
        List.mem_filter.mpr ⟨hop, by rw [hsocket]; rfl⟩
      have hout : op ∈ (c.step .destroy).socket.outstanding := by rwa [hdestroy]
      exact absurd (hclosing.fatal_of_outstanding hout) hsafe
  · intro completion hmem
    exact hready completion (List.mem_append_left _ hmem)

end APsim

/-! ## Runs of the event loop -/

/-- Every client is good while clients are destroyed drained. -/
def Good (clients : List APsim) : Prop :=
  ∀ c ∈ clients, c.Good

theorem Good.step {clients : List APsim} (h : Good clients) {event : LoopEvent}
    (hquiet : Quiet clients event) : Good (step clients event) := by
  cases event with
  | create meterURL =>
    intro c hc
    rcases List.mem_append.mp hc with hold | hnew
    · exact h c hold
    · rw [List.mem_singleton.mp hnew]
      exact .create meterURL
  | client which clientStep =>
    intro c hc
    obtain ⟨i, hi⟩ := List.mem_iff_getElem?.mp hc
    have hmodify : Release.step clients (.client which clientStep) =
      clients.modify which (·.step clientStep) := rfl
    rw [hmodify, List.getElem?_modify] at hi
    obtain ⟨c', hc', rfl⟩ := Option.map_eq_some_iff.mp hi
    have hgood := h c' (List.mem_of_getElem? hc')
    split
    · rename_i heq
      subst heq
      apply hgood.step
      rintro rfl halive
      exact hquiet c' hc' halive
    · exact hgood

/-- A loop step destroys nothing. -/
theorem quiet_of_isLoop {event : LoopEvent} (clients : List APsim) (h : event.isLoop = true) :
    Quiet clients event := by
  cases event with
  | create meterURL => trivial
  | client which clientStep =>
    cases clientStep with
    | socket event => trivial
    | destroy => cases h
    | removeSocket => trivial

theorem Good.safe {clients : List APsim} (h : Good clients) : Safe clients := by
  intro events hloop c hc
  have halong : Run.Along Release.step (fun _ event => event.isLoop = true) clients events :=
    Run.along_forall.mpr hloop
  have hgood := halong.invariant h fun clients event hs hevent =>
    hs.step (quiet_of_isLoop clients hevent)
  exact (hgood c hc).sound

/-- The steps of one client in a run of all. -/
theorem foldl_client {clients : List APsim} {which : Nat} {c : APsim} (steps : List ClientStep)
    (h : clients[which]? = some c) :
    ((steps.map (.client which)).foldl step clients)[which]? = some (steps.foldl APsim.step c) := by
  induction steps generalizing clients c with
  | nil => exact h
  | cons clientStep steps ih =>
    apply ih
    show (clients.modify which (·.step clientStep))[which]? = some (c.step clientStep)
    rw [List.getElem?_modify_eq, h]
    rfl

/-- **When no event reaches a dead client**, in every state of a run and whatever the loop does
next: when clients are destroyed only with their sockets drained. Any number of clients live and die
on one loop, in any order. Drained is exact: anything else that is outstanding or waits is found by
some schedule of the loop. An event reaches a client when a handler calls back into its transport,
which is deleted before its socket. -/
theorem no_event_reaches_dead_client_iff (events : List LoopEvent) :
    Run.Always step Safe [] events ↔ Run.Along step Quiet [] events := by
  have hnone : Good [] := fun _ hc => absurd hc List.not_mem_nil
  refine Run.always_iff_along hnone (fun _ _ hs hquiet => hs.step hquiet) (fun _ hs => hs.safe) ?_
  intro clients event hs hnot hsafe
  match event with
  | .create meterURL => exact hnot trivial
  | .client which (.socket event) => exact hnot trivial
  | .client which .removeSocket => exact hnot trivial
  | .client which .destroy =>
    obtain ⟨c, hrest⟩ := not_forall.mp hnot
    obtain ⟨hc, hrest⟩ := Classical.not_imp.mp hrest
    obtain ⟨halive, hdrained⟩ := Classical.not_imp.mp hrest
    obtain ⟨steps, hloop, hheard⟩ := (hs c (List.mem_of_getElem? hc)).fatal_destroy halive hdrained
    have hstep : (step clients (.client which .destroy))[which]? = some (c.step .destroy) :=
      foldl_client [.destroy] hc
    have hend := List.mem_of_getElem? (foldl_client steps hstep)
    have hevents : ∀ event ∈ steps.map (LoopEvent.client which), event.isLoop = true := by
      intro event hevent
      obtain ⟨clientStep, hmem, rfl⟩ := List.mem_map.mp hevent
      exact hloop clientStep hmem
    exact hheard (hsafe _ hevents _ hend)

/-- A connection that waits for data is closed, and its transport is told. -/
theorem closed_connection_tells_deleted_transport :
    ¬ ∀ events : List LoopEvent, ∀ c ∈ events.foldl step [], c.Sound := by
  intro h
  have hclients := h [.create "meter".toList,
    .client 0 (.socket (.resolveDone 0 (some (⟨"::1".toList, 4059⟩, [])))),
    .client 0 (.socket (.deliver 0)), .client 0 (.socket (.done 0 .success)),
    .client 0 (.socket (.deliver 0)), .client 0 (.socket .readCall), .client 0 .destroy,
    .client 0 (.socket (.deliver 0))]
  revert hclients
  unfold APsim.Sound
  decide

end AccessPoint.Release
