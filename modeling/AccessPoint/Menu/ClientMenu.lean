import AccessPoint.Lib.Run
import AccessPoint.Menu.ClientApp

/-!
# What the client menu does to its objects

A program is proper when it has misused nothing and every socket has been released once at most,
by the manager that made it. Most commands keep that whenever they are entered: the connect
commands set the pointers they use themselves, and the commands `1` to `4` test `m_pSocket`, which
is set only while the engine's socket has not been released (`Held`).

The other events take for granted what they do not test. `5` tests nothing; `C`, `D` and `U` do not
see that the socket of the link has been released; `T` takes every socket for one of `LinuxIP`; and
a confirmation looks for no serial socket before it releases it. `proper_iff` says that a run is
proper exactly if they find what they take for granted.
-/

namespace AccessPoint

open Throwing Managed

namespace ClientApp

/-! ## What is claimed of a state, and of the steps -/

/-- Nothing has been misused, and every socket has been released once at most, by its manager. -/
structure Proper (s : ClientApp) : Prop where
  unmisused : ∀ misuse, s.stopped ≠ some (.misuse misuse)
  sockets : Managed.Proper s.sockets

/-- The socket of the link, if there is one, has not been released. -/
def LinkLive (s : ClientApp) : Prop :=
  ∀ link, s.hdlc = some link → Live s.sockets link.socket

/-- When a command is in order. The others are so always. -/
def InOrder (s : ClientApp) (answers : Answers) : MenuCommand → Prop
  | .hdlcIdentify => s.LinkLive
  | .hdlcDatalinkConnect => s.serialSocket ≠ none → answers.connected = true → s.LinkLive
  | .hdlcDisconnect => answers.linkConnected = true → s.LinkLive
  | .cosemRelease => ∃ engine, s.clientEngine = some engine ∧ Live s.sockets engine.socket
  | .tcpDisconnect => ∀ handle, s.socket = some handle → Owned s.sockets handle .ip
  | _ => True

/-- When an event is in order, in a program that has not ended. -/
def Guarded (s : ClientApp) (event : MenuEvent) : Prop :=
  s.stopped = none →
    match event with
    | .line text answers => ∀ c, command text = some c → s.InOrder answers c
    | .confirm _ => s.disconnects ≠ 0 → s.serialSocket ≠ none

/-- What holds between the pointers, in a program that has not ended: what `m_pSocket` and
`m_pSerialSocket` point to has not been released, nor has the engine's socket as long as
`m_pSocket` is set. -/
structure Held (s : ClientApp) : Prop where
  running : s.stopped = none
  proper : Managed.Proper s.sockets
  engine : s.socket ≠ none →
    ∃ engine, s.clientEngine = some engine ∧ Live s.sockets engine.socket
  socket : ∀ handle, s.socket = some handle → Live s.sockets handle
  serialSocket : ∀ handle, s.serialSocket = some handle →
    Live s.sockets handle ∧ Owned s.sockets handle .serial

/-- What a handler that is in order leaves. -/
def Kept : Except Stop Unit × ClientApp → Prop
  | (.ok _, s) => s.Held
  | (.error stop, s) => (∀ misuse, stop ≠ .misuse misuse) ∧ Managed.Proper s.sockets

/-- What one that is not leaves. -/
def Broken : Except Stop Unit × ClientApp → Prop
  | (result, s) => (∃ misuse, result = .error (.misuse misuse)) ∨ ¬ Managed.Proper s.sockets

/-! ## The calls -/

section Calls

variable {s : ClientApp} {pointer : Pointer} {handle : Handle} {answers : Answers}

theorem at_createSocket (manager : Manager) :
    (createSocket manager).at s =
      (.ok s.sockets.length, { s with sockets := create manager s.sockets }) := rfl

theorem at_unreleased (h : Live s.sockets handle) :
    (unreleased pointer handle).at s = (.ok (), s) := by
  have hlive : live s.sockets handle = true := h
  simp only [unreleased, at_bind, at_read, hlive]
  rfl

theorem at_unreleased_of_not (h : ¬ Live s.sockets handle) :
    (unreleased pointer handle).at s = (.error (.misuse (.released pointer)), s) := by
  have hlive : live s.sockets handle = false := Bool.eq_false_iff.mpr h
  simp only [unreleased, at_bind, at_read, hlive]
  rfl

theorem at_deref {α : Type} {value : ClientApp → Option α} {a : α} (h : value s = some a) :
    (deref pointer value).at s = (.ok a, s) :=
  at_require_some h _

theorem at_deref_none {α : Type} {value : ClientApp → Option α} (h : value s = none) :
    (deref pointer value).at s = (.error (.misuse (.null pointer)), s) :=
  at_require_none h _

theorem at_callSocket {value : ClientApp → Option Handle} (h : value s = some handle)
    (hlive : Live s.sockets handle) : (callSocket pointer value).at s = (.ok (), s) := by
  rw [callSocket, at_bind, at_deref h]
  exact at_unreleased hlive

theorem at_driveEngine {engine : LinuxClientEngine} (h : s.clientEngine = some engine)
    (hlive : Live s.sockets engine.socket) : driveEngine.at s = (.ok (), s) := by
  rw [driveEngine, at_bind, at_deref h]
  exact at_unreleased hlive

theorem at_driveHDLC {link : HDLCClientLLC} (h : s.hdlc = some link)
    (hlive : Live s.sockets link.socket) : driveHDLC.at s = (.ok (), s) := by
  rw [driveHDLC, at_bind, at_deref h]
  exact at_unreleased hlive

/-- A link whose socket has been released is misused. -/
theorem at_driveHDLC_of_not (h : ¬ s.LinkLive) :
    driveHDLC.at s = (.error (.misuse (.released .hdlc)), s) := by
  obtain ⟨link, hlink⟩ := not_forall.mp h
  obtain ⟨hhdlc, hdead⟩ := Classical.not_imp.mp hlink
  rw [driveHDLC, at_bind, at_deref hhdlc]
  exact at_unreleased_of_not hdead

/-- `ReleaseSocket`, whether or not `Close` throws. -/
theorem at_releaseSocket (value : ClientApp → Option Handle) (h : value s = some handle)
    (manager : Manager) :
    (releaseSocket manager pointer value answers).at s =
      (if answers.closeThrows then .error .exception else .ok (),
        { s with sockets := release manager handle s.sockets }) := by
  simp only [releaseSocket, at_bind, at_deref h, at_assign]
  cases answers.closeThrows with
  | true => rfl
  | false => rfl

end Calls

/-! ## The connect commands -/

section Connect

variable {s : ClientApp} {answers : Answers}

/-- What is known of `m_pSerialSocket` when another socket is made. -/
theorem Held.serialSocket_create (h : s.Held) (manager : Manager) {handle : Handle}
    (hhandle : s.serialSocket = some handle) :
    Live (create manager s.sockets) handle ∧ Owned (create manager s.sockets) handle .serial :=
  have ⟨hlive, howned⟩ := h.serialSocket handle hhandle
  ⟨hlive.create manager, howned.create manager⟩

theorem Held.tcpConnect (h : s.Held) : Kept (tcpConnect.at s) := by
  have hat : ClientApp.tcpConnect.at s =
      (.ok (), { s with
        sockets := create .ip s.sockets
        socket := some s.sockets.length
        clientEngine := some ⟨s.sockets.length⟩ }) := by
    simp only [ClientApp.tcpConnect, at_bind, at_createSocket, at_assign]
    exact at_callSocket rfl live_create
  rw [hat]
  refine ⟨h.running, h.proper.create .ip, fun _ => ⟨_, rfl, live_create⟩, ?_, ?_⟩
  · intro handle hhandle
    obtain rfl : s.sockets.length = handle := Option.some.inj hhandle
    exact live_create
  · intro handle hhandle
    exact h.serialSocket_create .ip hhandle

theorem Held.hdlcPhysicalConnect (h : s.Held) : Kept ((hdlcPhysicalConnect answers).at s) := by
  have hat : (ClientApp.hdlcPhysicalConnect answers).at s =
      (.ok (), { s with
        sockets := create .serial s.sockets
        serialSocket := some s.sockets.length
        hdlc := some ⟨s.sockets.length⟩
        clientEngine := some ⟨s.sockets.length⟩
        socket := if answers.opened then some s.sockets.length else s.socket }) := by
    simp only [ClientApp.hdlcPhysicalConnect, at_bind, at_createSocket, at_assign]
    rw [at_callSocket rfl live_create]
    cases answers.opened with
    | true => rfl
    | false => rfl
  rw [hat]
  refine ⟨h.running, h.proper.create .serial, fun _ => ⟨_, rfl, live_create⟩, ?_, ?_⟩
  · intro handle hhandle
    cases hopened : answers.opened with
    | true =>
      simp only [hopened, if_true, Option.some.injEq] at hhandle
      subst hhandle
      exact live_create
    | false =>
      simp only [hopened, Bool.false_eq_true, if_false] at hhandle
      exact (h.socket handle hhandle).create .serial
  · intro handle hhandle
    obtain rfl : s.sockets.length = handle := Option.some.inj hhandle
    exact ⟨live_create, owned_create⟩

theorem Held.serialWrapperConnect (h : s.Held) : Kept (serialWrapperConnect.at s) := by
  have hat : ClientApp.serialWrapperConnect.at s =
      (.ok (), { s with
        sockets := create .serial s.sockets
        serialSocket := some s.sockets.length
        clientEngine := some ⟨s.sockets.length⟩
        socket := some s.sockets.length }) := by
    simp only [ClientApp.serialWrapperConnect, at_bind, at_createSocket, at_assign]
    rw [at_callSocket rfl live_create]
  rw [hat]
  refine ⟨h.running, h.proper.create .serial, fun _ => ⟨_, rfl, live_create⟩, ?_, ?_⟩
  · intro handle hhandle
    obtain rfl : s.sockets.length = handle := Option.some.inj hhandle
    exact live_create
  · intro handle hhandle
    obtain rfl : s.sockets.length = handle := Option.some.inj hhandle
    exact ⟨live_create, owned_create⟩

end Connect

/-! ## The requests on an association -/

section Association

variable {s : ClientApp} {answers : Answers}

/-- With `m_pSocket` set, the socket and the engine may be called. -/
theorem Held.at_engine (h : s.Held) (hsocket : s.socket ≠ none) :
    (callSocket .socket (·.socket)).at s = (.ok (), s) ∧ driveEngine.at s = (.ok (), s) ∧
      ∃ engine, (deref .clientEngine (·.clientEngine)).at s = (.ok engine, s) := by
  obtain ⟨engine, hengine, hlive⟩ := h.engine hsocket
  obtain ⟨handle, hhandle⟩ := Option.ne_none_iff_exists'.mp hsocket
  exact ⟨at_callSocket hhandle (h.socket handle hhandle), at_driveEngine hengine hlive, engine,
    at_deref hengine⟩

theorem Held.cosemOpen (h : s.Held) : Kept ((cosemOpen answers).at s) := by
  have hat : (ClientApp.cosemOpen answers).at s = (.ok (), s) := by
    simp only [ClientApp.cosemOpen, at_bind, at_read]
    cases hsocket : s.socket with
    | none => rfl
    | some handle =>
      obtain ⟨hcall, hdrive, engine, hderef⟩ := h.at_engine (by simp [hsocket])
      simp only [Option.isSome_some, if_true, at_bind, hcall, hderef]
      split
      · split
        · exact hdrive
        · rfl
      · rfl
  rw [hat]
  exact h

theorem Held.cosemRequest (h : s.Held) : Kept ((cosemRequest answers).at s) := by
  have hat : (ClientApp.cosemRequest answers).at s = (.ok (), s) := by
    simp only [ClientApp.cosemRequest, at_bind, at_read]
    cases hsocket : s.socket with
    | none => rfl
    | some handle =>
      obtain ⟨hcall, hdrive, engine, hderef⟩ := h.at_engine (by simp [hsocket])
      simp only [Option.isSome_some, if_true, at_bind, hcall]
      split
      · simp only [at_bind, hderef]
        split
        · split
          · exact hdrive
          · rfl
        · rfl
      · rfl
  rw [hat]
  exact h

/-- A release needs an engine whose socket has not been released. -/
theorem Held.cosemRelease (h : s.Held) (horder : s.InOrder answers .cosemRelease) :
    Kept (cosemRelease.at s) := by
  obtain ⟨engine, hengine, hlive⟩ := horder
  rw [ClientApp.cosemRelease, at_driveEngine hengine hlive]
  exact h

theorem broken_cosemRelease (horder : ¬ s.InOrder answers .cosemRelease) :
    Broken (cosemRelease.at s) := by
  rw [ClientApp.cosemRelease, driveEngine, at_bind]
  cases hengine : s.clientEngine with
  | none =>
    rw [at_deref_none hengine]
    exact .inl ⟨_, rfl⟩
  | some engine =>
    have hdead : ¬ Live s.sockets engine.socket := fun hlive => horder ⟨engine, hengine, hlive⟩
    rw [at_deref hengine]
    dsimp only
    rw [at_unreleased_of_not hdead]
    exact .inl ⟨_, rfl⟩

end Association

/-! ## The requests on a link -/

section Link

variable {s : ClientApp} {answers : Answers}

/-- A link that is there and whose socket has not been released may be driven. -/
theorem LinkLive.at_driveHDLC (h : s.LinkLive) (hhdlc : s.hdlc ≠ none) :
    driveHDLC.at s = (.ok (), s) := by
  obtain ⟨link, hlink⟩ := Option.ne_none_iff_exists'.mp hhdlc
  exact ClientApp.at_driveHDLC hlink (h link hlink)

/-- And one whose socket has been released is there. -/
theorem hdlc_of_not_linkLive (h : ¬ s.LinkLive) : s.hdlc.isSome = true := by
  obtain ⟨link, hlink⟩ := not_forall.mp h
  rw [(Classical.not_imp.mp hlink).1]
  rfl

theorem Held.hdlcIdentify (h : s.Held) (horder : s.InOrder answers .hdlcIdentify) :
    Kept (hdlcIdentify.at s) := by
  have hat : ClientApp.hdlcIdentify.at s = (.ok (), s) := by
    simp only [ClientApp.hdlcIdentify, at_bind, at_read]
    cases hhdlc : s.hdlc with
    | none => rfl
    | some link => exact horder.at_driveHDLC (by simp [hhdlc])
  rw [hat]
  exact h

theorem broken_hdlcIdentify (horder : ¬ s.InOrder answers .hdlcIdentify) :
    Broken (hdlcIdentify.at s) := by
  simp only [ClientApp.hdlcIdentify, at_bind, at_read]
  rw [if_pos (hdlc_of_not_linkLive horder), at_driveHDLC_of_not horder]
  exact .inl ⟨_, rfl⟩

theorem Held.hdlcDatalinkConnect (h : s.Held)
    (horder : s.InOrder answers .hdlcDatalinkConnect) :
    Kept ((hdlcDatalinkConnect answers).at s) := by
  have hat : (ClientApp.hdlcDatalinkConnect answers).at s = (.ok (), s) := by
    simp only [ClientApp.hdlcDatalinkConnect, at_bind, at_read]
    split
    next htest =>
      obtain ⟨hserial, hhdlc⟩ := Bool.and_eq_true_iff.mp htest
      obtain ⟨handle, hhandle⟩ := Option.isSome_iff_exists.mp hserial
      rw [at_bind, at_callSocket hhandle (h.serialSocket handle hhandle).1]
      dsimp only
      cases hconnected : answers.connected with
      | true =>
        have hlive : s.LinkLive := horder (by simp [hhandle]) hconnected
        exact hlive.at_driveHDLC (Option.isSome_iff_ne_none.mp hhdlc)
      | false => rfl
    next => rfl
  rw [hat]
  exact h

theorem Held.broken_hdlcDatalinkConnect (h : s.Held)
    (horder : ¬ s.InOrder answers .hdlcDatalinkConnect) :
    Broken ((ClientApp.hdlcDatalinkConnect answers).at s) := by
  obtain ⟨hserial, horder⟩ := Classical.not_imp.mp horder
  obtain ⟨hconnected, hdead⟩ := Classical.not_imp.mp horder
  obtain ⟨handle, hhandle⟩ := Option.ne_none_iff_exists'.mp hserial
  simp only [ClientApp.hdlcDatalinkConnect, at_bind, at_read]
  rw [if_pos (by simp [hhandle, hdlc_of_not_linkLive hdead]), at_bind,
    at_callSocket hhandle (h.serialSocket handle hhandle).1]
  dsimp only
  rw [if_pos hconnected, at_driveHDLC_of_not hdead]
  exact .inl ⟨_, rfl⟩

theorem Held.hdlcDisconnect (h : s.Held) (horder : s.InOrder answers .hdlcDisconnect) :
    Kept ((hdlcDisconnect answers).at s) := by
  simp only [ClientApp.hdlcDisconnect, at_bind, at_read]
  split
  next htest =>
    cases hconnected : answers.linkConnected with
    | true =>
      have hlive : s.LinkLive := horder hconnected
      rw [if_pos rfl, at_bind, hlive.at_driveHDLC (Option.isSome_iff_ne_none.mp htest)]
      exact ⟨h.running, h.proper, h.engine, h.socket, h.serialSocket⟩
    | false => exact h
  next => exact h

theorem broken_hdlcDisconnect (horder : ¬ s.InOrder answers .hdlcDisconnect) :
    Broken ((hdlcDisconnect answers).at s) := by
  obtain ⟨hconnected, hdead⟩ := Classical.not_imp.mp horder
  simp only [ClientApp.hdlcDisconnect, at_bind, at_read]
  rw [if_pos (hdlc_of_not_linkLive hdead), if_pos hconnected, at_bind, at_driveHDLC_of_not hdead]
  exact .inl ⟨_, rfl⟩

end Link

/-! ## The two ways to disconnect -/

section Disconnect

variable {s : ClientApp} {answers : Answers}

theorem at_tcpDisconnect {handle : Handle} (h : s.socket = some handle) :
    (tcpDisconnect answers).at s =
      if answers.closeThrows then
        (.error .exception, { s with sockets := release .ip handle s.sockets })
      else
        (.ok (), { s with sockets := release .ip handle s.sockets, socket := none }) := by
  simp only [tcpDisconnect, at_bind, at_read, h, Option.isSome_some, if_true,
    at_releaseSocket (·.socket) h]
  cases answers.closeThrows with
  | true => rfl
  | false => rfl

/-- `LinuxIP` may release what it has made. -/
theorem Held.tcpDisconnect (h : s.Held) (horder : s.InOrder answers .tcpDisconnect) :
    Kept ((tcpDisconnect answers).at s) := by
  cases hsocket : s.socket with
  | none =>
    simp only [ClientApp.tcpDisconnect, at_bind, at_read, hsocket]
    exact h
  | some handle =>
    have howned : Owned s.sockets handle .ip := horder handle hsocket
    have hproper : Managed.Proper (release .ip handle s.sockets) :=
      (proper_release_iff h.proper howned.lt).mpr ⟨h.socket handle hsocket, howned⟩
    rw [at_tcpDisconnect hsocket]
    cases answers.closeThrows with
    | true => exact ⟨nofun, hproper⟩
    | false =>
      refine ⟨h.running, hproper, fun hset => absurd rfl hset, nofun, ?_⟩
      intro other hother
      obtain ⟨hlive, hserial⟩ := h.serialSocket other hother
      -- the serial socket is not the one that is released
      have hne : other ≠ handle := by
        intro heq
        subst heq
        exact absurd (hserial.symm.trans howned) (by decide)
      exact ⟨hlive.release_of_ne hne, hserial.release⟩

theorem Held.broken_tcpDisconnect (h : s.Held) (horder : ¬ s.InOrder answers .tcpDisconnect) :
    Broken ((ClientApp.tcpDisconnect answers).at s) := by
  obtain ⟨handle, horder⟩ := not_forall.mp horder
  obtain ⟨hsocket, hforeign⟩ := Classical.not_imp.mp horder
  have hnot : ¬ Managed.Proper (release .ip handle s.sockets) := by
    rw [proper_release_iff h.proper (h.socket handle hsocket).lt]
    exact fun hboth => hforeign hboth.2
  rw [at_tcpDisconnect hsocket]
  cases answers.closeThrows with
  | true => exact .inr hnot
  | false => exact .inr hnot

theorem at_disconnectConfirm {handle : Handle} (h : s.serialSocket = some handle) :
    (disconnectConfirm answers).at s =
      if answers.closeThrows then
        (.error .exception, { s with sockets := release .serial handle s.sockets })
      else
        (.ok (), { s with
          sockets := release .serial handle s.sockets
          serialSocket := none
          socket := none }) := by
  simp only [disconnectConfirm, at_bind, at_releaseSocket (·.serialSocket) h]
  cases answers.closeThrows with
  | true => rfl
  | false => rfl

/-- A confirmation finds a serial socket to release. -/
theorem Held.disconnectConfirm (h : s.Held) (horder : s.serialSocket ≠ none) :
    Kept ((disconnectConfirm answers).at s) := by
  obtain ⟨handle, hhandle⟩ := Option.ne_none_iff_exists'.mp horder
  obtain ⟨hlive, howned⟩ := h.serialSocket handle hhandle
  have hproper : Managed.Proper (release .serial handle s.sockets) :=
    (proper_release_iff h.proper howned.lt).mpr ⟨hlive, howned⟩
  rw [at_disconnectConfirm hhandle]
  cases answers.closeThrows with
  | true => exact ⟨nofun, hproper⟩
  | false => exact ⟨h.running, hproper, fun hset => absurd rfl hset, nofun, nofun⟩

theorem broken_disconnectConfirm (hnone : s.serialSocket = none) :
    Broken ((disconnectConfirm answers).at s) := by
  rw [disconnectConfirm, at_bind, releaseSocket, at_bind, at_deref_none hnone]
  exact .inl ⟨_, rfl⟩

end Disconnect

/-! ## The run -/

section Run

variable {s : ClientApp} {answers : Answers}

/-- **A line that is in order keeps what holds between the pointers.** -/
theorem Held.clientMenuHandler (h : s.Held) {line : StdString}
    (horder : ∀ c, command line = some c → s.InOrder answers c) :
    Kept ((clientMenuHandler line answers).at s) := by
  unfold ClientApp.clientMenuHandler
  split
  next => exact ⟨nofun, h.proper⟩
  next => exact h.tcpConnect
  next => exact h.hdlcPhysicalConnect
  next hc => exact h.hdlcIdentify (horder _ hc)
  next hc => exact h.hdlcDatalinkConnect (horder _ hc)
  next => exact h.serialWrapperConnect
  next => exact h.cosemOpen
  next => exact h.cosemRequest
  next => exact h.cosemRequest
  next => exact h.cosemRequest
  next hc => exact h.cosemRelease (horder _ hc)
  next hc => exact h.tcpDisconnect (horder _ hc)
  next hc => exact h.hdlcDisconnect (horder _ hc)
  next => exact h

/-- **One that is not misuses something, or releases a socket of the other manager.** -/
theorem Held.broken_clientMenuHandler (h : s.Held) {line : StdString} {c : MenuCommand}
    (hc : command line = some c) (horder : ¬ s.InOrder answers c) :
    Broken ((ClientApp.clientMenuHandler line answers).at s) := by
  unfold ClientApp.clientMenuHandler
  rw [hc]
  cases c with
  | hdlcIdentify => exact broken_hdlcIdentify horder
  | hdlcDatalinkConnect => exact h.broken_hdlcDatalinkConnect horder
  | hdlcDisconnect => exact broken_hdlcDisconnect horder
  | cosemRelease => exact broken_cosemRelease horder
  | tcpDisconnect => exact h.broken_tcpDisconnect horder
  | exit => exact absurd trivial horder
  | tcpConnect => exact absurd trivial horder
  | hdlcPhysicalConnect => exact absurd trivial horder
  | serialWrapperConnect => exact absurd trivial horder
  | cosemOpen => exact absurd trivial horder
  | cosemGet => exact absurd trivial horder
  | cosemSet => exact absurd trivial horder
  | cosemAction => exact absurd trivial horder

/-- A program that is in order, or has ended without a misuse. -/
structure Good (s : ClientApp) : Prop extends Proper s where
  held : s.stopped = none → s.Held

theorem Good.start : start.Good :=
  ⟨⟨nofun, proper_nil⟩, fun _ => ⟨rfl, proper_nil, nofun, nofun, nofun⟩⟩

/-- A program that runs. -/
theorem Held.good (h : s.Held) : s.Good := by
  refine ⟨⟨?_, h.proper⟩, fun _ => h⟩
  intro misuse hstopped
  rw [h.running] at hstopped
  cases hstopped

theorem Kept.good {handler : Handler Unit} (h : Kept (handler.at s)) : (run handler s).Good := by
  unfold run
  cases hresult : handler.at s with
  | mk result after =>
    rw [hresult] at h
    cases result with
    | ok done => exact Held.good h
    | error stop =>
      refine ⟨⟨?_, h.2⟩, nofun⟩
      intro misuse hstopped
      exact h.1 misuse (Option.some.inj hstopped)

theorem Broken.not_proper {handler : Handler Unit} (h : Broken (handler.at s)) :
    ¬ (run handler s).Proper := by
  intro hproper
  unfold run at hproper
  cases hresult : handler.at s with
  | mk result after =>
    rw [hresult] at h hproper
    rcases h with ⟨misuse, hmisuse⟩ | hsockets
    · subst hmisuse
      exact hproper.unmisused misuse rfl
    · cases result with
      | ok done => exact hsockets hproper.sockets
      | error stop => exact hsockets hproper.sockets

theorem Good.step (h : s.Good) {event : MenuEvent} (hguarded : s.Guarded event) :
    (s.step event).Good := by
  unfold ClientApp.step
  by_cases hstopped : s.stopped = none
  · have hheld := h.held hstopped
    rw [if_neg (by simp [hstopped])]
    cases event with
    | line text answers => exact (hheld.clientMenuHandler (hguarded hstopped)).good
    | confirm answers =>
      dsimp only
      split
      next => exact h
      next hrequested =>
        have hheld' : ({ s with disconnects := s.disconnects - 1 } : ClientApp).Held :=
          ⟨hheld.running, hheld.proper, hheld.engine, hheld.socket, hheld.serialSocket⟩
        exact (hheld'.disconnectConfirm (hguarded hstopped hrequested)).good
  · rw [if_pos (Option.isSome_iff_ne_none.mpr hstopped)]
    exact h

theorem Good.not_proper_step (h : s.Good) {event : MenuEvent} (hnot : ¬ s.Guarded event) :
    ¬ (s.step event).Proper := by
  obtain ⟨hstopped, hnot⟩ := Classical.not_imp.mp hnot
  have hheld := h.held hstopped
  unfold ClientApp.step
  rw [if_neg (by simp [hstopped])]
  cases event with
  | line text answers =>
    obtain ⟨c, hc⟩ := not_forall.mp hnot
    obtain ⟨hcommand, horder⟩ := Classical.not_imp.mp hc
    exact (hheld.broken_clientMenuHandler hcommand horder).not_proper
  | confirm answers =>
    obtain ⟨hrequested, hnone⟩ := Classical.not_imp.mp hnot
    have hnone' : ({ s with disconnects := s.disconnects - 1 } : ClientApp).serialSocket = none :=
      not_not.mp hnone
    dsimp only
    rw [if_neg hrequested]
    exact (broken_disconnectConfirm hnone').not_proper

/-- **When the menu uses nothing that is missing or released, and releases every socket once at most
and by its manager**: in exactly the runs in which every step is in order. A run is any list of menu
lines with the answers of the dialogs and of the library, and of confirmations. A misuse is recorded
when it happens and the program does not go on, so the condition is asked of the steps before it
only. -/
theorem proper_iff (events : List MenuEvent) :
    Run.Always step Proper start events ↔ Run.Along step Guarded start events :=
  Run.always_iff_along Good.start (fun _ _ hs hg => hs.step hg) (fun _ hs => hs.toProper)
    fun _ _ hs hnot => hs.not_proper_step hnot

/-- A user who finds everything connected, and enters what is right. -/
def ready : Answers :=
  { opened := true, connected := true, transportConnected := true, engineOpen := true
    linkConnected := true, security := 0, parsed := true, closeThrows := false }

/-- A release before any connect, a serial wrapper that is disconnected with `T`, and a link that
is identified after it has been disconnected. -/
theorem runs_not_proper :
    ¬ Run.Always step Proper start [.line ['5'] ready] ∧
      ¬ Run.Always step Proper start [.line ['E'] ready, .line ['T'] ready] ∧
        ¬ Run.Always step Proper start
          [.line ['B'] ready, .line ['U'] ready, .confirm ready, .line ['C'] ready] := by
  refine ⟨?_, ?_, ?_⟩
  · intro h
    exact h.last.unmisused (.null .clientEngine) (by decide)
  · intro h
    have hsockets := h.last.sockets
    revert hsockets
    unfold Managed.Proper
    decide
  · intro h
    exact h.last.unmisused (.released .hdlc) (by decide)

end Run

end ClientApp

end AccessPoint
