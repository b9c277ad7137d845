import AccessPoint.Menu.ClientText

/-!
# Texts that do no harm

The menu's model says in which runs of events the client uses nothing that is missing or released;
of the text that is typed it knows nothing. Two kinds of texts make only such runs, whatever the
sockets, the engine and the link say, and on whichever prompts their lines fall: those with no line
for a serial connect or a release, since then there is no link and every socket is `LinuxIP`'s, and
those with none for a command that releases a socket or uses the link.
-/

namespace AccessPoint.Client

open Throwing Lines AppBase ClientApp

variable {s : ClientApp} {answers : Answers}

/-- No serial connect and no release. -/
def TcpOnly : MenuCommand → Prop
  | .hdlcPhysicalConnect | .serialWrapperConnect | .cosemRelease => False
  | _ => True

/-- Nothing that releases a socket, uses the link or releases an association. -/
def ConnectOnly : MenuCommand → Prop
  | .hdlcIdentify | .hdlcDatalinkConnect | .cosemRelease | .tcpDisconnect | .hdlcDisconnect => False
  | _ => True

/-- Without serial connects there is no link, and `m_pSocket` is one of `LinuxIP`. -/
structure NoSerial (s : ClientApp) : Prop where
  hdlc : s.hdlc = none
  serialSocket : s.serialSocket = none
  disconnects : s.disconnects = 0
  socket : ∀ handle, s.socket = some handle → Managed.Owned s.sockets handle .ip

theorem reads_driveEngine : Reads driveEngine :=
  (reads_deref _ _).bind fun _ => reads_unreleased _ _

theorem reads_driveHDLC : Reads driveHDLC :=
  (reads_deref _ _).bind fun _ => reads_unreleased _ _

theorem reads_clientIdentify : Reads ClientApp.hdlcIdentify := by
  refine (Reads.read _).bind fun link => ?_
  split
  · exact reads_driveHDLC
  · exact .pure _

theorem reads_clientDatalinkConnect : Reads (ClientApp.hdlcDatalinkConnect answers) := by
  refine (Reads.read _).bind fun serialSocket => (Reads.read _).bind fun link => ?_
  split
  · refine (reads_callSocket _ _).bind fun _ => ?_
    split
    · exact reads_driveHDLC
    · exact .pure _
  · exact .pure _

theorem reads_clientOpen : Reads (ClientApp.cosemOpen answers) := by
  refine (Reads.read _).bind fun socket => ?_
  split
  · refine (reads_callSocket _ _).bind fun _ => (reads_deref _ _).bind fun _ => ?_
    split
    · split
      · exact reads_driveEngine
      · exact .pure _
    · exact .pure _
  · exact .pure _

theorem reads_clientRequest : Reads (ClientApp.cosemRequest answers) := by
  refine (Reads.read _).bind fun socket => ?_
  split
  · refine (reads_callSocket _ _).bind fun _ => ?_
    split
    · refine (reads_deref _ _).bind fun _ => ?_
      split
      · split
        · exact reads_driveEngine
        · exact .pure _
      · exact .pure _
    · exact .pure _
  · exact .pure _

theorem NoSerial.tcpConnect : Keeps NoSerial ClientApp.tcpConnect := by
  intro s h
  have hat : (ClientApp.tcpConnect.at s).2 =
      { s with
        sockets := Managed.create .ip s.sockets
        socket := some s.sockets.length
        clientEngine := some ⟨s.sockets.length⟩ } := by
    simp only [ClientApp.tcpConnect, at_bind, at_createSocket, at_assign]
    exact reads_callSocket _ _ _
  rw [hat]
  refine ⟨h.hdlc, h.serialSocket, h.disconnects, ?_⟩
  intro handle hhandle
  obtain rfl : s.sockets.length = handle := Option.some.inj hhandle
  exact Managed.owned_create

theorem NoSerial.tcpDisconnect : Keeps NoSerial (ClientApp.tcpDisconnect answers) := by
  intro s h
  cases hsocket : s.socket with
  | none =>
    simp only [ClientApp.tcpDisconnect, at_bind, at_read, hsocket]
    exact h
  | some handle =>
    rw [at_tcpDisconnect hsocket]
    split
    · exact ⟨h.hdlc, h.serialSocket, h.disconnects,
        fun other hother => (h.socket other hother).release⟩
    · refine ⟨h.hdlc, h.serialSocket, h.disconnects, fun other hother => ?_⟩
      cases hother

theorem NoSerial.hdlcDisconnect : Keeps NoSerial (ClientApp.hdlcDisconnect answers) := by
  intro s h
  simp only [ClientApp.hdlcDisconnect, at_bind, at_read, h.hdlc]
  exact h

/-- A line that is for no serial connect and no release. -/
theorem NoSerial.clientMenuHandler {line : StdString}
    (hline : ∀ c, command line = some c → TcpOnly c) :
    Keeps NoSerial (ClientApp.clientMenuHandler line answers) := by
  unfold ClientApp.clientMenuHandler
  split
  next => exact (Reads.throw _).keeps
  next => exact NoSerial.tcpConnect
  next hc => exact (hline _ hc).elim
  next => exact reads_clientIdentify.keeps
  next => exact reads_clientDatalinkConnect.keeps
  next hc => exact (hline _ hc).elim
  next => exact reads_clientOpen.keeps
  next => exact reads_clientRequest.keeps
  next => exact reads_clientRequest.keeps
  next => exact reads_clientRequest.keeps
  next hc => exact (hline _ hc).elim
  next => exact NoSerial.tcpDisconnect
  next => exact NoSerial.hdlcDisconnect
  next => exact .pure _

/-- Nothing has asked for a disconnection. -/
def NoDisconnects (s : ClientApp) : Prop :=
  s.disconnects = 0

theorem NoDisconnects.createSocket (manager : Manager) :
    Keeps NoDisconnects (createSocket manager) := by
  intro s h
  exact h

theorem NoDisconnects.assign {change : ClientApp → ClientApp}
    (h : ∀ s, (change s).disconnects = s.disconnects) :
    Keeps NoDisconnects (.assign change : ClientApp.Handler Unit) :=
  .assign fun s hs => (h s).trans hs

theorem NoDisconnects.callSocket (pointer : Pointer) (value : ClientApp → Option Managed.Handle) :
    Keeps NoDisconnects (callSocket pointer value) :=
  (reads_callSocket pointer value).keeps

/-- A line that is for no command but connects and requests. -/
theorem NoDisconnects.clientMenuHandler {line : StdString}
    (hline : ∀ c, command line = some c → ConnectOnly c) :
    Keeps NoDisconnects (ClientApp.clientMenuHandler line answers) := by
  unfold ClientApp.clientMenuHandler
  split
  next => exact (Reads.throw _).keeps
  next =>
    refine Keeps.bind (NoDisconnects.createSocket _) fun _ => ?_
    refine Keeps.bind (NoDisconnects.assign fun _ => rfl) fun _ => ?_
    refine Keeps.bind (NoDisconnects.assign fun _ => rfl) fun _ => ?_
    exact NoDisconnects.callSocket _ _
  next =>
    refine Keeps.bind (NoDisconnects.createSocket _) fun _ => ?_
    refine Keeps.bind (NoDisconnects.assign fun _ => rfl) fun _ => ?_
    refine Keeps.bind (NoDisconnects.assign fun _ => rfl) fun _ => ?_
    refine Keeps.bind (NoDisconnects.assign fun _ => rfl) fun _ => ?_
    refine Keeps.bind (NoDisconnects.callSocket _ _) fun _ => ?_
    split
    · exact NoDisconnects.assign fun _ => rfl
    · exact .pure _
  next hc => exact (hline _ hc).elim
  next hc => exact (hline _ hc).elim
  next =>
    refine Keeps.bind (NoDisconnects.createSocket _) fun _ => ?_
    refine Keeps.bind (NoDisconnects.assign fun _ => rfl) fun _ => ?_
    refine Keeps.bind (NoDisconnects.assign fun _ => rfl) fun _ => ?_
    refine Keeps.bind (NoDisconnects.callSocket _ _) fun _ => ?_
    exact NoDisconnects.assign fun _ => rfl
  next => exact reads_clientOpen.keeps
  next => exact reads_clientRequest.keeps
  next => exact reads_clientRequest.keeps
  next => exact reads_clientRequest.keeps
  next hc => exact (hline _ hc).elim
  next hc => exact (hline _ hc).elim
  next hc => exact (hline _ hc).elim
  next => exact .pure _

/-- A program that has not asked for a disconnection runs what its lines keep. -/
theorem step_keeps_of_line {I : ClientApp → Prop} {allowed : MenuCommand → Prop}
    (hstopped : ∀ s stop, I s → I { s with stopped := some stop })
    (hzero : ∀ s, I s → s.disconnects = 0)
    (hline : ∀ line answers, (∀ c, command line = some c → allowed c) →
      Keeps I (ClientApp.clientMenuHandler line answers))
    (h : I s) {event : MenuEvent}
    (hevent : ∀ line, menuLine event = some line → ∀ c, command line = some c → allowed c) :
    I (s.step event) := by
  unfold ClientApp.step
  split
  next => exact h
  next =>
    cases event with
    | line text answers =>
      have hkept := hline text answers (hevent text rfl) s h
      dsimp only
      unfold ClientApp.run
      cases hat : (ClientApp.clientMenuHandler text answers).at s with
      | mk result after =>
        rw [hat] at hkept
        cases result with
        | ok done => exact hkept
        | error stop => exact hstopped after stop hkept
    | confirm answers =>
      dsimp only
      rw [if_pos (hzero s h)]
      exact h

/-- The lines of a text are for no serial connect, or for none of the commands that release a
socket or use the link, and none is for a release. -/
def Harmless (text : List StdString) : Prop :=
  (∀ line ∈ text, ∀ c, command line = some c → TcpOnly c) ∨
    ∀ line ∈ text, ∀ c, command line = some c → ConnectOnly c

/-- A line of such a text is in order. -/
theorem NoSerial.guarded (h : NoSerial s) {event : MenuEvent}
    (hevent : ∀ line, menuLine event = some line → ∀ c, command line = some c → TcpOnly c) :
    s.Guarded event := by
  have hlive : s.LinkLive := by
    intro link hlink
    rw [h.hdlc] at hlink
    cases hlink
  intro _
  cases event with
  | confirm answers => exact fun hrequested => absurd h.disconnects hrequested
  | line text answers =>
    intro c hc
    have hallowed := hevent text rfl c hc
    cases c with
    | hdlcIdentify => exact hlive
    | hdlcDatalinkConnect => exact fun hserial => absurd h.serialSocket hserial
    | hdlcDisconnect => exact fun _ => hlive
    | tcpDisconnect => exact h.socket
    | cosemRelease => exact hallowed.elim
    | _ => trivial

theorem NoDisconnects.guarded (h : NoDisconnects s) {event : MenuEvent}
    (hevent : ∀ line, menuLine event = some line → ∀ c, command line = some c → ConnectOnly c) :
    s.Guarded event := by
  intro _
  cases event with
  | confirm answers => exact fun hrequested => absurd h hrequested
  | line text answers =>
    intro c hc
    have hallowed := hevent text rfl c hc
    cases c with
    | hdlcIdentify | hdlcDatalinkConnect | cosemRelease | tcpDisconnect | hdlcDisconnect =>
      exact hallowed.elim
    | _ => trivial

/-- The menu's model, on the lines of a harmless text. -/
theorem good_of_harmless {events : List MenuEvent} {text : List StdString}
    (hlines : List.Sublist (events.filterMap menuLine) text) (h : Harmless text) :
    (events.foldl ClientApp.step .start).Good := by
  have hallowed : ∀ {allowed : MenuCommand → Prop},
      (∀ line ∈ text, ∀ c, command line = some c → allowed c) →
      Run.Along ClientApp.step (fun _ event => ∀ line, menuLine event = some line →
        ∀ c, command line = some c → allowed c) .start events := by
    intro allowed hall
    refine Run.along_forall.mpr ?_
    intro event hevent line hline
    exact hall line (hlines.subset (List.mem_filterMap.mpr ⟨event, hevent, hline⟩))
  rcases h with htcp | hconnect
  · refine ((hallowed htcp).invariant (I := fun s => s.Good ∧ NoSerial s)
      ⟨.start, rfl, rfl, rfl, nofun⟩ ?_).1
    intro s event hs hevent
    exact ⟨hs.1.step (hs.2.guarded hevent), step_keeps_of_line
      (fun _ _ h => ⟨h.hdlc, h.serialSocket, h.disconnects, h.socket⟩)
      (fun _ h => h.disconnects) (fun _ _ h => NoSerial.clientMenuHandler h) hs.2 hevent⟩
  · refine ((hallowed hconnect).invariant (I := fun s => s.Good ∧ NoDisconnects s)
      ⟨.start, rfl⟩ ?_).1
    intro s event hs hevent
    exact ⟨hs.1.step (hs.2.guarded hevent), step_keeps_of_line (fun _ _ h => h) (fun _ h => h)
      (fun _ _ h => NoDisconnects.clientMenuHandler h) hs.2 hevent⟩

variable {ClassId AttributeId Obis : Type} (types : CosemTypes ClassId AttributeId Obis)

/-- **Texts that do no harm**: whatever else stands in them, on whichever prompts their lines fall
and whatever the sockets, the engine and the link say, nothing is misused and every socket is
released once at most, by its manager. The condition is on the lines of the text alone and does not
look at which of them the menu will read, so it is sufficient and not necessary. -/
theorem proper_of_harmless (console : Console)
    (hharmless : Harmless (terminated '\n' console.input.remaining))
    (schedule : List ClientEvent) :
    (schedule.foldl (step types) (start console)).app.Proper := by
  obtain ⟨events, htraced⟩ := refines_menu types console schedule
  have hgood := good_of_harmless
    ((List.sublist_append_left _ _).trans htraced.lines) hharmless
  rcases htraced.app with happ | happ
  · rw [happ]
    exact hgood.toProper
  · rw [happ]
    refine ⟨?_, hgood.sockets⟩
    intro misuse hstopped
    cases hstopped

/-- A library that takes numbers and codes as they are entered. -/
def plainTypes : CosemTypes Int Int StdString :=
  { classId := id, attributeId := id, parse := some, clsidIData := 1, clsidIClock := 8 }

/-- Sockets, an engine and a link that do what they are asked for. -/
def willing : Found :=
  { opened := true, connected := true, transportConnected := true, engineOpen := true
    linkConnected := true, token := some 7, released := true, closeThrows := false }

/-- A connect, whose address is first asked for in vain, and a disconnect. -/
theorem proper_of_harmless_tcp :
    ([ClientEvent.menu, .line willing, .menu, .line willing].foldl (step plainTypes) (start
      { input := { buffer := "a\n".toList, chunks := ["5".toList, "x\n\nt\n".toList] }
        output := [] })).app.Proper := by
  refine proper_of_harmless plainTypes _ (.inl ?_) _
  have hlines : terminated '\n' (Source.remaining
      { buffer := "a\n".toList, chunks := ["5".toList, "x\n\nt\n".toList] }) =
      ["a".toList, "5x".toList, [], "t".toList] := by decide
  rw [hlines]
  intro line hline c hc
  simp only [List.mem_cons, List.not_mem_nil, or_false] at hline
  rcases hline with rfl | rfl | rfl | rfl
  · obtain rfl : MenuCommand.tcpConnect = c := Option.some.inj hc
    trivial
  · cases hc
  · cases hc
  · obtain rfl : MenuCommand.tcpDisconnect = c := Option.some.inj hc
    trivial

end AccessPoint.Client
