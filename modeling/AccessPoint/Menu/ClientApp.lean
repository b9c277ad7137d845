import AccessPoint.Lib.Managed
import AccessPoint.Lib.Throwing
import AccessPoint.Request.Config

/-!
# The client menu

`ClientApp` of `Linux.cpp`: a line at the menu runs one command, and the event loop may confirm a
disconnection in between. Three commands make a socket, an engine on it and sometimes a link; two
ways to disconnect release one. The four pointers are set and cleared on the way, and every command
tests some of them.

A call through a null pointer, and a request to an engine or a link whose socket has been released,
is a misuse, which ends the program here; who has released a socket stands in its record. A socket
counts as released from `ReleaseSocket` on. What a connection, the engine or the link has to say,
and what the user enters, is part of the event.
-/

namespace AccessPoint

open Throwing Managed

/-- Which manager has made a socket: `LinuxIP` or `LinuxSerial`. -/
inductive Manager where
  | ip
  | serial
  deriving DecidableEq, Repr

/-- The pointers of a `ClientApp`. -/
inductive Pointer where
  | clientEngine
  | socket
  | serialSocket
  | hdlc
  deriving DecidableEq, Repr

/-- A call through a null pointer, or one to an object whose socket has been released. -/
inductive Misuse where
  | null (pointer : Pointer)
  | released (pointer : Pointer)
  deriving DecidableEq, Repr

/-- Why the program has ended. -/
inductive Stop where
  | exit
  | exception
  | misuse (misuse : Misuse)
  deriving DecidableEq, Repr

/-- A `LinuxClientEngine`, with the socket under its transport. -/
structure LinuxClientEngine where
  socket : Handle
  deriving DecidableEq, Repr

/-- An `HDLCClientLLC`, with its socket. -/
structure HDLCClientLLC where
  socket : Handle
  deriving DecidableEq, Repr

/-- A `ClientApp`. `sockets` are all that have been made, and `disconnects` the disconnections
requested that the loop has not confirmed. -/
structure ClientApp where
  clientEngine : Option LinuxClientEngine
  socket : Option Handle
  serialSocket : Option Handle
  hdlc : Option HDLCClientLLC
  sockets : List (Object Manager)
  disconnects : Nat
  stopped : Option Stop
  deriving DecidableEq, Repr

/-- What a command finds: the results of `Open` and `IsConnected`, `IsTransportConnected` and
`IsOpen` of the engine, `IsConnected` of the link, the security level and whether the OBIS code
is well formed, and whether `Close` throws. -/
structure Answers where
  opened : Bool
  connected : Bool
  transportConnected : Bool
  engineOpen : Bool
  linkConnected : Bool
  security : Int
  parsed : Bool
  closeThrows : Bool
  deriving DecidableEq, Repr

/-- A line at the menu, or the confirmation of a disconnection. -/
inductive MenuEvent where
  | line (text : StdString) (answers : Answers)
  | confirm (answers : Answers)
  deriving DecidableEq, Repr

/-- The commands of the menu. It offers a Serial Wrapper Disconnect too, that no line is taken
for. -/
inductive MenuCommand where
  | exit
  | tcpConnect
  | hdlcPhysicalConnect
  | hdlcIdentify
  | hdlcDatalinkConnect
  | serialWrapperConnect
  | cosemOpen
  | cosemGet
  | cosemSet
  | cosemAction
  | cosemRelease
  | tcpDisconnect
  | hdlcDisconnect
  deriving DecidableEq, Repr

namespace ClientApp

/-- A new `ClientApp`. -/
def start : ClientApp :=
  { clientEngine := none, socket := none, serialSocket := none, hdlc := none, sockets := []
    disconnects := 0, stopped := none }

/-! ## What the commands do with the pointers -/

/-- A handler of the menu. -/
abbrev Handler := Call Stop ClientApp

/-- `CreateSocket` of a manager. -/
def createSocket (manager : Manager) : Handler Handle := do
  let handle ← .read (·.sockets.length)
  .assign fun s => { s with sockets := create manager s.sockets }
  return handle

/-- The socket of an object that is called has not been released. -/
def unreleased (pointer : Pointer) (handle : Handle) : Handler Unit := do
  if !live (← .read (·.sockets)) handle then throw (.misuse (.released pointer))

/-- A call on what a pointer points to. -/
def deref (pointer : Pointer) {α : Type} (value : ClientApp → Option α) : Handler α :=
  .require value (.misuse (.null pointer))

/-- A call on `m_pSocket` or `m_pSerialSocket`. -/
def callSocket (pointer : Pointer) (value : ClientApp → Option Handle) : Handler Unit := do
  let handle ← deref pointer value
  unreleased pointer handle

/-- A request to `m_pClientEngine`. -/
def driveEngine : Handler Unit := do
  let engine ← deref .clientEngine (·.clientEngine)
  unreleased .clientEngine engine.socket

/-- A request to `m_pHDLC`. -/
def driveHDLC : Handler Unit := do
  let link ← deref .hdlc (·.hdlc)
  unreleased .hdlc link.socket

/-- `ReleaseSocket` of a manager, which closes the socket and posts its removal. -/
def releaseSocket (manager : Manager) (pointer : Pointer) (value : ClientApp → Option Handle)
    (answers : Answers) : Handler Unit := do
  let handle ← deref pointer value
  .assign fun s => { s with sockets := release manager handle s.sockets }
  if answers.closeThrows then throw .exception

/-! ## The commands -/

/-- `A`, TCP Connect. -/
def tcpConnect : Handler Unit := do
  let handle ← createSocket .ip
  .assign fun s => { s with socket := some handle }
  .assign fun s => { s with clientEngine := some ⟨handle⟩ }
  callSocket .socket (·.socket)

/-- `B`, HDLC Physical Connect. -/
def hdlcPhysicalConnect (answers : Answers) : Handler Unit := do
  let handle ← createSocket .serial
  .assign fun s => { s with serialSocket := some handle }
  .assign fun s => { s with hdlc := some ⟨handle⟩ }
  .assign fun s => { s with clientEngine := some ⟨handle⟩ }
  callSocket .serialSocket (·.serialSocket)
  if answers.opened then .assign fun s => { s with socket := s.serialSocket }

/-- `C`, HDLC Identify. -/
def hdlcIdentify : Handler Unit := do
  if (← .read (·.hdlc)).isSome then driveHDLC

/-- `D`, HDLC Datalink Connect. -/
def hdlcDatalinkConnect (answers : Answers) : Handler Unit := do
  if (← .read (·.serialSocket)).isSome && (← .read (·.hdlc)).isSome then
    callSocket .serialSocket (·.serialSocket)
    if answers.connected then driveHDLC

/-- `E`, Serial Wrapper Connect. -/
def serialWrapperConnect : Handler Unit := do
  let handle ← createSocket .serial
  .assign fun s => { s with serialSocket := some handle }
  .assign fun s => { s with clientEngine := some ⟨handle⟩ }
  callSocket .serialSocket (·.serialSocket)
  .assign fun s => { s with socket := s.serialSocket }

/-- `1`, COSEM Open. The engine is asked whether or not the socket is connected. -/
def cosemOpen (answers : Answers) : Handler Unit := do
  if (← .read (·.socket)).isSome then
    callSocket .socket (·.socket)
    let _ ← deref .clientEngine (·.clientEngine)
    if answers.connected && answers.transportConnected then
      if answers.security = 0 || answers.security = 1 then driveEngine

/-- The commands that send a request on an association. -/
def cosemRequest (answers : Answers) : Handler Unit := do
  if (← .read (·.socket)).isSome then
    callSocket .socket (·.socket)
    if answers.connected then
      let _ ← deref .clientEngine (·.clientEngine)
      if answers.engineOpen then
        if answers.parsed then driveEngine

/-- `2`, COSEM Get. -/
def cosemGet : Answers → Handler Unit := cosemRequest

/-- `3`, COSEM Set. -/
def cosemSet : Answers → Handler Unit := cosemRequest

/-- `4`, COSEM Action. -/
def cosemAction : Answers → Handler Unit := cosemRequest

/-- `5`, COSEM Release, which tests nothing first. -/
def cosemRelease : Handler Unit :=
  driveEngine

/-- `T`, TCP Disconnect. -/
def tcpDisconnect (answers : Answers) : Handler Unit := do
  if (← .read (·.socket)).isSome then
    releaseSocket .ip .socket (·.socket) answers
    .assign fun s => { s with socket := none }

/-- `U`, HDLC Disconnect. -/
def hdlcDisconnect (answers : Answers) : Handler Unit := do
  if (← .read (·.hdlc)).isSome then
    if answers.linkConnected then
      driveHDLC
      .assign fun s => { s with disconnects := s.disconnects + 1 }

/-- `DisconnectConfirm`. -/
def disconnectConfirm (answers : Answers) : Handler Unit := do
  releaseSocket .serial .serialSocket (·.serialSocket) answers
  .assign fun s => { s with serialSocket := none, socket := none }

/-- `toupper` of the first character of a line; an empty line has the null character there. -/
def initial (line : StdString) : Char :=
  (line.headD '\x00').toUpper

/-- The command that `ClientMenu_Handler` takes a line for. -/
def command (line : StdString) : Option MenuCommand :=
  if line = ['0'] then some .exit
  else if initial line = 'A' then some .tcpConnect
  else if initial line = 'B' then some .hdlcPhysicalConnect
  else if initial line = 'C' then some .hdlcIdentify
  else if initial line = 'D' then some .hdlcDatalinkConnect
  else if initial line = 'E' then some .serialWrapperConnect
  else if line = ['1'] then some .cosemOpen
  else if line = ['2'] then some .cosemGet
  else if line = ['3'] then some .cosemSet
  else if line = ['4'] then some .cosemAction
  else if line = ['5'] then some .cosemRelease
  else if initial line = 'T' then some .tcpDisconnect
  else if initial line = 'U' then some .hdlcDisconnect
  else none

/-- `ClientMenu_Handler`. -/
def clientMenuHandler (line : StdString) (answers : Answers) : Handler Unit :=
  match command line with
  | some .exit => throw .exit
  | some .tcpConnect => tcpConnect
  | some .hdlcPhysicalConnect => hdlcPhysicalConnect answers
  | some .hdlcIdentify => hdlcIdentify
  | some .hdlcDatalinkConnect => hdlcDatalinkConnect answers
  | some .serialWrapperConnect => serialWrapperConnect
  | some .cosemOpen => cosemOpen answers
  | some .cosemGet => cosemGet answers
  | some .cosemSet => cosemSet answers
  | some .cosemAction => cosemAction answers
  | some .cosemRelease => cosemRelease
  | some .tcpDisconnect => tcpDisconnect answers
  | some .hdlcDisconnect => hdlcDisconnect answers
  | none => pure ()

/-- A handler runs, and the program ends where it throws. -/
def run (handler : Handler Unit) (s : ClientApp) : ClientApp :=
  match handler.at s with
  | (.ok _, s) => s
  | (.error stop, s) => { s with stopped := some stop }

/-- One event. A disconnection is confirmed when it has been requested. -/
def step (s : ClientApp) (event : MenuEvent) : ClientApp :=
  if s.stopped.isSome then s
  else
    match event with
    | .line text answers => run (clientMenuHandler text answers) s
    | .confirm answers =>
      if s.disconnects = 0 then s
      else run (disconnectConfirm answers) { s with disconnects := s.disconnects - 1 }

end ClientApp

end AccessPoint
