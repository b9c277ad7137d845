import AccessPoint.Lib.IoService
import AccessPoint.Request.Config

/-!
# One round of readings

`runScript` reads the registered meters one after the other. For each it makes an `APsim` on
the one `LinuxBaseLibrary`, which opens a client socket; drives the shared `io_service` with
`poll()` until the meter is connected or the tries are used up; asks for the payload; saves
what has arrived; and destroys the `APsim`, which closes the socket and posts its removal.

The network is data: a `Meter` says after how many polls its name resolves, to which
endpoints, which of them accept and after how many polls, and what the meter sends when it
is asked. The transport and the client engine are not part of the repository. Of the
transport it is assumed that it registers a connect callback and, once connected, keeps one
asynchronous read outstanding until the socket is closed; of the engine, that `Open` asks for
an association, that it is open when the meter has granted one, that it sends each Get it is
given while it is open, and that it hands a Get response to `OnGetConfirmation`.

A handler whose socket has been removed finds freed memory. It does nothing here, as the
handler of a failed resolution does, which touches no member. The read that the closing of the
socket aborts calls the close callback of a transport that has been deleted with its `APsim`;
that call is taken to do nothing too. A meter does not end a connection that it has granted.
-/

namespace AccessPoint.Script

open IoService

/-- An endpoint a name resolves to: the polls before a connect to it completes, and how. -/
structure Endpoint where
  wait : Nat
  accepts : Bool
  deriving DecidableEq, Repr

/-- How a meter behaves. A name that does not resolve has no endpoints; a meter that stays
silent grants no association or gives no answer. `answer` is by OBIS code. -/
structure Meter where
  name : StdString
  resolution : Nat
  endpoints : List Endpoint
  association : Option Nat
  answer : StdString → Option (Nat × StdString)

/-- What a meter sends. -/
inductive Apdu where
  | associated
  | value (text : StdString)
  deriving DecidableEq, Repr

/-- A completion handler, with the socket it is bound to. `it` is the rest of the endpoint
list. A read that is aborted, or for which nothing has been sent, has nothing arrived. -/
inductive Handler where
  | resolver (socket : Nat) (it : List Endpoint)
  | connect (socket : Nat) (accepted : Bool) (it : List Endpoint)
  | read (socket : Nat) (arrived : Option Apdu)
  | removeSocket (socket : Nat)
  deriving DecidableEq, Repr

/-- The socket a handler is bound to. -/
def Handler.socket : Handler → Nat
  | .resolver socket _ => socket
  | .connect socket _ _ => socket
  | .read socket _ => socket
  | .removeSocket socket => socket

/-- An `APsim`: its socket, whether that is open, and what its engine knows. -/
structure APsim where
  socket : Nat
  isOpen : Bool
  transportConnected : Bool
  engineOpen : Bool
  recent : StdString
  deriving DecidableEq, Repr

/-- The sockets of the `LinuxBaseLibrary`, numbered as they are created, and the `APsim` at
work, or the last one that was. -/
structure Library where
  sockets : List Nat
  nextSocket : Nat
  apsim : APsim
  deriving DecidableEq, Repr

/-- The library and the operations outstanding on its `io_service`. -/
abbrev Service := Library × List (Operation Handler)

/-- An `APsim` just made, before its `Open`. -/
def APsim.fresh (socket : Nat) : APsim :=
  { socket, isOpen := false, transportConnected := false, engineOpen := false, recent := [] }

/-- `is_open()` of a socket, kept for the `APsim` at work. -/
def Library.setOpen (lib : Library) (socket : Nat) (isOpen : Bool) : Library :=
  if lib.apsim.socket = socket then { lib with apsim := { lib.apsim with isOpen } } else lib

@[simp] theorem Library.setOpen_sockets (lib : Library) (socket : Nat) (isOpen : Bool) :
    (lib.setOpen socket isOpen).sockets = lib.sockets := by
  unfold setOpen
  split
  next => rfl
  next => rfl

@[simp] theorem Library.setOpen_nextSocket (lib : Library) (socket : Nat) (isOpen : Bool) :
    (lib.setOpen socket isOpen).nextSocket = lib.nextSocket := by
  unfold setOpen
  split
  next => rfl
  next => rfl

/-! ## The socket -/

/-- Closing a socket completes its connect or read with `operation_aborted`. -/
def abort (socket : Nat) (op : Operation Handler) : Operation Handler :=
  match op.handler with
  | .connect s _ it =>
    if s = socket then { wait := some 0, handler := .connect s false it } else op
  | .read s _ => if s = socket then { wait := some 0, handler := .read s none } else op
  | .resolver _ _ => op
  | .removeSocket _ => op

/-- `m_Socket.close()`. -/
def closeSocket (socket : Nat) (s : Service) : Service :=
  (s.1.setOpen socket false, s.2.map (abort socket))

/-- `m_Socket.async_connect`. -/
def asyncConnect (socket : Nat) (endpoint : Endpoint) (it : List Endpoint) (s : Service) :
    Service :=
  (s.1.setOpen socket true,
    s.2 ++ [{ wait := some endpoint.wait, handler := .connect socket endpoint.accepts it }])

/-- `ASIO_Resolver_Handler`. -/
def resolverHandler (socket : Nat) (it : List Endpoint) (s : Service) : Service :=
  match it with
  | [] => s
  | endpoint :: it => asyncConnect socket endpoint it s

/-- The read the transport keeps outstanding. -/
def awaiting (socket : Nat) : Operation Handler :=
  { wait := none, handler := .read socket none }

/-- `ASIO_Connect_Handler`, with the transport's connect callback. -/
def connectHandler (socket : Nat) (accepted : Bool) (it : List Endpoint) (s : Service) : Service :=
  if accepted then
    if socket = s.1.apsim.socket then
      ({ s.1 with apsim := { s.1.apsim with transportConnected := true } },
        s.2 ++ [awaiting socket])
    else s
  else
    match it with
    | [] => s
    | endpoint :: it => asyncConnect socket endpoint it (closeSocket socket s)

/-- What the engine makes of an APDU. The second case is `OnGetConfirmation`. -/
def APsim.confirm (apsim : APsim) : Apdu → APsim
  | .associated => { apsim with engineOpen := true }
  | .value text => { apsim with recent := text }

/-- `ASIO_Read_Handler`, with the transport's read callback. -/
def readHandler (socket : Nat) (arrived : Option Apdu) (s : Service) : Service :=
  match arrived with
  | none => s
  | some apdu =>
    if socket = s.1.apsim.socket then
      ({ s.1 with apsim := s.1.apsim.confirm apdu }, s.2 ++ [awaiting socket])
    else s

/-- `LinuxIP::RemoveSocket`. -/
def removeSocket (socket : Nat) (s : Service) : Service :=
  ({ s.1 with sockets := s.1.sockets.filter (· ≠ socket) }, s.2.map (abort socket))

/-- A completion handler. -/
def run (handler : Handler) (s : Service) : Service :=
  if handler.socket ∈ s.1.sockets then
    match handler with
    | .resolver socket it => resolverHandler socket it s
    | .connect socket accepted it => connectHandler socket accepted it s
    | .read socket arrived => readHandler socket arrived s
    | .removeSocket socket => removeSocket socket s
  else s

theorem run_of_gone {handler : Handler} {s : Service} (h : handler.socket ∉ s.1.sockets) :
    run handler s = s :=
  if_neg h

/-! ## The client -/

/-- A `LinuxBaseLibrary` just made. -/
def fresh : Loop Library Handler :=
  { state := { sockets := [], nextSocket := 1, apsim := APsim.fresh 0 }
    outstanding := []
    stopped := false }

/-- `APsim::APsim`: `CreateSocket`, and `Open`, which closes the new socket and starts the
resolution. -/
def construct (meter : Meter) (w : Loop Library Handler) : Loop Library Handler :=
  let socket := w.state.nextSocket
  { w with
    state :=
      { sockets := socket :: w.state.sockets
        nextSocket := socket + 1
        apsim := APsim.fresh socket }
    outstanding := w.outstanding ++
      [{ wait := some meter.resolution, handler := .resolver socket meter.endpoints }] }

/-- The meter sends something: the read outstanding on the socket will find it. -/
def arrive (socket wait : Nat) (apdu : Apdu) (op : Operation Handler) : Operation Handler :=
  if op = awaiting socket then { wait := some wait, handler := .read socket (some apdu) } else op

/-- The meter's reaction to a request, if it has one. -/
def respond (reaction : Option (Nat × Apdu)) (w : Loop Library Handler) : Loop Library Handler :=
  match reaction with
  | none => w
  | some (wait, apdu) =>
    { w with outstanding := w.outstanding.map (arrive w.state.apsim.socket wait apdu) }

/-- What the association request leads to. -/
def Meter.onOpen (meter : Meter) : Option (Nat × Apdu) :=
  meter.association.map fun wait => (wait, .associated)

/-- What the Get request leads to. -/
def Meter.onGet (meter : Meter) (obis : StdString) : Option (Nat × Apdu) :=
  (meter.answer obis).map fun answer => (answer.1, .value answer.2)

/-- `max_tries`. -/
def maxTries : Nat := 400

/-- The loop of `APsim::open`, with the tries it has left. -/
def tryOpen (meter : Meter) : Nat → Loop Library Handler → Loop Library Handler × Bool
  | 0, w => (w, false)
  | tries + 1, w =>
    let w := poll run w
    if w.state.apsim.isOpen && w.state.apsim.transportConnected then (respond meter.onOpen w, true)
    else tryOpen meter tries w

/-- `APsim::Get`. -/
def get (meter : Meter) (obis : StdString) (w : Loop Library Handler) :
    Loop Library Handler × Bool :=
  let w := poll run w
  if w.state.apsim.isOpen && w.state.apsim.engineOpen then (respond (meter.onGet obis) w, true)
  else (w, false)

/-- `APsim::close`. What the meter sends back on the release comes after the reading has been
saved. -/
def close (w : Loop Library Handler) : Loop Library Handler :=
  poll run w

/-- `LinuxIP::ReleaseSocket`. -/
def releaseSocket (w : Loop Library Handler) : Loop Library Handler :=
  let socket := w.state.apsim.socket
  let s := closeSocket socket (w.state, w.outstanding)
  { w with
    state := s.1
    outstanding := s.2 ++ [{ wait := some 0, handler := .removeSocket socket }] }

/-- `APsim::~APsim`. -/
def destroy (w : Loop Library Handler) : Loop Library Handler :=
  releaseSocket (poll run w)

/-- `MeterReading`. -/
structure MeterReading where
  meterAddr : StdString
  meterData : StdString
  deriving DecidableEq, Repr

/-- The body of `runScript`'s loop. -/
def readMeter (payload : Config.Payload) (meter : Meter) (w : Loop Library Handler) :
    Loop Library Handler × MeterReading :=
  let w := construct meter w
  let w := (tryOpen meter maxTries w).1
  let w := (get meter (objectFor payload) w).1
  let w := close w
  (destroy w, { meterAddr := meter.name, meterData := w.state.apsim.recent })

/-- `runScript`. -/
def runScript (payload : Config.Payload) :
    List Meter → Loop Library Handler → Loop Library Handler × List MeterReading
  | [], w => (w, [])
  | meter :: meters, w =>
    let first := readMeter payload meter w
    let rest := runScript payload meters first.1
    (rest.1, first.2 :: rest.2)

/-- The rounds of `main`, each with the payload size and the meters of its `Config`. -/
def runRounds :
    List (Config.Payload × List Meter) → Loop Library Handler → List (List MeterReading)
  | [], _ => []
  | (payload, meters) :: rounds, w =>
    let round := runScript payload meters w
    round.2 :: runRounds rounds round.1

end AccessPoint.Script
