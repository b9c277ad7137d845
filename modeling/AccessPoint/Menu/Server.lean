import AccessPoint.Menu.Sheet

/-!
# The server

`ServerApp` of `Linux.cpp`: a menu with a command for each of the three things a server can listen
on. A command reads its prompts, makes an engine with a socket of its own, and opens that; the menu
comes back when it is done. Nothing is ever given back, and an engine stays when another is made.

The baud rate that is asked for is not a rate but an index into the table of `SetPortOptions`, which
is not checked: a port that opens with one outside the table is read past its end. The number that
is typed is cast to the enumeration that indexes the table; the enumeration is not part of the
repository, and the cast is the parameter `toBaudRate`.
-/

namespace AccessPoint

open Throwing Lines

/-- What an engine of the server listens on. -/
inductive Transport where
  | tcp
  | hdlc (serverAddress : Int) (serialPort : StdString) (baudRate : Int)
  | serialWrapper (serialPort : StdString) (baudRate : Int)
  deriving DecidableEq, Repr

/-- The number that was given for a baud rate. -/
def Transport.baudRate : Transport → Option Int
  | .tcp => none
  | .hdlc _ _ baudRate => some baudRate
  | .serialWrapper _ baudRate => some baudRate

/-- `BAUDS` of `SetPortOptions`. -/
def bauds : List Nat :=
  [300, 600, 1200, 1800, 2400, 4800, 9600, 19200, 38400, 57600, 115200, 230400, 460800, 500000,
    576000, 921600, 1152000, 1500000, 2000000, 2500000, 3000000, 3500000, 4000000]

/-- The entry with an index, if the table has it. -/
def rateAt (index : Int) : Option Nat :=
  if 0 ≤ index then bauds[index.toNat]? else none

/-- What a line of the menu finds: whether a serial port can be opened, and whether what comes
after that for its socket succeeds. -/
structure PortFound where
  portOpens : Bool
  opened : Bool
  deriving DecidableEq, Repr

/-- What ends the server: its first command, an exception, or a read past the table. -/
inductive ServerStop where
  | exit
  | exception
  | pastTable
  deriving DecidableEq, Repr

/-- A socket that is open, with the rate of a serial port. -/
structure OpenSocket where
  transport : Transport
  rate : Option Nat
  deriving DecidableEq, Repr

/-- The server: its console, its menu, the engines it has made and the serial ports and sockets that
have been opened for them. -/
structure ServerApp where
  console : Console
  menu : Menu
  engines : List Transport
  ports : List Transport
  sockets : List OpenSocket
  stopped : Option ServerStop
  deriving DecidableEq, Repr

/-- What the event loop runs: the menu, or its handler. -/
inductive ServerMenuEvent where
  | menu
  | line (found : PortFound)
  deriving DecidableEq, Repr

namespace ServerApp

open AppBase

/-- A new server at a console. -/
def start (console : Console) : ServerApp :=
  { console, menu := .posted, engines := [], ports := [], sockets := [], stopped := none }

/-! ## The commands -/

/-- The prompt for a baud rate. -/
def baudRateDialog : Dialog Int := do
  printLine "Initial Baud Rate Selection\n".toList
  printLine "\t6  - 9600\n".toList
  printLine "\t10 - 115200\n".toList
  getNumericInput "(Default: 6 - 9600)".toList 6

/-- The prompt for a serial port. -/
def serialPortDialog : Dialog StdString :=
  getStringInput "Serial Port (Default: /tmp/ttyS10)".toList "/tmp/ttyS10".toList

def tcpDialog : Dialog Transport := do
  printLine "\nTCP Server Mode - Listening on Port 4059\n".toList
  return .tcp

def hdlcDialog : Dialog Transport := do
  let serverAddress ← getNumericInput "Server Address (Default: 1)".toList 1
  let serialPort ← serialPortDialog
  let baudRate ← baudRateDialog
  printLine ("\nHDLC Server Mode - Listening on ".toList ++ serialPort ++ "\n".toList)
  return .hdlc serverAddress serialPort baudRate

def serialWrapperDialog : Dialog Transport := do
  let serialPort ← serialPortDialog
  let baudRate ← baudRateDialog
  printLine ("\nSerial Wrapper Server Mode - Listening on ".toList ++ serialPort ++ "\n".toList)
  return .serialWrapper serialPort baudRate

/-- A handler of the server. -/
abbrev Handler := Call ServerStop ServerApp

/-- A dialog at the console. The end of the input is an exception that nothing catches. -/
def talk {α : Type} (dialog : Dialog α) : Handler α :=
  .of fun s =>
    let (result, console) := dialog.at s.console
    (result.mapError fun _ => .exception, { s with console })

/-- A new engine, with its socket. -/
def createEngine (transport : Transport) : Handler Unit :=
  .assign fun s => { s with engines := s.engines ++ [transport] }

variable (toBaudRate : Int → Int)

/-- `SetPortOptions`, as far as the rate goes. -/
def setPortOptions (baudRate : Int) : Handler Nat :=
  match rateAt (toBaudRate baudRate) with
  | some rate => return rate
  | none => throw .pastTable

/-- `Open` of the socket of the newest engine. -/
def openSocket (transport : Transport) (found : PortFound) : Handler Bool :=
  match transport.baudRate with
  | none => do
    if found.opened then
      .assign fun s => { s with sockets := s.sockets ++ [{ transport, rate := none }] }
      return true
    else return false
  | some baudRate => do
    if found.portOpens then
      .assign fun s => { s with ports := s.ports ++ [transport] }
      let rate ← setPortOptions toBaudRate baudRate
      if found.opened then
        .assign fun s => { s with sockets := s.sockets ++ [{ transport, rate := some rate }] }
        return true
      else return false
    else return false

/-- What a command says when `Open` fails. -/
def failure : Transport → StdString
  | .tcp => "Failed to initiate listen\n".toList
  | _ => "Failed to initiate connect\n".toList

/-- A new engine, and its socket opened. -/
def listen (transport : Transport) (found : PortFound) : Handler Unit := do
  createEngine transport
  if ← openSocket toBaudRate transport found then return ()
  else talk (printLine (failure transport))

/-- A command, with its prompts. -/
def serve (dialog : Dialog Transport) (found : PortFound) : Handler Unit := do
  let transport ← talk dialog
  listen toBaudRate transport found

/-- `ServerMenu_Handler`, up to the post of the menu. -/
def serverMenuHandler (line : StdString) (found : PortFound) : Handler Unit :=
  if line = "0".toList then throw .exit
  else if line = "1".toList then serve toBaudRate tcpDialog found
  else if line = "2".toList then serve toBaudRate hdlcDialog found
  else if line = "3".toList then serve toBaudRate serialWrapperDialog found
  else return ()

/-- What `ServerMenu` prints. -/
def menuText : StdString :=
  ["\nServer Menu:\n\n", "\t0 - Exit Application\n", "\t1 - TCP Server\n", "\t2 - HDLC Server\n",
    "\t3 - Serial Wrapper Server\n\n", "Select: "].flatMap String.toList

/-- A handler runs, and the program ends where it throws. -/
def run (handler : Handler Unit) (s : ServerApp) : ServerApp :=
  match handler.at s with
  | (.ok _, s) => s
  | (.error stop, s) => { s with stopped := some stop }

/-- One event. -/
def step (s : ServerApp) (event : ServerMenuEvent) : ServerApp :=
  if s.stopped.isSome then s
  else
    match event with
    | .menu =>
      if s.menu = .posted then run (talk (printLine menuText)) { s with menu := .reading } else s
    | .line found =>
      if s.menu = .reading then
        match hear s.console .readLine with
        | (some line, console) =>
          run (serverMenuHandler toBaudRate line found) { s with console, menu := .posted }
        | (none, console) => { s with console, menu := .ended }
      else s

end ServerApp

end AccessPoint
