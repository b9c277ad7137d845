import AccessPoint.Menu.ClientMenu
import AccessPoint.Menu.Console

/-!
# The client and its user

`ClientApp` of `Linux.cpp` as its user meets it: what the menu and the commands print, the prompts
they read, with what they test before and what they ask of the sockets, the engine and the link
after. What that does to the pointers is `AccessPoint.Menu.ClientApp`'s.

A command tests, and says so if the test fails; it reads its prompts; and with what it has read it
makes one demand, unless the prompts came to nothing. The menu reads a line, runs its command, and
comes back when that is done. An end of the input inside a command ends the program, and one at the
menu leaves it waiting. What the values of the prompts are cast to is the library's.
-/

namespace AccessPoint

open Throwing

/-- What the library makes of what is entered: the casts to `ClassIDType` and
`ObjectAttributeIdType`, `Parse`, and the ids that two prompts have as their defaults. -/
structure CosemTypes (ClassId AttributeId Obis : Type) where
  classId : Int → ClassId
  attributeId : Int → AttributeId
  parse : StdString → Option Obis
  clsidIData : Int
  clsidIClock : Int

/-- What a command asks for. -/
inductive Demand (ClassId AttributeId Obis : Type) where
  | tcpConnect (sourceAddress : Int) (tcpAddress : StdString)
  | hdlcPhysicalConnect (sourceAddress : Int) (serialPort : StdString) (baudRate : Int)
  | hdlcIdentify
  | hdlcDatalinkConnect (destinationAddress : Int)
  | serialWrapperConnect (sourceAddress : Int) (serialPort : StdString) (baudRate : Int)
  | cosemOpen (destinationAddress : Int) (password : Option StdString) (apduSize : UInt64)
  | cosemGet (classId : ClassId) (attributeId : AttributeId) (instanceId : Obis)
  | cosemSet (classId : ClassId) (attributeId : AttributeId) (instanceId : Obis)
      (value : StdString)
  | cosemAction (classId : ClassId) (methodId : AttributeId) (instanceId : Obis) (parameter : Int)
  | cosemRelease
  | tcpDisconnect
  | hdlcDisconnect
  deriving DecidableEq, Repr

/-- What a command finds: the results of `Open`, of the two `IsConnected`, `IsTransportConnected`
and `IsOpen`, the token of a request that is sent, the result of `Release`, and whether `Close`
throws. -/
structure Found where
  opened : Bool
  connected : Bool
  transportConnected : Bool
  engineOpen : Bool
  linkConnected : Bool
  token : Option Nat
  released : Bool
  closeThrows : Bool
  deriving DecidableEq, Repr

/-- To the pointers the prompts matter only as far as they come to a demand. -/
def Found.answers (found : Found) (sent : Bool) : Answers :=
  { opened := found.opened
    connected := found.connected
    transportConnected := found.transportConnected
    engineOpen := found.engineOpen
    linkConnected := found.linkConnected
    security := if sent then 0 else 2
    parsed := sent
    closeThrows := found.closeThrows }

variable {ClassId AttributeId Obis : Type}

/-- The client, with its console and what has been asked for so far. -/
structure Client (ClassId AttributeId Obis : Type) where
  console : Console
  app : ClientApp
  menu : Menu
  demands : List (Demand ClassId AttributeId Obis)

/-- What the event loop runs: the menu, its handler, or the confirmation of a disconnection. -/
inductive ClientEvent where
  | menu
  | line (found : Found)
  | confirm (found : Found)
  deriving DecidableEq, Repr

/-- A command: what it tests and what it says if that fails, its prompts, the calls it makes for
what is asked and what it says afterwards. -/
structure ClientCommand (ClassId AttributeId Obis : Type) where
  test : ClientApp.Handler Bool
  refusal : StdString
  dialog : AppBase.Dialog (Option (Demand ClassId AttributeId Obis))
  call : ClientApp.Handler Unit
  remark : StdString

namespace Client

open AppBase ClientApp

/-- A new client at a console. -/
def start (console : Console) : Client ClassId AttributeId Obis :=
  { console, app := .start, menu := .posted, demands := [] }

/-! ## The prompts -/

section Dialogs

variable (types : CosemTypes ClassId AttributeId Obis)

def tcpConnectDialog : Dialog (Option (Demand ClassId AttributeId Obis)) := do
  let sourceAddress ← getNumericInput "Client Address (Default: 1)".toList 1
  let tcpAddress ←
    getStringInput "Destination TCP Address (Default: localhost)".toList "localhost".toList
  return some (.tcpConnect sourceAddress tcpAddress)

/-- The prompts of both serial connects. -/
def serialDialog (demand : Int → StdString → Int → Demand ClassId AttributeId Obis) :
    Dialog (Option (Demand ClassId AttributeId Obis)) := do
  let sourceAddress ← getNumericInput "Client Address (Default: 1)".toList 1
  let serialPort ←
    getStringInput "Serial Port (Default: /tmp/ttyS11)".toList "/tmp/ttyS11".toList
  printLine "Initial Baud Rate Selection\n".toList
  printLine "\t6  - 9600\n".toList
  printLine "\t10 - 115200\n".toList
  let baudRate ← getNumericInput "(Default: 6 - 9600)".toList 6
  return some (demand sourceAddress serialPort baudRate)

def hdlcDatalinkConnectDialog : Dialog (Option (Demand ClassId AttributeId Obis)) := do
  let destinationAddress ← getNumericInput "Destination Address (Default: 1)".toList 1
  return some (.hdlcDatalinkConnect destinationAddress)

/-- The last prompt of an open. The size goes to a `size_t`. -/
def openDialog (destinationAddress : Int) (password : Option StdString) :
    Dialog (Option (Demand ClassId AttributeId Obis)) := do
  let apduSize ← getNumericInput "APDU Size (Default: 640)".toList 640
  return some (.cosemOpen destinationAddress password (UInt64.ofInt apduSize))

def cosemOpenDialog : Dialog (Option (Demand ClassId AttributeId Obis)) := do
  let destinationAddress ← getNumericInput "Server Address (Default: 1)".toList 1
  let security ←
    getNumericInput "Security Level [0 - None, 1 - Low, 2 - High] (Default: 0)".toList 0
  if security = 0 then openDialog destinationAddress none
  else if security = 1 then
    let password ← getStringInput "Password".toList []
    openDialog destinationAddress (some password)
  else
    printLine "Security Level is Not Supported at This Time".toList
    return none

/-- The prompt for an OBIS code, and what follows when it can be parsed. -/
def obisDialog (default : StdString)
    (next : Obis → Dialog (Option (Demand ClassId AttributeId Obis))) :
    Dialog (Option (Demand ClassId AttributeId Obis)) := do
  let code ← getStringInput ("OBIS Code (Default: ".toList ++ default ++ ")".toList) default
  match types.parse code with
  | some instanceId => next instanceId
  | none =>
    printLine "Malformed OBIS Code!\n".toList
    return none

def cosemGetDialog : Dialog (Option (Demand ClassId AttributeId Obis)) := do
  let classId ← getNumericInput "Class ID (Default: 1)".toList types.clsidIData
  let attributeId ← getNumericInput "Attribute (Default: 2)".toList 2
  obisDialog types "0-0:96.1.0*255".toList fun instanceId => do
    return some (.cosemGet (types.classId classId) (types.attributeId attributeId) instanceId)

def cosemSetDialog : Dialog (Option (Demand ClassId AttributeId Obis)) := do
  let classId ← getNumericInput "Class ID (Default: 1)".toList types.clsidIData
  let attributeId ← getNumericInput "Attribute (Default: 2)".toList 2
  obisDialog types "0-0:96.1.0*255".toList fun instanceId => do
    let value ← getStringInput "Value (Default: LINUXDATA)".toList "LINUXDATA#".toList
    return some
      (.cosemSet (types.classId classId) (types.attributeId attributeId) instanceId value)

def cosemActionDialog : Dialog (Option (Demand ClassId AttributeId Obis)) := do
  let classId ← getNumericInput "Class ID (Default: 8)".toList types.clsidIClock
  let methodId ← getNumericInput "Method (Default: 1)".toList 1
  obisDialog types "0-0:1.0.0*255".toList fun instanceId => do
    let parameter ← getNumericInput "Parameter (Default: 1)".toList 1
    return some
      (.cosemAction (types.classId classId) (types.attributeId methodId) instanceId parameter)

end Dialogs

/-! ## The commands -/

/-- A command without a test. -/
def always : ClientApp.Handler Bool :=
  return true

/-- What a connect command says when `Open` fails. -/
def failedRemark (found : Found) : StdString :=
  if found.opened then [] else "Failed to initiate connect\n".toList

def tcpConnect (found : Found) : ClientCommand ClassId AttributeId Obis :=
  { test := always
    refusal := []
    dialog := tcpConnectDialog
    call := ClientApp.tcpConnect
    remark := failedRemark found }

def hdlcPhysicalConnect (found : Found) : ClientCommand ClassId AttributeId Obis :=
  { test := always
    refusal := []
    dialog := serialDialog .hdlcPhysicalConnect
    call := ClientApp.hdlcPhysicalConnect (found.answers true)
    remark := failedRemark found }

def serialWrapperConnect (found : Found) : ClientCommand ClassId AttributeId Obis :=
  { test := always
    refusal := []
    dialog := serialDialog .serialWrapperConnect
    call := ClientApp.serialWrapperConnect
    remark := failedRemark found }

def hdlcIdentify : ClientCommand ClassId AttributeId Obis :=
  { test := do return (← .read (·.hdlc)).isSome
    refusal := "Physical Connection Not Established Yet!\n".toList
    dialog := return some .hdlcIdentify
    call := driveHDLC
    remark := [] }

def hdlcDatalinkConnect (found : Found) : ClientCommand ClassId AttributeId Obis :=
  { test := do
      if (← .read (·.serialSocket)).isSome && (← .read (·.hdlc)).isSome then
        callSocket .serialSocket (·.serialSocket)
        return found.connected
      else return false
    refusal := "Physical Connection Not Established Yet!\n".toList
    dialog := hdlcDatalinkConnectDialog
    call := driveHDLC
    remark := [] }

/-- The engine is asked whether or not the socket is connected. -/
def cosemOpen (found : Found) : ClientCommand ClassId AttributeId Obis :=
  { test := do
      if (← .read (·.socket)).isSome then
        callSocket .socket (·.socket)
        let _ ← deref .clientEngine (·.clientEngine)
        return found.connected && found.transportConnected
      else return false
    refusal := "Transport Connection Not Established Yet!\n".toList
    dialog := cosemOpenDialog
    call := driveEngine
    remark := [] }

/-- A request on an association. -/
def cosemRequest (found : Found) (name : StdString)
    (dialog : Dialog (Option (Demand ClassId AttributeId Obis))) :
    ClientCommand ClassId AttributeId Obis :=
  { test := do
      if (← .read (·.socket)).isSome then
        callSocket .socket (·.socket)
        if found.connected then
          let _ ← deref .clientEngine (·.clientEngine)
          return found.engineOpen
        else return false
      else return false
    refusal := "Not Connected!\n".toList
    dialog
    call := driveEngine
    remark :=
      match found.token with
      | some token =>
        "\t".toList ++ name ++ " Request Sent: Token ".toList ++ Nat.toDigits 10 token ++ ['\n']
      | none => [] }

def cosemGet (types : CosemTypes ClassId AttributeId Obis) (found : Found) :
    ClientCommand ClassId AttributeId Obis :=
  cosemRequest found "Get".toList (cosemGetDialog types)

def cosemSet (types : CosemTypes ClassId AttributeId Obis) (found : Found) :
    ClientCommand ClassId AttributeId Obis :=
  cosemRequest found "Set".toList (cosemSetDialog types)

def cosemAction (types : CosemTypes ClassId AttributeId Obis) (found : Found) :
    ClientCommand ClassId AttributeId Obis :=
  cosemRequest found "Action".toList (cosemActionDialog types)

def cosemRelease (found : Found) : ClientCommand ClassId AttributeId Obis :=
  { test := always
    refusal := []
    dialog := return some .cosemRelease
    call := driveEngine
    remark := if found.released then [] else "Problem submitting COSEM Release!\n".toList }

def tcpDisconnect (found : Found) : ClientCommand ClassId AttributeId Obis :=
  { test := do return (← .read (·.socket)).isSome
    refusal := "TCP Not Opened!\n".toList
    dialog := return some .tcpDisconnect
    call := do
      releaseSocket .ip .socket (·.socket) (found.answers true)
      .assign fun s => { s with socket := none }
    remark := "Socket released.\n".toList }

def hdlcDisconnect (found : Found) : ClientCommand ClassId AttributeId Obis :=
  { test := do
      if (← .read (·.hdlc)).isSome then return found.linkConnected else return false
    refusal := "HDLC Not Connected!\n".toList
    dialog := return some .hdlcDisconnect
    call := do
      driveHDLC
      .assign fun s => { s with disconnects := s.disconnects + 1 }
    remark := [] }

/-! ## The menu -/

/-- A handler of the client. -/
abbrev Handler (ClassId AttributeId Obis : Type) :=
  Call Stop (Client ClassId AttributeId Obis)

/-- A dialog at the console. The end of the input is an exception that nothing catches. -/
def talk {α : Type} (dialog : Dialog α) : Handler ClassId AttributeId Obis α :=
  .of fun s =>
    match dialog.at s.console with
    | (.ok value, console) => (.ok value, { s with console })
    | (.error .endOfFile, console) => (.error .exception, { s with console })

/-- Calls on the pointers. -/
def touch {α : Type} (call : ClientApp.Handler α) : Handler ClassId AttributeId Obis α :=
  .focus (·.app) (fun app s => { s with app }) call

/-- Put on the record. -/
def record (demand : Demand ClassId AttributeId Obis) : Handler ClassId AttributeId Obis Unit :=
  .assign fun s => { s with demands := s.demands ++ [demand] }

/-- A command runs. -/
def perform (c : ClientCommand ClassId AttributeId Obis) :
    Handler ClassId AttributeId Obis Unit := do
  if ← touch c.test then
    match ← talk c.dialog with
    | some demand =>
      touch c.call
      record demand
      talk (printLine c.remark)
    | none => return ()
  else talk (printLine c.refusal)

variable (types : CosemTypes ClassId AttributeId Obis)

/-- The commands but the first, which ends the program. -/
def clientCommand (found : Found) :
    MenuCommand → Option (ClientCommand ClassId AttributeId Obis)
  | .exit => none
  | .tcpConnect => some (tcpConnect found)
  | .hdlcPhysicalConnect => some (hdlcPhysicalConnect found)
  | .hdlcIdentify => some hdlcIdentify
  | .hdlcDatalinkConnect => some (hdlcDatalinkConnect found)
  | .serialWrapperConnect => some (serialWrapperConnect found)
  | .cosemOpen => some (cosemOpen found)
  | .cosemGet => some (cosemGet types found)
  | .cosemSet => some (cosemSet types found)
  | .cosemAction => some (cosemAction types found)
  | .cosemRelease => some (cosemRelease found)
  | .tcpDisconnect => some (tcpDisconnect found)
  | .hdlcDisconnect => some (hdlcDisconnect found)

/-- `ClientMenu_Handler`, up to the post of the menu. -/
def clientMenuHandler (line : StdString) (found : Found) :
    Handler ClassId AttributeId Obis Unit :=
  match command line with
  | some c =>
    match clientCommand types found c with
    | some c => perform c
    | none => throw .exit
  | none => pure ()

/-- `DisconnectConfirm`. -/
def disconnectConfirm (found : Found) : Handler ClassId AttributeId Obis Unit := do
  touch (ClientApp.disconnectConfirm (found.answers true))
  talk (printLine "Serial released.".toList)

/-- What `ClientMenu` prints. -/
def menuText : StdString :=
  ["\nClient Menu:\n\n", "\t0 - Exit Application\n", "\tA - TCP Connect\n",
    "\tB - HDLC Physical Connect\n", "\tC - HDLC Identify\n", "\tD - HDLC Datalink Connect\n",
    "\tE - Serial Wrapper Connect\n", "\n", "\t1 - COSEM Open\n", "\t2 - COSEM Get\n",
    "\t3 - COSEM Set\n", "\t4 - COSEM Action\n", "\t5 - COSEM Release\n", "\n",
    "\tT - TCP Disconnect\n", "\tU - HDLC Disconnect\n", "\tV - Serial Wrapper Disconnect\n",
    "\nSelect: "].flatMap String.toList

/-- A handler runs, and the program ends where it throws. -/
def run (handler : Handler ClassId AttributeId Obis Unit) (s : Client ClassId AttributeId Obis) :
    Client ClassId AttributeId Obis :=
  match handler.at s with
  | (.ok _, s) => s
  | (.error stop, s) => { s with app := { s.app with stopped := some stop } }

/-- One event. -/
def step (s : Client ClassId AttributeId Obis) (event : ClientEvent) :
    Client ClassId AttributeId Obis :=
  if s.app.stopped.isSome then s
  else
    match event with
    | .menu =>
      if s.menu = .posted then run (talk (printLine menuText)) { s with menu := .reading } else s
    | .line found =>
      if s.menu = .reading then
        match hear s.console .readLine with
        | (some line, console) =>
          run (clientMenuHandler types line found) { s with console, menu := .posted }
        | (none, console) => { s with console, menu := .ended }
      else s
    | .confirm found =>
      if s.app.disconnects = 0 then s
      else
        run (disconnectConfirm found)
          { s with app := { s.app with disconnects := s.app.disconnects - 1 } }

end Client

end AccessPoint
