import AccessPoint.Lib.Run
import AccessPoint.Menu.Server

/-!
# What the server makes of its input

`Served` is a server without a console: a list of lines, of which every turn takes one for the menu
and those that its command reads. The rounds of the menu are the turns of that model, however the
text is cut and however often a prompt asks (`lines_tell`). What holds of the turns then holds of
the server: each open socket is the one of its own engine, and the only way past the table of rates
is a number that is not in it, for a port that opens (`sound_run`).
-/

namespace AccessPoint

open Throwing Lines

/-- A server without its console: the lines that are left, whether one was missed, what it has
made and opened, and how it has ended. -/
structure Served where
  lines : List StdString
  missed : Bool
  engines : List Transport
  ports : List Transport
  sockets : List OpenSocket
  stopped : Option ServerStop
  deriving DecidableEq, Repr

namespace Served

open AppBase

/-- What the lines behind a command are read as. -/
def reading (line : StdString) : Option (Reading Transport) :=
  if line = "1".toList then some (pure .tcp)
  else if line = "2".toList then
    some do
      let serverAddress ← Reading.number 1
      let serialPort ← Reading.text "/tmp/ttyS10".toList
      let baudRate ← Reading.number 6
      return .hdlc serverAddress serialPort baudRate
  else if line = "3".toList then
    some do
      let serialPort ← Reading.text "/tmp/ttyS10".toList
      let baudRate ← Reading.number 6
      return .serialWrapper serialPort baudRate
  else none

variable (toBaudRate : Int → Int)

/-- An engine, and its socket if that opens. -/
def engine (s : Served) (transport : Transport) (found : PortFound) : Served :=
  let made := { s with engines := s.engines ++ [transport] }
  match transport.baudRate with
  | none =>
    if found.opened then { made with sockets := made.sockets ++ [{ transport, rate := none }] }
    else made
  | some baudRate =>
    if found.portOpens then
      let port := { made with ports := made.ports ++ [transport] }
      match rateAt (toBaudRate baudRate) with
      | none => { port with stopped := some .pastTable }
      | some rate =>
        if found.opened then
          { port with sockets := port.sockets ++ [{ transport, rate := some rate }] }
        else port
    else made

/-- One line of the menu, with those behind it that its command takes. -/
def turn (s : Served) (found : PortFound) : Served :=
  if s.stopped.isSome then s
  else
    match s.lines with
    | [] => { s with missed := true }
    | line :: lines =>
      if line = "0".toList then { s with lines, stopped := some .exit }
      else
        match reading line with
        | none => { s with lines }
        | some parameters =>
          match parameters.run lines with
          | none => { s with lines := [], stopped := some .exception }
          | some (transport, rest) => engine toBaudRate { s with lines := rest } transport found

/-- The number for the rate of a port is no index of the table. -/
def PastTable (port : Transport) : Prop :=
  ∃ baudRate, port.baudRate = some baudRate ∧ rateAt (toBaudRate baudRate) = none

/-- Every port and every open socket is the one of its own engine, with the rate that the table has
for it; and the program reads past the table when it opens a port whose rate is not there. -/
structure Sound (s : Served) : Prop where
  ports : s.ports.Sublist s.engines
  sockets : (s.sockets.map (·.transport)).Sublist s.engines
  rates : ∀ socket ∈ s.sockets,
    socket.rate = socket.transport.baudRate.bind fun baudRate => rateAt (toBaudRate baudRate)
  past : s.stopped = some .pastTable ↔ ∃ port ∈ s.ports, PastTable toBaudRate port

variable {toBaudRate} {s : Served}

theorem Sound.calm (h : Sound toBaudRate s) (hstopped : s.stopped = none) :
    ∀ port ∈ s.ports, ¬ PastTable toBaudRate port := by
  intro port hport hpast
  have hread := h.past.mpr ⟨port, hport, hpast⟩
  rw [hstopped] at hread
  cases hread

/-- Another engine. -/
theorem Sound.made (h : Sound toBaudRate s) (transport : Transport) :
    Sound toBaudRate { s with engines := s.engines ++ [transport] } :=
  { ports := h.ports.trans (List.sublist_append_left _ _)
    sockets := h.sockets.trans (List.sublist_append_left _ _)
    rates := h.rates
    past := h.past }

/-- Its port, if the table has a rate for it. -/
theorem Sound.port (h : Sound toBaudRate s) (hstopped : s.stopped = none) {transport : Transport}
    (hpast : ¬ PastTable toBaudRate transport) :
    Sound toBaudRate
      { s with engines := s.engines ++ [transport], ports := s.ports ++ [transport] } :=
  { ports := h.ports.append (List.Sublist.refl _)
    sockets := h.sockets.trans (List.sublist_append_left _ _)
    rates := h.rates
    past := by
      refine iff_of_false (fun hread => ?_) ?_
      · cases hstopped.symm.trans hread
      · rintro ⟨port, hport, hbeyond⟩
        rcases List.mem_append.mp hport with hport | hport
        · exact h.calm hstopped port hport hbeyond
        · exact hpast (List.mem_singleton.mp hport ▸ hbeyond) }

/-- Its socket, with the rate that the table has for it. -/
theorem Sound.socket {transport : Transport} {ports : List Transport} {rate : Option Nat}
    (h : Sound toBaudRate { s with engines := s.engines ++ [transport], ports })
    (hsockets : (s.sockets.map (·.transport)).Sublist s.engines)
    (hrate : rate = transport.baudRate.bind fun baudRate => rateAt (toBaudRate baudRate)) :
    Sound toBaudRate
      { s with
        engines := s.engines ++ [transport]
        ports
        sockets := s.sockets ++ [{ transport, rate }] } :=
  { ports := h.ports
    sockets := by
      rw [List.map_append]
      exact hsockets.append (List.Sublist.refl _)
    rates := List.forall_mem_append.mpr ⟨h.rates, List.forall_mem_singleton.mpr hrate⟩
    past := h.past }

theorem Sound.engine (h : Sound toBaudRate s) (hstopped : s.stopped = none)
    (transport : Transport) (found : PortFound) :
    Sound toBaudRate (engine toBaudRate s transport found) := by
  unfold Served.engine
  cases htransport : transport.baudRate with
  | none =>
    dsimp only
    split
    · exact (h.made transport).socket h.sockets (by rw [htransport]; rfl)
    · exact h.made transport
  | some baudRate =>
    dsimp only
    split
    · cases hrate : rateAt (toBaudRate baudRate) with
      | none =>
        have hpast : PastTable toBaudRate transport := ⟨baudRate, htransport, hrate⟩
        exact {
          ports := h.ports.append (List.Sublist.refl _)
          sockets := (h.made transport).sockets
          rates := h.rates
          past := iff_of_true rfl
            ⟨transport, List.mem_append_right _ (List.mem_singleton_self _), hpast⟩ }
      | some rate =>
        have hpast : ¬ PastTable toBaudRate transport := by
          rintro ⟨other, hother, hnone⟩
          rw [htransport] at hother
          cases hother
          cases hrate.symm.trans hnone
        dsimp only
        split
        · exact (h.port hstopped hpast).socket h.sockets (by rw [htransport]; exact hrate.symm)
        · exact h.port hstopped hpast
    · exact h.made transport

/-- The program ends without a read past the table. -/
theorem Sound.stop (h : Sound toBaudRate s) (hstopped : s.stopped = none) {stop : ServerStop}
    (hstop : stop ≠ .pastTable) (lines : List StdString) :
    Sound toBaudRate { s with lines, stopped := some stop } :=
  { ports := h.ports
    sockets := h.sockets
    rates := h.rates
    past := by
      refine iff_of_false (fun hread => hstop (Option.some.inj hread)) ?_
      rintro ⟨port, hport, hpast⟩
      exact h.calm hstopped port hport hpast }

/-- **A turn** keeps it. -/
theorem Sound.turn (h : Sound toBaudRate s) (found : PortFound) :
    Sound toBaudRate (turn toBaudRate s found) := by
  have hlines : ∀ lines, Sound toBaudRate { s with lines } := fun _ => ⟨h.1, h.2, h.3, h.4⟩
  unfold Served.turn
  split
  · exact h
  next hnot =>
    have hstopped : s.stopped = none := Option.not_isSome_iff_eq_none.mp hnot
    split
    · exact ⟨h.1, h.2, h.3, h.4⟩
    · split
      · exact h.stop hstopped (by decide) _
      · split
        · exact hlines _
        · split
          next => exact h.stop hstopped (by decide) _
          next rest _ => exact Sound.engine (hlines rest) hstopped _ found

end Served

namespace ServerApp

open AppBase

/-- The server without its console. -/
def served (s : ServerApp) : Served :=
  { lines := s.console.lines
    missed := decide (s.menu = .ended)
    engines := s.engines
    ports := s.ports
    sockets := s.sockets
    stopped := s.stopped }

/-- The turns that are seen in an event: one where the menu waits for a line. -/
def turns (s : ServerApp) : ServerMenuEvent → List PortFound
  | .menu => []
  | .line found => if s.menu = .reading then [found] else []

variable (toBaudRate : Int → Int)

theorem comes_baudRateDialog : Comes baudRateDialog (.number 6) :=
  .printLine _ (.printLine _ (.printLine _ (.getNumericInput _ _)))

theorem comes_tcpDialog : Comes tcpDialog (pure .tcp) :=
  .printLine _ (.pure _)

theorem at_talk {α : Type} (dialog : Dialog α) (s : ServerApp) :
    (talk dialog).at s =
      ((dialog.at s.console).1.mapError fun _ => .exception,
        { s with console := (dialog.at s.console).2 }) := rfl

/-- The handler of a line that is not the first command. -/
theorem handler_cases {line : StdString} (hline : line ≠ "0".toList) (found : PortFound) :
    (Served.reading line = none ∧ serverMenuHandler toBaudRate line found = pure ()) ∨
      ∃ dialog parameters, Served.reading line = some parameters ∧ Comes dialog parameters ∧
        serverMenuHandler toBaudRate line found = serve toBaudRate dialog found := by
  unfold Served.reading serverMenuHandler
  rw [if_neg hline]
  by_cases h₁ : line = "1".toList
  · rw [if_pos h₁, if_pos h₁]
    exact .inr ⟨_, _, rfl, comes_tcpDialog, rfl⟩
  rw [if_neg h₁, if_neg h₁]
  by_cases h₂ : line = "2".toList
  · rw [if_pos h₂, if_pos h₂]
    refine .inr ⟨_, _, rfl, ?_, rfl⟩
    exact (Comes.getNumericInput _ _).bind fun _ => (Comes.getStringInput _ _).bind fun _ =>
      comes_baudRateDialog.bind fun _ => .printLine _ (.pure _)
  rw [if_neg h₂, if_neg h₂]
  by_cases h₃ : line = "3".toList
  · rw [if_pos h₃, if_pos h₃]
    refine .inr ⟨_, _, rfl, ?_, rfl⟩
    exact (Comes.getStringInput _ _).bind fun _ => comes_baudRateDialog.bind fun _ =>
      .printLine _ (.pure _)
  · rw [if_neg h₃, if_neg h₃]
    exact .inl ⟨rfl, rfl⟩

/-- An engine is made and its socket opened. -/
theorem served_listen (transport : Transport) (found : PortFound) (s : ServerApp) :
    (run (listen toBaudRate transport found) s).served =
      s.served.engine toBaudRate transport found := by
  unfold run listen Served.engine
  rw [at_bind, createEngine, at_assign]
  dsimp only
  rw [at_bind, openSocket]
  cases htransport : transport.baudRate with
  | none =>
    cases hopened : found.opened with
    | true => rfl
    | false => rfl
  | some baudRate =>
    cases hport : found.portOpens with
    | false => rfl
    | true =>
      dsimp only
      rw [if_pos rfl, if_pos rfl, at_bind, at_assign]
      dsimp only
      rw [at_bind, setPortOptions]
      cases hrate : rateAt (toBaudRate baudRate) with
      | none => rfl
      | some rate =>
        cases hopened : found.opened with
        | true => rfl
        | false => rfl

theorem served_serve {dialog : Dialog Transport} {parameters : Reading Transport}
    (h : Comes dialog parameters) (found : PortFound) (s : ServerApp) :
    (run (serve toBaudRate dialog found) s).served =
      match parameters.run s.console.lines with
      | none => { s.served with lines := [], stopped := some .exception }
      | some (transport, rest) =>
        Served.engine toBaudRate { s.served with lines := rest } transport found := by
  obtain ⟨hsome, hnone⟩ := h s.console
  cases hread : parameters.run s.console.lines with
  | none =>
    obtain ⟨hresult, hleft⟩ := hnone hread
    rw [run, serve, at_bind, at_talk, hresult]
    exact congrArg (fun lines => { s.served with lines, stopped := some .exception }) hleft
  | some p =>
    obtain ⟨hresult, hleft⟩ := hsome p.1 p.2 hread
    have hrun : run (serve toBaudRate dialog found) s =
        run (listen toBaudRate p.1 found) { s with console := (dialog.at s.console).2 } := by
      rw [run, run, serve, at_bind, at_talk, hresult]
      rfl
    rw [hrun, served_listen]
    exact congrArg (fun lines => Served.engine toBaudRate { s.served with lines } p.1 found) hleft

/-- A line that is read is a turn. -/
theorem served_line {line : StdString} {lines : List StdString} {s : ServerApp}
    (found : PortFound) {console : Console} (hstopped : ¬ s.stopped.isSome)
    (hlines : s.console.lines = line :: lines) (hconsole : console.lines = lines)
    (hmenu : s.menu = .reading) :
    (run (serverMenuHandler toBaudRate line found)
        { s with console, menu := .posted }).served = s.served.turn toBaudRate found := by
  have hturn : s.served.lines = line :: lines := hlines
  have hposted : { s with console, menu := .posted }.served = { s.served with lines } := by
    simp only [served, hconsole, hmenu, reduceCtorEq]
  unfold Served.turn
  rw [if_neg (show ¬ s.served.stopped.isSome from hstopped), hturn]
  dsimp only
  by_cases hexit : line = "0".toList
  · rw [if_pos hexit, serverMenuHandler, if_pos hexit]
    exact congrArg (fun t : Served => { t with stopped := some .exit }) hposted
  rw [if_neg hexit]
  rcases handler_cases toBaudRate hexit found with
    ⟨hreading, hhandler⟩ | ⟨dialog, parameters, hreading, hcomes, hhandler⟩
  · rw [hreading, hhandler]
    exact hposted
  · rw [hreading, hhandler, served_serve toBaudRate hcomes, hposted, hconsole]

/-- **One event** is the turns that are seen in it. -/
theorem served_step (s : ServerApp) (event : ServerMenuEvent) :
    (step toBaudRate s event).served =
      (turns s event).foldl (Served.turn toBaudRate) s.served := by
  unfold step turns
  by_cases hstopped : s.stopped.isSome
  · rw [if_pos hstopped]
    cases event with
    | menu => rfl
    | line found =>
      dsimp only
      split
      · exact (if_pos hstopped).symm
      · rfl
  rw [if_neg hstopped]
  cases event with
  | menu =>
    dsimp only
    split
    next hmenu =>
      have hmissed : decide (s.menu = .ended) = false := by rw [hmenu]; rfl
      rw [run, at_talk, served, List.foldl_nil, served, hmissed]
      rfl
    next => rfl
  | line found =>
    dsimp only
    split
    next hmenu =>
      rw [List.foldl_cons, List.foldl_nil]
      cases hhear : hear s.console .readLine with
      | mk heard console =>
        rcases hear_lines s.console .readLine with
          ⟨hlines, hline, hsheet⟩ | ⟨line, rest, hlines, hline, hsheet⟩
        · rw [hhear] at hline hsheet
          obtain rfl : heard = none := hline
          have hleft : console.lines = [] := (congrArg Prod.fst hsheet).trans hlines
          have hturn : s.served.lines = [] := hlines
          unfold Served.turn
          rw [if_neg (show ¬ s.served.stopped.isSome from hstopped), hturn]
          exact congrArg (fun lines => { s.served with lines, missed := true }) hleft
        · rw [hhear] at hline hsheet
          obtain rfl : heard = some line := hline
          exact served_line toBaudRate found hstopped hlines (congrArg Prod.fst hsheet) hmenu
    next => rfl

/-- **The server makes of its input what the lines tell**, however they are cut and whatever is
scheduled: every line of the menu that is read is a turn of the model without a console. -/
theorem refines_served (events : List ServerMenuEvent) (s : ServerApp) :
    (events.foldl (step toBaudRate) s).served =
      (Run.views (step toBaudRate) turns s events).foldl (Served.turn toBaudRate) s.served := by
  refine (Run.along_true events).simulates (R := fun s t => s.served = t) turns rfl ?_
  rintro s t event rfl -
  exact served_step toBaudRate s event

/-! ## The rounds of the menu -/

/-- The menu is printed, and its handler runs. -/
def round (found : PortFound) : List ServerMenuEvent :=
  [.menu, .line found]

/-- The server has ended, or its menu is to be printed, or no line will come. -/
def Between (s : ServerApp) : Prop :=
  s.stopped.isSome ∨ s.menu = .posted ∨ s.menu = .ended ∧ s.console.lines = []

/-- The menu stands where it stood. -/
abbrev KeepsMenu {α : Type} (call : Handler α) : Prop :=
  Keeps (fun s => s.menu = .posted) call

theorem keepsMenu_talk {α : Type} (dialog : Dialog α) : KeepsMenu (talk dialog) :=
  fun _ h => h

theorem keepsMenu_listen (transport : Transport) (found : PortFound) :
    KeepsMenu (listen toBaudRate transport found) := by
  have hcreate : KeepsMenu (createEngine transport) := fun _ h => h
  have hopen : KeepsMenu (openSocket toBaudRate transport found) := by
    unfold openSocket
    split
    · split
      · exact fun _ h => h
      · exact .pure _
    · split
      · refine Keeps.bind (fun _ h => h) fun _ => Keeps.bind ?_ fun rate => ?_
        · unfold setPortOptions
          split
          · exact .pure _
          · exact fun _ h => h
        · split
          · exact fun _ h => h
          · exact .pure _
      · exact .pure _
  refine hcreate.bind fun _ => hopen.bind fun opened => ?_
  split
  · exact .pure _
  · exact keepsMenu_talk _

theorem keepsMenu_serverMenuHandler (line : StdString) (found : PortFound) :
    KeepsMenu (serverMenuHandler toBaudRate line found) := by
  unfold serverMenuHandler serve
  split
  · exact fun _ h => h
  · split
    · exact (keepsMenu_talk _).bind fun _ => keepsMenu_listen toBaudRate _ found
    · split
      · exact (keepsMenu_talk _).bind fun _ => keepsMenu_listen toBaudRate _ found
      · split
        · exact (keepsMenu_talk _).bind fun _ => keepsMenu_listen toBaudRate _ found
        · exact .pure _

theorem menu_run {handler : Handler Unit} (h : KeepsMenu handler) {s : ServerApp}
    (hmenu : s.menu = .posted) : (run handler s).menu = .posted := by
  have hafter := h s hmenu
  unfold run
  cases hat : handler.at s with
  | mk result after =>
    rw [hat] at hafter
    cases result with
    | ok a => exact hafter
    | error stop => exact hafter

/-- The handler of a line leaves the menu posted, or without a line. -/
theorem between_line {s : ServerApp} (hmenu : s.menu = .reading) (hstopped : ¬ s.stopped.isSome)
    (found : PortFound) : Between (step toBaudRate s (.line found)) := by
  unfold step
  rw [if_neg hstopped]
  dsimp only
  rw [if_pos hmenu]
  cases hhear : hear s.console .readLine with
  | mk heard console =>
    cases heard with
    | some line =>
      exact .inr (.inl (menu_run (keepsMenu_serverMenuHandler toBaudRate line found) rfl))
    | none =>
      rcases hear_lines s.console .readLine with ⟨hlines, -, hsheet⟩ | ⟨line, rest, -, hline, -⟩
      · rw [hhear] at hsheet
        exact .inr (.inr ⟨rfl, (congrArg Prod.fst hsheet).trans hlines⟩)
      · rw [hhear] at hline
        cases hline

theorem step_stopped {s : ServerApp} (h : s.stopped.isSome) (event : ServerMenuEvent) :
    step toBaudRate s event = s :=
  if_pos h

/-- **One round is one turn.** -/
theorem round_served {s : ServerApp} (h : Between s) (found : PortFound) :
    ((round found).foldl (step toBaudRate) s).served = s.served.turn toBaudRate found ∧
      Between ((round found).foldl (step toBaudRate) s) := by
  rw [round, List.foldl_cons, List.foldl_cons, List.foldl_nil]
  by_cases hstopped : s.stopped.isSome
  · rw [step_stopped toBaudRate hstopped, step_stopped toBaudRate hstopped]
    exact ⟨(if_pos hstopped).symm, h⟩
  rcases h with hsome | hmenu | ⟨hmenu, hlines⟩
  · exact absurd hsome hstopped
  · have hprinted : step toBaudRate s .menu =
        { s with
          console := { s.console with output := s.console.output ++ menuText }
          menu := .reading } := by
      unfold step
      rw [if_neg hstopped]
      exact if_pos hmenu
    have hserved : (step toBaudRate s .menu).served = s.served := served_step toBaudRate s .menu
    rw [← hserved, hprinted]
    constructor
    · rw [served_step]
      rfl
    · apply between_line
      · rfl
      · exact hstopped
  · have hmenu' : step toBaudRate s .menu = s := by
      unfold step
      rw [if_neg hstopped]
      exact if_neg (by rw [hmenu]; decide)
    have hline : step toBaudRate s (.line found) = s := by
      unfold step
      rw [if_neg hstopped]
      exact if_neg (by rw [hmenu]; decide)
    have hturn : s.served.turn toBaudRate found = s.served := by
      have hleft : s.served.lines = [] := hlines
      have hmissed : s.served.missed = true := decide_eq_true hmenu
      unfold Served.turn
      rw [if_neg (show ¬ s.served.stopped.isSome from hstopped), hleft]
      dsimp only
      rw [← hmissed, ← hleft]
    rw [hmenu', hline, hturn]
    exact ⟨rfl, .inr (.inr ⟨hmenu, hlines⟩)⟩

theorem rounds_served (founds : List PortFound) {s : ServerApp} (h : Between s) :
    ((founds.flatMap round).foldl (step toBaudRate) s).served =
      founds.foldl (Served.turn toBaudRate) s.served := by
  induction founds generalizing s with
  | nil => rfl
  | cons found founds ih =>
    obtain ⟨hturn, hbetween⟩ := round_served toBaudRate h found
    rw [List.flatMap_cons, List.foldl_append, ih hbetween, hturn, List.foldl_cons]

/-- **The lines tell what the server does**: from its start on the rounds of its menu are the turns
of the model without a console, on the complete lines of the text, however that is cut. What the two
agree on is all that is asked and opened, how the program has ended and the lines that are left;
what is printed is not compared. The results of opening ports and sockets are any. -/
theorem lines_tell (founds : List PortFound) (console : Console) :
    ((founds.flatMap round).foldl (step toBaudRate) (start console)).served =
      founds.foldl (Served.turn toBaudRate)
        { lines := terminated '\n' console.input.remaining
          missed := false
          engines := []
          ports := []
          sockets := []
          stopped := none } :=
  rounds_served toBaudRate founds (.inr (.inl rfl))

/-- **The sockets and their rates**: in every run each open socket is the one of its own engine, in
the order they were made, with the rate that the table has for the number that was given; and the
program reads past the table exactly when a port opens whose number is not in it. The number is the
one typed, as the cast to the table's enumeration leaves it, which is any function here; what is
read past the table is not said. -/
theorem sound_run (events : List ServerMenuEvent) (console : Console) :
    Served.Sound toBaudRate (events.foldl (step toBaudRate) (start console)).served := by
  rw [refines_served]
  refine Run.invariant _ _ _ ?_ fun s found h => h.turn found
  exact ⟨.slnil, .slnil, List.forall_mem_nil _, ⟨nofun, fun ⟨_, hport, _⟩ => nomatch hport⟩⟩

/-- A rate itself, typed where its index is asked for. -/
example :
    ((round { portOpens := true, opened := true }).foldl (step id) (start
      { input := { buffer := [], chunks := ["3\n\n9600\n".toList] }
        output := [] })).stopped = some .pastTable := by
  decide +kernel

end ServerApp

end AccessPoint
