import AccessPoint.Menu.Harmless

/-!
# Commands that are typed one after another

A command and the answers to its prompts may be written down beforehand, the line for the menu and
a line for each prompt, and given to the client as one text. `script_performed` says that the client
then asks for exactly what was written down, as long as each command is let through its test and
its call when its turn comes.
-/

namespace AccessPoint

open Throwing Lines

namespace AppBase

/-! ## Lines for prompts -/

/-- Lines as they are typed. -/
def typed (lines : List StdString) : StdString :=
  lines.flatMap fun line => line ++ ['\n']

/-- A line for a number, at a prompt with a default. -/
def TypedNumber (default value : Int) (line : StdString) : Prop :=
  ∀ promptText, Typed (.numeric promptText default) (.number value) line

/-- A line for a text, at a prompt with a default. -/
def TypedText (default value line : StdString) : Prop :=
  ∀ promptText, Typed (.text promptText default) (.text value) line

/-- The dialog gives the value to a user who types the lines, and leaves what is typed behind. -/
def Enters {α : Type} (dialog : Dialog α) (lines : List StdString) (value : α) : Prop :=
  ∀ (s : Console) (rest : StdString), s.input.remaining = typed lines ++ rest →
    ∃ after, dialog.at s = (.ok value, after) ∧ after.input.remaining = rest

section Enters

variable {α β : Type} {promptText default value line : StdString}

theorem typed_cons (line : StdString) (lines : List StdString) (rest : StdString) :
    typed (line :: lines) ++ rest = line ++ '\n' :: (typed lines ++ rest) := by
  simp only [typed, List.flatMap_cons, List.append_assoc, List.cons_append, List.nil_append]

theorem Enters.pure (value : α) : Enters (Pure.pure value) [] value := by
  intro s rest htext
  exact ⟨s, rfl, htext⟩

theorem Enters.bind {dialog : Dialog α} {next : α → Dialog β} {lines others : List StdString}
    {a : α} {b : β} (h : Enters dialog lines a) (hnext : Enters (next a) others b) :
    Enters (dialog >>= next) (lines ++ others) b := by
  intro s rest htext
  rw [typed, List.flatMap_append, List.append_assoc] at htext
  obtain ⟨between, hdialog, hbetween⟩ := h s _ htext
  obtain ⟨after, hrest, hafter⟩ := hnext between rest hbetween
  refine ⟨after, ?_, hafter⟩
  rw [at_bind, hdialog]
  exact hrest

theorem Enters.printLine (line : StdString) : Enters (printLine line) [] () := by
  intro s rest htext
  exact ⟨_, rfl, htext⟩

theorem Enters.number {default value : Int} (h : TypedNumber default value line) :
    Enters (getNumericInput promptText default) [line] value := by
  intro s rest htext
  rw [typed_cons] at htext
  exact getNumericInput_typed (h promptText) s htext

theorem Enters.text (h : TypedText default value line) :
    Enters (getStringInput promptText default) [line] value := by
  intro s rest htext
  rw [typed_cons] at htext
  exact getStringInput_typed (h promptText) s htext

end Enters

end AppBase

namespace Client

open AppBase ClientApp

variable {ClassId AttributeId Obis : Type} (types : CosemTypes ClassId AttributeId Obis)

/-! ## What is typed for a command -/

/-- The lines that are typed at the prompts of a command, for what it is to ask for. -/
inductive Entered : MenuCommand → List StdString → Demand ClassId AttributeId Obis → Prop where
  | tcpConnect {sourceAddress : Int} {tcpAddress l₁ l₂ : StdString} :
      TypedNumber 1 sourceAddress l₁ → TypedText "localhost".toList tcpAddress l₂ →
      Entered .tcpConnect [l₁, l₂] (.tcpConnect sourceAddress tcpAddress)
  | hdlcPhysicalConnect {sourceAddress baudRate : Int} {serialPort l₁ l₂ l₃ : StdString} :
      TypedNumber 1 sourceAddress l₁ → TypedText "/tmp/ttyS11".toList serialPort l₂ →
      TypedNumber 6 baudRate l₃ →
      Entered .hdlcPhysicalConnect [l₁, l₂, l₃]
        (.hdlcPhysicalConnect sourceAddress serialPort baudRate)
  | hdlcIdentify : Entered .hdlcIdentify [] .hdlcIdentify
  | hdlcDatalinkConnect {destinationAddress : Int} {l₁ : StdString} :
      TypedNumber 1 destinationAddress l₁ →
      Entered .hdlcDatalinkConnect [l₁] (.hdlcDatalinkConnect destinationAddress)
  | serialWrapperConnect {sourceAddress baudRate : Int} {serialPort l₁ l₂ l₃ : StdString} :
      TypedNumber 1 sourceAddress l₁ → TypedText "/tmp/ttyS11".toList serialPort l₂ →
      TypedNumber 6 baudRate l₃ →
      Entered .serialWrapperConnect [l₁, l₂, l₃]
        (.serialWrapperConnect sourceAddress serialPort baudRate)
  | cosemOpen {destinationAddress apduSize : Int} {l₁ l₂ l₃ : StdString} :
      TypedNumber 1 destinationAddress l₁ → TypedNumber 0 0 l₂ → TypedNumber 640 apduSize l₃ →
      Entered .cosemOpen [l₁, l₂, l₃]
        (.cosemOpen destinationAddress none (UInt64.ofInt apduSize))
  | cosemOpenLow {destinationAddress apduSize : Int} {password l₁ l₂ l₃ l₄ : StdString} :
      TypedNumber 1 destinationAddress l₁ → TypedNumber 0 1 l₂ → TypedText [] password l₃ →
      TypedNumber 640 apduSize l₄ →
      Entered .cosemOpen [l₁, l₂, l₃, l₄]
        (.cosemOpen destinationAddress (some password) (UInt64.ofInt apduSize))
  | cosemGet {classId attributeId : Int} {instanceId : Obis} {code l₁ l₂ l₃ : StdString} :
      TypedNumber types.clsidIData classId l₁ → TypedNumber 2 attributeId l₂ →
      TypedText "0-0:96.1.0*255".toList code l₃ → types.parse code = some instanceId →
      Entered .cosemGet [l₁, l₂, l₃]
        (.cosemGet (types.classId classId) (types.attributeId attributeId) instanceId)
  | cosemSet {classId attributeId : Int} {instanceId : Obis}
      {code value l₁ l₂ l₃ l₄ : StdString} :
      TypedNumber types.clsidIData classId l₁ → TypedNumber 2 attributeId l₂ →
      TypedText "0-0:96.1.0*255".toList code l₃ → types.parse code = some instanceId →
      TypedText "LINUXDATA#".toList value l₄ →
      Entered .cosemSet [l₁, l₂, l₃, l₄]
        (.cosemSet (types.classId classId) (types.attributeId attributeId) instanceId value)
  | cosemAction {classId methodId parameter : Int} {instanceId : Obis}
      {code l₁ l₂ l₃ l₄ : StdString} :
      TypedNumber types.clsidIClock classId l₁ → TypedNumber 1 methodId l₂ →
      TypedText "0-0:1.0.0*255".toList code l₃ → types.parse code = some instanceId →
      TypedNumber 1 parameter l₄ →
      Entered .cosemAction [l₁, l₂, l₃, l₄]
        (.cosemAction (types.classId classId) (types.attributeId methodId) instanceId parameter)
  | cosemRelease : Entered .cosemRelease [] .cosemRelease
  | tcpDisconnect : Entered .tcpDisconnect [] .tcpDisconnect
  | hdlcDisconnect : Entered .hdlcDisconnect [] .hdlcDisconnect

variable {types} {m : MenuCommand} {lines : List StdString}
  {demand : Demand ClassId AttributeId Obis}

theorem enters_obisDialog {default code line : StdString} {instanceId : Obis}
    {next : Obis → Dialog (Option (Demand ClassId AttributeId Obis))}
    (hcode : TypedText default code line) (hparse : types.parse code = some instanceId)
    (hnext : Enters (next instanceId) lines (some demand)) :
    Enters (obisDialog types default next) (line :: lines) (some demand) := by
  refine @Enters.bind _ _ _ _ [line] lines _ _ (.text hcode) ?_
  rw [hparse]
  exact hnext

theorem enters_serialDialog {sourceAddress baudRate : Int} {serialPort l₁ l₂ l₃ : StdString}
    (h₁ : TypedNumber 1 sourceAddress l₁) (h₂ : TypedText "/tmp/ttyS11".toList serialPort l₂)
    (h₃ : TypedNumber 6 baudRate l₃)
    (demand : Int → StdString → Int → Demand ClassId AttributeId Obis) :
    Enters (serialDialog demand) [l₁, l₂, l₃]
      (some (demand sourceAddress serialPort baudRate)) := by
  refine Enters.bind (.number h₁) (Enters.bind (.text h₂) ?_)
  refine Enters.bind (.printLine _) (Enters.bind (.printLine _) (Enters.bind (.printLine _) ?_))
  exact Enters.bind (.number h₃) (.pure _)

/-- **The dialog of a command comes to what its lines are typed for.** -/
theorem Entered.enters (h : Entered types m lines demand) {found : Found}
    {c : ClientCommand ClassId AttributeId Obis} (hc : clientCommand types found m = some c) :
    Enters c.dialog lines (some demand) := by
  cases h with
  | tcpConnect h₁ h₂ =>
    cases hc
    exact Enters.bind (.number h₁) (Enters.bind (.text h₂) (.pure _))
  | hdlcPhysicalConnect h₁ h₂ h₃ =>
    cases hc
    exact enters_serialDialog h₁ h₂ h₃ _
  | hdlcIdentify =>
    cases hc
    exact .pure _
  | hdlcDatalinkConnect h₁ =>
    cases hc
    exact Enters.bind (.number h₁) (.pure _)
  | serialWrapperConnect h₁ h₂ h₃ =>
    cases hc
    exact enters_serialDialog h₁ h₂ h₃ _
  | cosemOpen h₁ h₂ h₃ =>
    cases hc
    exact Enters.bind (.number h₁) (Enters.bind (.number h₂) (Enters.bind (.number h₃) (.pure _)))
  | cosemOpenLow h₁ h₂ h₃ h₄ =>
    cases hc
    exact Enters.bind (.number h₁) (Enters.bind (.number h₂) (Enters.bind (.text h₃)
      (Enters.bind (.number h₄) (.pure _))))
  | cosemGet h₁ h₂ h₃ hparse =>
    cases hc
    exact Enters.bind (.number h₁) (Enters.bind (.number h₂)
      (enters_obisDialog h₃ hparse (.pure _)))
  | cosemSet h₁ h₂ h₃ hparse h₄ =>
    cases hc
    exact Enters.bind (.number h₁) (Enters.bind (.number h₂)
      (enters_obisDialog h₃ hparse (Enters.bind (.text h₄) (.pure _))))
  | cosemAction h₁ h₂ h₃ hparse h₄ =>
    cases hc
    exact Enters.bind (.number h₁) (Enters.bind (.number h₂)
      (enters_obisDialog h₃ hparse (Enters.bind (.number h₄) (.pure _))))
  | cosemRelease =>
    cases hc
    exact .pure _
  | tcpDisconnect =>
    cases hc
    exact .pure _
  | hdlcDisconnect =>
    cases hc
    exact .pure _

/-! ## The run -/

/-- A command, the line that is typed for it at the menu, and those that are typed at its prompts;
and what it finds. -/
structure Entry (types : CosemTypes ClassId AttributeId Obis) where
  line : StdString
  lines : List StdString
  menuCommand : MenuCommand
  demand : Demand ClassId AttributeId Obis
  found : Found
  noNewline : '\n' ∉ line
  chosen : command line = some menuCommand
  entered : Entered types menuCommand lines demand

/-- All that is typed. -/
def Entry.text (e : Entry types) : StdString :=
  typed (e.line :: e.lines)

/-- What it is in the menu's model. -/
def Entry.event (e : Entry types) : MenuEvent :=
  .line e.line (e.found.answers true)

/-- The menu is printed, and its handler runs. -/
def Entry.schedule (e : Entry types) : List ClientEvent :=
  [.menu, .line e.found]

/-- The command is let through its test and its call. -/
def LetThrough (app : ClientApp) (e : Entry types) : Prop :=
  app.stopped = none ∧ ∃ c, clientCommand types e.found e.menuCommand = some c ∧
    (c.test.at app).1 = .ok true ∧ (c.call.at app).1 = .ok ()

/-- A command that is let through asks for what its lines are typed for. -/
theorem perform_entered {c : ClientCommand ClassId AttributeId Obis} {rest : StdString}
    (hreads : Reads c.test) (henters : Enters c.dialog lines (some demand))
    (s : Client ClassId AttributeId Obis) (htext : s.console.input.remaining = typed lines ++ rest)
    (htest : (c.test.at s.app).1 = .ok true) (hcall : (c.call.at s.app).1 = .ok ()) :
    ∃ console, console.input.remaining = rest ∧
      (perform c).at s =
        (.ok (), { s with
          console
          app := (c.call.at s.app).2
          demands := s.demands ++ [demand] }) := by
  obtain ⟨after, hdialog, hrest⟩ := henters s.console rest htext
  refine ⟨{ after with output := after.output ++ c.remark }, hrest, ?_⟩
  rw [perform, at_bind, at_touch, hreads.at_eq s.app, htest]
  dsimp only
  rw [if_pos rfl, at_bind, at_talk, hdialog]
  dsimp only [Except.mapError]
  rw [at_bind, at_touch, hcall]
  rfl

/-- In the menu's model a command that is let through makes its call. -/
theorem step_letThrough {c : ClientCommand ClassId AttributeId Obis} {found : Found}
    {app : ClientApp} {line : StdString} (hc : clientCommand types found m = some c)
    (hline : command line = some m) (hstopped : app.stopped = none)
    (htest : (c.test.at app).1 = .ok true) (hcall : (c.call.at app).1 = .ok ()) :
    app.step (.line line (found.answers true)) = (c.call.at app).2 := by
  have honApp : onApp c true = ClientApp.clientMenuHandler line (found.answers true) := by
    rcases onApp_clientCommand hc hline with ⟨-, honApp⟩ | ⟨-, honApp⟩
    · exact honApp
    · exact honApp true
  have hat : (onApp c true).at app = (.ok (), (c.call.at app).2) := by
    rw [onApp, at_bind, (reads_test hc).at_eq app, htest]
    exact Prod.ext hcall rfl
  rw [step_line hstopped, ClientApp.run, ← honApp, hat]

theorem step_menu {s : Client ClassId AttributeId Obis} (hstopped : s.app.stopped = none)
    (hmenu : s.menu = .posted) :
    s.step types .menu =
      { s with
        console := { s.console with output := s.console.output ++ menuText }
        menu := .reading } := by
  unfold Client.step
  rw [if_neg (by rw [hstopped]; exact Bool.false_ne_true)]
  dsimp only
  rw [if_pos hmenu, run, at_talk_printLine]

/-- The line that the menu waits for. -/
theorem step_reading {s : Client ClassId AttributeId Obis} {line rest : StdString}
    (hstopped : s.app.stopped = none) (hmenu : s.menu = .reading) (found : Found)
    (hsplit : split '\n' s.console.input.remaining = some (line, rest)) :
    ∃ input, input.remaining = rest ∧
      s.step types (.line found) = run (clientMenuHandler types line found)
        { s with console := { s.console with input }, menu := .posted } := by
  obtain ⟨hnext, hrest⟩ := nextLine_of_some hsplit
  refine ⟨_, hrest, ?_⟩
  unfold Client.step
  rw [if_neg (by rw [hstopped]; exact Bool.false_ne_true)]
  dsimp only
  rw [if_pos hmenu, hear_eq, hnext]

/-- **One command**: the menu is printed, and the command asks for what is typed. -/
theorem entry_performed (e : Entry types) (s : Client ClassId AttributeId Obis) {rest : StdString}
    (hmenu : s.menu = .posted) (htext : s.console.input.remaining = e.text ++ rest)
    (hthrough : LetThrough s.app e) :
    ∃ console, console.input.remaining = rest ∧
      e.schedule.foldl (step types) s =
        { s with console, app := s.app.step e.event, demands := s.demands ++ [e.demand] } := by
  obtain ⟨hstopped, c, hc, htest, hcall⟩ := hthrough
  rw [Entry.text, typed_cons] at htext
  rw [Entry.schedule, List.foldl_cons, step_menu hstopped hmenu, List.foldl_cons, List.foldl_nil]
  obtain ⟨input, hinput, hstep⟩ := @step_reading _ _ _ types
    { s with
      console := { s.console with output := s.console.output ++ menuText }
      menu := .reading }
    e.line (typed e.lines ++ rest) hstopped rfl e.found (split_eq_some.mpr ⟨e.noNewline, htext⟩)
  obtain ⟨console, hconsole, hperform⟩ := perform_entered (reads_test hc) (e.entered.enters hc)
    { s with
      console := { input, output := s.console.output ++ menuText }
      menu := .posted } hinput htest hcall
  refine ⟨console, hconsole, ?_⟩
  have hhandler : clientMenuHandler types e.line e.found = perform c := by
    simp only [clientMenuHandler, e.chosen, hc]
  rw [hstep, hhandler, run, hperform, Entry.event,
    step_letThrough hc e.chosen hstopped htest hcall, ← hmenu]

/-- **What is written down is what is asked for**, however the text is cut. Each entry of the script
is a command with its menu line and one line for each of its prompts, in any spelling that the
prompt reads as its value. The client comes to the menu after every entry, has asked for the demands
of all in order, and leaves the text behind them. That the tests and calls let every command through
is a condition here; the script does not see to it. -/
theorem script_performed (script : List (Entry types)) (rest : StdString)
    (s : Client ClassId AttributeId Obis) (hmenu : s.menu = .posted)
    (htext : s.console.input.remaining = script.flatMap Entry.text ++ rest)
    (hthrough : Run.Along (fun app e => app.step (Entry.event e)) LetThrough s.app script) :
    let after := (script.flatMap Entry.schedule).foldl (step types) s
    after.demands = s.demands ++ script.map Entry.demand ∧
      after.app = (script.map Entry.event).foldl ClientApp.step s.app ∧
        after.menu = .posted ∧ after.console.input.remaining = rest := by
  induction script generalizing s with
  | nil => exact ⟨(List.append_nil _).symm, rfl, hmenu, htext⟩
  | cons e script ih =>
    obtain ⟨hfirst, hothers⟩ := hthrough
    rw [List.flatMap_cons, List.append_assoc] at htext
    obtain ⟨console, hconsole, hstep⟩ := entry_performed e s hmenu htext hfirst
    rw [List.flatMap_cons, List.foldl_append, hstep]
    have hrest := ih
      { s with console, app := s.app.step e.event, demands := s.demands ++ [e.demand] } hmenu
      hconsole hothers
    simpa only [List.map_cons, List.foldl_cons, List.append_assoc, List.singleton_append]
      using hrest

/-- A connect whose client address is typed in hexadecimal. -/
def connectEntry : Entry plainTypes :=
  { line := "a".toList
    lines := ["0x10".toList, []]
    menuCommand := .tcpConnect
    demand := .tcpConnect 16 "localhost".toList
    found := willing
    noNewline := by decide
    chosen := by decide
    entered := .tcpConnect
      (fun _ => .number (by decide) (by decide) (Stoi.stoi_eq_ok_iff.mp (by decide)).1 (by decide))
      fun _ => .defaultText }

/-- A request for an attribute of the default object. -/
def getEntry : Entry plainTypes :=
  { line := "2".toList
    lines := [[], "3".toList, []]
    menuCommand := .cosemGet
    demand := .cosemGet 1 3 "0-0:96.1.0*255".toList
    found := willing
    noNewline := by decide
    chosen := by decide
    entered := @Entered.cosemGet Int Int StdString plainTypes 1 3 _ _ _ _ _
      (fun _ => .defaultNumber) (fun _ => .decimal (by decide)) (fun _ => .defaultText) rfl }

/-- Both of them, cut inside an answer. -/
theorem script_performed_get :
    (([connectEntry, getEntry].flatMap Entry.schedule).foldl (step plainTypes) (start
      { input := { buffer := [], chunks := ["a\n0x".toList, "10\n\n2\n\n3\n\n".toList] }
        output := [] })).demands =
      [.tcpConnect 16 "localhost".toList, .cosemGet 1 3 "0-0:96.1.0*255".toList] :=
  (script_performed [connectEntry, getEntry] [] (start _) rfl (by decide)
    ⟨⟨rfl, tcpConnect willing, rfl, rfl, rfl⟩,
      ⟨rfl, cosemGet plainTypes willing, rfl, rfl, rfl⟩, trivial⟩).1

end Client

end AccessPoint
