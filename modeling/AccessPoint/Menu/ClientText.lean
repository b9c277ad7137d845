import AccessPoint.Menu.Client
import Mathlib.Data.List.Forall2
import Mathlib.Data.List.Induction

/-!
# What the client makes of a text

Whatever is typed, the client uses its pointers as the model of its menu does: each line that the
menu reads is an event of that model, with what the prompts behind it came to, and so is each
confirmation (`refines_menu`). Of the text it takes whole lines, one after another. The one thing
the model does not have is an end of the input inside a command, which ends the client with its
pointers as they were.

`Takes` is what a dialog may do to the console, and `Follows` what a handler may do to the pointers.
A command touches those in its test, which only reads, and in its call.
-/

namespace AccessPoint

open Throwing Lines

namespace AppBase

/-! ## What a dialog takes from the console -/

section Takes

variable {α β : Type}

/-- The lines that are left are the last of those that were there, and what the dialog gives
is a `P`. -/
def Takes (P : α → Prop) (dialog : Dialog α) : Prop :=
  ∀ s, terminated '\n' (dialog.at s).2.input.remaining <:+ terminated '\n' s.input.remaining ∧
    ∀ a, (dialog.at s).1 = .ok a → P a

variable {P : α → Prop} {Q : β → Prop}

theorem Takes.pure {a : α} (h : P a) : Takes P (Pure.pure a) := by
  intro s
  refine ⟨List.suffix_refl _, ?_⟩
  intro b hb
  cases hb
  exact h

theorem Takes.printLine (line : StdString) : Takes (fun _ => True) (printLine line) :=
  fun _ => ⟨List.suffix_refl _, fun _ _ => trivial⟩

theorem Takes.bind {dialog : Dialog α} {next : α → Dialog β} (h : Takes P dialog)
    (hnext : ∀ a, P a → Takes Q (next a)) : Takes Q (dialog >>= next) := by
  intro s
  obtain ⟨hsuffix, hgives⟩ := h s
  rw [at_bind]
  cases hdialog : dialog.at s with
  | mk result after =>
    rw [hdialog] at hsuffix hgives
    cases result with
    | ok a =>
      obtain ⟨hnexts, hvalue⟩ := hnext a (hgives a rfl) after
      exact ⟨hnexts.trans hsuffix, hvalue⟩
    | error e => exact ⟨hsuffix, fun _ h => nomatch h⟩

theorem Takes.getLine : Takes (fun _ => True) getLine := by
  intro s
  refine ⟨?_, fun _ _ => trivial⟩
  cases hsplit : split '\n' s.input.remaining with
  | none =>
    obtain ⟨input, hrest, hget⟩ := getLine_of_none hsplit
    have hsame : (AppBase.getLine.at s).2.input.remaining = s.input.remaining := by
      rw [hget s.output, hrest]
    exact hsame ▸ List.suffix_refl _
  | some p =>
    obtain ⟨line, rest⟩ := p
    obtain ⟨input, hrest, hget⟩ := getLine_of_some hsplit
    rw [hget s.output, hrest, terminated_of_split hsplit]
    exact List.suffix_cons _ _

theorem Takes.getNumericInput (promptText : StdString) (default : Int) :
    Takes (fun _ => True) (getNumericInput promptText default) := by
  have hloop : ∀ fuel, Takes (fun _ => True) (getNumericInputUpTo promptText default fuel) := by
    intro fuel
    induction fuel with
    | zero => exact fun s => ⟨List.suffix_refl _, fun _ _ => trivial⟩
    | succ fuel ih =>
      refine (Takes.printLine _).bind fun _ _ => Takes.getLine.bind fun line _ => ?_
      cases numericAnswer default line with
      | ok value => exact .pure trivial
      | error failure => exact (Takes.printLine _).bind fun _ _ => ih
  exact fun s => hloop _ s

theorem Takes.getStringInput (promptText default : StdString) :
    Takes (fun _ => True) (getStringInput promptText default) :=
  (Takes.printLine _).bind fun _ _ => Takes.getLine.bind fun _ _ => .pure trivial

end Takes

end AppBase

namespace Client

open AppBase ClientApp

variable {ClassId AttributeId Obis : Type} (types : CosemTypes ClassId AttributeId Obis)

/-! ## The dialogs of the commands -/

section Dialogs

/-- The dialog comes to a demand, if it does not end early. -/
abbrev Sends (dialog : Dialog (Option (Demand ClassId AttributeId Obis))) : Prop :=
  Takes (fun demand => demand ≠ none) dialog

/-- The dialog takes nothing but lines off the console. -/
abbrev Asks (dialog : Dialog (Option (Demand ClassId AttributeId Obis))) : Prop :=
  Takes (fun _ => True) dialog

theorem sends_tcpConnectDialog :
    Sends (tcpConnectDialog : Dialog (Option (Demand ClassId AttributeId Obis))) :=
  (Takes.getNumericInput _ _).bind fun _ _ => (Takes.getStringInput _ _).bind fun _ _ =>
    .pure (Option.some_ne_none _)

theorem sends_serialDialog (demand : Int → StdString → Int → Demand ClassId AttributeId Obis) :
    Sends (serialDialog demand) :=
  (Takes.getNumericInput _ _).bind fun _ _ => (Takes.getStringInput _ _).bind fun _ _ =>
    (Takes.printLine _).bind fun _ _ => (Takes.printLine _).bind fun _ _ =>
      (Takes.printLine _).bind fun _ _ => (Takes.getNumericInput _ _).bind fun _ _ =>
        .pure (Option.some_ne_none _)

theorem sends_hdlcDatalinkConnectDialog :
    Sends (hdlcDatalinkConnectDialog : Dialog (Option (Demand ClassId AttributeId Obis))) :=
  (Takes.getNumericInput _ _).bind fun _ _ => .pure (Option.some_ne_none _)

theorem asks_cosemOpenDialog :
    Asks (cosemOpenDialog : Dialog (Option (Demand ClassId AttributeId Obis))) := by
  have hopen : ∀ destinationAddress password, Asks (openDialog destinationAddress password :
      Dialog (Option (Demand ClassId AttributeId Obis))) :=
    fun _ _ => (Takes.getNumericInput _ _).bind fun _ _ => .pure trivial
  refine (Takes.getNumericInput _ _).bind fun destinationAddress _ =>
    (Takes.getNumericInput _ _).bind fun security _ => ?_
  split
  · exact hopen _ _
  · split
    · exact (Takes.getStringInput _ _).bind fun password _ => hopen _ _
    · exact (Takes.printLine _).bind fun _ _ => .pure trivial

/-- A request's dialog, up to what it asks behind the code. -/
theorem asks_requestDialog (classText attributeText : StdString)
    (classDefault attributeDefault : Int) (default : StdString)
    {next : Int → Int → Obis → Dialog (Option (Demand ClassId AttributeId Obis))}
    (h : ∀ classId attributeId instanceId, Asks (next classId attributeId instanceId)) :
    Asks (do
      let classId ← getNumericInput classText classDefault
      let attributeId ← getNumericInput attributeText attributeDefault
      obisDialog types default (next classId attributeId)) := by
  refine (Takes.getNumericInput _ _).bind fun classId _ =>
    (Takes.getNumericInput _ _).bind fun attributeId _ =>
      (Takes.getStringInput _ _).bind fun code _ => ?_
  cases types.parse code with
  | some instanceId => exact h _ _ instanceId
  | none => exact (Takes.printLine _).bind fun _ _ => .pure trivial

theorem asks_cosemGetDialog : Asks (cosemGetDialog types) :=
  asks_requestDialog types _ _ _ _ _ fun _ _ _ => .pure trivial

theorem asks_cosemSetDialog : Asks (cosemSetDialog types) :=
  asks_requestDialog types _ _ _ _ _ fun _ _ _ =>
    (Takes.getStringInput _ _).bind fun _ _ => .pure trivial

theorem asks_cosemActionDialog : Asks (cosemActionDialog types) :=
  asks_requestDialog types _ _ _ _ _ fun _ _ _ =>
    (Takes.getNumericInput _ _).bind fun _ _ => .pure trivial

end Dialogs

/-! ## What a handler does to the pointers -/

/-- The lines that the console has left. -/
def linesLeft (s : Client ClassId AttributeId Obis) : List StdString :=
  terminated '\n' s.console.input.remaining

/-- The pointers are used as by one of the other handlers, or the input ends before they are; and
nothing but lines is taken off the console. -/
def Follows (handler : Handler ClassId AttributeId Obis Unit)
    (others : Bool → ClientApp.Handler Unit) : Prop :=
  ∀ s, (handler.at s).2.linesLeft <:+ s.linesLeft ∧
    ((∃ sent, (handler.at s).1 = ((others sent).at s.app).1 ∧
        (handler.at s).2.app = ((others sent).at s.app).2) ∨
      (handler.at s).1 = .error .exception ∧ (handler.at s).2.app = s.app)

/-- What a command does to the pointers, when its prompts come to a demand or when not. -/
def onApp (c : ClientCommand ClassId AttributeId Obis) (sent : Bool) : ClientApp.Handler Unit := do
  if ← c.test then
    if sent then c.call

section Perform

variable {s : Client ClassId AttributeId Obis}

theorem at_touch {α : Type} (call : ClientApp.Handler α) :
    (touch call).at s = ((call.at s.app).1, { s with app := (call.at s.app).2 }) := rfl

theorem at_talk {α : Type} (dialog : Dialog α) :
    (talk dialog).at s =
      ((dialog.at s.console).1.mapError fun _ => .exception,
        { s with console := (dialog.at s.console).2 }) := by
  unfold talk Call.of Call.at
  dsimp only
  cases dialog s.console with
  | mk result console =>
    cases result with
    | ok value => rfl
    | error e => rfl

theorem at_talk_printLine (line : StdString) :
    (talk (printLine line)).at s =
      (.ok (), { s with console := { s.console with output := s.console.output ++ line } }) := rfl

end Perform

/-- **A command uses the pointers in its test and, when there is a demand, in its call.** -/
theorem perform_follows {c : ClientCommand ClassId AttributeId Obis} (htest : Reads c.test)
    {P : Option (Demand ClassId AttributeId Obis) → Prop} (hdialog : Takes P c.dialog)
    {others : Bool → ClientApp.Handler Unit}
    (hsent : ∀ app, (others true).at app = (onApp c true).at app)
    (hnot : P none → ∀ app, (others false).at app = (onApp c false).at app) :
    Follows (perform c) others := by
  intro s
  obtain ⟨hsuffix, hgives⟩ := hdialog s.console
  have hsame : ({ s with app := s.app } : Client ClassId AttributeId Obis) = s := rfl
  rw [perform, at_bind, at_touch, htest.at_eq s.app]
  dsimp only
  have honApp : ∀ sent, (onApp c sent).at s.app =
      match (c.test.at s.app).1 with
      | .ok true => (if sent then c.call else pure ()).at s.app
      | .ok false => (.ok (), s.app)
      | .error e => (.error e, s.app) := by
    intro sent
    rw [onApp, at_bind, htest.at_eq s.app]
    cases (c.test.at s.app).1 with
    | error e => rfl
    | ok tested =>
      cases tested with
      | true => rfl
      | false => rfl
  cases hresult : (c.test.at s.app).1 with
  | error e =>
    refine ⟨List.suffix_refl _, .inl ⟨true, ?_⟩⟩
    rw [hsent, honApp, hresult]
    exact ⟨rfl, rfl⟩
  | ok tested =>
    cases tested with
    | false =>
      refine ⟨List.suffix_refl _, .inl ⟨true, ?_⟩⟩
      rw [hsent, honApp, hresult]
      exact ⟨rfl, rfl⟩
    | true =>
      dsimp only
      rw [if_pos rfl, at_bind, at_talk]
      cases hanswer : (c.dialog.at s.console).1 with
      | error e => exact ⟨hsuffix, .inr ⟨rfl, rfl⟩⟩
      | ok demand =>
        cases demand with
        | none =>
          refine ⟨hsuffix, .inl ⟨false, ?_⟩⟩
          rw [hnot (hgives none hanswer), honApp, hresult]
          exact ⟨rfl, rfl⟩
        | some demand =>
          dsimp only [Except.mapError]
          rw [at_bind, at_touch]
          cases hcall : c.call.at s.app with
          | mk called app =>
            have honCall : (others true).at s.app = (called, app) := by
              rw [hsent, honApp, hresult, ← hcall]
              rfl
            cases called with
            | error e =>
              refine ⟨hsuffix, .inl ⟨true, ?_⟩⟩
              rw [honCall]
              exact ⟨rfl, rfl⟩
            | ok done =>
              refine ⟨hsuffix, .inl ⟨true, ?_⟩⟩
              rw [honCall]
              exact ⟨rfl, rfl⟩

theorem ite_bind {α β : Type} (p : Prop) [Decidable p] (first second : ClientApp.Handler α)
    (next : α → ClientApp.Handler β) :
    (if p then first else second) >>= next = if p then first >>= next else second >>= next := by
  split
  · rfl
  · rfl

section OnApp

variable (found : Found)

theorem onApp_of_always {c : ClientCommand ClassId AttributeId Obis} (h : c.test = always) :
    onApp c true = c.call := by
  rw [onApp, h, always, pure_bind]
  rfl

theorem onApp_hdlcIdentify :
    onApp (hdlcIdentify : ClientCommand ClassId AttributeId Obis) true =
      ClientApp.hdlcIdentify := by
  simp only [onApp, hdlcIdentify, ClientApp.hdlcIdentify, bind_assoc, pure_bind, if_true]

theorem onApp_hdlcDatalinkConnect :
    onApp (hdlcDatalinkConnect found : ClientCommand ClassId AttributeId Obis) true =
      ClientApp.hdlcDatalinkConnect (found.answers true) := by
  simp only [onApp, hdlcDatalinkConnect, ClientApp.hdlcDatalinkConnect, bind_assoc, pure_bind,
    ite_bind, Found.answers, if_true, Bool.false_eq_true, if_false]

theorem onApp_cosemOpen (sent : Bool) :
    onApp (cosemOpen found : ClientCommand ClassId AttributeId Obis) sent =
      ClientApp.cosemOpen (found.answers sent) := by
  simp only [onApp, cosemOpen, ClientApp.cosemOpen, bind_assoc, pure_bind, ite_bind, Found.answers,
    Bool.false_eq_true, if_false]
  cases sent with
  | true => rfl
  | false => rfl

theorem onApp_cosemRequest (name : StdString)
    (dialog : Dialog (Option (Demand ClassId AttributeId Obis))) (sent : Bool) :
    onApp (cosemRequest found name dialog) sent = ClientApp.cosemRequest (found.answers sent) := by
  simp only [onApp, cosemRequest, ClientApp.cosemRequest, bind_assoc, pure_bind, ite_bind,
    Found.answers, Bool.false_eq_true, if_false]
  rfl

theorem onApp_tcpDisconnect :
    onApp (tcpDisconnect found : ClientCommand ClassId AttributeId Obis) true =
      ClientApp.tcpDisconnect (found.answers true) := by
  simp only [onApp, tcpDisconnect, ClientApp.tcpDisconnect, bind_assoc, pure_bind, if_true]

theorem onApp_hdlcDisconnect :
    onApp (hdlcDisconnect found : ClientCommand ClassId AttributeId Obis) true =
      ClientApp.hdlcDisconnect (found.answers true) := by
  simp only [onApp, hdlcDisconnect, ClientApp.hdlcDisconnect, bind_assoc, pure_bind, ite_bind,
    Found.answers, if_true, Bool.false_eq_true, if_false]

end OnApp

section Tests

variable (found : Found)

theorem reads_deref (pointer : Pointer) {α : Type} (value : ClientApp → Option α) :
    Reads (deref pointer value) :=
  .require value _

theorem reads_unreleased (pointer : Pointer) (handle : Managed.Handle) :
    Reads (unreleased pointer handle) := by
  refine (Reads.read _).bind fun sockets => ?_
  split
  · exact .throw _
  · exact .pure _

theorem reads_callSocket (pointer : Pointer) (value : ClientApp → Option Managed.Handle) :
    Reads (callSocket pointer value) :=
  (reads_deref _ _).bind fun _ => reads_unreleased _ _

theorem reads_hdlcDatalinkConnect :
    Reads (hdlcDatalinkConnect found : ClientCommand ClassId AttributeId Obis).test := by
  refine (Reads.read _).bind fun serialSocket => (Reads.read _).bind fun link => ?_
  split
  · exact (reads_callSocket _ _).bind fun _ => .pure _
  · exact .pure _

theorem reads_cosemOpen :
    Reads (cosemOpen found : ClientCommand ClassId AttributeId Obis).test := by
  refine (Reads.read _).bind fun socket => ?_
  split
  · exact (reads_callSocket _ _).bind fun _ => (reads_deref _ _).bind fun _ => .pure _
  · exact .pure _

theorem reads_cosemRequest (name : StdString)
    (dialog : Dialog (Option (Demand ClassId AttributeId Obis))) :
    Reads (cosemRequest found name dialog).test := by
  refine (Reads.read _).bind fun socket => ?_
  split
  · refine (reads_callSocket _ _).bind fun _ => ?_
    split
    · exact (reads_deref _ _).bind fun _ => .pure _
    · exact .pure _
  · exact .pure _

theorem reads_hdlcDisconnect :
    Reads (hdlcDisconnect found : ClientCommand ClassId AttributeId Obis).test := by
  refine (Reads.read _).bind fun link => ?_
  split
  · exact .pure _
  · exact .pure _

end Tests

section Commands

variable {types} {found : Found} {m : MenuCommand} {c : ClientCommand ClassId AttributeId Obis}

theorem reads_test (hc : clientCommand types found m = some c) : Reads c.test := by
  cases m with
  | exit => cases hc
  | tcpConnect | hdlcPhysicalConnect | serialWrapperConnect | cosemRelease =>
    cases hc
    exact .pure true
  | hdlcIdentify | tcpDisconnect =>
    cases hc
    exact (Reads.read _).bind fun _ => .pure _
  | hdlcDatalinkConnect =>
    cases hc
    exact reads_hdlcDatalinkConnect found
  | cosemOpen =>
    cases hc
    exact reads_cosemOpen found
  | cosemGet | cosemSet | cosemAction =>
    cases hc
    exact reads_cosemRequest found _ _
  | hdlcDisconnect =>
    cases hc
    exact reads_hdlcDisconnect found

/-- **A command does to the pointers what it does in the menu's model**; the prompts of an open and
of the requests may come to no demand. -/
theorem onApp_clientCommand (hc : clientCommand types found m = some c) {line : StdString}
    (hline : command line = some m) :
    (Sends c.dialog ∧
        onApp c true = ClientApp.clientMenuHandler line (found.answers true)) ∨
      Asks c.dialog ∧
        ∀ sent, onApp c sent = ClientApp.clientMenuHandler line (found.answers sent) := by
  unfold ClientApp.clientMenuHandler
  rw [hline]
  cases m with
  | exit => cases hc
  | tcpConnect =>
    cases hc
    refine .inl ⟨?_, onApp_of_always rfl⟩
    unfold tcpConnect
    exact sends_tcpConnectDialog
  | hdlcPhysicalConnect =>
    cases hc
    refine .inl ⟨?_, onApp_of_always rfl⟩
    unfold hdlcPhysicalConnect
    exact sends_serialDialog _
  | hdlcIdentify =>
    cases hc
    refine .inl ⟨?_, onApp_hdlcIdentify⟩
    exact .pure (Option.some_ne_none _)
  | hdlcDatalinkConnect =>
    cases hc
    refine .inl ⟨?_, onApp_hdlcDatalinkConnect found⟩
    unfold hdlcDatalinkConnect
    exact sends_hdlcDatalinkConnectDialog
  | serialWrapperConnect =>
    cases hc
    refine .inl ⟨?_, onApp_of_always rfl⟩
    unfold serialWrapperConnect
    exact sends_serialDialog _
  | cosemOpen =>
    cases hc
    refine .inr ⟨?_, onApp_cosemOpen found⟩
    unfold cosemOpen
    exact asks_cosemOpenDialog
  | cosemGet =>
    cases hc
    exact .inr ⟨asks_cosemGetDialog types, onApp_cosemRequest found _ _⟩
  | cosemSet =>
    cases hc
    exact .inr ⟨asks_cosemSetDialog types, onApp_cosemRequest found _ _⟩
  | cosemAction =>
    cases hc
    exact .inr ⟨asks_cosemActionDialog types, onApp_cosemRequest found _ _⟩
  | cosemRelease =>
    cases hc
    refine .inl ⟨?_, onApp_of_always rfl⟩
    exact .pure (Option.some_ne_none _)
  | tcpDisconnect =>
    cases hc
    refine .inl ⟨?_, onApp_tcpDisconnect found⟩
    exact .pure (Option.some_ne_none _)
  | hdlcDisconnect =>
    cases hc
    refine .inl ⟨?_, onApp_hdlcDisconnect found⟩
    exact .pure (Option.some_ne_none _)

end Commands

/-- **A line does to the pointers what it does in the menu's model.** -/
theorem clientMenuHandler_follows (line : StdString) (found : Found) :
    Follows (clientMenuHandler types line found)
      fun sent => ClientApp.clientMenuHandler line (found.answers sent) := by
  unfold clientMenuHandler
  cases hline : command line with
  | none =>
    intro s
    refine ⟨List.suffix_refl _, .inl ⟨true, ?_⟩⟩
    simp only [ClientApp.clientMenuHandler, hline]
    exact ⟨rfl, rfl⟩
  | some m =>
    dsimp only
    cases hc : clientCommand types found m with
    | none =>
      obtain rfl : m = .exit := by cases m <;> first | rfl | cases hc
      intro s
      refine ⟨List.suffix_refl _, .inl ⟨true, ?_⟩⟩
      simp only [ClientApp.clientMenuHandler, hline]
      exact ⟨rfl, rfl⟩
    | some c =>
      rcases onApp_clientCommand hc hline with ⟨hsends, honApp⟩ | ⟨hasks, honApp⟩
      · exact perform_follows (reads_test hc) hsends (fun _ => by rw [honApp])
          fun hnone => absurd rfl hnone
      · exact perform_follows (reads_test hc) hasks (fun _ => by rw [honApp])
          fun _ _ => by rw [honApp]

/-- A handler that runs. -/
theorem Follows.run {handler : Handler ClassId AttributeId Obis Unit}
    {others : Bool → ClientApp.Handler Unit} (h : Follows handler others)
    (s : Client ClassId AttributeId Obis) :
    (run handler s).linesLeft <:+ s.linesLeft ∧
      ((∃ sent, (run handler s).app = ClientApp.run (others sent) s.app) ∨
        (run handler s).app = { s.app with stopped := some .exception }) := by
  obtain ⟨hsuffix, hfollows⟩ := h s
  unfold Client.run ClientApp.run
  cases hhandler : handler.at s with
  | mk result after =>
    rw [hhandler] at hsuffix hfollows
    rcases hfollows with ⟨sent, hresult, happ⟩ | ⟨hresult, happ⟩
    · cases hother : (others sent).at s.app with
      | mk other app =>
        rw [hother] at hresult happ
        obtain rfl : result = other := hresult
        obtain rfl : after.app = app := happ
        cases result with
        | ok done => exact ⟨hsuffix, .inl ⟨sent, by rw [hother]⟩⟩
        | error stop => exact ⟨hsuffix, .inl ⟨sent, by rw [hother]⟩⟩
    · obtain rfl : result = .error .exception := hresult
      refine ⟨hsuffix, .inr ?_⟩
      show ({ after.app with stopped := some .exception } : ClientApp) = _
      rw [show after.app = s.app from happ]

/-- A confirmation reads nothing. -/
theorem run_disconnectConfirm (found : Found) (s : Client ClassId AttributeId Obis) :
    (run (disconnectConfirm found) s).linesLeft = s.linesLeft ∧
      (run (disconnectConfirm found) s).app =
        ClientApp.run (ClientApp.disconnectConfirm (found.answers true)) s.app := by
  unfold run ClientApp.run
  rw [disconnectConfirm, at_bind, at_touch]
  dsimp only
  cases (ClientApp.disconnectConfirm (found.answers true)).at s.app with
  | mk result app =>
    cases result with
    | ok done => exact ⟨rfl, rfl⟩
    | error e => exact ⟨rfl, rfl⟩

/-! ## The run -/

/-- The line of an event of the menu. -/
def menuLine : MenuEvent → Option StdString
  | .line text _ => some text
  | .confirm _ => none

/-- What an event of the client is in the menu's model. -/
inductive Heard : MenuEvent → ClientEvent → Prop where
  | line (text : StdString) (found : Found) (sent : Bool) :
      Heard (.line text (found.answers sent)) (.line found)
  | confirm (found : Found) : Heard (.confirm (found.answers true)) (.confirm found)

/-- A run of the menu's model that a run of the client makes: the pointers are the same, unless the
input has ended inside a command, which the client does not survive; the lines are some of those of
the text, in order, and the other events some of the schedule's. -/
structure Traced (text : List StdString) (schedule : List ClientEvent)
    (s : Client ClassId AttributeId Obis) (events : List MenuEvent) : Prop where
  app : s.app = events.foldl ClientApp.step .start ∨
    s.app = { events.foldl ClientApp.step .start with stopped := some .exception }
  lines : List.Sublist (events.filterMap menuLine ++ s.linesLeft) text
  heard : List.SublistForall₂ Heard events schedule

section Traced

variable {text : List StdString} {schedule : List ClientEvent}
  {s s' : Client ClassId AttributeId Obis} {events : List MenuEvent}

theorem heard_concat (h : List.SublistForall₂ Heard events schedule) {e : MenuEvent}
    {event : ClientEvent} (he : Heard e event) :
    List.SublistForall₂ Heard (events ++ [e]) (schedule ++ [event]) := by
  obtain ⟨others, hothers, hsublist⟩ := List.sublistForall₂_iff.mp h
  exact List.sublistForall₂_iff.mpr ⟨others ++ [event],
    List.rel_append hothers (.cons he .nil), hsublist.append (List.Sublist.refl _)⟩

theorem heard_skip (h : List.SublistForall₂ Heard events schedule) (event : ClientEvent) :
    List.SublistForall₂ Heard events (schedule ++ [event]) := by
  obtain ⟨others, hothers, hsublist⟩ := List.sublistForall₂_iff.mp h
  exact List.sublistForall₂_iff.mpr
    ⟨others, hothers, hsublist.trans (List.sublist_append_left _ _)⟩

/-- An event that the menu's model does not see. -/
theorem Traced.skip (h : Traced text schedule s events) (event : ClientEvent)
    (happ : s'.app = s.app) (hlines : s'.linesLeft <:+ s.linesLeft) :
    Traced text (schedule ++ [event]) s' events := by
  refine ⟨?_, ?_, heard_skip h.heard event⟩
  · rw [happ]
    exact h.app
  · exact ((List.Sublist.refl _).append hlines.sublist).trans h.lines

/-- A client that has not ended has the pointers of the menu's model. -/
theorem Traced.running (h : Traced text schedule s events) (hstopped : s.app.stopped = none) :
    s.app = events.foldl ClientApp.step .start := by
  rcases h.app with happ | happ
  · exact happ
  · rw [happ] at hstopped
    cases hstopped

theorem Traced.start (console : Console) :
    Traced (terminated '\n' console.input.remaining) []
      (start console : Client ClassId AttributeId Obis) [] :=
  ⟨.inl rfl, List.Sublist.refl _, .nil⟩

theorem step_line {app : ClientApp} (h : app.stopped = none) (line : StdString)
    (answers : Answers) :
    app.step (.line line answers) = ClientApp.run (ClientApp.clientMenuHandler line answers) app :=
  if_neg (by rw [h]; exact Bool.false_ne_true)

theorem step_confirm {app : ClientApp} (h : app.stopped = none) (hrequested : app.disconnects ≠ 0)
    (answers : Answers) :
    app.step (.confirm answers) = ClientApp.run (ClientApp.disconnectConfirm answers)
      { app with disconnects := app.disconnects - 1 } := by
  unfold ClientApp.step
  rw [if_neg (by rw [h]; exact Bool.false_ne_true)]
  exact if_neg hrequested

/-- **One event of the client is one of the menu's model, or none.** -/
theorem Traced.step (h : Traced text schedule s events) (event : ClientEvent) :
    ∃ events, Traced text (schedule ++ [event]) (s.step types event) events := by
  cases hstopped : s.app.stopped with
  | some stop =>
    have hsame : s.step types event = s := by
      unfold Client.step
      rw [if_pos (by rw [hstopped]; rfl)]
    rw [hsame]
    exact ⟨events, h.skip event rfl (List.suffix_refl _)⟩
  | none =>
    have happ := h.running hstopped
    unfold Client.step
    rw [if_neg (by rw [hstopped]; exact Bool.false_ne_true)]
    cases event with
    | menu =>
      dsimp only
      split
      next => exact ⟨events, h.skip _ rfl (List.suffix_refl _)⟩
      next => exact ⟨events, h.skip _ rfl (List.suffix_refl _)⟩
    | line found =>
      dsimp only
      split
      next =>
        rw [hear_eq]
        cases hsplit : split '\n' s.console.input.remaining with
        | none =>
          obtain ⟨hline, hrest⟩ := nextLine_of_none hsplit
          rw [hline]
          refine ⟨events, h.skip _ rfl ?_⟩
          simp only [linesLeft, hrest]
          exact List.suffix_refl _
        | some p =>
          obtain ⟨line, rest⟩ := p
          obtain ⟨hline, hrest⟩ := nextLine_of_some hsplit
          rw [hline]
          have hleft : s.linesLeft = line :: terminated '\n' rest := terminated_of_split hsplit
          obtain ⟨hsuffix, hrun⟩ := (clientMenuHandler_follows types line found).run
            { s with
              console := { s.console with input := (nextLine '\n' s.console.input).2 }
              menu := .posted }
          simp only [linesLeft, hrest] at hsuffix
          rcases hrun with ⟨sent, hafter⟩ | hafter
          · refine ⟨events ++ [.line line (found.answers sent)], ?_, ?_,
              heard_concat h.heard (.line line found sent)⟩
            · rw [List.foldl_concat, ← happ, step_line hstopped]
              exact .inl hafter
            · rw [List.filterMap_append, List.append_assoc]
              refine List.Sublist.trans ?_ h.lines
              refine (List.Sublist.refl _).append ?_
              rw [hleft]
              exact hsuffix.sublist.cons_cons line
          · refine ⟨events, .inr ?_, ?_, heard_skip h.heard _⟩
            · rw [← happ]
              exact hafter
            · refine List.Sublist.trans ?_ h.lines
              refine (List.Sublist.refl _).append ?_
              rw [hleft]
              exact hsuffix.sublist.cons line
      next => exact ⟨events, h.skip _ rfl (List.suffix_refl _)⟩
    | confirm found =>
      dsimp only
      split
      next => exact ⟨events, h.skip _ rfl (List.suffix_refl _)⟩
      next hrequested =>
        obtain ⟨hleft, hrun⟩ := run_disconnectConfirm found
          { s with app := { s.app with disconnects := s.app.disconnects - 1 } }
        refine ⟨events ++ [.confirm (found.answers true)], ?_, ?_,
          heard_concat h.heard (.confirm found)⟩
        · rw [List.foldl_concat, ← happ, step_confirm hstopped hrequested]
          exact .inl hrun
        · rw [List.filterMap_append, List.append_assoc, hleft]
          exact h.lines

/-- **Whatever is typed, in pieces of any size, the client uses its pointers as the menu's model
does.** The events of the model are found along the run: its lines are some of the lines of the
text, in their order, and its other events some of the schedule's. An end of the input inside a
command is the one thing that the model has not: it ends the program and leaves the pointers. That
all lines of the text are read is not said. -/
theorem refines_menu (console : Console) (schedule : List ClientEvent) :
    ∃ events, Traced (terminated '\n' console.input.remaining) schedule
      (schedule.foldl (step types) (start console)) events := by
  induction schedule using List.reverseRecOn with
  | nil => exact ⟨[], .start console⟩
  | append_singleton schedule event ih =>
    obtain ⟨events, htraced⟩ := ih
    rw [List.foldl_concat]
    exact htraced.step types event

end Traced

end Client

end AccessPoint
