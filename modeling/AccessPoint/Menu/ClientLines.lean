import AccessPoint.Menu.Harmless
import AccessPoint.Menu.Sheet

/-!
# What the client sees of its input

The client reads from a buffer before a descriptor that gives it the text in pieces, and leaves in
the buffer what it has not come to. None of that shows: two clients with the same complete lines to
come do the same in every run, whichever of the two ways of reading a line is used for which of
them (`lines_decide`).
-/

namespace AccessPoint

open Throwing

namespace Client

open AppBase ClientApp

variable {ClassId AttributeId Obis : Type}

/-- All there is to a client but how the text that is to come is cut, and what stands behind its
last line. -/
def shown (s : Client ClassId AttributeId Obis) :
    (List StdString × StdString) × ClientApp × Menu × List (Demand ClassId AttributeId Obis) :=
  (s.console.sheet, s.app, s.menu, s.demands)

theorem shown_eq {s t : Client ClassId AttributeId Obis} :
    s.shown = t.shown ↔ s.console.sheet = t.console.sheet ∧ s.app = t.app ∧
      s.menu = t.menu ∧ s.demands = t.demands := by
  simp only [shown, Prod.mk.injEq]

/-! ## The dialogs -/

section Dialogs

variable (types : CosemTypes ClassId AttributeId Obis)

/-- The dialog sees only the lines. -/
abbrev SeesLines {α : Type} (dialog : Dialog α) : Prop :=
  SeesOnly Console.sheet dialog

theorem seesLines_tcpConnectDialog :
    SeesLines (tcpConnectDialog : Dialog (Option (Demand ClassId AttributeId Obis))) :=
  (SeesOnly.getNumericInput _ _).bind fun _ => (SeesOnly.getStringInput _ _).bind fun _ => .pure _

theorem seesLines_serialDialog
    (demand : Int → StdString → Int → Demand ClassId AttributeId Obis) :
    SeesLines (serialDialog demand) :=
  (SeesOnly.getNumericInput _ _).bind fun _ => (SeesOnly.getStringInput _ _).bind fun _ =>
    (SeesOnly.printLine _).bind fun _ => (SeesOnly.printLine _).bind fun _ =>
      (SeesOnly.printLine _).bind fun _ => (SeesOnly.getNumericInput _ _).bind fun _ => .pure _

theorem seesLines_cosemOpenDialog :
    SeesLines (cosemOpenDialog : Dialog (Option (Demand ClassId AttributeId Obis))) := by
  have hopen : ∀ destinationAddress password, SeesLines (openDialog destinationAddress password :
      Dialog (Option (Demand ClassId AttributeId Obis))) :=
    fun _ _ => (SeesOnly.getNumericInput _ _).bind fun _ => .pure _
  refine (SeesOnly.getNumericInput _ _).bind fun destinationAddress =>
    (SeesOnly.getNumericInput _ _).bind fun security => ?_
  split
  · exact hopen _ _
  · split
    · exact (SeesOnly.getStringInput _ _).bind fun password => hopen _ _
    · exact (SeesOnly.printLine _).bind fun _ => .pure _

theorem seesLines_obisDialog (default : StdString)
    {next : Obis → Dialog (Option (Demand ClassId AttributeId Obis))}
    (h : ∀ instanceId, SeesLines (next instanceId)) :
    SeesLines (obisDialog types default next) := by
  refine (SeesOnly.getStringInput _ _).bind fun code => ?_
  cases types.parse code with
  | some instanceId => exact h instanceId
  | none => exact (SeesOnly.printLine _).bind fun _ => .pure _

theorem seesLines_cosemGetDialog : SeesLines (cosemGetDialog types) :=
  (SeesOnly.getNumericInput _ _).bind fun _ => (SeesOnly.getNumericInput _ _).bind fun _ =>
    seesLines_obisDialog types _ fun _ => .pure _

theorem seesLines_cosemSetDialog : SeesLines (cosemSetDialog types) :=
  (SeesOnly.getNumericInput _ _).bind fun _ => (SeesOnly.getNumericInput _ _).bind fun _ =>
    seesLines_obisDialog types _ fun _ => (SeesOnly.getStringInput _ _).bind fun _ => .pure _

theorem seesLines_cosemActionDialog : SeesLines (cosemActionDialog types) :=
  (SeesOnly.getNumericInput _ _).bind fun _ => (SeesOnly.getNumericInput _ _).bind fun _ =>
    seesLines_obisDialog types _ fun _ => (SeesOnly.getNumericInput _ _).bind fun _ => .pure _

/-- **The dialog of a command sees only the lines**, whichever command it is. -/
theorem seesLines_clientCommand {types : CosemTypes ClassId AttributeId Obis} {found : Found}
    {m : MenuCommand} {c : ClientCommand ClassId AttributeId Obis}
    (h : clientCommand types found m = some c) : SeesLines c.dialog := by
  cases m with
  | exit => cases h
  | tcpConnect =>
    cases h
    exact seesLines_tcpConnectDialog
  | hdlcPhysicalConnect =>
    cases h
    exact seesLines_serialDialog _
  | hdlcIdentify =>
    cases h
    exact .pure _
  | hdlcDatalinkConnect =>
    cases h
    exact (SeesOnly.getNumericInput _ _).bind fun _ => .pure _
  | serialWrapperConnect =>
    cases h
    exact seesLines_serialDialog _
  | cosemOpen =>
    cases h
    exact seesLines_cosemOpenDialog
  | cosemGet =>
    cases h
    exact seesLines_cosemGetDialog types
  | cosemSet =>
    cases h
    exact seesLines_cosemSetDialog types
  | cosemAction =>
    cases h
    exact seesLines_cosemActionDialog types
  | cosemRelease =>
    cases h
    exact .pure _
  | tcpDisconnect =>
    cases h
    exact .pure _
  | hdlcDisconnect =>
    cases h
    exact .pure _

end Dialogs

/-! ## The handlers -/

theorem seesOnly_talk {α : Type} {dialog : Dialog α} (h : SeesLines dialog) :
    SeesOnly shown (talk dialog : Handler ClassId AttributeId Obis α) := by
  intro s t hshown
  obtain ⟨hsheet, hothers⟩ := shown_eq.mp hshown
  obtain ⟨hresult, hafter⟩ := h s.console t.console hsheet
  rw [at_talk, at_talk, hresult]
  exact ⟨rfl, shown_eq.mpr ⟨hafter, hothers⟩⟩

theorem seesOnly_touch {α : Type} (call : ClientApp.Handler α) :
    SeesOnly shown (touch call : Handler ClassId AttributeId Obis α) := by
  refine .focus (fun s t h => (shown_eq.mp h).2.1) fun app s t h => ?_
  obtain ⟨hsheet, -, hmenu, hdemands⟩ := shown_eq.mp h
  exact shown_eq.mpr ⟨hsheet, rfl, hmenu, hdemands⟩

theorem seesOnly_record (demand : Demand ClassId AttributeId Obis) :
    SeesOnly shown (record demand) := by
  refine .assign fun s t h => ?_
  obtain ⟨hsheet, happ, hmenu, hdemands⟩ := shown_eq.mp h
  exact shown_eq.mpr ⟨hsheet, happ, hmenu, congrArg (· ++ [demand]) hdemands⟩

theorem seesOnly_perform {c : ClientCommand ClassId AttributeId Obis}
    (h : SeesLines c.dialog) : SeesOnly shown (perform c) := by
  refine (seesOnly_touch c.test).bind fun tested => ?_
  cases tested with
  | false => exact seesOnly_talk (SeesOnly.printLine _)
  | true =>
    refine (seesOnly_talk h).bind fun demand => ?_
    cases demand with
    | none => exact .pure _
    | some demand =>
      exact (seesOnly_touch c.call).bind fun _ => (seesOnly_record demand).bind fun _ =>
        seesOnly_talk (SeesOnly.printLine _)

variable (types : CosemTypes ClassId AttributeId Obis)

theorem seesOnly_clientMenuHandler (line : StdString) (found : Found) :
    SeesOnly shown (clientMenuHandler types line found) := by
  unfold clientMenuHandler
  cases command line with
  | none => exact .pure _
  | some m =>
    dsimp only
    cases hc : clientCommand types found m with
    | none => exact .throw _
    | some c => exact seesOnly_perform (seesLines_clientCommand hc)

theorem seesOnly_disconnectConfirm (found : Found) :
    SeesOnly shown (disconnectConfirm found : Handler ClassId AttributeId Obis Unit) :=
  (seesOnly_touch _).bind fun _ => seesOnly_talk (SeesOnly.printLine _)

/-! ## The run -/

variable {s t : Client ClassId AttributeId Obis}

theorem shown_run {handler : Handler ClassId AttributeId Obis Unit}
    (hhandler : SeesOnly shown handler) (h : s.shown = t.shown) :
    (run handler s).shown = (run handler t).shown := by
  obtain ⟨hresult, hafter⟩ := hhandler s t h
  unfold run
  cases hs : handler.at s with
  | mk result s' =>
    cases ht : handler.at t with
    | mk other t' =>
      rw [hs, ht] at hresult hafter
      obtain rfl : result = other := hresult
      cases result with
      | ok a => exact hafter
      | error stop =>
        obtain ⟨hsheet, happ, hmenu, hdemands⟩ := shown_eq.mp hafter
        refine shown_eq.mpr ⟨hsheet, ?_, hmenu, hdemands⟩
        exact congrArg (fun app : ClientApp => { app with stopped := some stop }) happ

/-- **One event.** -/
theorem shown_step (event : ClientEvent) (h : s.shown = t.shown) :
    (s.step types event).shown = (t.step types event).shown := by
  obtain ⟨hsheet, happ, hmenu, hdemands⟩ := shown_eq.mp h
  unfold Client.step
  rw [happ, hmenu]
  split
  · exact h
  · cases event with
    | menu =>
      dsimp only
      split
      · refine shown_run (seesOnly_talk (SeesOnly.printLine _)) ?_
        exact shown_eq.mpr ⟨hsheet, rfl, rfl, hdemands⟩
      · exact h
    | line found =>
      obtain ⟨hline, hafter⟩ := hear_alike hsheet .readLine
      dsimp only
      split
      · cases hs : hear s.console .readLine with
        | mk line console =>
          cases ht : hear t.console .readLine with
          | mk other console' =>
            rw [hs, ht] at hline hafter
            obtain rfl : line = other := hline
            cases line with
            | none => exact shown_eq.mpr ⟨hafter, rfl, rfl, hdemands⟩
            | some line =>
              refine shown_run (seesOnly_clientMenuHandler types line found) ?_
              exact shown_eq.mpr ⟨hafter, rfl, rfl, hdemands⟩
      · exact h
    | confirm found =>
      dsimp only
      split
      · exact h
      · refine shown_run (seesOnly_disconnectConfirm found) ?_
        exact shown_eq.mpr ⟨hsheet, rfl, rfl, hdemands⟩

/-- **The lines decide**: whatever happens, clients that differ only in how their input is cut, or
in what stands behind its last line, print the same, ask for the same, use their pointers alike and
have the same lines left. The relation is an equality of what is shown, and it is kept by every
event of any schedule, through every dialog. What the two clients have buffered need not agree at
any time. -/
theorem lines_decide (events : List ClientEvent) (h : s.shown = t.shown) :
    (events.foldl (Client.step types) s).shown = (events.foldl (Client.step types) t).shown := by
  induction events generalizing s t with
  | nil => exact h
  | cons event events ih => exact ih (shown_step types event h)

/-- A connect, in one piece and cut inside its address with the next line begun. -/
theorem lines_decide_connect :
    ([.menu, .line willing].foldl (Client.step plainTypes) (start
        { input := { buffer := [], chunks := ["a\n0x10\n\n".toList] }
          output := [] })).shown =
      ([.menu, .line willing].foldl (Client.step plainTypes) (start
        { input := { buffer := "a\n0".toList, chunks := ["x10\n".toList, "\n2".toList] }
          output := [] })).shown :=
  lines_decide plainTypes [.menu, .line willing]
    (shown_eq.mpr ⟨by decide, rfl, rfl, rfl⟩)

end Client

end AccessPoint
