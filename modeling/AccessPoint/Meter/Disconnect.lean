import AccessPoint.Lib.Run
import AccessPoint.Meter.Cosem

/-!
# The meter's disconnect object

`LinuxDisconnect` keeps the output state, the control state and the control mode in three
fields. A `Set` writes none of them (a parsed control mode is dropped), `remote_reconnect`
writes the first two in the modes 2 and 4, and `remote_disconnect` writes the output state
alone.

`never_contradicts_iff` says which sequences of requests keep the two states in agreement and
every successful `remote_disconnect` true to its answer: those without a `remote_disconnect`,
and, in the modes 1, 3, 5 and 6, without a `remote_reconnect`.
-/

namespace AccessPoint.Meter

open Throwing

/-- `Disconnect::ControlState`. -/
inductive ControlState where
  | disconnected
  | connected
  | readyForReconnection
  deriving DecidableEq, Repr

/-- `Disconnect::ControlMode`. -/
inductive ControlMode where
  | mode0 | mode1 | mode2 | mode3 | mode4 | mode5 | mode6
  deriving DecidableEq, Repr

/-- The number of a state. -/
def ControlState.toNat : ControlState → Nat
  | .disconnected => 0
  | .connected => 1
  | .readyForReconnection => 2

/-- The number of a mode. -/
def ControlMode.toNat : ControlMode → Nat
  | .mode0 => 0
  | .mode1 => 1
  | .mode2 => 2
  | .mode3 => 3
  | .mode4 => 4
  | .mode5 => 5
  | .mode6 => 6

/-- `LinuxDisconnect`, with the attribute object that a control mode is parsed into. -/
structure LinuxDisconnect (Attribute : Type) where
  connected : Bool
  controlState : ControlState
  controlMode : ControlMode
  attr : Attribute

/-- A request: any attribute id, any method id, any data. -/
inductive DisconnectRequest (Data : Type) where
  | get (attributeId : Int)
  | set (attributeId : Int) (data : Data)
  | action (methodId : Int) (parameters : Option Data)

/-- What the object answers. -/
inductive DisconnectResponse where
  | got (result : DataAccessResult) (value : Option Appended)
  | set (result : Except Thrown DataAccessResult)
  | action (result : ActionResult)

namespace LinuxDisconnect

variable {Attribute Data Value : Type}

def attrOutputState : Int := 2
def attrControlState : Int := 3
def attrControlMode : Int := 4
def methodRemoteDisconnect : Int := 1
def methodRemoteReconnect : Int := 2

/-- A meter that is connected, in any control mode. -/
def create (mode : ControlMode) (attr : Attribute) : LinuxDisconnect Attribute :=
  { connected := true, controlState := .connected, controlMode := mode, attr }

/-- `InternalGet`. -/
def internalGet (s : LinuxDisconnect Attribute) (attributeId : Int) :
    DataAccessResult × Option Appended :=
  if attributeId = attrOutputState then (.success, some (.boolean s.connected))
  else if attributeId = attrControlState then (.success, some (.unsigned s.controlState.toNat))
  else if attributeId = attrControlMode then (.success, some (.unsigned s.controlMode.toNat))
  else (.objectUnavailable, none)

/-- A call of the library on the attribute. -/
def onAttribute {α : Type} (call : Call Thrown Attribute α) :
    Call Thrown (LinuxDisconnect Attribute) α :=
  .focus (·.attr) (fun attr s => { s with attr }) call

/-- `InternalSet`. The assignment of the parsed mode is commented out in the source. -/
def internalSet (cosem : Cosem Attribute Data Value) (attributeId : Int) (data : Data) :
    Call Thrown (LinuxDisconnect Attribute) DataAccessResult :=
  if attributeId = attrOutputState ∨ attributeId = attrControlState then pure .readWriteDenied
  else if attributeId = attrControlMode then do
    let retVal ← onAttribute (cosem.internalSet data)
    if retVal = .success then
      match ← onAttribute cosem.getNextValue with
      | some _ => pure .success
      | none => pure .temporaryFailure
    else pure .temporaryFailure
  else pure .temporaryFailure

/-- `InternalAction`. It does not look at the parameters. -/
def internalAction (s : LinuxDisconnect Attribute) (methodId : Int) :
    ActionResult × LinuxDisconnect Attribute :=
  if methodId = methodRemoteDisconnect then
    (.success, if s.controlMode ≠ .mode0 then { s with connected := false } else s)
  else if methodId = methodRemoteReconnect then
    match s.controlMode with
    | .mode1 | .mode3 | .mode5 | .mode6 =>
      (.success, { s with controlState := .readyForReconnection })
    | .mode2 | .mode4 => (.success, { s with controlState := .connected, connected := true })
    | .mode0 => (.objectUnavailable, s)
  else (.objectUnavailable, s)

/-- One request. -/
def serve (cosem : Cosem Attribute Data Value) (s : LinuxDisconnect Attribute) :
    DisconnectRequest Data → DisconnectResponse × LinuxDisconnect Attribute
  | .get attributeId => (.got (s.internalGet attributeId).1 (s.internalGet attributeId).2, s)
  | .set attributeId data =>
    (.set ((internalSet cosem attributeId data).at s).1,
      ((internalSet cosem attributeId data).at s).2)
  | .action methodId _ => (.action (s.internalAction methodId).1, (s.internalAction methodId).2)

/-- The state after one request. -/
def step (cosem : Cosem Attribute Data Value) (s : LinuxDisconnect Attribute)
    (request : DisconnectRequest Data) : LinuxDisconnect Attribute :=
  (serve cosem s request).2

/-- `output_state`, as a `Get` reads it, is true exactly when `control_state`, as a `Get` reads
it, is `CONNECTED`. -/
def Agrees (s : LinuxDisconnect Attribute) : Prop :=
  s.internalGet attrOutputState = (.success, some (.boolean true)) ↔
    s.internalGet attrControlState = (.success, some (.unsigned ControlState.connected.toNat))

/-- A `remote_disconnect`, with any parameters. -/
def IsDisconnect : DisconnectRequest Data → Prop
  | .action methodId _ => methodId = methodRemoteDisconnect
  | _ => False

/-- What is asked of one request: afterwards the states agree, and a `remote_disconnect` that was
answered with success has left the output off. -/
def KeepsFaith (cosem : Cosem Attribute Data Value) (s : LinuxDisconnect Attribute)
    (request : DisconnectRequest Data) : Prop :=
  (step cosem s request).Agrees ∧
    (IsDisconnect request → (serve cosem s request).1 = .action .success →
      (step cosem s request).internalGet attrOutputState = (.success, some (.boolean false)))

/-- A request that the object serves as it should in a control mode. -/
def Harmless (mode : ControlMode) : DisconnectRequest Data → Prop
  | .action methodId _ =>
    methodId ≠ methodRemoteDisconnect ∧
      (methodId = methodRemoteReconnect → mode = .mode0 ∨ mode = .mode2 ∨ mode = .mode4)
  | _ => True

/-! ## What a request changes -/

theorem agrees_iff {s : LinuxDisconnect Attribute} :
    s.Agrees ↔ (s.connected = true ↔ s.controlState = .connected) := by
  have hstate : s.controlState.toNat = ControlState.connected.toNat ↔
      s.controlState = .connected := by
    cases s.controlState <;> simp [ControlState.toNat]
  simp [Agrees, internalGet, attrOutputState, attrControlState, hstate]

/-- A `Set` leaves all three fields alone. -/
theorem internalSet_fields (cosem : Cosem Attribute Data Value) (s : LinuxDisconnect Attribute)
    (attributeId : Int) (data : Data) :
    ∃ attr, ((internalSet cosem attributeId data).at s).2 = { s with attr } := by
  have hparse : ∀ {α : Type} (call : Call Thrown Attribute α),
      Keeps (fun s' => ∃ attr, s' = { s with attr }) (onAttribute call) := by
    intro α call
    refine Keeps.focus call ?_
    rintro attr s' ⟨attr', rfl⟩
    exact ⟨attr, rfl⟩
  refine (?_ : Keeps (fun s' => ∃ attr, s' = { s with attr }) _) s ⟨s.attr, rfl⟩
  unfold internalSet
  split
  · exact Keeps.pure _
  · split
    · apply (hparse _).bind
      intro retVal
      split
      · apply (hparse _).bind
        intro value
        cases value with
        | none => exact Keeps.pure _
        | some value => exact Keeps.pure _
      · exact Keeps.pure _
    · exact Keeps.pure _

/-- The object as it is while it is served harmless requests. -/
structure Untouched (mode : ControlMode) (s : LinuxDisconnect Attribute) : Prop where
  connected : s.connected = true
  controlState : s.controlState = .connected
  controlMode : s.controlMode = mode

theorem Untouched.agrees {mode : ControlMode} {s : LinuxDisconnect Attribute}
    (h : s.Untouched mode) : s.Agrees :=
  agrees_iff.mpr (iff_of_true h.connected h.controlState)

/-- A harmless request leaves it so. -/
theorem Untouched.step {mode : ControlMode} {s : LinuxDisconnect Attribute}
    (cosem : Cosem Attribute Data Value) (h : s.Untouched mode) {request : DisconnectRequest Data}
    (hharmless : Harmless mode request) : (s.step cosem request).Untouched mode := by
  obtain ⟨hconnected, hstate, hmode⟩ := h
  cases request with
  | get attributeId => exact ⟨hconnected, hstate, hmode⟩
  | set attributeId data =>
    obtain ⟨attr, hset⟩ := internalSet_fields cosem s attributeId data
    show ((internalSet cosem attributeId data).at s).2.Untouched mode
    rw [hset]
    exact ⟨hconnected, hstate, hmode⟩
  | action methodId parameters =>
    obtain ⟨hdisconnect, hreconnect⟩ := hharmless
    show (s.internalAction methodId).2.Untouched mode
    rw [internalAction, if_neg hdisconnect]
    split
    · rename_i hmethod
      rcases hreconnect hmethod with rfl | rfl | rfl
      · rw [hmode]
        exact ⟨hconnected, hstate, hmode⟩
      · rw [hmode]
        exact ⟨rfl, rfl, rfl⟩
      · rw [hmode]
        exact ⟨rfl, rfl, rfl⟩
    · exact ⟨hconnected, hstate, hmode⟩

/-- A harmless request is served as it should be. -/
theorem Untouched.keepsFaith {mode : ControlMode} {s : LinuxDisconnect Attribute}
    (cosem : Cosem Attribute Data Value) (h : s.Untouched mode) {request : DisconnectRequest Data}
    (hharmless : Harmless mode request) : s.KeepsFaith cosem request := by
  refine ⟨(h.step cosem hharmless).agrees, ?_⟩
  intro hdisconnect
  cases request with
  | get attributeId => exact hdisconnect.elim
  | set attributeId data => exact hdisconnect.elim
  | action methodId parameters => exact absurd hdisconnect hharmless.1

/-- `remote_disconnect` is never served as it should be: in mode 0 it succeeds and leaves the
output on, in the others it leaves the control state at `CONNECTED`. -/
theorem Untouched.not_keepsFaith_disconnect {mode : ControlMode} {s : LinuxDisconnect Attribute}
    (cosem : Cosem Attribute Data Value) (h : s.Untouched mode) (parameters : Option Data) :
    ¬ s.KeepsFaith cosem (.action methodRemoteDisconnect parameters) := by
  rintro ⟨hagrees, hfaith⟩
  have hstep : s.step cosem (.action methodRemoteDisconnect parameters) =
      if s.controlMode ≠ .mode0 then { s with connected := false } else s := by
    simp [LinuxDisconnect.step, serve, internalAction]
  rw [hstep] at hagrees hfaith
  by_cases hmode : s.controlMode = .mode0
  · rw [if_neg (not_not.mpr hmode)] at hfaith
    have hoff := hfaith rfl (by simp [serve, internalAction])
    simp [internalGet, h.connected] at hoff
  · rw [if_pos hmode, agrees_iff] at hagrees
    exact absurd (hagrees.mpr h.controlState) Bool.false_ne_true

/-- And so is `remote_reconnect` in the modes that only make ready for it. -/
theorem Untouched.not_keepsFaith_reconnect {mode : ControlMode} {s : LinuxDisconnect Attribute}
    (cosem : Cosem Attribute Data Value) (h : s.Untouched mode) (parameters : Option Data)
    (hmode : ¬ (mode = .mode0 ∨ mode = .mode2 ∨ mode = .mode4)) :
    ¬ s.KeepsFaith cosem (.action methodRemoteReconnect parameters) := by
  rintro ⟨hagrees, -⟩
  have hstep : s.step cosem (.action methodRemoteReconnect parameters) =
      { s with controlState := .readyForReconnection } := by
    show (s.internalAction methodRemoteReconnect).2 = _
    rw [internalAction, if_neg (by decide), if_pos rfl, h.controlMode]
    cases mode with
    | mode0 => exact absurd (.inl rfl) hmode
    | mode2 => exact absurd (.inr (.inl rfl)) hmode
    | mode4 => exact absurd (.inr (.inr rfl)) hmode
    | mode1 => rfl
    | mode3 => rfl
    | mode5 => rfl
    | mode6 => rfl
  rw [hstep, agrees_iff] at hagrees
  cases hagrees.mp h.connected

/-- **When the disconnect object never contradicts itself**: for exactly the sequences of requests
that are harmless in its control mode. Two things are asked of every request: that the two states
agree after it, and that a disconnect which was answered with success has switched the output off.
Requests with any parameters and data are in the sequence. The first that is not harmless breaks one
of the two, and what the object does after it is of no account. -/
theorem never_contradicts_iff (cosem : Cosem Attribute Data Value) (mode : ControlMode)
    (attr : Attribute) (requests : List (DisconnectRequest Data)) :
    Run.Along (step cosem) (KeepsFaith cosem) (create mode attr) requests ↔
      ∀ request ∈ requests, Harmless mode request := by
  rw [← Run.along_forall]
  refine Run.along_iff (I := Untouched mode) ⟨rfl, rfl, rfl⟩ ?_ ?_
  · intro s request hs hharmless
    exact hs.step cosem hharmless
  · intro s request hs
    refine ⟨?_, hs.keepsFaith cosem⟩
    intro hfaith
    cases request with
    | get attributeId => trivial
    | set attributeId data => trivial
    | action methodId parameters =>
      constructor
      · rintro rfl
        exact hs.not_keepsFaith_disconnect cosem parameters hfaith
      · rintro rfl
        by_contra hmode
        exact hs.not_keepsFaith_reconnect cosem parameters hmode hfaith

/-- A library whose attributes and data are empty. -/
def emptyCosem : Cosem Unit Unit Unit where
  internalSet _ := pure .success
  getNextValue := pure none
  asString _ := none

/-- In the mode the constructor sets, one `remote_disconnect` turns the output off and leaves the
control state at `CONNECTED`. -/
theorem remote_disconnect_contradicts :
    ¬ ∀ (mode : ControlMode) (requests : List (DisconnectRequest Unit)),
      Run.Along (step emptyCosem) (KeepsFaith emptyCosem) (create mode ()) requests := by
  intro h
  have hrun := h .mode2 [.action methodRemoteDisconnect none]
  have hagrees := agrees_iff.mp hrun.1.1
  revert hagrees
  decide

end LinuxDisconnect

end AccessPoint.Meter
