import AccessPoint.Meter.Disconnect

/-!
# The control mode that is set

`LinuxDisconnect::InternalSet` parses a control mode, drops it, and answers with success. So the
mode that a client has set and the mode that a `Get` returns and an action is decided by are two:
`Tracked` keeps the first beside the object.

`takesEffect_iff` says which sequences of requests do not tell them apart: those in which every
control mode the library accepts is the one the meter started with.
-/

namespace AccessPoint.Meter

open Throwing

/-- The data of a `Set` of the control mode. -/
def DisconnectRequest.modeData {Data : Type} : DisconnectRequest Data → Option Data
  | .set attributeId data =>
    if attributeId = LinuxDisconnect.attrControlMode then some data else none
  | _ => none

/-- A `Set` that was answered with success. -/
def DisconnectResponse.isSet : DisconnectResponse → Bool
  | .set (.ok .success) => true
  | _ => false

/-- The object, and the mode carried by the most recent `Set` of the control mode that returned
success; `none` when that carried no mode. -/
structure Tracked (Attribute : Type) where
  object : LinuxDisconnect Attribute
  mode : Option ControlMode

namespace LinuxDisconnect

variable {Attribute Data Value : Type}

/-- The object reads as being in a mode, and decides every action as it would in that mode. -/
structure Governed (s : LinuxDisconnect Attribute) (mode : ControlMode) : Prop where
  reads : s.internalGet attrControlMode = (.success, some (.unsigned mode.toNat))
  answers : ∀ methodId, (s.internalAction methodId).1 =
    (internalAction { s with controlMode := mode } methodId).1
  changes : ∀ methodId,
    ((s.internalAction methodId).2.connected, (s.internalAction methodId).2.controlState) =
      ((internalAction { s with controlMode := mode } methodId).2.connected,
        (internalAction { s with controlMode := mode } methodId).2.controlState)

/-- The library parses the data and hands a value over. -/
def Accepts (cosem : Cosem Attribute Data Value) (attr : Attribute) (data : Data) (value : Value) :
    Prop :=
  ∃ attr' attr'', (cosem.internalSet data).at attr = (.ok .success, attr') ∧
    cosem.getNextValue.at attr' = (.ok (some value), attr'')

/-! ## One request -/

theorem toNat_injective : Function.Injective ControlMode.toNat := by
  intro mode mode' h
  cases mode <;> cases mode' <;> first | rfl | cases h

/-- An object is governed by its own mode alone. -/
theorem governed_iff {s : LinuxDisconnect Attribute} {mode : ControlMode} :
    s.Governed mode ↔ s.controlMode = mode := by
  constructor
  · intro h
    have hreads : s.internalGet attrControlMode =
      (.success, some (.unsigned s.controlMode.toNat)) := rfl
    have hread := h.reads
    simp only [hreads, Prod.mk.injEq, Option.some.injEq, Appended.unsigned.injEq,
      true_and] at hread
    exact toNat_injective hread
  · rintro rfl
    exact ⟨rfl, fun _ => rfl, fun _ => rfl⟩

/-- A `Set` of the control mode succeeds exactly when the library accepts a value. -/
theorem set_success_iff (cosem : Cosem Attribute Data Value) (s : LinuxDisconnect Attribute)
    (data : Data) :
    ((internalSet cosem attrControlMode data).at s).1 = .ok .success ↔
      ∃ value, Accepts cosem s.attr data value := by
  have hstart : (internalSet cosem attrControlMode data).at s = _ := at_bind _ _
  cases hset : (cosem.internalSet data).at s.attr with
  | mk retVal attr =>
    have hparse : (onAttribute (cosem.internalSet data)).at s = (retVal, { s with attr }) := by
      rw [onAttribute, at_focus, hset]
    rw [hparse] at hstart
    by_cases hsuccess : retVal = .ok .success
    · subst hsuccess
      have hnext : (onAttribute cosem.getNextValue).at { s with attr } =
          ((cosem.getNextValue.at attr).1, { s with attr := (cosem.getNextValue.at attr).2 }) := rfl
      simp only [if_true, at_bind, hnext] at hstart
      have haccepts : (∃ value, Accepts cosem s.attr data value) ↔
          ∃ value, (cosem.getNextValue.at attr).1 = .ok (some value) := by
        constructor
        · rintro ⟨value, attr', attr'', hset', hvalue⟩
          rw [hset] at hset'
          cases hset'
          exact ⟨value, by rw [hvalue]⟩
        · rintro ⟨value, hvalue⟩
          exact ⟨value, attr, (cosem.getNextValue.at attr).2, hset, by rw [← hvalue]⟩
      rw [hstart, haccepts]
      match (cosem.getNextValue.at attr).1 with
      | .error e => exact iff_of_false nofun (fun ⟨_, h⟩ => nomatch h)
      | .ok none => exact iff_of_false nofun (fun ⟨_, h⟩ => nomatch h)
      | .ok (some value) => exact iff_of_true rfl ⟨value, rfl⟩
    · have hrefused : ¬ ∃ value, Accepts cosem s.attr data value := by
        rintro ⟨value, attr', attr'', hset', -⟩
        rw [hset] at hset'
        cases hset'
        exact hsuccess rfl
      refine iff_of_false ?_ hrefused
      rw [hstart]
      match retVal with
      | .error e => exact nofun
      | .ok retVal =>
        have hne : retVal ≠ .success := fun h => hsuccess (by rw [h])
        simp only [if_neg hne, at_pure]
        exact nofun

end LinuxDisconnect

/-! ## A sequence of requests -/

namespace Tracked

open LinuxDisconnect

variable {Attribute Data Value : Type} (cosem : Cosem Attribute Data Value)
  (parse : Data → Option Value) (modeOf : Value → Option ControlMode)

/-- One request. -/
def step (t : Tracked Attribute) (request : DisconnectRequest Data) : Tracked Attribute :=
  let served := serve cosem t.object request
  { object := served.2
    mode := match request.modeData with
      | some data => if served.1.isSet then (parse data).bind modeOf else t.mode
      | none => t.mode }

/-- The object is governed by the mode that was set last. -/
def InEffect (t : Tracked Attribute) : Prop :=
  ∃ mode, t.mode = some mode ∧ t.object.Governed mode

/-- A `Set` that is not answered with success changes no field. -/
def RefusesCleanly (t : Tracked Attribute) (request : DisconnectRequest Data) : Prop :=
  ∀ attributeId data, request = .set attributeId data →
    (serve cosem t.object request).1.isSet = false →
      ∃ attr, (serve cosem t.object request).2 = { t.object with attr }

/-- After every request the mode that was set last is in effect, and every `Set` that is refused
changes nothing. -/
def TakesEffect (mode : ControlMode) (attr : Attribute) (requests : List (DisconnectRequest Data)) :
    Prop :=
  Run.Always (step cosem parse modeOf) InEffect
      { object := create mode attr, mode := some mode } requests ∧
    Run.Along (step cosem parse modeOf) (RefusesCleanly cosem)
      { object := create mode attr, mode := some mode } requests

/-- A control mode that the library accepts here is the one named. -/
def SetsOnly (mode : ControlMode) (t : Tracked Attribute) (request : DisconnectRequest Data) :
    Prop :=
  ∀ data, request.modeData = some data →
    ∀ value, Accepts cosem t.object.attr data value → modeOf value = some mode

/-- Nothing but the mode has been set. -/
structure Only (mode : ControlMode) (t : Tracked Attribute) : Prop where
  object : t.object.controlMode = mode
  mode : t.mode = some mode

section Steps

variable {cosem parse modeOf} {mode : ControlMode} {t : Tracked Attribute}
  {request : DisconnectRequest Data}

/-- No request changes the control mode. -/
theorem serve_controlMode :
    (serve cosem t.object request).2.controlMode = t.object.controlMode := by
  cases request with
  | get attributeId => rfl
  | set attributeId data =>
    obtain ⟨attr, hset⟩ := internalSet_fields cosem t.object attributeId data
    exact congrArg (·.controlMode) hset
  | action methodId parameters =>
    show (t.object.internalAction methodId).2.controlMode = t.object.controlMode
    unfold internalAction
    split
    · split <;> rfl
    · split
      · split <;> rfl
      · rfl

/-- A `Set` changes no field, answered with success or not. -/
theorem refusesCleanly : RefusesCleanly cosem t request := by
  rintro attributeId data rfl -
  exact internalSet_fields cosem t.object attributeId data

theorem modeData_eq_some {data : Data} :
    request.modeData = some data ↔ request = .set attrControlMode data := by
  constructor
  · intro h
    cases request with
    | get attributeId => cases h
    | action methodId parameters => cases h
    | set attributeId data' =>
      by_cases hattr : attributeId = attrControlMode
      · rw [DisconnectRequest.modeData, if_pos hattr] at h
        cases h
        rw [hattr]
      · rw [DisconnectRequest.modeData, if_neg hattr] at h
        cases h
  · rintro rfl
    rw [DisconnectRequest.modeData, if_pos rfl]

/-- The answer to a `Set` of the control mode, by whether the library accepts a value. -/
theorem isSet_iff {data : Data} :
    (serve cosem t.object (.set attrControlMode data)).1.isSet = true ↔
      ∃ value, Accepts cosem t.object.attr data value := by
  rw [← set_success_iff]
  show (DisconnectResponse.set ((internalSet cosem attrControlMode data).at t.object).1).isSet =
    true ↔ _
  match ((internalSet cosem attrControlMode data).at t.object).1 with
  | .error e => exact iff_of_false nofun nofun
  | .ok .success => exact iff_of_true rfl rfl
  | .ok .temporaryFailure | .ok .readWriteDenied | .ok .objectUnavailable | .ok .typeUnmatched
  | .ok (.other _) => exact iff_of_false nofun nofun

/-- A value the library accepts is the mode that was set last from then on. -/
theorem step_mode_of_accepts (hparses : cosem.Parses parse) {data : Data} {value : Value}
    (hdata : request.modeData = some data) (haccepts : Accepts cosem t.object.attr data value) :
    (t.step cosem parse modeOf request).mode = modeOf value := by
  obtain rfl := modeData_eq_some.mp hdata
  have hset := isSet_iff.mpr ⟨value, haccepts⟩
  obtain ⟨attr', attr'', hparsed, hnext⟩ := haccepts
  simp only [step, hdata, hset, if_true, hparses _ _ _ _ _ hparsed hnext, Option.bind_some]

/-- Any other request leaves it as it is. -/
theorem step_mode_of_not_accepts
    (h : ∀ data, request.modeData = some data →
      ¬ ∃ value, Accepts cosem t.object.attr data value) :
    (t.step cosem parse modeOf request).mode = t.mode := by
  cases hdata : request.modeData with
  | none => simp only [step, hdata]
  | some data =>
    obtain rfl := modeData_eq_some.mp hdata
    have hset := mt isSet_iff.mp (h data hdata)
    simp only [step, hdata, hset, Bool.false_eq_true, if_false]

/-- A request that sets nothing but the mode keeps it so. -/
theorem Only.step (hparses : cosem.Parses parse) (h : t.Only mode)
    (honly : SetsOnly cosem modeOf mode t request) :
    (t.step cosem parse modeOf request).Only mode := by
  refine ⟨serve_controlMode.trans h.object, ?_⟩
  by_cases haccepts : ∃ data, request.modeData = some data ∧
      ∃ value, Accepts cosem t.object.attr data value
  · obtain ⟨data, hdata, value, haccepts⟩ := haccepts
    exact (step_mode_of_accepts hparses hdata haccepts).trans (honly data hdata value haccepts)
  · refine (step_mode_of_not_accepts ?_).trans h.mode
    intro data hdata hvalue
    exact haccepts ⟨data, hdata, hvalue⟩

/-- A request that sets another mode leaves an object that is not governed by it. -/
theorem Only.not_inEffect (hparses : cosem.Parses parse) (h : t.Only mode)
    (hother : ¬ SetsOnly cosem modeOf mode t request) :
    ¬ (t.step cosem parse modeOf request).InEffect := by
  rintro ⟨mode', hmode', hgoverned⟩
  apply hother
  intro data hdata value haccepts
  have hobject : mode = mode' := by
    rw [← h.object, ← governed_iff.mp hgoverned]
    exact serve_controlMode.symm
  have hset : (t.step cosem parse modeOf request).mode = modeOf value :=
    step_mode_of_accepts hparses hdata haccepts
  rw [← hset, hmode', hobject]

end Steps

/-- **A control mode that is set takes effect exactly in the runs that set nothing but the mode the
meter started with.** The run is any list of requests on any starting mode, with a library of which
it is assumed only that it hands over what the data says. Requests that are refused are harmless
here, and so is a mode that is set and is the one in effect; the first other one that is accepted
breaks it. -/
theorem takesEffect_iff {parse : Data → Option Value} (hparses : cosem.Parses parse)
    (mode : ControlMode) (attr : Attribute) (requests : List (DisconnectRequest Data)) :
    TakesEffect cosem parse modeOf mode attr requests ↔
      Run.Along (step cosem parse modeOf) (SetsOnly cosem modeOf mode)
        { object := create mode attr, mode := some mode } requests := by
  have hclean : Run.Along (step cosem parse modeOf) (RefusesCleanly cosem)
      { object := create mode attr, mode := some mode } requests :=
    Run.along_iff_cut.mpr fun _ _ _ _ => refusesCleanly
  rw [TakesEffect, and_iff_left hclean]
  apply Run.always_iff_along (I := Only mode) ⟨rfl, rfl⟩
  · intro t request honly hsets
    exact honly.step hparses hsets
  · intro t honly
    exact ⟨mode, honly.mode, governed_iff.mpr honly.object⟩
  · intro t request honly hother
    exact honly.not_inEffect hparses hother

/-- A library that takes a number for a value, and the modes for their numbers. -/
def numberCosem : Cosem Nat Nat Nat where
  internalSet data := .of fun _ => (.ok .success, data)
  getNextValue := .of fun attr => (.ok (some attr), attr)
  asString _ := none

theorem numberCosem_parses : numberCosem.Parses some := by
  intro attr attr' attr'' data value hset hnext
  cases hset
  cases hnext
  rfl

/-- The modes by their numbers. -/
def modeOfNat (n : Nat) : Option ControlMode :=
  [ControlMode.mode0, .mode1, .mode2, .mode3, .mode4, .mode5, .mode6][n]?

/-- A meter that starts in mode 2 and is set to mode 4 answers with success and stays in mode 2. -/
theorem not_takesEffect : ¬ ∀ (mode : ControlMode) (requests : List (DisconnectRequest Nat)),
    TakesEffect numberCosem some modeOfNat mode 0 requests := by
  intro h
  obtain ⟨hrun, -⟩ := h .mode2 [.set attrControlMode 4]
  obtain ⟨mode, hmode, hgoverned⟩ := hrun.last
  cases hmode
  have hread := governed_iff.mp hgoverned
  cases hread

theorem takesEffect_iff_number : numberCosem.Parses some ∧
    (TakesEffect numberCosem some modeOfNat .mode2 0 [.set attrControlMode 2] ↔
      Run.Along (step numberCosem some modeOfNat) (SetsOnly numberCosem modeOfNat .mode2)
        { object := create .mode2 0, mode := some .mode2 } [.set attrControlMode 2]) :=
  ⟨numberCosem_parses,
    takesEffect_iff numberCosem modeOfNat numberCosem_parses .mode2 0 [.set attrControlMode 2]⟩

end Tracked

end AccessPoint.Meter
