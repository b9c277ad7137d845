import AccessPoint.Lib.Throwing
import AccessPoint.Meter.Cosem

/-!
# What the access point makes of a meter's answer

`LinuxClientEngine::OnGetConfirmation` of `APsim.cpp` stores the string that a meter has answered
in `recent`. It looks at the validity of the response, the choice of its result, its class and its
attribute, and then takes values out of the data, each with a call that throws when the value is
not there.

`sound_iff` says which responses it survives and records rightly. The library that decodes the data
is not part of the repository; it is a parameter, with the ids of the two classes.
-/

namespace AccessPoint.Script

open Throwing AccessPoint.Meter

/-- A `DLMSValue`, by the types the handler asks for. -/
inductive DLMSValue where
  | visibleString (text : StdString)
  | integer (value : Int8)
  | longUnsigned (value : UInt16)
  | sequence (elements : List DLMSValue)
  | other (type : Nat)

/-- The two choices of a Get result. -/
inductive GetDataResult (Data : Type) where
  | data (data : Data)
  | dataAccessResult (code : DataAccessResult)

/-- `GetResponse`. -/
structure GetResponse (Data : Type) where
  resultValid : Bool
  result : GetDataResult Data
  classId : Nat
  attributeId : Int

/-- What the handler takes from the library: the ids it compares with, and the first value that
`GetNextValue` retrieves from an attribute holding some data, if it retrieves one. -/
structure ClientLibrary (Data : Type) where
  clsidIData : Nat
  clsidIAssociationLN : Nat
  clsid_ne : clsidIData ≠ clsidIAssociationLN
  attrPartnersId : Int
  value : Data → Option DLMSValue
  associatedPartnersId : Data → Option DLMSValue

/-- What ends the handler early. -/
inductive Fault where
  | thrown
  | outOfRange
  deriving DecidableEq, Repr

/-- The lines the handler traces. -/
inductive TraceLine where
  | confirmation (token : Nat)
  | errorCode (code : DataAccessResult)
  | recent (text : StdString)
  | partners (clientSAP : Int8) (serverSAP : UInt16)
  | notSupported (attributeId : Int)
  deriving DecidableEq, Repr

/-- The fields of the engine that the handler writes. -/
structure LinuxClientEngine where
  recent : StdString
  trace : List TraceLine
  deriving DecidableEq, Repr

namespace LinuxClientEngine

variable {Data : Type}

/-- A call of `TRACE`. -/
def traceLine (line : TraceLine) : Call Fault LinuxClientEngine Unit :=
  .assign fun engine => { engine with trace := engine.trace ++ [line] }

/-- `Result.get<DLMSVector>()`. -/
def getVector : GetDataResult Data → Call Fault LinuxClientEngine Data
  | .data data => pure data
  | .dataAccessResult _ => throw .thrown

/-- `DLMSValueGet<VISIBLE_STRING_CType>`. -/
def getVisibleString : DLMSValue → Call Fault LinuxClientEngine StdString
  | .visibleString text => pure text
  | _ => throw .thrown

/-- `DLMSValueGet<INTEGER_CType>`. -/
def getInteger : DLMSValue → Call Fault LinuxClientEngine Int8
  | .integer value => pure value
  | _ => throw .thrown

/-- `DLMSValueGet<LONG_UNSIGNED_CType>`. -/
def getLongUnsigned : DLMSValue → Call Fault LinuxClientEngine UInt16
  | .longUnsigned value => pure value
  | _ => throw .thrown

/-- `Element[index]`. -/
def element (elements : List DLMSValue) (index : Nat) : Call Fault LinuxClientEngine DLMSValue :=
  match elements[index]? with
  | some value => pure value
  | none => throw .outOfRange

variable (library : ClientLibrary Data)

/-- The case of `CLSID_IData`. -/
def onData (response : GetResponse Data) : Call Fault LinuxClientEngine Unit := do
  let data ← getVector response.result
  match library.value data with
  | some value =>
    let text ← getVisibleString value
    .assign fun engine => { engine with recent := text }
    traceLine (.recent text)
  | none => pure ()

/-- The case of `CLSID_IAssociationLN` and `ATTR_PARTNERS_ID`. -/
def onPartnersId (response : GetResponse Data) : Call Fault LinuxClientEngine Unit := do
  let data ← getVector response.result
  match library.associatedPartnersId data with
  | some (.sequence elements) =>
    let client ← element elements 0
    let clientSAP ← getInteger client
    let server ← element elements 1
    let serverSAP ← getLongUnsigned server
    traceLine (.partners clientSAP serverSAP)
  | _ => pure ()

/-- The switch on the class. -/
def onClass (response : GetResponse Data) : Call Fault LinuxClientEngine Unit :=
  if response.classId = library.clsidIData then onData library response
  else if response.classId = library.clsidIAssociationLN then
    if response.attributeId = library.attrPartnersId then onPartnersId library response
    else traceLine (.notSupported response.attributeId)
  else pure ()

/-- `OnGetConfirmation`. -/
def onGetConfirmation (token : Nat) (response : GetResponse Data) :
    Call Fault LinuxClientEngine Bool := do
  traceLine (.confirmation token)
  match response.resultValid, response.result with
  | true, .dataAccessResult code =>
    traceLine (.errorCode code)
    pure false
  | _, _ =>
    onClass library response
    pure true

/-! ## What is asked of the handler -/

/-- The string a response gives: a valid data result of class `IData` whose first value is one. -/
def recorded (response : GetResponse Data) : Option StdString :=
  match response.resultValid, response.result with
  | true, .data data =>
    if response.classId = library.clsidIData then
      match library.value data with
      | some (.visibleString text) => some text
      | _ => none
    else none
  | _, _ => none

/-- The handler returns, with the string of the response in `recent` or, if it gives none, with
`recent` as it was. -/
def Sound (engine : LinuxClientEngine) (token : Nat) (response : GetResponse Data) : Prop :=
  (∃ answer, ((onGetConfirmation library token response).at engine).1 = .ok answer) ∧
    ((onGetConfirmation library token response).at engine).2.recent =
      (recorded library response).getD engine.recent

/-- An answer for class `IData` that carries data, whose first value, if it has one, is a visible
string, and one in `recent` already when the response is not valid. -/
def GivesString (recent : StdString) (response : GetResponse Data) : Prop :=
  ∃ data, response.result = .data data ∧ ∀ value, library.value data = some value →
    ∃ text, value = .visibleString text ∧ (response.resultValid = true ∨ text = recent)

/-- An answer for the partners' ids that carries data, whose first value, if it is a sequence,
starts with the two ids. -/
def GivesPartners (response : GetResponse Data) : Prop :=
  ∃ data, response.result = .data data ∧
    ∀ elements, library.associatedPartnersId data = some (.sequence elements) →
      ∃ client server rest, elements = .integer client :: .longUnsigned server :: rest

/-- What a response has to be: an error that is marked valid, or one that carries what its class
and attribute are read for. -/
def WellAnswered (recent : StdString) (response : GetResponse Data) : Prop :=
  (response.resultValid = true ∧ ∃ code, response.result = .dataAccessResult code) ∨
    (response.classId = library.clsidIData → GivesString library recent response) ∧
      (response.classId = library.clsidIAssociationLN →
        response.attributeId = library.attrPartnersId → GivesPartners library response)

/-! ## The two cases of the switch -/

section Cases

variable {library} {response : GetResponse Data} {engine : LinuxClientEngine}

/-- An answer for class `IData`: the handler stores the string or throws, and leaves `recent` as it
is when there is nothing to store. -/
theorem onData_at (library : ClientLibrary Data) (response : GetResponse Data)
    (engine : LinuxClientEngine) :
    (∃ data, response.result = .data data ∧ library.value data = none ∧
      (onData library response).at engine = (.ok (), engine)) ∨
    (∃ data text, response.result = .data data ∧
      library.value data = some (.visibleString text) ∧
      (onData library response).at engine =
        (.ok (), { recent := text, trace := engine.trace ++ [.recent text] })) ∨
    (∀ recent, ¬ GivesString library recent response) ∧
      (onData library response).at engine = (.error .thrown, engine) := by
  have hstart : (onData library response).at engine = _ := at_bind _ _
  cases hresult : response.result with
  | dataAccessResult code =>
    rw [hresult] at hstart
    refine .inr (.inr ⟨?_, hstart⟩)
    rintro recent ⟨data, hdata, -⟩
    rw [hresult] at hdata
    cases hdata
  | data data =>
    rw [hresult] at hstart
    simp only [getVector, at_pure] at hstart
    cases hvalue : library.value data with
    | none =>
      rw [hvalue] at hstart
      exact .inl ⟨data, rfl, hvalue, hstart⟩
    | some value =>
      simp only [hvalue, at_bind] at hstart
      cases value with
      | visibleString text => exact .inr (.inl ⟨data, text, rfl, hvalue, hstart⟩)
      | integer | longUnsigned | sequence | other =>
        refine .inr (.inr ⟨?_, hstart⟩)
        rintro recent ⟨data', hdata, hgives⟩
        rw [hresult] at hdata
        cases hdata
        obtain ⟨text, htext, -⟩ := hgives _ hvalue
        cases htext

theorem recorded_of_not_valid (hvalid : response.resultValid = false) :
    recorded library response = none := by
  simp only [recorded, hvalid]

theorem recorded_of_class_ne (hclass : response.classId ≠ library.clsidIData) :
    recorded library response = none := by
  unfold recorded
  split
  next => rw [if_neg hclass]
  next => rfl

theorem recorded_of_value {data : Data} (hclass : response.classId = library.clsidIData)
    (hvalid : response.resultValid = true) (hdata : response.result = .data data) :
    recorded library response = match library.value data with
      | some (.visibleString text) => some text
      | _ => none := by
  simp only [recorded, hvalid, hdata, if_pos hclass]

/-- An answer for class `IData` is survived and recorded rightly exactly when it gives a string. -/
theorem onData_iff (hclass : response.classId = library.clsidIData) :
    ((onData library response).at engine).1 = .ok () ∧
        ((onData library response).at engine).2.recent =
          (recorded library response).getD engine.recent ↔
      GivesString library engine.recent response := by
  rcases onData_at library response engine with
    ⟨data, hdata, hnone, hat⟩ | ⟨data, text, hdata, hvalue, hat⟩ | ⟨hnot, hat⟩
  · have hrecorded : recorded library response = none := by
      cases hvalid : response.resultValid with
      | false => exact recorded_of_not_valid hvalid
      | true => rw [recorded_of_value hclass hvalid hdata, hnone]
    rw [hat, hrecorded]
    refine iff_of_true ⟨rfl, rfl⟩ ⟨data, hdata, ?_⟩
    intro value hvalue
    rw [hnone] at hvalue
    cases hvalue
  · rw [hat]
    cases hvalid : response.resultValid with
    | true =>
      rw [recorded_of_value hclass hvalid hdata, hvalue]
      refine iff_of_true ⟨rfl, rfl⟩ ⟨data, hdata, ?_⟩
      intro value hvalue'
      rw [hvalue] at hvalue'
      cases hvalue'
      exact ⟨text, rfl, .inl hvalid⟩
    | false =>
      rw [recorded_of_not_valid hvalid]
      constructor
      · rintro ⟨-, hrecent⟩
        refine ⟨data, hdata, ?_⟩
        intro value hvalue'
        rw [hvalue] at hvalue'
        cases hvalue'
        exact ⟨text, rfl, .inr hrecent⟩
      · rintro ⟨data', hdata', hgives⟩
        rw [hdata] at hdata'
        cases hdata'
        obtain ⟨text', htext, hrecent⟩ := hgives _ hvalue
        cases htext
        rw [hvalid] at hrecent
        exact ⟨rfl, hrecent.resolve_left nofun⟩
  · rw [hat]
    exact iff_of_false (fun h => nomatch h.1) (hnot engine.recent)

/-- A sequence for the partners' ids changes nothing but the trace, and is survived exactly when
it starts with the two ids. -/
theorem onPartnersId_sequence (engine : LinuxClientEngine) {data : Data}
    {elements : List DLMSValue}
    (hdata : response.result = .data data)
    (hvalue : library.associatedPartnersId data = some (.sequence elements)) :
    ((onPartnersId library response).at engine).2.recent = engine.recent ∧
      (((onPartnersId library response).at engine).1 = .ok () ↔
        ∃ client server rest, elements = .integer client :: .longUnsigned server :: rest) := by
  have hstart : (onPartnersId library response).at engine = _ := at_bind _ _
  simp only [hdata, getVector, at_pure, hvalue, at_bind] at hstart
  match elements with
  | [] =>
    rw [hstart]
    exact ⟨rfl, iff_of_false nofun (fun ⟨_, _, _, h⟩ => nomatch h)⟩
  | .integer client :: [] =>
    rw [hstart]
    exact ⟨rfl, iff_of_false nofun (fun ⟨_, _, _, h⟩ => nomatch h)⟩
  | .integer client :: .longUnsigned server :: rest =>
    rw [hstart]
    exact ⟨rfl, iff_of_true rfl ⟨client, server, rest, rfl⟩⟩
  | .integer client :: .visibleString _ :: _ | .integer client :: .integer _ :: _
  | .integer client :: .sequence _ :: _ | .integer client :: .other _ :: _
  | .visibleString _ :: _ | .longUnsigned _ :: _ | .sequence _ :: _ | .other _ :: _ =>
    rw [hstart]
    exact ⟨rfl, iff_of_false nofun (fun ⟨_, _, _, h⟩ => nomatch h)⟩

/-- An answer for the partners' ids never changes `recent`, and is survived exactly when it gives
the two ids, or nothing that is read as a sequence. -/
theorem onPartnersId_iff (library : ClientLibrary Data) (response : GetResponse Data)
    (engine : LinuxClientEngine) :
    ((onPartnersId library response).at engine).2.recent = engine.recent ∧
      (((onPartnersId library response).at engine).1 = .ok () ↔
        GivesPartners library response) := by
  have hstart : (onPartnersId library response).at engine = _ := at_bind _ _
  cases hdata : response.result with
  | dataAccessResult code =>
    rw [hdata] at hstart
    rw [hstart]
    refine ⟨rfl, iff_of_false nofun ?_⟩
    rintro ⟨data, hdata', -⟩
    rw [hdata] at hdata'
    cases hdata'
  | data data =>
    have hgives : GivesPartners library response ↔
        ∀ elements, library.associatedPartnersId data = some (.sequence elements) →
          ∃ client server rest, elements = .integer client :: .longUnsigned server :: rest := by
      constructor
      · rintro ⟨data', hdata', h⟩
        rw [hdata] at hdata'
        cases hdata'
        exact h
      · intro h
        exact ⟨data, hdata, h⟩
    simp only [hdata, getVector, at_pure] at hstart
    cases hvalue : library.associatedPartnersId data with
    | none =>
      rw [hvalue] at hstart
      rw [hstart, hgives, hvalue]
      exact ⟨rfl, iff_of_true rfl nofun⟩
    | some value =>
      cases value with
      | sequence elements =>
        obtain ⟨hrecent, hok⟩ := onPartnersId_sequence engine hdata hvalue
        rw [hgives, hvalue]
        refine ⟨hrecent, hok.trans ?_⟩
        constructor
        · intro h elements' heq
          cases heq
          exact h
        · intro h
          exact h elements rfl
      | visibleString | integer | longUnsigned | other =>
        rw [hvalue] at hstart
        rw [hstart, hgives, hvalue]
        exact ⟨rfl, iff_of_true rfl nofun⟩

/-- The switch survives and records rightly exactly the responses that carry what their class and
attribute are read for. -/
theorem onClass_iff (engine : LinuxClientEngine) :
    ((onClass library response).at engine).1 = .ok () ∧
        ((onClass library response).at engine).2.recent =
          (recorded library response).getD engine.recent ↔
      (response.classId = library.clsidIData → GivesString library engine.recent response) ∧
        (response.classId = library.clsidIAssociationLN →
          response.attributeId = library.attrPartnersId → GivesPartners library response) := by
  by_cases hdata : response.classId = library.clsidIData
  · rw [onClass, if_pos hdata, onData_iff hdata]
    simp only [hdata, forall_const, library.clsid_ne, false_imp_iff, and_true]
  · rw [onClass, if_neg hdata, recorded_of_class_ne hdata]
    by_cases hassociation : response.classId = library.clsidIAssociationLN
    · rw [if_pos hassociation]
      by_cases hpartners : response.attributeId = library.attrPartnersId
      · obtain ⟨hrecent, hok⟩ := onPartnersId_iff library response engine
        rw [if_pos hpartners]
        constructor
        · rintro ⟨h, -⟩
          exact ⟨fun h => absurd h hdata, fun _ _ => hok.mp h⟩
        · rintro ⟨-, h⟩
          exact ⟨hok.mpr (h hassociation hpartners), hrecent⟩
      · rw [if_neg hpartners]
        exact iff_of_true ⟨rfl, rfl⟩ ⟨fun h => absurd h hdata, fun _ h => absurd h hpartners⟩
    · rw [if_neg hassociation]
      exact iff_of_true ⟨rfl, rfl⟩ ⟨fun h => absurd h hdata, fun h => absurd h hassociation⟩

end Cases

/-- **The handler returns and records rightly exactly when the response is an error that is marked
valid, or carries what its class and attribute are read for.** The engine's state, the token and the
response are any, and how the library decodes its values is a parameter. Returning means that no
exception leaves the handler; recording rightly, that `recent` is the response's string, or as
before if it has none. -/
theorem sound_iff (engine : LinuxClientEngine) (token : Nat) (response : GetResponse Data) :
    Sound library engine token response ↔ WellAnswered library engine.recent response := by
  by_cases herror : response.resultValid = true ∧ ∃ code, response.result = .dataAccessResult code
  · obtain ⟨hvalid, code, hcode⟩ := herror
    refine iff_of_true ⟨⟨false, ?_⟩, ?_⟩ (.inl ⟨hvalid, code, hcode⟩)
    · simp only [onGetConfirmation, hvalid, hcode]
      rfl
    · simp only [onGetConfirmation, recorded, hvalid, hcode]
      rfl
  · have hcall : (onGetConfirmation library token response).at engine =
        (onClass library response >>= fun _ => (pure true : Call Fault LinuxClientEngine Bool)).at
          { engine with trace := engine.trace ++ [.confirmation token] } := by
      obtain ⟨valid, result, classId, attributeId⟩ := response
      cases valid with
      | false => rfl
      | true =>
        cases result with
        | data data => rfl
        | dataAccessResult code => exact absurd ⟨rfl, code, rfl⟩ herror
    rw [WellAnswered, or_iff_right herror]
    rw [← onClass_iff { engine with trace := engine.trace ++ [.confirmation token] }]
    rw [Sound, hcall, at_bind]
    cases (onClass library response).at
        { engine with trace := engine.trace ++ [.confirmation token] } with
    | mk result after =>
      cases result with
      | ok _ => simp
      | error e => simp

/-- A library that finds an integer in all data. -/
def findsInteger : ClientLibrary Unit where
  clsidIData := 1
  clsidIAssociationLN := 15
  clsid_ne := by decide
  attrPartnersId := 3
  value := fun _ => some (.integer 5)
  associatedPartnersId := fun _ => none

/-- A meter that answers with an integer ends the handler with an exception. -/
theorem not_sound : ¬ ∀ (library : ClientLibrary Unit) (engine : LinuxClientEngine) (token : Nat)
    (response : GetResponse Unit), Sound library engine token response := by
  intro h
  obtain ⟨⟨answer, hok⟩, -⟩ := h findsInteger { recent := [], trace := [] } 0
    { resultValid := true, result := .data (), classId := 1, attributeId := 2 }
  cases hok

end LinuxClientEngine

end AccessPoint.Script
