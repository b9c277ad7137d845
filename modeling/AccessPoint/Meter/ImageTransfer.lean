import AccessPoint.Lib.Run
import AccessPoint.Meter.Cosem
import Mathlib.Order.Bounds.Basic

/-!
# The meter's image transfer object

`LinuxImageTransfer` answers the four actions of a firmware download. An initiate stores the
image's id and size and resets the bookkeeping; a block transfer decodes its block number and
its octets, prints the number, and answers with success. Nothing marks the block: the bit
string and the first missing number are what the last initiate, or the constructor, left.

The library decodes. An action's parameters are one vector, from which the handler takes its two
values; a decoder gives a value and what it leaves of the vector, so that the second value is taken
to stand behind the first. What a decoder does with a vector is otherwise left open.

`Faithful` is the bookkeeping the two attributes stand for, over the blocks whose transfer has
succeeded since the last successful initiate. `bookkeeping_iff` says which sequences of
actions keep it: those in which no block transfer can be decoded. The two attributes never
contradict each other, since no bit is ever set and the first missing block is always 0.
-/

namespace AccessPoint.Meter

open Throwing

/-- `ImageTransfer::Image_Transfer_Status_Schema`. -/
inductive TransferStatus where
  | notInitiated
  | initiated
  | verificationInitiated
  | verificationSuccessful
  | verificationFailed
  | activationInitiated
  | activationSuccessful
  | activationFailed
  deriving DecidableEq, Repr

/-- The number of a status. -/
def TransferStatus.toNat : TransferStatus → Nat
  | .notInitiated => 0
  | .initiated => 1
  | .verificationInitiated => 2
  | .verificationSuccessful => 3
  | .verificationFailed => 4
  | .activationInitiated => 5
  | .activationSuccessful => 6
  | .activationFailed => 7

/-- How the library takes a value off a vector, and what it leaves of the vector. -/
structure Decoder (Data : Type) where
  /-- `DLMSValueGet<OCTET_STRING_CType>`. -/
  octetString : Data → Except Thrown (Data × Data)
  /-- `DLMSValueGet<DOUBLE_LONG_UNSIGNED_CType>`. -/
  doubleLongUnsigned : Data → Except Thrown (UInt32 × Data)

/-- `LinuxImageTransfer`. -/
structure LinuxImageTransfer (Data : Type) where
  status : TransferStatus
  blockStatus : List Bool
  imageId : Data
  imageSize : Nat
  firstNotTransferredBlockNumber : Nat

/-- An action: any method id, any parameters. -/
structure ImageAction (Data : Type) where
  methodId : Int
  parameters : Option Data
  deriving DecidableEq, Repr

namespace LinuxImageTransfer

variable {Data : Type}

def attrImageBlockSize : Int := 2
def attrImageTransferredBlocksStatus : Int := 3
def attrImageFirstNotTransferredBlockNumber : Int := 4
def attrImageTransferEnabled : Int := 5
def attrImageTransferStatus : Int := 6
def methodImageTransferInitiate : Int := 1
def methodImageBlockTransfer : Int := 2
def methodImageVerify : Int := 3
def methodImageActivate : Int := 4

/-- The object as it is constructed; the constructor leaves the id empty and the size open. -/
def create (emptyId : Data) (imageSize : Nat) : LinuxImageTransfer Data :=
  { status := .notInitiated, blockStatus := [], imageId := emptyId, imageSize
    firstNotTransferredBlockNumber := 0 }

/-- `InternalGet`. -/
def internalGet (s : LinuxImageTransfer Data) (attributeId : Int) :
    DataAccessResult × Option Appended :=
  if attributeId = attrImageBlockSize then (.success, some (.unsigned 512))
  else if attributeId = attrImageTransferredBlocksStatus then
    (.success, some (.bitString s.blockStatus))
  else if attributeId = attrImageFirstNotTransferredBlockNumber then
    (.success, some (.unsigned s.firstNotTransferredBlockNumber))
  else if attributeId = attrImageTransferEnabled then (.success, some (.boolean true))
  else if attributeId = attrImageTransferStatus then (.success, some (.unsigned s.status.toNat))
  else (.objectUnavailable, none)

variable (decoder : Decoder Data)

/-- The initiate action with parameters. The id is stored before the size is decoded. -/
def initiate (value : Data) : Call Thrown (LinuxImageTransfer Data) ActionResult := do
  let (imageId, value) ← .ofExcept (decoder.octetString value)
  .assign fun s => { s with imageId }
  let (imageSize, _) ← .ofExcept (decoder.doubleLongUnsigned value)
  .assign fun s => { s with imageSize := imageSize.toNat }
  .assign fun s => { s with
    status := .initiated
    blockStatus := s.blockStatus.map fun _ => false
    firstNotTransferredBlockNumber := 0 }
  pure .success

/-- The block transfer action with parameters. The number and the fragment go out of scope. -/
def blockTransfer (value : Data) : Call Thrown (LinuxImageTransfer Data) ActionResult := do
  let (_blockNum, value) ← .ofExcept (decoder.doubleLongUnsigned value)
  let (_fragment, _) ← .ofExcept (decoder.octetString value)
  pure .success

/-- `InternalAction`. -/
def internalAction (action : ImageAction Data) :
    Call Thrown (LinuxImageTransfer Data) ActionResult :=
  if action.methodId = methodImageTransferInitiate then
    match action.parameters with
    | some value => initiate decoder value
    | none => pure .objectUnavailable
  else if action.methodId = methodImageBlockTransfer then
    match action.parameters with
    | some value => blockTransfer decoder value
    | none => pure .objectUnavailable
  else if action.methodId = methodImageVerify then pure .success
  else if action.methodId = methodImageActivate then pure .success
  else pure .objectUnavailable

/-! ## The bookkeeping -/

/-- Bit `n` of `image_transferred_blocks_status`, as a `Get` reads it. -/
def transferred (s : LinuxImageTransfer Data) (n : Nat) : Bool :=
  match s.internalGet attrImageTransferredBlocksStatus with
  | (.success, some (.bitString bits)) => bits.getD n false
  | _ => false

/-- The number of the block that an action transfers. -/
def blockNumber (action : ImageAction Data) : Option Nat :=
  match action.parameters.map decoder.doubleLongUnsigned with
  | some (.ok (blockNum, _)) => some blockNum.toNat
  | _ => none

end LinuxImageTransfer

/-- The object and the blocks whose transfer has succeeded since the last successful
initiate. -/
structure ImageHistory (Data : Type) where
  object : LinuxImageTransfer Data
  since : List Nat

namespace ImageHistory

open LinuxImageTransfer

variable {Data : Type} (decoder : Decoder Data)

/-- One action. -/
def step (s : ImageHistory Data) (action : ImageAction Data) : ImageHistory Data :=
  let served := (internalAction decoder action).at s.object
  { object := served.2
    since :=
      match served.1 with
      | .ok .success =>
        if action.methodId = methodImageTransferInitiate then []
        else if action.methodId = methodImageBlockTransfer then
          (blockNumber decoder action).toList ++ s.since
        else s.since
      | _ => s.since }

/-- The two attributes say which blocks have been transferred, and which is the first that has
not. -/
structure Faithful (s : ImageHistory Data) : Prop where
  transferred : ∀ n, s.object.transferred n = true ↔ n ∈ s.since
  first : ∃ n, s.object.internalGet attrImageFirstNotTransferredBlockNumber =
      (.success, some (.unsigned n)) ∧ IsLeast { n | s.object.transferred n = false } n

/-- A block transfer whose parameters the library decodes. -/
def Decodes (action : ImageAction Data) : Prop :=
  action.methodId = methodImageBlockTransfer ∧
    ∃ value blockNum rest fragment, action.parameters = some value ∧
      decoder.doubleLongUnsigned value = .ok (blockNum, rest) ∧
      decoder.octetString rest = .ok fragment

end ImageHistory

/-! ## What an action does -/

namespace LinuxImageTransfer

variable {Data : Type}

theorem transferred_eq (s : LinuxImageTransfer Data) (n : Nat) :
    s.transferred n = s.blockStatus.getD n false := rfl

/-- No bit is set, and the first missing block is block 0. -/
structure Blank (s : LinuxImageTransfer Data) : Prop where
  bits : ∀ bit ∈ s.blockStatus, bit = false
  first : s.firstNotTransferredBlockNumber = 0

theorem Blank.create (emptyId : Data) (imageSize : Nat) : (create emptyId imageSize).Blank :=
  ⟨nofun, rfl⟩

theorem Blank.transferred {s : LinuxImageTransfer Data} (h : s.Blank) (n : Nat) :
    s.transferred n = false := by
  rw [transferred_eq, List.getD_eq_getElem?_getD]
  cases hbit : s.blockStatus[n]? with
  | none => rfl
  | some bit => exact h.bits bit (List.mem_of_getElem? hbit)

variable (decoder : Decoder Data)

/-- **No action sets a bit.** -/
theorem keeps_blank (action : ImageAction Data) :
    Keeps Blank (internalAction decoder action) := by
  have hinitiate : ∀ value, Keeps Blank (initiate decoder value) := by
    intro value
    refine (Keeps.ofExcept _).bind ?_
    rintro ⟨imageId, rest⟩
    refine (Keeps.assign fun s hs => ⟨hs.bits, hs.first⟩).bind fun _ => ?_
    refine (Keeps.ofExcept _).bind ?_
    rintro ⟨imageSize, rest⟩
    refine (Keeps.assign fun s hs => ⟨hs.bits, hs.first⟩).bind fun _ => ?_
    refine (Keeps.assign ?_).bind fun _ => Keeps.pure _
    intro s _
    refine ⟨?_, rfl⟩
    intro bit hbit
    obtain ⟨-, -, rfl⟩ := List.mem_map.mp hbit
    rfl
  have hblock : ∀ value, Keeps Blank (blockTransfer decoder value) := by
    intro value
    refine (Keeps.ofExcept _).bind ?_
    rintro ⟨blockNum, rest⟩
    exact (Keeps.ofExcept _).bind fun _ => Keeps.pure _
  obtain ⟨methodId, parameters⟩ := action
  unfold internalAction
  split
  · cases parameters with
    | none => exact Keeps.pure _
    | some value => exact hinitiate value
  · split
    · cases parameters with
      | none => exact Keeps.pure _
      | some value => exact hblock value
    · split
      · exact Keeps.pure _
      · split
        · exact Keeps.pure _
        · exact Keeps.pure _

/-- A block transfer succeeds when its parameters decode. -/
theorem blockTransfer_success (s : LinuxImageTransfer Data) (value : Data) :
    ((blockTransfer decoder value).at s).1 = .ok .success ↔
      ∃ blockNum rest fragment, decoder.doubleLongUnsigned value = .ok (blockNum, rest) ∧
        decoder.octetString rest = .ok fragment := by
  simp only [blockTransfer, at_bind, at_ofExcept]
  cases hnumber : decoder.doubleLongUnsigned value with
  | error e => simp
  | ok decoded =>
    obtain ⟨blockNum, rest⟩ := decoded
    cases hfragment : decoder.octetString rest with
    | error e => simp [hfragment]
    | ok fragment =>
      obtain ⟨fragment, last⟩ := fragment
      simp [hfragment]

end LinuxImageTransfer

namespace ImageHistory

open LinuxImageTransfer

variable {Data : Type} (decoder : Decoder Data)

/-- A block transfer action succeeds exactly when it decodes. -/
theorem success_iff_decodes {s : LinuxImageTransfer Data} {action : ImageAction Data}
    (hmethod : action.methodId = methodImageBlockTransfer) :
    ((internalAction decoder action).at s).1 = .ok .success ↔ Decodes decoder action := by
  have hinitiate : ¬ action.methodId = methodImageTransferInitiate := by
    rw [hmethod]
    decide
  rw [internalAction, if_neg hinitiate, if_pos hmethod]
  cases hparameters : action.parameters with
  | none => simp [Decodes, hparameters]
  | some value => simp [Decodes, hmethod, hparameters, blockTransfer_success]

/-- The history while no block has been transferred. -/
structure Empty (s : ImageHistory Data) : Prop where
  blank : s.object.Blank
  since : s.since = []

theorem Empty.faithful {s : ImageHistory Data} (h : s.Empty) : s.Faithful where
  transferred n := by simp [h.blank.transferred n, h.since]
  first := by
    refine ⟨0, ?_, h.blank.transferred 0, fun n _ => Nat.zero_le n⟩
    rw [← h.blank.first]
    rfl

/-- An action that transfers no block leaves the history empty. -/
theorem Empty.step {s : ImageHistory Data} (h : s.Empty) {action : ImageAction Data}
    (hnot : ¬ Decodes decoder action) : (s.step decoder action).Empty := by
  refine ⟨keeps_blank decoder action _ h.blank, ?_⟩
  unfold ImageHistory.step
  dsimp only
  split
  · rename_i hsuccess
    split
    · rfl
    · split
      · rename_i hmethod
        exact absurd ((success_iff_decodes decoder hmethod).mp hsuccess) hnot
      · exact h.since
  · exact h.since

/-- A block that is transferred is not marked. -/
theorem Empty.not_faithful {s : ImageHistory Data} (h : s.Empty) {action : ImageAction Data}
    (hdecodes : Decodes decoder action) : ¬ (s.step decoder action).Faithful := by
  intro hfaithful
  have hsuccess := (success_iff_decodes decoder (s := s.object) hdecodes.1).mpr hdecodes
  obtain ⟨hmethod, value, blockNum, rest, fragment, hparameters, hnumber, -⟩ := hdecodes
  have hsince : (s.step decoder action).since = [blockNum.toNat] := by
    simp [ImageHistory.step, hsuccess, hmethod, methodImageTransferInitiate,
      methodImageBlockTransfer, blockNumber, hparameters, hnumber, h.since]
  have hmarked := (hfaithful.transferred blockNum.toNat).mpr (by simp [hsince])
  have hblank := (keeps_blank decoder action _ h.blank).transferred blockNum.toNat
  rw [show (s.step decoder action).object.transferred blockNum.toNat = _ from hblank] at hmarked
  exact Bool.false_ne_true hmarked

/-- **When the bookkeeping of an image transfer is right**: after every action of exactly the
sequences in which no block transfer decodes. The bookkeeping is right when the two attributes say
which blocks have been transferred since the last initiate that succeeded. Actions of any method
with any parameters come in any order, on an object as it is constructed. No image is stored in
either case, which the two attributes do not claim. -/
theorem bookkeeping_iff (emptyId : Data) (imageSize : Nat) (actions : List (ImageAction Data)) :
    Run.Always (ImageHistory.step decoder) Faithful
        { object := create emptyId imageSize, since := [] } actions ↔
      ∀ action ∈ actions, ¬ Decodes decoder action := by
  rw [← Run.along_forall]
  refine Run.always_iff_along (I := Empty) ⟨Blank.create emptyId imageSize, rfl⟩ ?_ ?_ ?_
  · intro s action hs hnot
    exact hs.step decoder hnot
  · intro s hs
    exact hs.faithful
  · intro s action hs hdecodes
    exact hs.not_faithful decoder (not_not.mp hdecodes)

/-- A decoder of a tag, and of a length for an octet string. -/
def octetDecoder : Decoder (List UInt8) where
  octetString
    | 9 :: length :: octets => .ok (octets.take length.toNat, octets.drop length.toNat)
    | _ => .error .thrown
  doubleLongUnsigned
    | 6 :: a :: b :: c :: d :: rest =>
      .ok (((a.toUInt32 * 256 + b.toUInt32) * 256 + c.toUInt32) * 256 + d.toUInt32, rest)
    | _ => .error .thrown

/-- Block 0 is transferred, and its bit stays unset. -/
theorem block_not_marked :
    ¬ ∀ actions : List (ImageAction (List UInt8)),
      Run.Always (ImageHistory.step octetDecoder) Faithful
        { object := create [] 0, since := [] } actions := by
  intro h
  have hrun := h [{ methodId := methodImageTransferInitiate
                    parameters := some [9, 1, 73, 6, 0, 0, 2, 0] },
    { methodId := methodImageBlockTransfer, parameters := some [6, 0, 0, 0, 0, 9, 1, 170] }]
  have hmarked := (hrun.last.transferred 0).mpr (by decide)
  revert hmarked
  decide

end ImageHistory

end AccessPoint.Meter
