import AccessPoint.Meter.ImageTransfer

/-!
# An initiate that fails halfway

`image_transfer_initiate` stores the image's id as soon as it is decoded, and then decodes the size,
which may throw. `atomic_iff` says when the action is atomic nevertheless: when the size can be
decoded behind any id that is not the one already stored.
-/

namespace AccessPoint.Meter

open Throwing

namespace LinuxImageTransfer

variable {Data : Type} (decoder : Decoder Data)

/-- The initiate action. -/
def initiateAction (parameters : Option Data) : ImageAction Data :=
  { methodId := methodImageTransferInitiate, parameters }

/-- The image the parameters describe. -/
def Describes (parameters : Option Data) (imageId : Data) (imageSize : UInt32) : Prop :=
  ∃ value rest rest', parameters = some value ∧ decoder.octetString value = .ok (imageId, rest) ∧
    decoder.doubleLongUnsigned rest = .ok (imageSize, rest')

/-- The object once an image has been initiated. -/
def initiated (s : LinuxImageTransfer Data) (imageId : Data) (imageSize : UInt32) :
    LinuxImageTransfer Data :=
  { status := .initiated
    blockStatus := List.replicate s.blockStatus.length false
    imageId
    imageSize := imageSize.toNat
    firstNotTransferredBlockNumber := 0 }

/-- The action answers with success and initiates the image its parameters describe, or it fails and
changes nothing. -/
def Atomic (s : LinuxImageTransfer Data) (parameters : Option Data) : Prop :=
  let served := (internalAction decoder (initiateAction parameters)).at s
  (served.1 = .ok .success ∧ ∃ imageId imageSize, Describes decoder parameters imageId imageSize ∧
      served.2 = s.initiated imageId imageSize) ∨
    (served.1 ≠ .ok .success ∧ served.2 = s)

/-- Behind an image id that is not the one stored the parameters have a size. -/
def SizeFollows (s : LinuxImageTransfer Data) (parameters : Option Data) : Prop :=
  ∀ value imageId rest, parameters = some value →
    decoder.octetString value = .ok (imageId, rest) → imageId ≠ s.imageId →
      ∃ imageSize rest', decoder.doubleLongUnsigned rest = .ok (imageSize, rest')

section Initiate

variable {decoder} {s : LinuxImageTransfer Data} {value imageId rest : Data}

/-- An id that cannot be decoded leaves everything as it is. -/
theorem initiate_no_id {e : Thrown} (hid : decoder.octetString value = .error e) :
    (initiate decoder value).at s = (.error e, s) := by
  simp only [initiate, at_bind, hid, at_ofExcept]

/-- A size that cannot be decoded leaves the new id behind. -/
theorem initiate_no_size {e : Thrown} (hid : decoder.octetString value = .ok (imageId, rest))
    (hsize : decoder.doubleLongUnsigned rest = .error e) :
    (initiate decoder value).at s = (.error e, { s with imageId }) := by
  simp only [initiate, at_bind, hid, hsize, at_ofExcept, at_assign]

/-- Both together initiate the image. -/
theorem initiate_both {imageSize : UInt32} {rest' : Data}
    (hid : decoder.octetString value = .ok (imageId, rest))
    (hsize : decoder.doubleLongUnsigned rest = .ok (imageSize, rest')) :
    (initiate decoder value).at s = (.ok .success, s.initiated imageId imageSize) := by
  simp only [initiate, at_bind, hid, hsize, at_ofExcept, at_assign, at_pure, initiated,
    List.map_const']

theorem internalAction_initiate :
    internalAction decoder (initiateAction (some value)) = initiate decoder value := rfl

/-- Parameters without an id ask for no size. -/
theorem sizeFollows_of_no_id {e : Thrown} (hid : decoder.octetString value = .error e) :
    SizeFollows decoder s (some value) := by
  intro value' imageId rest hvalue hid'
  cases hvalue
  rw [hid] at hid'
  cases hid'

/-- Parameters with an id ask for the size behind it. -/
theorem sizeFollows_iff (hid : decoder.octetString value = .ok (imageId, rest)) :
    SizeFollows decoder s (some value) ↔ (imageId ≠ s.imageId →
      ∃ imageSize rest', decoder.doubleLongUnsigned rest = .ok (imageSize, rest')) := by
  constructor
  · intro h
    exact h value imageId rest rfl hid
  · intro h value' imageId' rest' hvalue hid'
    cases hvalue
    rw [hid] at hid'
    cases hid'
    exact h

end Initiate

/-- **The initiate action is atomic exactly when a size follows any id that is not the one stored.**
The state is any, and so are the parameters and the decoder: the action succeeds and initiates what
its parameters describe, or it fails and changes nothing. The one way between the two is an id that
is stored before the size throws. -/
theorem atomic_iff (s : LinuxImageTransfer Data) (parameters : Option Data) :
    Atomic decoder s parameters ↔ SizeFollows decoder s parameters := by
  cases parameters with
  | none => exact iff_of_true (.inr ⟨nofun, rfl⟩) nofun
  | some value =>
    rw [Atomic, internalAction_initiate]
    cases hid : decoder.octetString value with
    | error e =>
      rw [initiate_no_id hid]
      exact iff_of_true (.inr ⟨nofun, rfl⟩) (sizeFollows_of_no_id hid)
    | ok decoded =>
      obtain ⟨imageId, rest⟩ := decoded
      rw [sizeFollows_iff hid]
      cases hsize : decoder.doubleLongUnsigned rest with
      | ok decoded =>
        obtain ⟨imageSize, rest'⟩ := decoded
        rw [initiate_both hid hsize]
        refine iff_of_true (.inl ⟨rfl, imageId, imageSize, ?_, rfl⟩) ?_
        · exact ⟨value, rest, rest', rfl, hid, hsize⟩
        · intro _
          exact ⟨imageSize, rest', rfl⟩
      | error e =>
        rw [initiate_no_size hid hsize]
        constructor
        · rintro (⟨hsuccess, -⟩ | ⟨-, hsame⟩)
          · cases hsuccess
          · intro hne
            exact absurd (congrArg (·.imageId) hsame) hne
        · intro hfollows
          refine .inr ⟨nofun, ?_⟩
          by_cases hsame : imageId = s.imageId
          · rw [hsame]
          · obtain ⟨imageSize, rest', hsize'⟩ := hfollows hsame
            cases hsize'

/-- An id without a size is stored, and the action fails. -/
theorem not_atomic : ¬ ∀ (s : LinuxImageTransfer (List UInt8)) (parameters : Option (List UInt8)),
    Atomic ImageHistory.octetDecoder s parameters := by
  intro h
  rcases h (create [] 0) (some [9, 1, 73]) with ⟨hsuccess, -⟩ | ⟨-, hsame⟩
  · cases hsuccess
  · cases congrArg (·.imageId) hsame

end LinuxImageTransfer

end AccessPoint.Meter
