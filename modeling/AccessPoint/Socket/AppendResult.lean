import Mathlib.Data.UInt
import AccessPoint.Lib.Istream
import AccessPoint.Socket.Read

/-!
# `AppendAsyncReadResult`

The call that moves bytes from `m_ReadBuffer` to a caller's vector, as both socket classes have it,
with the stream it reads through and the machine integers it counts with. Without a count it takes
the position of the stream's end; `asio::streambuf` seeks nowhere, so the stream fails there and the
count becomes the largest `size_t`.

`moves_iff` says for which counts the call moves what it is asked for, or nothing. On every count a
`streamsize` holds, it is the call of `AccessPoint.Socket.Read` (`appendAsyncReadResult_eq`).
-/

namespace AccessPoint.Socket.AppendResult

variable {α : Type*}

/-- `AppendExtra`: the vector grown by a number of bytes, or nothing when it throws. -/
abbrev AppendExtra (α : Type*) :=
  List α → UInt64 → Option (List α)

/-- `AppendExtra` grows the vector by what it is asked for, and throws only for a number of bytes
that no vector holds. -/
structure Grows (appendExtra : AppendExtra α) : Prop where
  grown : ∀ {vector vector' : List α} {extra : UInt64},
    appendExtra vector extra = some vector' →
      ∃ bytes, bytes.length = extra.toNat ∧ vector' = vector ++ bytes
  returns : ∀ (vector : List α) (extra : UInt64), extra.toNat < 2 ^ 63 →
    (appendExtra vector extra).isSome = true

/-- `AppendExtra` with a fixed byte. -/
def fillExtra (fill : α) : AppendExtra α :=
  fun vector extra =>
    if extra.toNat < 2 ^ 63 then some (vector ++ List.replicate extra.toNat fill) else none

theorem Grows.fillExtra (fill : α) : Grows (fillExtra fill) where
  grown := by
    intro vector vector' extra h
    unfold AppendResult.fillExtra at h
    split at h
    · exact ⟨List.replicate extra.toNat fill, List.length_replicate, (Option.some.inj h).symm⟩
    · cases h
  returns := by
    intro vector extra h
    simp only [AppendResult.fillExtra, if_pos h, Option.isSome_some]

/-- What the call leaves: its answer, the vector, `m_ReadBuffer`, and what it has traced. -/
structure Appended (α : Type*) where
  answer : Bool
  vector : List α
  buffer : List α
  trace : String × List α
  deriving DecidableEq, Repr

/-- The answer, the vector and the buffer. -/
def Appended.outcome (after : Appended α) : Bool × List α × List α :=
  (after.answer, after.vector, after.buffer)

/-- The count, and the stream. Without a count it is the position of the end, as a `size_t`. -/
def length (stream : Istream α) (readAtLeast : UInt64) : UInt64 × Istream α :=
  if readAtLeast = 0 then
    let stream := stream.seekg Istream.unseekable 0 .ending
    let (position, stream) := stream.tellg Istream.unseekable
    (.ofInt position, stream.seekg Istream.unseekable 0 .beginning)
  else (readAtLeast, stream)

/-- `AppendAsyncReadResult`, under the tag it traces with. The stream reads into the bytes that
the vector has grown by. -/
def appendAsyncReadResult (tag : String) (appendExtra : AppendExtra α) (vector buffer : List α)
    (readAtLeast : UInt64) : Option (Appended α) := do
  let (readAtLeast, stream) := length (.ofBuffer buffer) readAtLeast
  let grown ← appendExtra vector readAtLeast
  let (stored, stream) := stream.read readAtLeast.toInt64.toInt
  let bytes := stored ++ (grown.drop vector.length).drop stored.length
  return {
    answer := stream.ok
    vector := grown.take vector.length ++ bytes
    buffer := stream.buffer
    trace := (tag, bytes.take readAtLeast.toNat) }

/-- `LinuxTCPSocket::AppendAsyncReadResult`. -/
def LinuxTCPSocket.appendAsyncReadResult :
    AppendExtra α → List α → List α → UInt64 → Option (Appended α) :=
  AppendResult.appendAsyncReadResult "IR"

/-- `LinuxSerialSocket::AppendAsyncReadResult`. -/
def LinuxSerialSocket.appendAsyncReadResult :
    AppendExtra α → List α → List α → UInt64 → Option (Appended α) :=
  AppendResult.appendAsyncReadResult "SR"

/-- The outcome of a call that moves exactly the requested bytes: all without a count, none for a
count above what is buffered. -/
def moved (vector buffer : List α) (readAtLeast : UInt64) : Bool × List α × List α :=
  if readAtLeast = 0 then (true, vector ++ buffer, [])
  else if readAtLeast.toNat ≤ buffer.length then
    (true, vector ++ buffer.take readAtLeast.toNat, buffer.drop readAtLeast.toNat)
  else (false, vector, buffer)

/-- The call returns, and has moved exactly the requested bytes. -/
def Moves (call : List α → List α → UInt64 → Option (Appended α)) (vector buffer : List α)
    (readAtLeast : UInt64) : Prop :=
  (call vector buffer readAtLeast).map Appended.outcome = some (moved vector buffer readAtLeast)

/-! ## One call -/

section Call

variable {tag : String} {appendExtra : AppendExtra α} {vector buffer : List α}
  {readAtLeast : UInt64}

/-- Without a count, the stream has failed and the count is the largest one. -/
theorem length_zero (stream : Istream α) (h : stream.fail = false) :
    length stream 0 = (.ofInt (-1), { stream with eof := false, fail := true }) := by
  unfold length
  rw [if_pos rfl, Istream.seekg_unseekable h]
  dsimp only
  rw [Istream.tellg_of_fail _ rfl]
  dsimp only
  rw [Istream.seekg_of_fail _ rfl]

theorem length_of_ne (stream : Istream α) (h : readAtLeast ≠ 0) :
    length stream readAtLeast = (readAtLeast, stream) :=
  if_neg h

/-- The count as a `streamsize`, which it fits. -/
theorem streamsize_of_lt (h : readAtLeast.toNat < 2 ^ 63) :
    readAtLeast.toInt64.toInt = readAtLeast.toNat := by
  have hcond := BitVec.toInt_eq_toNat_cond readAtLeast.toBitVec
  rw [UInt64.toNat_toBitVec, if_pos (by omega)] at hcond
  exact hcond

/-- The count as a `streamsize`, which it does not fit. -/
theorem streamsize_of_le (h : 2 ^ 63 ≤ readAtLeast.toNat) : readAtLeast.toInt64.toInt < 0 := by
  have hcond := BitVec.toInt_eq_toNat_cond readAtLeast.toBitVec
  have hlt := readAtLeast.toNat_lt
  rw [UInt64.toNat_toBitVec, if_neg (by omega)] at hcond
  have hneg : readAtLeast.toInt64.toInt = (readAtLeast.toNat : Int) - (2 ^ 64 : Nat) := hcond
  omega

/-- Without a count the call throws, or answers that it has failed. -/
theorem answer_zero {after : Appended α}
    (h : appendAsyncReadResult tag appendExtra vector buffer 0 = some after) :
    after.answer = false := by
  unfold appendAsyncReadResult at h
  rw [length_zero _ rfl] at h
  obtain ⟨grown, -, hafter⟩ := Option.bind_eq_some_iff.mp h
  rw [Istream.read_of_fail rfl] at hafter
  rw [← Option.some.inj hafter]
  rfl

/-- With a count, the call in terms of what the stream reads. -/
theorem of_grown {bytes : List α} (hne : readAtLeast ≠ 0)
    (hgrown : appendExtra vector readAtLeast = some (vector ++ bytes)) :
    appendAsyncReadResult tag appendExtra vector buffer readAtLeast =
      let (stored, stream) := (Istream.ofBuffer buffer).read readAtLeast.toInt64.toInt
      some {
        answer := stream.ok
        vector := vector ++ (stored ++ bytes.drop stored.length)
        buffer := stream.buffer
        trace := (tag, (stored ++ bytes.drop stored.length).take readAtLeast.toNat) } := by
  unfold appendAsyncReadResult
  rw [length_of_ne _ hne]
  simp [hgrown]

/-- With a count, the vector has grown by that much when the call returns. -/
theorem length_vector {after : Appended α} (grows : Grows appendExtra) (hne : readAtLeast ≠ 0)
    (h : appendAsyncReadResult tag appendExtra vector buffer readAtLeast = some after) :
    vector.length + readAtLeast.toNat ≤ after.vector.length := by
  cases hgrown : appendExtra vector readAtLeast with
  | none => simp [appendAsyncReadResult, length_of_ne _ hne, hgrown] at h
  | some vector' =>
    obtain ⟨bytes, hbytes, rfl⟩ := grows.grown hgrown
    rw [of_grown hne hgrown] at h
    rw [← Option.some.inj h]
    simp only [List.length_append, List.length_drop]
    omega

/-- A count that is buffered is moved. -/
theorem moves_of_le {bytes : List α} (hne : readAtLeast ≠ 0) (hlt : readAtLeast.toNat < 2 ^ 63)
    (hle : readAtLeast.toNat ≤ buffer.length) (hbytes : bytes.length = readAtLeast.toNat)
    (hgrown : appendExtra vector readAtLeast = some (vector ++ bytes)) :
    appendAsyncReadResult tag appendExtra vector buffer readAtLeast =
      some {
        answer := true
        vector := vector ++ buffer.take readAtLeast.toNat
        buffer := buffer.drop readAtLeast.toNat
        trace := (tag, buffer.take readAtLeast.toNat) } := by
  have hread := Istream.read_of_le (s := .ofBuffer buffer) Istream.good_ofBuffer hle
  have hdrop : bytes.drop (buffer.take readAtLeast.toNat).length = [] := by
    rw [List.length_take_of_le hle, ← hbytes, List.drop_length]
  rw [of_grown hne hgrown, streamsize_of_lt hlt, hread]
  dsimp only [Istream.ofBuffer]
  rw [hdrop, List.append_nil, List.take_take, Nat.min_self]
  rfl

/-- A count above what is buffered empties the buffer, and leaves the vector grown by the count. -/
theorem leaves_short {bytes : List α} (hlt : readAtLeast.toNat < 2 ^ 63)
    (hshort : buffer.length < readAtLeast.toNat) (hbytes : bytes.length = readAtLeast.toNat)
    (hgrown : appendExtra vector readAtLeast = some (vector ++ bytes)) :
    appendAsyncReadResult tag appendExtra vector buffer readAtLeast =
      some {
        answer := false
        vector := vector ++ (buffer ++ bytes.drop buffer.length)
        buffer := []
        trace := (tag, buffer ++ bytes.drop buffer.length) } := by
  have hne : readAtLeast ≠ 0 := by
    intro h
    rw [h] at hshort
    exact absurd hshort (Nat.not_lt_zero _)
  have hread := Istream.read_of_lt (s := .ofBuffer buffer) Istream.good_ofBuffer hshort
  have hlength : (buffer ++ bytes.drop buffer.length).length = readAtLeast.toNat := by
    rw [List.length_append, List.length_drop]
    omega
  rw [of_grown hne hgrown, streamsize_of_lt hlt, hread]
  dsimp only [Istream.ofBuffer]
  rw [List.take_of_length_le (Nat.le_of_eq hlength)]
  rfl

/-- A count that no `streamsize` holds is taken for a negative one, and fails the stream. -/
theorem answer_of_le {after : Appended α} (hne : readAtLeast ≠ 0)
    (hle : 2 ^ 63 ≤ readAtLeast.toNat)
    (h : appendAsyncReadResult tag appendExtra vector buffer readAtLeast = some after) :
    after.answer = false := by
  have hfail := Istream.read_of_neg (Istream.ofBuffer buffer) (streamsize_of_le hle)
  unfold appendAsyncReadResult at h
  rw [length_of_ne _ hne] at h
  obtain ⟨grown, -, hafter⟩ := Option.bind_eq_some_iff.mp h
  rw [← Option.some.inj hafter]
  exact congrArg not hfail

end Call

/-! ## What is moved -/

section Moved

variable {appendExtra : AppendExtra α}

/-- A call moves exactly the requested bytes when it has a count, that is buffered, and a
`streamsize` holds it. -/
theorem moves_call_iff (tag : String) (grows : Grows appendExtra) (vector buffer : List α)
    (readAtLeast : UInt64) :
    Moves (appendAsyncReadResult tag appendExtra) vector buffer readAtLeast ↔
      0 < readAtLeast ∧ readAtLeast.toNat ≤ buffer.length ∧ readAtLeast.toNat < 2 ^ 63 := by
  constructor
  · intro h
    obtain ⟨after, hafter, hmoved⟩ := Option.map_eq_some_iff.mp h
    by_cases hzero : readAtLeast = 0
    · -- the stream has failed, and the answer should be true
      subst hzero
      have hanswer := answer_zero hafter
      have htrue : after.answer = true := congrArg Prod.fst hmoved
      simp [hanswer] at htrue
    · have hgrown := length_vector grows hzero hafter
      have hpos : 0 < readAtLeast := UInt64.pos_iff_ne_zero.mpr hzero
      have hpos' : 0 < readAtLeast.toNat := UInt64.lt_iff_toNat_lt.mp hpos
      rw [moved, if_neg hzero] at hmoved
      split at hmoved
      next hle =>
        -- a negative count fails the stream
        refine ⟨hpos, hle, Nat.lt_of_not_le fun hsize => ?_⟩
        have hanswer := answer_of_le hzero hsize hafter
        have htrue : after.answer = true := congrArg Prod.fst hmoved
        simp [hanswer] at htrue
      next =>
        -- the vector should be unchanged
        have hvector : after.vector = vector := congrArg (·.2.1) hmoved
        rw [hvector] at hgrown
        omega
  · intro ⟨hpos, hle, hlt⟩
    have hne : readAtLeast ≠ 0 := by
      intro h
      subst h
      exact absurd hpos (by decide)
    obtain ⟨vector', hgrown⟩ := Option.isSome_iff_exists.mp (grows.returns vector readAtLeast hlt)
    obtain ⟨bytes, hbytes, rfl⟩ := grows.grown hgrown
    rw [Moves, moves_of_le hne hlt hle hbytes hgrown, moved, if_neg hne, if_pos hle]
    rfl

/-- **`AppendAsyncReadResult` of both classes moves exactly the requested bytes for the counts from
1 to what is buffered that a `streamsize` holds, and for no other count.** The vector, the buffer
and the count are any, and `AppendExtra` is any function that grows a vector by what it is asked
for. Moving is to return success with the bytes appended and taken off the buffer; a call that
throws or reports a failure moves nothing in this sense. -/
theorem moves_iff (grows : Grows appendExtra) (vector buffer : List α) (readAtLeast : UInt64) :
    (Moves (LinuxTCPSocket.appendAsyncReadResult appendExtra) vector buffer readAtLeast ↔
        0 < readAtLeast ∧ readAtLeast.toNat ≤ buffer.length ∧ readAtLeast.toNat < 2 ^ 63) ∧
      (Moves (LinuxSerialSocket.appendAsyncReadResult appendExtra) vector buffer readAtLeast ↔
        0 < readAtLeast ∧ readAtLeast.toNat ≤ buffer.length ∧ readAtLeast.toNat < 2 ^ 63) :=
  ⟨moves_call_iff "IR" grows vector buffer readAtLeast,
    moves_call_iff "SR" grows vector buffer readAtLeast⟩

/-- Two of the three bytes buffered, onto a vector of one. -/
theorem moves_iff_two :
    Moves (LinuxTCPSocket.appendAsyncReadResult (fillExtra (0 : Nat))) [1] [2, 3, 4] 2 ∧
      Moves (LinuxSerialSocket.appendAsyncReadResult (fillExtra (0 : Nat))) [1] [2, 3, 4] 2 :=
  have h := moves_iff (Grows.fillExtra (0 : Nat)) [1] [2, 3, 4] 2
  ⟨h.1.mpr (by decide), h.2.mpr (by decide)⟩

/-- Two bytes of the one buffered: the answer is false, but the buffer is empty then and the vector
has grown by two. And without a count the call does not even return. -/
theorem not_moves :
    ¬ Moves (LinuxTCPSocket.appendAsyncReadResult (fillExtra (0 : Nat))) [1] [2] 2 ∧
      ¬ Moves (LinuxTCPSocket.appendAsyncReadResult (fillExtra (0 : Nat))) [1] [2] 0 := by
  have htwo : LinuxTCPSocket.appendAsyncReadResult (fillExtra 0) [1] [2] 2 =
      some { answer := false, vector := [1, 2, 0], buffer := [], trace := ("IR", [2, 0]) } := by
    decide
  have hzero : LinuxTCPSocket.appendAsyncReadResult (fillExtra 0) [1] [2] 0 = none := by
    decide
  constructor
  · rw [Moves, htwo]
    decide
  · rw [Moves, hzero]
    decide

end Moved

/-! ## The call of a reader -/

/-- **On a count that a `streamsize` holds, the call is the one of a reader.** -/
theorem appendAsyncReadResult_eq (tag : String) (fill : α) (vector buffer : List α)
    {readAtLeast : UInt64} (hlt : readAtLeast.toNat < 2 ^ 63) :
    (appendAsyncReadResult tag (fillExtra fill) vector buffer readAtLeast).map
        (fun after => (after.vector, after.buffer, after.answer)) =
      Socket.appendAsyncReadResult fill vector buffer readAtLeast.toNat := by
  by_cases hzero : readAtLeast = 0
  · subst hzero
    unfold appendAsyncReadResult
    rw [length_zero _ rfl]
    rfl
  · have hgrown : fillExtra fill vector readAtLeast =
        some (vector ++ List.replicate readAtLeast.toNat fill) := if_pos hlt
    have hne : readAtLeast.toNat ≠ 0 := by
      intro h
      exact hzero (UInt64.toNat_inj.mp h)
    unfold Socket.appendAsyncReadResult
    rw [if_neg hne]
    by_cases hle : readAtLeast.toNat ≤ buffer.length
    · rw [moves_of_le hzero hlt hle List.length_replicate hgrown]
      simp [hle]
    · rw [leaves_short hlt (Nat.lt_of_not_le hle) List.length_replicate hgrown]
      have htake : buffer.take readAtLeast.toNat = buffer :=
        List.take_of_length_le (by omega)
      have hdrop : buffer.drop readAtLeast.toNat = [] := List.drop_of_length_le (by omega)
      simp [hle, htake, hdrop]

end AccessPoint.Socket.AppendResult
