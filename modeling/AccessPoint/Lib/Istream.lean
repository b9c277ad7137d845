import Mathlib.Data.List.Basic

/-!
# An input stream and its flags

`std::istream` over a stream buffer, with the two flags that decide what it still does. Every
operation starts with a sentry, which fails on a stream that is not good; a seek clears the end of
file before it.

How a buffer seeks is a parameter; the buffer that seeks nowhere is `unseekable`. On it a seek
fails, and so does the stream from then on (`seekg_unseekable`, `tellg_of_fail`, `read_of_fail`).
-/

/-- A stream: what its buffer has to read, and its flags. -/
structure Istream (α : Type*) where
  buffer : List α
  eof : Bool
  fail : Bool
  deriving DecidableEq, Repr

namespace Istream

variable {α : Type*}

/-- Where a seek starts. -/
inductive SeekDir where
  | beginning
  | current
  | ending
  deriving DecidableEq, Repr

/-- `seekoff` of a buffer, which gives the position and what is left to read, or fails. -/
abbrev Seekoff (α : Type*) :=
  List α → Int → SeekDir → Option (Nat × List α)

/-- The `seekoff` of `std::streambuf` itself. -/
def unseekable : Seekoff α :=
  fun _ _ _ => none

/-- A new stream over a buffer. -/
def ofBuffer (buffer : List α) : Istream α :=
  { buffer, eof := false, fail := false }

/-- `good()`. -/
def good (s : Istream α) : Bool :=
  !s.eof && !s.fail

/-- The stream as a `bool`. -/
def ok (s : Istream α) : Bool :=
  !s.fail

/-- What a sentry leaves of the stream. -/
def sentry (s : Istream α) : Istream α :=
  if s.good then s else { s with fail := true }

/-- `seekg`. -/
def seekg (seekoff : Seekoff α) (s : Istream α) (offset : Int) (dir : SeekDir) : Istream α :=
  let s := { s with eof := false }.sentry
  if s.fail then s
  else
    match seekoff s.buffer offset dir with
    | some (_, buffer) => { s with buffer }
    | none => { s with fail := true }

/-- `tellg`. -/
def tellg (seekoff : Seekoff α) (s : Istream α) : Int × Istream α :=
  let s := s.sentry
  if s.fail then (-1, s)
  else
    match seekoff s.buffer 0 .current with
    | some (position, _) => (position, s)
    | none => (-1, s)

/-- `read`: what it stores, and the stream after it. The count is signed. -/
def read (s : Istream α) (count : Int) : List α × Istream α :=
  let s := s.sentry
  if s.fail then ([], s)
  else
    let stored := s.buffer.take count.toNat
    let s := { s with buffer := s.buffer.drop count.toNat }
    if (stored.length : Int) = count then (stored, s)
    else (stored, { s with eof := true, fail := true })

variable {s : Istream α} {buffer : List α}

theorem good_ofBuffer : (ofBuffer buffer).good = true := rfl

theorem fail_of_good (h : s.good = true) : s.fail = false := by
  simp only [good, Bool.and_eq_true, Bool.not_eq_true'] at h
  exact h.2

theorem sentry_of_good (h : s.good = true) : s.sentry = s :=
  if_pos h

theorem sentry_of_fail (h : s.fail = true) : s.sentry = s := by
  unfold sentry
  split
  · rfl
  · rw [← h]

/-! ## A stream that has failed -/

theorem seekg_of_fail (seekoff : Seekoff α) (h : s.fail = true) (offset : Int) (dir : SeekDir) :
    s.seekg seekoff offset dir = { s with eof := false } := by
  unfold seekg
  rw [sentry_of_fail (s := { s with eof := false }) h]
  exact if_pos h

theorem tellg_of_fail (seekoff : Seekoff α) (h : s.fail = true) :
    s.tellg seekoff = (-1, s) := by
  unfold tellg
  rw [sentry_of_fail h]
  exact if_pos h

theorem read_of_fail (h : s.fail = true) (count : Int) : s.read count = ([], s) := by
  unfold read
  rw [sentry_of_fail h]
  exact if_pos h

/-! ## A stream that is good -/

/-- A buffer that seeks nowhere fails the stream. -/
theorem seekg_unseekable (h : s.fail = false) (offset : Int) (dir : SeekDir) :
    s.seekg unseekable offset dir = { s with eof := false, fail := true } := by
  have hgood : ({ s with eof := false } : Istream α).good = true := by simp [good, h]
  unfold seekg
  rw [sentry_of_good hgood]
  simp [h, unseekable]

/-- A read of no more than there is takes it off. -/
theorem read_of_le {n : Nat} (h : s.good = true) (hle : n ≤ s.buffer.length) :
    s.read n = (s.buffer.take n, { s with buffer := s.buffer.drop n }) := by
  have hfail : s.fail = false := fail_of_good h
  unfold read
  rw [sentry_of_good h]
  simp [hfail, hle]

/-- A read of more than there is takes all of it off, and fails the stream. -/
theorem read_of_lt {n : Nat} (h : s.good = true) (hlt : s.buffer.length < n) :
    s.read n = (s.buffer, { s with buffer := [], eof := true, fail := true }) := by
  have hfail : s.fail = false := fail_of_good h
  have hne : ((s.buffer.take n).length : Int) ≠ n := by
    rw [List.length_take]
    omega
  unfold read
  rw [sentry_of_good h]
  dsimp only [Int.toNat_natCast]
  rw [if_neg (by simp [hfail]), if_neg hne, List.take_of_length_le (Nat.le_of_lt hlt),
    List.drop_of_length_le (Nat.le_of_lt hlt)]

/-- A read of a negative count fails the stream. -/
theorem read_of_neg (s : Istream α) {count : Int} (h : count < 0) :
    (s.read count).2.fail = true := by
  unfold read
  dsimp only
  cases hfail : s.sentry.fail with
  | true => simp [hfail]
  | false =>
    rw [if_neg (by simp), if_neg (by omega)]

end Istream
