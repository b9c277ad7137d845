import Mathlib.Data.List.Basic

/-!
# Delimited text — reading a stream one field at a time

`getline` is one extraction of a field up to a delimiter, as the C++ standard
library defines it: the delimiter is taken off the stream and not stored, and an
extraction that meets the end of the stream succeeds when it stored at least one
element or met the delimiter. So the empty stream is the only one it refuses.
`getlines` is the loop `while (getline(s, item, d)) push_back(item)`.

`getlines_eq_splitOn` says what is read without a stream: what stands between the
delimiters, but for a final empty field.

`delimited` is the writer a reader of this kind undoes: every field with the
delimiter before it. The two laws a codec needs are here.

- `getlines_delimited`: fields that do not mention the delimiter, the last one
  nonempty, are read back as they were written.
- `delimited_getlines`: what is read, written again, is the stream itself, or the
  stream without one last delimiter. A trailing delimiter is the only thing the
  reader forgets, which is what makes a proper prefix of a written text read
  differently from the text.

`getlines_take` says what the reader makes of such a prefix: the first fields, and of the next as
much as there is, if there is any.
-/

namespace Delimited

variable {α : Type*} [DecidableEq α]

/-! ## The reader -/

/-- One extraction: the field before the first `d` and what is left after it, and a
refusal on an empty stream. An element that is not the delimiter is stored, and the
extraction goes on until the delimiter or the end. -/
def getline (d : α) : List α → Option (List α × List α)
  | [] => none
  | c :: cs =>
    if c = d then some ([], cs)
    else
      match getline d cs with
      | none => some ([c], [])
      | some (item, rest) => some (c :: item, rest)

/-- The extraction loop, for at most `fuel` fields. -/
def getlinesUpTo (d : α) : Nat → List α → List (List α)
  | 0, _ => []
  | fuel + 1, s =>
    match getline d s with
    | none => []
    | some (item, rest) => item :: getlinesUpTo d fuel rest

/-- The extraction loop until the stream refuses. Every extraction takes at least one
element off the stream, so the stream's length bounds the loop. -/
def getlines (d : α) (s : List α) : List (List α) :=
  getlinesUpTo d s.length s

/-- Only the empty stream is refused. -/
theorem getline_eq_none {d : α} {s : List α} : getline d s = none ↔ s = [] := by
  cases s with
  | nil => exact iff_of_true rfl rfl
  | cons c cs =>
    refine iff_of_false ?_ (List.cons_ne_nil c cs)
    simp only [getline]
    split
    next => exact Option.some_ne_none _
    next => split <;> exact Option.some_ne_none _

theorem getline_rest_length {d : α} {s item rest : List α} (h : getline d s = some (item, rest)) :
    rest.length < s.length := by
  induction s generalizing item rest with
  | nil => cases h
  | cons c cs ih =>
    simp only [getline] at h
    split at h
    next => cases h; simp
    next =>
      cases hg : getline d cs with
      | none => simp only [hg] at h; cases h; simp
      | some p =>
        simp only [hg] at h
        cases h
        exact Nat.lt_succ_of_lt (ih hg)

/-- More fuel than elements changes nothing. -/
theorem getlinesUpTo_eq (d : α) (fuel : Nat) (s : List α) (hfuel : s.length ≤ fuel) :
    getlinesUpTo d fuel s = getlines d s := by
  induction fuel using Nat.strongRecOn generalizing s with
  | ind fuel ih =>
    unfold getlines
    cases s with
    | nil => cases fuel <;> rfl
    | cons c cs =>
      obtain ⟨k, rfl⟩ : ∃ k, fuel = k + 1 := by
        rw [List.length_cons] at hfuel
        exact ⟨fuel - 1, by omega⟩
      cases hg : getline d (c :: cs) with
      | none => simp only [getlinesUpTo, List.length_cons, hg]
      | some p =>
        obtain ⟨item, rest⟩ := p
        have hrest := getline_rest_length hg
        simp only [List.length_cons] at hfuel hrest
        have hk := ih k (Nat.lt_succ_self k) rest (by omega)
        have hcs := ih cs.length (by omega) rest (by omega)
        simp only [getlinesUpTo, List.length_cons, hg, hk, hcs]

/-- The loop unrolled once: read a field, then the rest. -/
theorem getlines_eq (d : α) (s : List α) :
    getlines d s =
      match getline d s with
      | none => []
      | some (item, rest) => item :: getlines d rest := by
  cases s with
  | nil => rfl
  | cons c cs =>
    cases hg : getline d (c :: cs) with
    | none => simp only [getlines, List.length_cons, getlinesUpTo, hg]
    | some p =>
      obtain ⟨item, rest⟩ := p
      have hrest := getline_rest_length hg
      simp only [List.length_cons] at hrest
      have hcs := getlinesUpTo_eq d cs.length rest (by omega)
      show getlinesUpTo d (cs.length + 1) (c :: cs) = item :: getlines d rest
      simp only [getlinesUpTo, hg, hcs]

@[simp] theorem getlines_nil (d : α) : getlines d [] = [] := rfl

/-! ## One extraction on a written field -/

/-- A field with the delimiter after it is read whole, empty or not. -/
theorem getline_field {d : α} {x : List α} (hx : d ∉ x) (s : List α) :
    getline d (x ++ d :: s) = some (x, s) := by
  induction x with
  | nil => simp [getline]
  | cons c cs ih =>
    rw [List.mem_cons, not_or] at hx
    have hc : c ≠ d := fun h => hx.1 h.symm
    simp only [List.cons_append, getline, if_neg hc, ih hx.2]

/-- A field with the delimiter after it is all the text up to the delimiter. -/
theorem field_inj {d : α} {x y s t : List α} (hx : d ∉ x) (hy : d ∉ y)
    (h : x ++ d :: s = y ++ d :: t) : x = y ∧ s = t := by
  have hread := congrArg (getline d) h
  rw [getline_field hx, getline_field hy] at hread
  cases hread
  exact ⟨rfl, rfl⟩

/-- The last field, with no delimiter after it, is read when it is not empty. -/
theorem getline_last {d : α} {x : List α} (hx : d ∉ x) (hne : x ≠ []) :
    getline d x = some (x, []) := by
  induction x with
  | nil => exact absurd rfl hne
  | cons c cs ih =>
    rw [List.mem_cons, not_or] at hx
    have hc : c ≠ d := fun h => hx.1 h.symm
    cases cs with
    | nil => simp only [getline, if_neg hc]
    | cons e es =>
      have hrest := ih hx.2 (List.cons_ne_nil e es)
      rw [getline, if_neg hc, hrest]

/-- What an extraction took and left, put together again: the delimiter is missing only
when the stream ended first. -/
theorem getline_rebuild {d : α} {s item rest : List α} (h : getline d s = some (item, rest)) :
    d ∉ item ∧ (s = item ++ d :: rest ∨ s = item ∧ rest = []) := by
  induction s generalizing item rest with
  | nil => cases h
  | cons c cs ih =>
    simp only [getline] at h
    split at h
    next hc => cases h; exact ⟨List.not_mem_nil, .inl (by rw [hc]; rfl)⟩
    next hc =>
      cases hg : getline d cs with
      | none =>
        simp only [hg] at h
        cases h
        exact ⟨by simpa using fun h => hc h.symm, .inr ⟨by rw [getline_eq_none.mp hg], rfl⟩⟩
      | some p =>
        obtain ⟨item', rest'⟩ := p
        simp only [hg] at h
        cases h
        obtain ⟨hd, hs⟩ := ih hg
        refine ⟨by simpa [hd] using fun h => hc h.symm, ?_⟩
        rcases hs with hs | ⟨hs, hr⟩
        · exact .inl (by rw [hs]; rfl)
        · exact .inr ⟨by rw [hs], hr⟩

/-- A field that is read does not mention the delimiter and is part of the stream. -/
theorem mem_getlines {d : α} {s x : List α} (hx : x ∈ getlines d s) : d ∉ x ∧ x ⊆ s := by
  unfold getlines at hx
  generalize s.length = fuel at hx
  induction fuel generalizing s with
  | zero => cases hx
  | succ fuel ih =>
    cases hg : getline d s with
    | none =>
      simp only [getlinesUpTo, hg] at hx
      cases hx
    | some p =>
      obtain ⟨item, rest⟩ := p
      obtain ⟨hd, hs⟩ := getline_rebuild hg
      simp only [getlinesUpTo, hg, List.mem_cons] at hx
      rcases hx with rfl | hx
      · refine ⟨hd, ?_⟩
        rcases hs with rfl | ⟨rfl, -⟩
        · exact List.subset_append_left _ _
        · exact List.Subset.refl _
      · obtain ⟨hnot, hsub⟩ := ih hx
        refine ⟨hnot, ?_⟩
        rcases hs with rfl | ⟨rfl, rfl⟩
        · have hrest : rest ⊆ item ++ d :: rest :=
            List.subset_append_of_subset_right item (List.subset_cons_self d rest)
          exact List.Subset.trans hsub hrest
        · exact List.Subset.trans hsub (List.nil_subset _)

/-! ## The writer, and the round trips -/

section Writer

omit [DecidableEq α]

/-- Every field with the delimiter before it. -/
def delimited (d : α) (fields : List (List α)) : List α :=
  fields.flatMap (d :: ·)

@[simp] theorem delimited_nil (d : α) : delimited d [] = [] := rfl

@[simp] theorem delimited_cons (d : α) (x : List α) (xs : List (List α)) :
    delimited d (x :: xs) = d :: (x ++ delimited d xs) := by
  simp [delimited]

/-- Appending the delimiter and a field, one field at a time, writes the fields after the
start. -/
theorem foldl_delimited (d : α) (fields : List (List α)) (start : List α) :
    fields.foldl (fun a b => a ++ d :: b) start = start ++ delimited d fields := by
  induction fields generalizing start with
  | nil => simp
  | cons x xs ih => rw [List.foldl_cons, ih, delimited_cons, List.append_assoc, List.cons_append]

end Writer

/-- **Written fields are read back**: none mentions the delimiter and none is empty. The
induction is on the fields, and the last one is the case with no delimiter after it. -/
theorem getlines_delimited {d : α} (x : List α) (xs : List (List α))
    (hd : ∀ y ∈ x :: xs, d ∉ y) (hne : ∀ y ∈ x :: xs, y ≠ []) :
    getlines d (x ++ delimited d xs) = x :: xs := by
  induction xs generalizing x with
  | nil =>
    rw [getlines_eq, delimited_nil, List.append_nil,
      getline_last (hd x List.mem_cons_self) (hne x List.mem_cons_self)]
    rfl
  | cons y ys ih =>
    have hrest := ih y (fun z hz => hd z (List.mem_cons_of_mem _ hz))
      (fun z hz => hne z (List.mem_cons_of_mem _ hz))
    rw [getlines_eq, delimited_cons, getline_field (hd x List.mem_cons_self)]
    exact congrArg (x :: ·) hrest

/-- **What is read, written again, is the stream, or the stream without one last
delimiter.** The stream here starts at a delimiter already taken. -/
theorem delimited_getlines (d : α) (s : List α) :
    d :: s = delimited d (getlines d s) ∨ d :: s = delimited d (getlines d s) ++ [d] := by
  induction hn : s.length using Nat.strongRecOn generalizing s with
  | ind n ih =>
    cases hg : getline d s with
    | none => exact .inr (by rw [getline_eq_none.mp hg]; rfl)
    | some p =>
      obtain ⟨item, rest⟩ := p
      have hlt := getline_rest_length hg
      obtain ⟨-, hs⟩ := getline_rebuild hg
      rw [getlines_eq, hg]
      simp only [delimited_cons]
      rcases hs with hs | ⟨hs, rfl⟩
      · rcases ih rest.length (hn ▸ hlt) rest rfl with h | h
        · exact .inl (by rw [hs, ← h])
        · refine .inr ?_
          rw [hs, h]
          simp only [List.cons_append, List.append_assoc]
      · exact .inl (by simp [hs])

/-! ## A beginning of what is written -/

section Beginning

omit [DecidableEq α]

/-- The fields of which the first `n` elements of the written text hold a part, as far as they hold
them. -/
def beginning : Nat → List (List α) → List (List α)
  | _, [] => []
  | n, x :: xs =>
    if n ≤ 1 then []
    else if n ≤ x.length + 1 then [x.take (n - 1)]
    else x :: beginning (n - (x.length + 1)) xs

/-- What is read are the first of the fields, of which the last may be cut short. -/
inductive Begins : List (List α) → List (List α) → Prop
  | nil (fields : List (List α)) : Begins [] fields
  | cut {c x : List α} (fields : List (List α)) (hne : c ≠ []) (hc : c <+: x) :
    Begins [c] (x :: fields)
  | cons (x : List α) {read fields : List (List α)} (h : Begins read fields) :
    Begins (x :: read) (x :: fields)

theorem begins_beginning (n : Nat) {fields : List (List α)} (hne : ∀ x ∈ fields, x ≠ []) :
    Begins (beginning n fields) fields := by
  induction fields generalizing n with
  | nil => exact .nil []
  | cons x xs ih =>
    unfold beginning
    split
    next => exact .nil _
    next hn =>
      split
      next =>
        refine .cut xs ?_ (List.take_prefix _ _)
        rw [ne_eq, List.take_eq_nil_iff, not_or]
        exact ⟨by omega, hne x List.mem_cons_self⟩
      next => exact .cons x (ih _ fun y hy => hne y (List.mem_cons_of_mem x hy))

end Beginning

/-- **A beginning of a written text is read as the beginning of its fields.** -/
theorem getlines_take {d : α} {fields : List (List α)} (hd : ∀ x ∈ fields, d ∉ x)
    (hne : ∀ x ∈ fields, x ≠ []) (n : Nat) :
    getlines d ((delimited d fields).take n).tail = beginning n fields := by
  induction fields generalizing n with
  | nil =>
    rw [delimited_nil, List.take_nil]
    rfl
  | cons x xs ih =>
    have hdx := hd x List.mem_cons_self
    unfold beginning
    split
    next hn =>
      obtain rfl | rfl : n = 0 ∨ n = 1 := by omega
      · rfl
      · rw [delimited_cons]
        rfl
    next hn =>
      obtain ⟨m, rfl⟩ : ∃ m, n = m + 1 := ⟨n - 1, by omega⟩
      rw [delimited_cons, List.take_succ_cons, List.tail_cons, Nat.add_sub_cancel]
      split
      next hle =>
        -- the text ends in the first field
        have htake : (x ++ delimited d xs).take m = x.take m :=
          List.take_append_of_le_length (by omega)
        have hpart : x.take m ≠ [] := by
          rw [ne_eq, List.take_eq_nil_iff, not_or]
          exact ⟨by omega, hne x List.mem_cons_self⟩
        have hread := getlines_delimited (x.take m) []
          (fun y hy => by
            rw [List.mem_singleton.mp hy]
            exact fun hmem => hdx (List.mem_of_mem_take hmem))
          (fun y hy => by rwa [List.mem_singleton.mp hy])
        rw [delimited_nil, List.append_nil] at hread
        rw [htake, hread]
      next hgt =>
        obtain ⟨k, rfl⟩ : ∃ k, m = x.length + (k + 1) := ⟨m - x.length - 1, by omega⟩
        have hrest := ih (fun y hy => hd y (List.mem_cons_of_mem x hy))
          (fun y hy => hne y (List.mem_cons_of_mem x hy)) (k + 1)
        rw [List.take_length_add_append,
          show x.length + (k + 1) + 1 - (x.length + 1) = k + 1 by omega]
        cases xs with
        | nil =>
          rw [delimited_nil, List.take_nil, List.append_nil, getlines_eq,
            getline_last hdx (hne x List.mem_cons_self)]
          rfl
        | cons y ys =>
          rw [delimited_cons, List.take_succ_cons] at hrest ⊢
          rw [getlines_eq, getline_field hdx]
          exact congrArg (x :: ·) hrest

/-! ## The reader against the plain splitting of the stream -/

/-- The fields without a final empty one. -/
def dropFinalEmpty (fields : List (List α)) : List (List α) :=
  if fields.getLast? = some [] then fields.dropLast else fields

theorem dropFinalEmpty_cons (x : List α) {xs : List (List α)} (hxs : xs ≠ []) :
    dropFinalEmpty (x :: xs) = x :: dropFinalEmpty xs := by
  cases xs with
  | nil => exact absurd rfl hxs
  | cons y ys =>
    rw [dropFinalEmpty, dropFinalEmpty, List.getLast?_cons_cons, List.dropLast_cons_cons]
    split <;> rfl

/-- One extraction takes the first field. -/
theorem splitOn_of_getline {d : α} {s item rest : List α} (h : getline d s = some (item, rest)) :
    s.splitOn d = item :: rest.splitOn d ∨ s.splitOn d = [item] ∧ rest = [] := by
  obtain ⟨hd, rfl | ⟨rfl, rfl⟩⟩ := getline_rebuild h
  · exact .inl (List.splitOn_append_cons_self_of_not_mem hd rest)
  · exact .inr ⟨List.splitOn_eq_singleton hd, rfl⟩

/-- **The loop reads the fields between the delimiters, but for a final empty one.** -/
theorem getlines_eq_splitOn (d : α) (s : List α) :
    getlines d s = dropFinalEmpty (s.splitOn d) := by
  induction hn : s.length using Nat.strongRecOn generalizing s with
  | ind n ih =>
    cases hg : getline d s with
    | none =>
      rw [getline_eq_none.mp hg]
      rfl
    | some p =>
      obtain ⟨item, rest⟩ := p
      rw [getlines_eq, hg]
      rcases splitOn_of_getline hg with hs | ⟨hs, rfl⟩
      · have hrest := ih rest.length (hn ▸ getline_rest_length hg) rest rfl
        rw [hs, dropFinalEmpty_cons item (List.splitOn_ne_nil d rest), ← hrest]
      · obtain ⟨-, hitem | ⟨hitem, -⟩⟩ := getline_rebuild hg
        · rw [hitem, List.splitOn_append_cons_self_of_not_mem (getline_rebuild hg).1] at hs
          simp at hs
        · have hne : item ≠ [] := by
            rintro rfl
            rw [hitem] at hg
            cases hg
          rw [hs, dropFinalEmpty, List.getLast?_singleton, if_neg (by simpa using hne)]
          rfl

end Delimited
