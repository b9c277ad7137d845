import AccessPoint.Request.Delivery

/-!
# A request that arrives in part

The one read of a registration connection may return a beginning of the head-end's request.
`interpret_take` says what the access point makes of each: nothing of what ends inside the payload
word, and of anything longer the payload size, the names that are there, and as much of the next
name as there is. `handled_part` says it of a connection, however its stream is cut, taking the
connection object to stay alive until its read completes, as `AccessPoint.Request.Delivery` does.
-/

namespace AccessPoint

open Delimited

/-- What the first `count` characters of a request leave in a `Config`. -/
def Config.afterPart (cfg : Config) (payloadSize : HESConfig.Payload) (meters : MeterSet)
    (count : Nat) : Config :=
  if count < payloadSize.toConfig.word.length then cfg
  else
    { meters := beginning (count - payloadSize.toConfig.word.length) meters.inOrder
      payloadSize := some payloadSize.toConfig }

/-- The names behind the payload word, as far as the text goes. -/
theorem construct_part {size : Config.Payload} {names : List StdString}
    (hname : ∀ name ∈ names, IsMeterName name) (count : Nat) :
    Config.construct (size.word ++ (delimited ',' names).take count) =
      .ok { meters := beginning count names, payloadSize := some size } := by
  have hread : getlines ',' ((delimited ',' names).take count).tail = beginning count names :=
    getlines_take (fun name hmem => (hname name hmem).noComma)
      (fun name hmem => (hname name hmem).nonempty) count
  have hprint : (delimited ',' names).all isprint = true := by
    simp only [delimited, List.all_flatMap, List.all_cons]
    exact List.all_eq_true.mpr fun name hmem =>
      Bool.and_eq_true_iff.mpr ⟨by decide, (hname name hmem).printable⟩
  have hall : (size.word ++ (delimited ',' names).take count).all isprint = true := by
    rw [List.all_append, Config.word_printable, Bool.true_and]
    exact List.all_eq_true.mpr fun c hc => List.all_eq_true.mp hprint c (List.mem_of_mem_take hc)
  have hstart : (delimited ',' names).take count = [] ∨
      ∃ rest, (delimited ',' names).take count = ',' :: rest := by
    cases names with
    | nil => exact .inl List.take_nil
    | cons name names =>
      cases count with
      | zero => exact .inl rfl
      | succ count =>
        rw [delimited_cons, List.take_succ_cons]
        exact .inr ⟨_, rfl⟩
  rcases hstart with hnil | ⟨rest, hcons⟩
  · rw [hnil] at hread hall ⊢
    have hgetline : getline ',' (size.word ++ []) = some (size.word, []) := by
      rw [List.append_nil]
      exact getline_last (Config.comma_not_mem_word size) (Config.word_ne_nil size)
    rw [Config.construct_of_getline hall hgetline, ← hread]
    rfl
  · rw [hcons] at hread hall ⊢
    have hgetline := getline_field (Config.comma_not_mem_word size) rest
    rw [Config.construct_of_getline hall hgetline, ← hread]
    rfl

/-- **What a beginning of a request is taken for.** -/
theorem interpret_take (cfg : Config) (payloadSize : HESConfig.Payload) (meters : MeterSet)
    {count : Nat} (hpos : count ≠ 0) :
    cfg.interpret ((multiReadRequest payloadSize meters).take count) =
      cfg.afterPart payloadSize meters count := by
  rw [multiReadRequest_eq_text, Config.text, Config.afterPart]
  split
  next hlt =>
    rw [List.take_append_of_le_length (Nat.le_of_lt hlt)]
    refine Config.interpret_of_word_prefix (List.take_prefix _ _) ?_ ?_ cfg
    · intro heq
      have hlength := congrArg List.length heq
      rw [List.length_take] at hlength
      omega
    · rw [ne_eq, List.take_eq_nil_iff, not_or]
      exact ⟨hpos, Config.word_ne_nil _⟩
  next hge =>
    obtain ⟨more, rfl⟩ := Nat.exists_eq_add_of_le (Nat.not_lt.mp hge)
    rw [List.take_length_add_append, Nat.add_sub_cancel_left, Config.interpret,
      construct_part (fun name hmem => MeterSet.valid_of_mem hmem) more]

/-- The names that a part leaves are the first of the set's, of which the last may be cut short. -/
theorem begins_afterPart (payloadSize : HESConfig.Payload) (meters : MeterSet) {count : Nat}
    (cfg : Config) : cfg.afterPart payloadSize meters count = cfg ∨
      Begins (cfg.afterPart payloadSize meters count).meters meters.inOrder := by
  unfold Config.afterPart
  split
  next => exact .inl rfl
  next =>
    exact .inr (begins_beginning _ fun name hmem => (MeterSet.valid_of_mem hmem).nonempty)

/-- **What a connection leaves**, whatever its stream is cut into: what its first part is taken for,
and nothing of the others. The first part is of any length that one read can have, and how long it
is settles the rest: no other fact of the cut matters, and of what the object held before only that
it is kept if the part ends inside the payload word. The connection object is taken to stay alive
until its read completes; what one that is destroyed leaves is not said. -/
theorem handled_part (cfg : Config) (payloadSize : HESConfig.Payload) (meters : MeterSet)
    (cut : Cut (multiReadRequest payloadSize meters)) :
    ∃ first ∈ cut.parts.head?, 0 < first.length ∧ first.length ≤ maxLength ∧
      handleConnection cfg cut = cfg.afterPart payloadSize meters first.length := by
  cases hparts : cut.parts with
  | nil => exact absurd hparts (cut.parts_ne_nil (multiReadRequest_ne_nil payloadSize meters))
  | cons first rest =>
    have hmem : first ∈ cut.parts := by
      rw [hparts]
      exact List.mem_cons_self
    have hpos : 0 < first.length := List.length_pos_iff.mpr (cut.nonempty first hmem)
    refine ⟨first, rfl, hpos, cut.fits first hmem, ?_⟩
    have htake : first = (multiReadRequest payloadSize meters).take first.length := by
      rw [← cut.flatten_eq, hparts, List.flatten_cons, List.take_left]
    rw [handleConnection_eq cfg cut hparts]
    conv => lhs; rw [htake]
    exact interpret_take cfg payloadSize meters (Nat.ne_of_gt hpos)

/-- A request for two meters, cut inside the second name: the first is asked twice. -/
example : beginning 8 ["::1".toList, "::12".toList] = ["::1".toList, "::1".toList] := by decide

end AccessPoint
