import AccessPoint.Request.Config

/-!
# What the request parser accepts

The grammar of a request: printable characters, of which those before the first comma are a payload
word. Its meaning is that payload size and the fields behind the commas, but for a final empty
one.

`meetsGrammar_iff` is the exact agreement of the constructor and the grammar. They differ on the
empty text alone: the grammar has no empty payload word, and the constructor leaves through the
exit that assigns nothing.
-/

namespace AccessPoint

open Delimited

namespace Config

/-- The text before the first comma, all of it if there is none. -/
def firstField (data : StdString) : StdString :=
  (data.splitOn ',').head (List.splitOn_ne_nil ',' data)

/-- The fields behind the first comma, without a final empty one. -/
def meterFields (data : StdString) : List StdString :=
  dropFinalEmpty (data.splitOn ',').tail

/-- The grammar of a request of one payload size. -/
def InGrammar (data : StdString) (size : Payload) : Prop :=
  data.all isprint = true ∧ firstField data = size.word

/-- The parser on one text does what the grammar says: it accepts what is in the grammar and means
what the grammar means; on any other text it throws, and `interpret` changes no `Config`. -/
structure MeetsGrammar (data : StdString) : Prop where
  accepts : (∃ cfg, construct data = .ok cfg) ↔ ∃ size, InGrammar data size
  means : ∀ cfg, construct data = .ok cfg →
    ∃ size, InGrammar data size ∧ cfg = { meters := meterFields data, payloadSize := some size }
  refuses : (¬ ∃ size, InGrammar data size) →
    (∃ r : RangeError, construct data = .error r) ∧ ∀ cfg : Config, cfg.interpret data = cfg

/-- A name that the constructor accepts from some text. -/
def AcceptsName (name : StdString) : Prop :=
  ∃ data cfg, construct data = .ok cfg ∧ name ∈ cfg.meters

/-! ## The two `getline`s and the fields -/

/-- The first `getline` reads the first field, and the loop after it the others. -/
theorem fields_of_getline {data plsize ss : StdString}
    (h : getline ',' data = some (plsize, ss)) :
    firstField data = plsize ∧ meterFields data = getlines ',' ss := by
  rcases splitOn_of_getline h with hs | ⟨hs, rfl⟩
  · simp only [firstField, meterFields, hs, List.head_cons, List.tail_cons, getlines_eq_splitOn,
      and_self]
  · simp only [firstField, meterFields, hs, List.head_cons, List.tail_cons, getlines_nil, true_and]
    rfl

/-- No payload word is empty. -/
theorem not_inGrammar_nil : ¬ ∃ size, InGrammar [] size := by
  rintro ⟨size, -, hword⟩
  exact word_ne_nil size hword.symm

/-- A text with a payload word is accepted, with the meaning the grammar gives it. -/
theorem construct_of_inGrammar {data : StdString} {size : Payload} (h : InGrammar data size) :
    construct data = .ok { meters := meterFields data, payloadSize := some size } := by
  cases hg : getline ',' data with
  | none =>
    rw [getline_eq_none.mp hg] at h
    exact absurd ⟨size, h⟩ not_inGrammar_nil
  | some p =>
    obtain ⟨plsize, ss⟩ := p
    obtain ⟨hfirst, hmeters⟩ := fields_of_getline hg
    have hword : getline ',' data = some (size.word, ss) := by rw [hg, ← h.2, hfirst]
    rw [hmeters]
    exact construct_of_getline h.1 hword

/-- A text the constructor accepts is empty or has a payload word. -/
theorem inGrammar_of_construct {data : StdString} {cfg : Config} (h : construct data = .ok cfg)
    (hne : data ≠ []) : ∃ size, InGrammar data size := by
  unfold construct at h
  split at h
  next hall =>
    cases hg : getline ',' data with
    | none => exact absurd (getline_eq_none.mp hg) hne
    | some p =>
      obtain ⟨plsize, ss⟩ := p
      simp only [hg] at h
      cases hw : Payload.ofWord plsize with
      | none =>
        simp only [hw] at h
        cases h
      | some size =>
        refine ⟨size, hall, ?_⟩
        rw [(fields_of_getline hg).1, word_of_ofWord hw]
  next => cases h

/-- A text the constructor refuses changes no `Config`. -/
theorem interpret_of_error {data : StdString} {r : RangeError} (h : construct data = .error r)
    (cfg : Config) : cfg.interpret data = cfg := by
  simp only [interpret, h]

/-- On a text that is not empty the parser does what the grammar says. -/
theorem meetsGrammar_of_ne_nil {data : StdString} (hne : data ≠ []) : MeetsGrammar data := by
  constructor
  · constructor
    · rintro ⟨cfg, h⟩
      exact inGrammar_of_construct h hne
    · rintro ⟨size, h⟩
      exact ⟨_, construct_of_inGrammar h⟩
  · intro cfg h
    obtain ⟨size, hin⟩ := inGrammar_of_construct h hne
    rw [construct_of_inGrammar hin] at h
    cases h
    exact ⟨size, hin, rfl⟩
  · intro hout
    cases h : construct data with
    | ok cfg => exact absurd (inGrammar_of_construct h hne) hout
    | error r => exact ⟨⟨r, rfl⟩, interpret_of_error h⟩

/-- An accepted name is printable and has no comma. -/
theorem AcceptsName.spec {name : StdString} (h : AcceptsName name) :
    name.all isprint = true ∧ ',' ∉ name := by
  obtain ⟨data, cfg, hconstruct, hname⟩ := h
  cases hg : getline ',' data with
  | none =>
    rw [getline_eq_none.mp hg] at hconstruct
    cases hconstruct
    cases hname
  | some p =>
    obtain ⟨plsize, ss⟩ := p
    have hne : data ≠ [] := by
      rintro rfl
      cases hg
    obtain ⟨size, hin⟩ := inGrammar_of_construct hconstruct hne
    rw [construct_of_inGrammar hin] at hconstruct
    cases hconstruct
    rw [(fields_of_getline hg).2] at hname
    obtain ⟨hcomma, hsub⟩ := mem_getlines hname
    refine ⟨?_, hcomma⟩
    obtain ⟨-, hdata | ⟨-, rfl⟩⟩ := getline_rebuild hg
    · have hall : ss.all isprint = true := by
        have hprint := hin.1
        rw [hdata, List.all_append, List.all_cons] at hprint
        exact (Bool.and_eq_true_iff.mp (Bool.and_eq_true_iff.mp hprint).2).2
      apply List.all_eq_true.mpr
      intro c hc
      exact List.all_eq_true.mp hall c (hsub hc)
    · cases hname

/-- The empty text is accepted. -/
theorem construct_nil : construct [] = .ok { meters := [], payloadSize := none } := by decide

/-- **The parser does what the grammar says exactly on the texts that are not empty.** On these it
accepts what is in the grammar, means by it what the grammar means, and refuses the rest by an
exception that leaves any `Config` as it was. The text is any, of any length. The empty text is
outside the grammar and accepted, without a payload size. -/
theorem meetsGrammar_iff (data : StdString) : MeetsGrammar data ↔ data ≠ [] := by
  constructor
  · rintro h rfl
    exact not_inGrammar_nil (h.accepts.mp ⟨_, construct_nil⟩)
  · exact meetsGrammar_of_ne_nil

/-- The empty text is constructed, with no payload size, and replaces what a `Config` holds. -/
theorem not_meetsGrammar : ¬ ∀ data : StdString, MeetsGrammar data := by
  intro h
  exact not_inGrammar_nil ((h []).accepts.mp ⟨_, construct_nil⟩)

example : construct "small,2001::2,,2001::3,".toList =
    .ok { meters := ["2001::2".toList, [], "2001::3".toList], payloadSize := some .small } := by
  decide

end Config

end AccessPoint
