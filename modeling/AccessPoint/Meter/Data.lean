import AccessPoint.Meter.Cosem
import Mathlib.Logic.Function.Basic

/-!
# The meter's data objects

`LinuxData` keeps ten strings and serves their value attribute. `internalSet` parses the data
with the library and stores the string it holds; it can fail when the data is parsed, when
no value is retrieved, and when the value is not a string, by an exception.

The purpose is in the first section: a map from keys to values, of which a key reads as what
was put there last. `internalSet_cases` is what one `Set` does: it succeeds exactly if the library
hands over a string, which is then the one the data says. `serve_refines` says that a request and
its answer are at most one put of that map, and `data_faithful` is the store over every history of
requests.
-/

namespace AccessPoint.Meter

open Throwing

/-! ## What was put last -/

section

variable {κ ν : Type} [DecidableEq κ]

/-- The last value put under a key. -/
def lastPut (k : κ) : List (κ × ν) → Option ν
  | [] => none
  | put :: puts => (lastPut k puts).or (if put.1 = k then some put.2 else none)

/-- **A key reads as what was put there last**, or as it was at the start. -/
theorem foldl_update_apply (puts : List (κ × ν)) (f : κ → ν) (k : κ) :
    puts.foldl (fun f put => Function.update f put.1 put.2) f k = (lastPut k puts).getD (f k) := by
  induction puts generalizing f with
  | nil => rfl
  | cons put puts ih =>
    rw [List.foldl_cons, ih, lastPut]
    cases lastPut k puts with
    | some value => rfl
    | none =>
      by_cases hk : put.1 = k
      · subst hk
        simp
      · have hk' : k ≠ put.1 := Ne.symm hk
        simp [hk, Function.update_of_ne hk']

end

/-! ## The objects -/

/-- `LinuxData`: the attribute object that a `Set` is parsed into, and `m_Values`. -/
structure LinuxData (Attribute : Type) where
  attr : Attribute
  values : Fin 10 → StdString

/-- A request on the value attribute; `e` is the instance's value group E. -/
inductive DataRequest (Data : Type) where
  | get (e : Fin 10)
  | set (e : Fin 10) (data : Data)
  deriving DecidableEq, Repr

/-- What the object answers. -/
inductive DataResponse where
  | got (result : DataAccessResult) (value : Appended)
  | set (result : Except Thrown DataAccessResult)

/-- The constructor's text for one index: 4 to 2048 copies. -/
def initialValue (index : Fin 10) : StdString :=
  (List.replicate (4 <<< index.val) ("LINUXDATA".toList ++ [Nat.digitChar index.val])).flatten

namespace LinuxData

variable {Attribute Data Value : Type}

/-- The constructor. -/
def create (attr : Attribute) : LinuxData Attribute :=
  { attr, values := initialValue }

/-- `InternalGet`. -/
def internalGet (s : LinuxData Attribute) (e : Fin 10) : DataAccessResult × Appended :=
  (.success, .visibleString (s.values e))

/-- A call of the library on the attribute. -/
def onAttribute {α : Type} (call : Call Thrown Attribute α) :
    Call Thrown (LinuxData Attribute) α :=
  .focus (·.attr) (fun attr s => { s with attr }) call

variable (cosem : Cosem Attribute Data Value)

/-- The `try` block of `InternalSet`. -/
def store (e : Fin 10) (data : Data) : Call Thrown (LinuxData Attribute) DataAccessResult := do
  let retVal ← onAttribute (cosem.internalSet data)
  if retVal = .success then
    match ← onAttribute cosem.getNextValue with
    | some value =>
      let text ← cosem.valueGet value
      .assign fun s => { s with values := Function.update s.values e text }
      pure .success
    | none => pure .typeUnmatched
  else pure .typeUnmatched

/-- `InternalSet`. -/
def internalSet (e : Fin 10) (data : Data) : Call Thrown (LinuxData Attribute) DataAccessResult :=
  tryCatch (store cosem e data) fun _ => pure .typeUnmatched

/-- One request. -/
def serve (s : LinuxData Attribute) : DataRequest Data → DataResponse × LinuxData Attribute
  | .get e => (.got (s.internalGet e).1 (s.internalGet e).2, s)
  | .set e data =>
    (.set ((internalSet cosem e data).at s).1, ((internalSet cosem e data).at s).2)

@[simp] theorem onAttribute_at {α : Type} (call : Call Thrown Attribute α)
    (s : LinuxData Attribute) :
    (onAttribute call).at s = ((call.at s.attr).1, { s with attr := (call.at s.attr).2 }) := rfl

/-- The library hands over a string from the data. -/
def HandsOver (attr : Attribute) (data : Data) (text : StdString) : Prop :=
  ∃ attr' attr'' value,
    (cosem.internalSet data).at attr = (.ok .success, attr') ∧
      cosem.getNextValue.at attr' = (.ok (some value), attr'') ∧
      cosem.asString value = some text

/-- A string that the library hands over is stored. -/
theorem store_of_handsOver {s : LinuxData Attribute} {data : Data} {text : StdString}
    (h : HandsOver cosem s.attr data text) (e : Fin 10) :
    ((store cosem e data).at s).1 = .ok .success ∧
      ((store cosem e data).at s).2.values = Function.update s.values e text := by
  obtain ⟨attr, attr', value, hset, hnext, htext⟩ := h
  have hstart : (store cosem e data).at s = _ := at_bind _ _
  rw [onAttribute_at, hset] at hstart
  simp only [if_true, at_bind, onAttribute_at, hnext, Cosem.valueGet, htext, at_pure,
    at_assign] at hstart
  rw [hstart]
  exact ⟨rfl, rfl⟩

/-- Without one nothing is stored, wherever it fails. -/
theorem store_of_not_handsOver {s : LinuxData Attribute} {data : Data}
    (h : ∀ text, ¬ HandsOver cosem s.attr data text) (e : Fin 10) :
    ((store cosem e data).at s).1 ≠ .ok .success ∧
      ((store cosem e data).at s).2.values = s.values := by
  have hstart : (store cosem e data).at s = _ := at_bind _ _
  rw [onAttribute_at] at hstart
  cases hset : (cosem.internalSet data).at s.attr with
  | mk retVal attr =>
    rw [hset] at hstart
    cases retVal with
    | error ex =>
      rw [hstart]
      exact ⟨nofun, rfl⟩
    | ok retVal =>
      by_cases hsuccess : retVal = .success
      · subst hsuccess
        simp only [if_true, at_bind, onAttribute_at] at hstart
        cases hnext : cosem.getNextValue.at attr with
        | mk next attr' =>
          rw [hnext] at hstart
          match next with
          | .error ex =>
            rw [hstart]
            exact ⟨nofun, rfl⟩
          | .ok none =>
            rw [hstart]
            exact ⟨nofun, rfl⟩
          | .ok (some value) =>
            cases htext : cosem.asString value with
            | none =>
              simp only [at_bind, Cosem.valueGet, htext, at_throw] at hstart
              rw [hstart]
              exact ⟨nofun, rfl⟩
            | some text => exact absurd ⟨attr, attr', value, hset, hnext, htext⟩ (h text)
      · simp only [if_neg hsuccess, at_pure] at hstart
        rw [hstart]
        exact ⟨nofun, rfl⟩

/-- `InternalSet` does what its `try` block does, and answers every failure of it. -/
theorem internalSet_at (s : LinuxData Attribute) (e : Fin 10) (data : Data) :
    ∃ result, (internalSet cosem e data).at s = (.ok result, ((store cosem e data).at s).2) ∧
      (result = .success ↔ ((store cosem e data).at s).1 = .ok .success) := by
  rw [internalSet, at_tryCatch]
  cases hstore : (store cosem e data).at s with
  | mk result after =>
    cases result with
    | ok result => exact ⟨result, rfl, by simp⟩
    | error e => exact ⟨.typeUnmatched, rfl, by simp⟩

/-- What the library hands over is what the data says. -/
theorem HandsOver.said {parse : Data → Option Value} (hparses : cosem.Parses parse)
    {attr : Attribute} {data : Data} {text : StdString}
    (h : HandsOver cosem attr data text) : (parse data).bind cosem.asString = some text := by
  obtain ⟨attr', attr'', value, hset, hnext, htext⟩ := h
  rw [hparses _ _ _ data value hset hnext]
  exact htext

/-- **One `Set`.** It succeeds and stores the string that the data says; or the library hands over
no string, and it answers another result and stores nothing. -/
theorem internalSet_cases {parse : Data → Option Value} (hparses : cosem.Parses parse)
    (s : LinuxData Attribute) (e : Fin 10) (data : Data) :
    (∃ text, HandsOver cosem s.attr data text ∧ (parse data).bind cosem.asString = some text ∧
      ((internalSet cosem e data).at s).1 = .ok .success ∧
        ((internalSet cosem e data).at s).2.values = Function.update s.values e text) ∨
    ∃ result, (∀ text, ¬ HandsOver cosem s.attr data text) ∧ result ≠ .success ∧
      ((internalSet cosem e data).at s).1 = .ok result ∧
        ((internalSet cosem e data).at s).2.values = s.values := by
  obtain ⟨result, hat, hresult⟩ := internalSet_at cosem s e data
  rw [hat]
  by_cases hover : ∃ text, HandsOver cosem s.attr data text
  · obtain ⟨text, hover⟩ := hover
    obtain ⟨hstored, hvalues⟩ := store_of_handsOver cosem hover e
    rw [hresult.mpr hstored]
    exact .inl ⟨text, hover, hover.said cosem hparses, rfl, hvalues⟩
  · have hnot : ∀ text, ¬ HandsOver cosem s.attr data text := not_exists.mp hover
    obtain ⟨hfailed, hvalues⟩ := store_of_not_handsOver cosem hnot e
    exact .inr ⟨result, hnot, fun h => hfailed (hresult.mp h), rfl, hvalues⟩

/-! ## The history of requests -/

/-- The state after some requests. -/
def after (s : LinuxData Attribute) (requests : List (DataRequest Data)) : LinuxData Attribute :=
  requests.foldl (fun s request => (serve cosem s request).2) s

/-- The requests with their answers. -/
def history (s : LinuxData Attribute) :
    List (DataRequest Data) → List (DataRequest Data × DataResponse)
  | [] => []
  | request :: requests =>
    (request, (serve cosem s request).1) :: history (serve cosem s request).2 requests

/-- The put that a request is by its answer: a `Set` that was answered with `success` puts the
string that the data says. -/
def putOf (parse : Data → Option Value) :
    DataRequest Data × DataResponse → Option (Fin 10 × StdString)
  | (.set e data, .set (.ok .success)) => ((parse data).bind cosem.asString).map (e, ·)
  | _ => none

/-- The string of the last `Set` on an index that was answered with `success`. -/
def lastSet (parse : Data → Option Value) (e : Fin 10)
    (past : List (DataRequest Data × DataResponse)) : Option StdString :=
  lastPut e (past.filterMap (putOf cosem parse))

/-- **A request is at most one put.** -/
theorem serve_refines {parse : Data → Option Value} (hparses : cosem.Parses parse)
    (s : LinuxData Attribute) (request : DataRequest Data) :
    (serve cosem s request).2.values =
      (putOf cosem parse (request, (serve cosem s request).1)).toList.foldl
        (fun values put => Function.update values put.1 put.2) s.values := by
  cases request with
  | get e => rfl
  | set e data =>
    rcases internalSet_cases cosem hparses s e data with
      ⟨text, -, hsaid, hresult, hvalues⟩ | ⟨result, -, hfailed, hresult, hvalues⟩
    · simp only [serve, hresult, putOf, hsaid, Option.map_some, Option.toList_some,
        List.foldl_cons, List.foldl_nil]
      exact hvalues
    · have hnone : putOf cosem parse (.set e data, .set (.ok result)) = none := by
        cases result <;> first | rfl | exact absurd rfl hfailed
      simp only [serve, hresult, hnone, Option.toList_none, List.foldl_nil]
      exact hvalues

/-- **No success without a string**: every `Set` of a history that was answered with `success` is
one of its puts. -/
theorem putOf_of_success {parse : Data → Option Value} (hparses : cosem.Parses parse)
    (s : LinuxData Attribute) (requests : List (DataRequest Data)) {e : Fin 10} {data : Data}
    (hmem : (.set e data, .set (.ok .success)) ∈ history cosem s requests) :
    ∃ text, putOf cosem parse (.set e data, .set (.ok .success)) = some (e, text) := by
  induction requests generalizing s with
  | nil => cases hmem
  | cons request requests ih =>
    rcases List.mem_cons.mp hmem with hfirst | hlater
    · obtain ⟨hrequest, hanswer⟩ := Prod.mk.inj hfirst
      subst hrequest
      have hresult : ((internalSet cosem e data).at s).1 = .ok .success :=
        (DataResponse.set.inj hanswer).symm
      rcases internalSet_cases cosem hparses s e data with
        ⟨text, -, hsaid, -⟩ | ⟨result, -, hfailed, hresult', -⟩
      · exact ⟨text, by simp only [putOf, hsaid, Option.map_some]⟩
      · exact absurd (Except.ok.inj (hresult'.symm.trans hresult)) hfailed
    · exact ih _ hlater

/-- The strings are the puts of the history, by induction over the requests. -/
theorem after_values {parse : Data → Option Value} (hparses : cosem.Parses parse)
    (s : LinuxData Attribute) (requests : List (DataRequest Data)) :
    (after cosem s requests).values =
      ((history cosem s requests).filterMap (putOf cosem parse)).foldl
        (fun values put => Function.update values put.1 put.2) s.values := by
  induction requests generalizing s with
  | nil => rfl
  | cons request requests ih =>
    have hstep := serve_refines cosem hparses s request
    rw [after, List.foldl_cons, ← after, ih, hstep, history]
    cases hput : putOf cosem parse (request, (serve cosem s request).1) with
    | none => rw [List.filterMap_cons_none hput, Option.toList_none, List.foldl_nil]
    | some put =>
      rw [List.filterMap_cons_some hput, Option.toList_some, List.foldl_cons, List.foldl_nil,
        List.foldl_cons]

/-- **The meter's data objects are a faithful store.** After every history of requests each index
reads as the string of its last successful `Set`, or as its initial string, and every successful
`Set` of the history is one whose data says a string. The next `Set`, whatever its data and
wherever it fails, answers without an exception and changes no other entry. It succeeds exactly if
the library hands over a string; then the entry is the string that the data says, and otherwise
no entry changes. That the library hands over what the data says is assumed of it, and how often
it does is not. -/
theorem data_faithful {parse : Data → Option Value} (hparses : cosem.Parses parse)
    (attr : Attribute) (requests : List (DataRequest Data)) (e : Fin 10) :
    let s := after cosem (create attr) requests
    let past := history cosem (create attr) requests
    s.internalGet e =
        (.success, .visibleString ((lastSet cosem parse e past).getD (initialValue e))) ∧
      (∀ e' data, (.set e' data, .set (.ok .success)) ∈ past →
        ∃ text, putOf cosem parse (.set e' data, .set (.ok .success)) = some (e', text)) ∧
      ∀ data, ∃ result,
        ((internalSet cosem e data).at s).1 = .ok result ∧
          (∀ e', e' ≠ e → ((internalSet cosem e data).at s).2.values e' = s.values e') ∧
          (result ≠ .success → ((internalSet cosem e data).at s).2.values = s.values) ∧
          (result = .success ↔ ∃ text, HandsOver cosem s.attr data text) ∧
          (result = .success → ∃ text, (parse data).bind cosem.asString = some text ∧
            ((internalSet cosem e data).at s).2.values e = text) := by
  intro s past
  refine ⟨?_, fun e' data hmem => putOf_of_success cosem hparses _ requests hmem, ?_⟩
  · have hvalue : s.values e = (lastSet cosem parse e past).getD (initialValue e) := by
      rw [show s.values = _ from after_values cosem hparses (create attr) requests]
      exact foldl_update_apply _ _ e
    rw [internalGet, hvalue]
  · intro data
    rcases internalSet_cases cosem hparses s e data with
      ⟨text, hover, hsaid, hresult, hvalues⟩ | ⟨result, hnot, hfailed, hresult, hvalues⟩
    · refine ⟨.success, hresult, ?_, fun h => absurd rfl h, ?_, ?_⟩
      · intro e' he'
        rw [hvalues]
        exact Function.update_of_ne he' _ _
      · exact iff_of_true rfl ⟨text, hover⟩
      · intro _
        refine ⟨text, hsaid, ?_⟩
        rw [hvalues, Function.update_self]
    · refine ⟨result, hresult, ?_, fun _ => hvalues, ?_, fun h => absurd h hfailed⟩
      · intro e' _
        rw [hvalues]
      · refine iff_of_false hfailed ?_
        rintro ⟨text, hover⟩
        exact hnot text hover

/-- A library that takes a list of octets for a string tagged 10, and anything else for no
string. -/
def octetCosem : Cosem (List Nat) (List Nat) (List Nat) where
  internalSet data := .of fun _ => (.ok .success, data)
  getNextValue := .of fun attr => (.ok (if attr.isEmpty then none else some attr), [])
  asString
    | 10 :: _ :: text => some (text.map Char.ofNat)
    | _ => none

/-- The store over that library: a string, then a value of another type. -/
theorem data_faithful_octets :
    octetCosem.Parses (fun data => if data.isEmpty then none else some data) ∧
      (after octetCosem (create []) [.set 3 [10, 1, 65], .set 3 [18, 0, 7]]).internalGet 3 =
        (.success, .visibleString ['A']) := by
  have hparses : octetCosem.Parses (fun data => if data.isEmpty then none else some data) := by
    intro attr attr' attr'' data value hset hnext
    cases hset
    cases attr' with
    | nil => cases hnext
    | cons octet octets =>
      cases hnext
      rfl
  refine ⟨hparses, ?_⟩
  rw [(data_faithful octetCosem hparses [] [.set 3 [10, 1, 65], .set 3 [18, 0, 7]] 3).1]
  rfl

end LinuxData

end AccessPoint.Meter
