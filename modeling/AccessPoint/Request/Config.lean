import AccessPoint.Lib.Delimited

/-!
# The access point's request object

`Config` of `APsim.cpp`: the list of meters to read and the payload size to read
from each, shared by the registration thread and the main loop under one mutex.
Every public operation takes the mutex once, so each is one atomic step of the
models above this one.

`Config.construct` is the converting constructor, the request parser. It reads the
payload word with `getline`, then the meter names with the `getline` loop, and only
then looks at the word. On the empty string the first `getline` fails and the
constructor returns with `payload_size_` never assigned; `payloadSize` is an option
for that one exit.

What a successful construction says of its text is `construct_ok_cases`: the text is
the payload word and the names, each behind a comma, up to one comma at the end.
-/

namespace AccessPoint

open Delimited

/-- A `std::string`: a sequence of `char`. A `Char` stands for one octet; the range
above 255 is never printable and plays no part. -/
abbrev StdString := List Char

/-- `isprint` of the default locale: the space to the tilde. -/
def isprint (c : Char) : Bool :=
  0x20 ≤ c.toNat && c.toNat ≤ 0x7e

/-- `Config::Payload`. -/
inductive Config.Payload where
  | small | medium | large
  deriving DecidableEq, Repr

/-- The word the constructor compares with. -/
def Config.Payload.word : Config.Payload → StdString
  | .small => "small".toList
  | .medium => "medium".toList
  | .large => "large".toList

/-- The two `std::range_error`s of the constructor. -/
inductive RangeError where
  | invalidString
  | invalidPayloadSize
  deriving DecidableEq, Repr

/-- Their texts. -/
def RangeError.what : RangeError → StdString
  | .invalidString => "invalid string".toList
  | .invalidPayloadSize => "invalid Payload size".toList

/-- The data of a `Config`. `payloadSize` is `none` while `payload_size_` has never been
assigned. -/
structure Config where
  meters : List StdString
  payloadSize : Option Config.Payload
  deriving DecidableEq, Repr

namespace Config

/-- The chain of comparisons on the payload word. -/
def Payload.ofWord (plsize : StdString) : Option Payload :=
  if plsize = "small".toList then some .small
  else if plsize = "medium".toList then some .medium
  else if plsize = "large".toList then some .large
  else none

/-- `Config(const std::string& data)`. -/
def construct (data : StdString) : Except RangeError Config :=
  if data.all isprint then
    match getline ',' data with
    | none => .ok ⟨[], none⟩
    | some (plsize, ss) =>
      let meters := getlines ',' ss
      match Payload.ofWord plsize with
      | some size => .ok ⟨meters, some size⟩
      | none => .error .invalidPayloadSize
  else
    .error .invalidString

/-- `interpret`: construct a new object and swap both fields with it, or leave both as they
are when the constructor throws. -/
def interpret (cfg : Config) (data : StdString) : Config :=
  match construct data with
  | .ok other => other
  | .error _ => cfg

/-- What `interpret` writes to `std::cerr`, when it writes. -/
def complaint (data : StdString) : Option StdString :=
  match construct data with
  | .ok _ => none
  | .error r => some (r.what ++ ": ".toList ++ data ++ "\n".toList)

/-- `count()`. -/
def count (cfg : Config) : Nat :=
  cfg.meters.length

/-- `clear()` empties the list and keeps the payload size. -/
def clear (cfg : Config) : Config :=
  { cfg with meters := [] }

/-- `Config cfg("small,")` in `main`. -/
def atStart : Config :=
  ⟨[], some .small⟩

/-- `main` starts from what the constructor makes of `"small,"`. -/
example : construct "small,".toList = .ok atStart := by decide

/-! ## The payload word -/

theorem ofWord_word (size : Payload) : Payload.ofWord size.word = some size := by
  cases size <;> decide

theorem word_of_ofWord {w : StdString} {size : Payload} (h : Payload.ofWord w = some size) :
    w = size.word := by
  unfold Payload.ofWord at h
  split at h
  next hw => cases h; exact hw
  next =>
    split at h
    next hw => cases h; exact hw
    next =>
      split at h
      next hw => cases h; exact hw
      next => cases h

theorem comma_not_mem_word (size : Payload) : ',' ∉ size.word := by
  cases size <;> decide

theorem word_ne_nil (size : Payload) : size.word ≠ [] := by
  cases size <;> decide

theorem word_printable (size : Payload) : size.word.all isprint = true := by
  cases size <;> decide

/-- A payload word cut short is no payload word. -/
theorem ofWord_of_prefix {size : Payload} {w : StdString} (h : w <+: size.word)
    (hne : w ≠ size.word) : Payload.ofWord w = none := by
  cases hw : Payload.ofWord w with
  | none => rfl
  | some size' =>
    rw [word_of_ofWord hw] at h hne
    revert h hne
    cases size <;> cases size' <;> decide

/-! ## What the constructor accepts -/

/-- A text the constructor accepts, and what it makes of it. -/
def text (size : Payload) (meters : List StdString) : StdString :=
  size.word ++ delimited ',' meters

/-- The successful exit past the first `getline`. -/
theorem construct_of_getline {data ss : StdString} {size : Payload}
    (hall : data.all isprint = true) (hg : getline ',' data = some (size.word, ss)) :
    construct data = .ok ⟨getlines ',' ss, some size⟩ := by
  unfold construct
  rw [if_pos hall, hg]
  simp only [ofWord_word]

/-- The exits of a successful construction. The empty string assigns nothing; any other
accepted text is its own fields written out, up to one comma at the end. -/
theorem construct_ok_cases {data : StdString} {cfg : Config} (h : construct data = .ok cfg) :
    (data = [] ∧ cfg = ⟨[], none⟩) ∨
      ∃ size, cfg.payloadSize = some size ∧
        (data = text size cfg.meters ∨ data = text size cfg.meters ++ [',']) := by
  unfold construct at h
  split at h
  next =>
    cases hg : getline ',' data with
    | none =>
      simp only [hg] at h
      cases h
      exact .inl ⟨getline_eq_none.mp hg, rfl⟩
    | some p =>
      obtain ⟨plsize, ss⟩ := p
      simp only [hg] at h
      cases hw : Payload.ofWord plsize with
      | none => simp only [hw] at h; cases h
      | some size =>
        simp only [hw] at h
        cases h
        refine .inr ⟨size, rfl, ?_⟩
        have hword := word_of_ofWord hw
        rcases (getline_rebuild hg).2 with hdata | ⟨hdata, rfl⟩
        · rcases delimited_getlines ',' ss with hs | hs
          · exact .inl (by rw [hdata, hword, text, ← hs])
          · exact .inr (by rw [hdata, hword, text, List.append_assoc, ← hs])
        · exact .inl (by rw [hdata, hword]; simp [text])
  next => cases h

/-- The constructor on a written text whose names are nonempty, printable and free of
commas. -/
theorem construct_text {size : Payload} {meters : List StdString}
    (hne : ∀ n ∈ meters, n ≠ []) (hprint : ∀ n ∈ meters, n.all isprint = true)
    (hcomma : ∀ n ∈ meters, ',' ∉ n) :
    construct (text size meters) = .ok ⟨meters, some size⟩ := by
  have hall : (text size meters).all isprint = true := by
    simp only [text, delimited, List.all_append, word_printable, Bool.true_and, List.all_flatMap,
      List.all_cons]
    exact List.all_eq_true.mpr fun n hn => Bool.and_eq_true_iff.mpr ⟨by decide, hprint n hn⟩
  cases meters with
  | nil =>
    have hg : getline ',' (text size []) = some (size.word, []) := by
      rw [text, delimited_nil, List.append_nil]
      exact getline_last (comma_not_mem_word size) (word_ne_nil size)
    exact construct_of_getline hall hg
  | cons n ns =>
    have hg : getline ',' (text size (n :: ns)) = some (size.word, n ++ delimited ',' ns) := by
      rw [text, delimited_cons]
      exact getline_field (comma_not_mem_word size) _
    rw [construct_of_getline hall hg, getlines_delimited n ns hcomma hne]

/-- A proper beginning of the payload word is refused, so it changes no `Config`. -/
theorem interpret_of_word_prefix {size : Payload} {w : StdString} (h : w <+: size.word)
    (hne : w ≠ size.word) (hnil : w ≠ []) (cfg : Config) : cfg.interpret w = cfg := by
  have hcomma : ',' ∉ w := fun hm => comma_not_mem_word size (h.subset hm)
  have hall : w.all isprint = true :=
    List.all_eq_true.mpr fun c hc => List.all_eq_true.mp (word_printable size) c (h.subset hc)
  have hconstruct : construct w = .error .invalidPayloadSize := by
    simp [construct, hall, getline_last hcomma hnil, ofWord_of_prefix h hne]
  simp only [interpret, hconstruct]

end Config

/-- The object `runScript` reads: the switch on `cfg.payload_size()`. -/
def objectFor : Config.Payload → StdString
  | .medium => "0-0:96.1.4*255".toList
  | .large => "0-0:96.1.9*255".toList
  | _ => "0-0:96.1.0*255".toList

end AccessPoint
