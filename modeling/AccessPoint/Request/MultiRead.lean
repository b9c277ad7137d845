import AccessPoint.Request.Config
import Mathlib.Data.List.Lex
import Mathlib.Data.Finset.Sort
import Mathlib.Data.Char

/-!
# The request the head-end writes

`multiRead` of `HESsim.cpp`: the payload word of the head-end's own configuration, then
every name of the meter set with a comma before it, in the order of the
`std::set<std::string>`. A `std::set` is a `Finset`, and its order is the one
`std::less<std::string>` gives, the lexicographic order of the characters.

`MeterSet` carries what the head-end's `meters` always satisfies. Its only writer,
`tcp_connection::start`, inserts the text of an address, so a name is nonempty,
printable and free of commas.

`construct_multiReadRequest` is the agreement of the two programs: the access point's
constructor, on the text the head-end writes, gives back the payload size and the names
of the set in the set's order. The two enumerations of payload sizes are two types in
the source, and `Payload.toConfig` pairs the enumerators of one name.
-/

namespace AccessPoint

open Delimited

/-- `HESConfig::payload`. -/
inductive HESConfig.Payload where
  | small | medium | large
  deriving DecidableEq, Repr

/-- The access point's enumerator of the same name. -/
def HESConfig.Payload.toConfig : HESConfig.Payload → Config.Payload
  | .small => .small
  | .medium => .medium
  | .large => .large

/-- The text of a meter's address. -/
structure IsMeterName (name : StdString) : Prop where
  nonempty : name ≠ []
  printable : name.all isprint = true
  noComma : ',' ∉ name

/-- The head-end's `meters`. -/
structure MeterSet where
  names : Finset StdString
  valid : ∀ name ∈ names, IsMeterName name

/-- The set in its own order, as `meters.begin()` to `meters.end()` runs over it. -/
def MeterSet.inOrder (meters : MeterSet) : List StdString :=
  meters.names.sort

/-- The switch on `cfg.get_payload_size()`. -/
def payloadStr : HESConfig.Payload → StdString
  | .medium => "medium".toList
  | .large => "large".toList
  | _ => "small".toList

/-- `comma_concat`. -/
def commaConcat (a b : StdString) : StdString :=
  a ++ ',' :: b

/-- `meterset`, the text `multiRead` writes: `std::accumulate` over the set from the
payload word. -/
def multiReadRequest (payloadSize : HESConfig.Payload) (meters : MeterSet) : StdString :=
  meters.inOrder.foldl commaConcat (payloadStr payloadSize)

theorem payloadStr_eq_word (payloadSize : HESConfig.Payload) :
    payloadStr payloadSize = payloadSize.toConfig.word := by
  cases payloadSize <;> rfl

/-- The fold writes the text the constructor is the reader of. -/
theorem multiReadRequest_eq_text (payloadSize : HESConfig.Payload) (meters : MeterSet) :
    multiReadRequest payloadSize meters = Config.text payloadSize.toConfig meters.inOrder := by
  show meters.inOrder.foldl (fun a b => a ++ ',' :: b) (payloadStr payloadSize) = _
  rw [foldl_delimited, payloadStr_eq_word]
  rfl

theorem MeterSet.mem_inOrder {meters : MeterSet} {name : StdString} :
    name ∈ meters.inOrder ↔ name ∈ meters.names :=
  Finset.mem_sort _

theorem MeterSet.valid_of_mem {meters : MeterSet} {name : StdString}
    (h : name ∈ meters.inOrder) : IsMeterName name :=
  meters.valid name (MeterSet.mem_inOrder.mp h)

/-- What the constructor makes of the text. -/
theorem construct_request (payloadSize : HESConfig.Payload) (meters : MeterSet) :
    Config.construct (multiReadRequest payloadSize meters) =
      .ok ⟨meters.inOrder, some payloadSize.toConfig⟩ := by
  rw [multiReadRequest_eq_text]
  exact Config.construct_text (fun _ h => (MeterSet.valid_of_mem h).nonempty)
    (fun _ h => (MeterSet.valid_of_mem h).printable)
    (fun _ h => (MeterSet.valid_of_mem h).noComma)

/-- **The access point reads what the head-end wrote**: the constructor accepts the text,
and yields the payload size and the names of the set in its order, each name once, also
when the set is empty. The set is any that the registration server can have made, and the
payload size any. That the text arrives in one piece is `AccessPoint.Request.Delivery`'s
subject. -/
theorem construct_multiReadRequest (payloadSize : HESConfig.Payload) (meters : MeterSet) :
    Config.construct (multiReadRequest payloadSize meters) =
        .ok { meters := meters.inOrder, payloadSize := some payloadSize.toConfig } ∧
      meters.inOrder.Pairwise (· < ·) ∧
      ∀ name, name ∈ meters.inOrder ↔ name ∈ meters.names := by
  refine ⟨?_, ?_, fun _ => MeterSet.mem_inOrder⟩
  · exact construct_request payloadSize meters
  · exact (Finset.sortedLT_sort meters.names).pairwise

end AccessPoint
