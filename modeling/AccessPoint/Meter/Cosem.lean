import AccessPoint.Lib.Throwing
import AccessPoint.Request.Config

/-!
# What the meter's objects take from the COSEM library

The objects of the simulated meter answer requests by overriding `InternalGet`,
`InternalSet` and `InternalAction`. The library that dispatches to them is not part of the
repository, so it is a parameter: the two calls a `Set` is parsed with, and the string that
a value may hold. Either call may do anything to the attribute, give anything, or throw.

`Parses` is what a meter's object relies on: a value that both calls hand over is the value
of the data that was set.
-/

namespace AccessPoint.Meter

open Throwing

/-- `APDUConstants::Data_Access_Result`, by the names the meter's objects use. -/
inductive DataAccessResult where
  | success
  | temporaryFailure
  | readWriteDenied
  | objectUnavailable
  | typeUnmatched
  | other (code : Nat)
  deriving DecidableEq, Repr

/-- `APDUConstants::Action_Result`, likewise. -/
inductive ActionResult where
  | success
  | objectUnavailable
  deriving DecidableEq, Repr

/-- What `InternalGet` appends to the attribute. -/
inductive Appended where
  | boolean (value : Bool)
  | unsigned (value : Nat)
  | bitString (bits : List Bool)
  | visibleString (text : StdString)
  deriving DecidableEq, Repr

/-- A C++ exception. No handler of the meter looks into one. -/
inductive Thrown where
  | thrown
  deriving DecidableEq, Repr

/-- The part of the library that a `Set` is parsed with. -/
structure Cosem (Attribute Data Value : Type) where
  /-- `ICOSEMObject::InternalSet`. -/
  internalSet : Data → Call Thrown Attribute DataAccessResult
  /-- `GetNextValue`; a value if it is `VALUE_RETRIEVED`. -/
  getNextValue : Call Thrown Attribute (Option Value)
  /-- The string a `DLMSValue` holds, if it holds one. -/
  asString : Value → Option StdString

namespace Cosem

variable {Attribute Data Value σ : Type}

/-- `DLMSValueGet<std::string>` throws on a value of another type. -/
def valueGet (cosem : Cosem Attribute Data Value) (value : Value) : Call Thrown σ StdString :=
  match cosem.asString value with
  | some text => pure text
  | none => throw .thrown

/-- A value that both calls hand over is what the data says. -/
def Parses (cosem : Cosem Attribute Data Value) (parse : Data → Option Value) : Prop :=
  ∀ (attr attr' attr'' : Attribute) (data : Data) (value : Value),
    (cosem.internalSet data).at attr = (.ok .success, attr') →
      cosem.getNextValue.at attr' = (.ok (some value), attr'') → parse data = some value

end Cosem

end AccessPoint.Meter
