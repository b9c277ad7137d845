import AccessPoint.Lib.Throwing
import AccessPoint.Request.MultiRead

/-!
# The head-end's configuration

`HESConfig` holds two fields, and `load` assigns them from a JSON text one after the other:
the payload size as soon as it is converted, then the flag. `load_from_string` swallows the
exception that any step of it throws, and what was assigned before stays assigned.

Boost's property tree is not part of the repository: it is a parameter, with the errors it
documents. `assignments` is what a text makes `load` assign, in order, and
`all_or_nothing_iff` says from which states a text is loaded all or nothing.
-/

namespace AccessPoint

open Throwing

/-- The exceptions under `ptree_error`. -/
inductive PtreeError where
  | jsonParserError
  | badPath
  | badData
  deriving DecidableEq, Repr

/-- What `load` uses of the property tree. -/
structure PropertyTree (Tree : Type) where
  /-- `read_json`; it throws on malformed text. -/
  readJson : StdString → Except PtreeError Tree
  /-- The text at a path, if the path is there. -/
  text : Tree → StdString → Option StdString
  /-- The conversion of a text to `bool`, if there is one. -/
  toBool : StdString → Option Bool

/-- `get<T>(path)`, with the translator of `T`. -/
def PropertyTree.get {Tree α : Type} (boost : PropertyTree Tree) (getValue : StdString → Option α)
    (tree : Tree) (path : StdString) : Except PtreeError α :=
  match boost.text tree path with
  | none => .error .badPath
  | some str =>
    match getValue str with
    | none => .error .badData
    | some value => .ok value

/-- `HESConfig`'s two fields. -/
structure HESConfig where
  payloadSize : HESConfig.Payload
  routeOnly : Bool
  deriving DecidableEq, Repr

namespace HESConfig

/-- The configuration the constructor leaves. -/
def initial : HESConfig :=
  { payloadSize := .small, routeOnly := true }

/-- The translator's `get_value`: every text is a payload size. -/
def Payload.getValue (str : StdString) : Option Payload :=
  if str = "medium".toList then some .medium
  else if str = "large".toList then some .large
  else some .small

def payloadPath : StdString := "hes.payload_size".toList
def routePath : StdString := "hes.route_only".toList

variable {Tree : Type} (boost : PropertyTree Tree)

/-- `load`. -/
def load (json : StdString) : Call PtreeError HESConfig Unit := do
  let tree ← .ofExcept (boost.readJson json)
  let payloadSize ← .ofExcept (boost.get Payload.getValue tree payloadPath)
  .assign fun cfg => { cfg with payloadSize }
  let routeOnly ← .ofExcept (boost.get boost.toBool tree routePath)
  .assign fun cfg => { cfg with routeOnly }

/-- `load_from_string`. -/
def loadFromString (str : StdString) : Call PtreeError HESConfig Unit :=
  tryCatch (load boost str) fun _ => pure ()

/-- The configuration after `load_from_string`. -/
def loaded (cfg : HESConfig) (str : StdString) : HESConfig :=
  ((loadFromString boost str).at cfg).2

/-! ## What a text assigns -/

/-- An assignment to one field. -/
inductive Assignment where
  | payloadSize (value : Payload)
  | routeOnly (value : Bool)
  deriving DecidableEq, Repr

/-- One assignment. -/
def assign (cfg : HESConfig) : Assignment → HESConfig
  | .payloadSize payloadSize => { cfg with payloadSize }
  | .routeOnly routeOnly => { cfg with routeOnly }

/-- The assignments `load` makes before it returns or throws. -/
def assignments (str : StdString) : List Assignment :=
  match boost.readJson str with
  | .error _ => []
  | .ok tree =>
    match boost.get Payload.getValue tree payloadPath with
    | .error _ => []
    | .ok payloadSize =>
      match boost.get boost.toBool tree routePath with
      | .error _ => [.payloadSize payloadSize]
      | .ok routeOnly => [.payloadSize payloadSize, .routeOnly routeOnly]

/-- **`load_from_string` makes the assignments of its text**, and throws nothing. -/
theorem loadFromString_at (cfg : HESConfig) (str : StdString) :
    (loadFromString boost str).at cfg = (.ok (), (assignments boost str).foldl assign cfg) := by
  simp only [loadFromString, load, at_tryCatch, at_bind, at_ofExcept, assignments]
  cases boost.readJson str with
  | error e => rfl
  | ok tree =>
    dsimp only
    cases boost.get Payload.getValue tree payloadPath with
    | error e => rfl
    | ok payloadSize =>
      simp only [at_assign]
      cases boost.get boost.toBool tree routePath with
      | error e => rfl
      | ok routeOnly => rfl

theorem loaded_eq (cfg : HESConfig) (str : StdString) :
    loaded boost cfg str = (assignments boost str).foldl assign cfg := by
  rw [loaded, loadFromString_at]

/-! ## All or nothing -/

/-- The configuration that a text carries: it is well formed, and both values are there and
convertible. -/
def carried (str : StdString) : Option HESConfig :=
  match boost.readJson str with
  | .error _ => none
  | .ok tree =>
    match boost.get Payload.getValue tree payloadPath, boost.get boost.toBool tree routePath with
    | .ok payloadSize, .ok routeOnly => some { payloadSize, routeOnly }
    | _, _ => none

/-- A text that carries a configuration sets both fields to it, and any other leaves both. -/
def AllOrNothing (cfg : HESConfig) (str : StdString) : Prop :=
  loaded boost cfg str = (carried boost str).getD cfg

/-- A well-formed text with a payload size other than the stored one, and no flag that can be
converted. -/
def Halfway (cfg : HESConfig) (str : StdString) : Prop :=
  ∃ tree payloadSize e, boost.readJson str = .ok tree ∧
    boost.get Payload.getValue tree payloadPath = .ok payloadSize ∧
    payloadSize ≠ cfg.payloadSize ∧ boost.get boost.toBool tree routePath = .error e

/-- **When a text is loaded all or nothing**: unless it ends halfway. The text is any and so is the
configuration before it, and the property tree is any that answers or throws as Boost documents. All
is to take both values that the text carries, and nothing to keep both that were stored; a text that
throws after a payload size other than the stored one is the only one to do neither. -/
theorem all_or_nothing_iff (cfg : HESConfig) (str : StdString) :
    AllOrNothing boost cfg str ↔ ¬ Halfway boost cfg str := by
  rw [AllOrNothing, loaded_eq, assignments, carried]
  cases hread : boost.readJson str with
  | error e =>
    apply iff_of_true rfl
    rintro ⟨tree, payloadSize, e', htree, -⟩
    cases hread.symm.trans htree
  | ok tree =>
    have hhalfway : Halfway boost cfg str ↔ ∃ payloadSize e,
        boost.get Payload.getValue tree payloadPath = .ok payloadSize ∧
          payloadSize ≠ cfg.payloadSize ∧ boost.get boost.toBool tree routePath = .error e := by
      simp [Halfway, hread]
    rw [hhalfway]
    cases hpayload : boost.get Payload.getValue tree payloadPath with
    | error e => simp [hpayload]
    | ok payloadSize =>
      cases hroute : boost.get boost.toBool tree routePath with
      | ok routeOnly => simp [hpayload, hroute, assign]
      | error e =>
        -- the payload size is stored, and the flag is not
        have hstored : assign cfg (.payloadSize payloadSize) = cfg ↔
            payloadSize = cfg.payloadSize := by
          obtain ⟨stored, routeOnly⟩ := cfg
          simp [assign]
        simp [hpayload, hroute, hstored]

/-- A message with both values. -/
def largeMessage : StdString :=
  "\x7b\"hes\":\x7b\"payload_size\":\"large\",\"route_only\":\"false\"\x7d\x7d".toList

/-- A message without the flag. -/
def halfMessage : StdString :=
  "\x7b\"hes\":\x7b\"payload_size\":\"large\"\x7d\x7d".toList

/-- A property tree that reads these two messages, as paths with their data. -/
def messageTree : PropertyTree (List (StdString × StdString)) where
  readJson str :=
    if str = largeMessage then
      .ok [(payloadPath, "large".toList), (routePath, "false".toList)]
    else if str = halfMessage then .ok [(payloadPath, "large".toList)]
    else .error .jsonParserError
  text tree path := (tree.find? fun entry => entry.1 = path).map (·.2)
  toBool str :=
    if str = "true".toList then some true
    else if str = "false".toList then some false
    else none

/-- A message without the flag sets one field and leaves the other. -/
theorem half_loaded :
    ¬ ∀ (cfg : HESConfig) (str : StdString), AllOrNothing messageTree cfg str := by
  intro h
  have hlarge := h initial halfMessage
  revert hlarge
  rw [AllOrNothing]
  decide

end HESConfig

end AccessPoint
