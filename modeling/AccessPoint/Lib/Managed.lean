import Mathlib.Data.List.Basic

/-!
# Objects that managers make and release

Every object is made by one manager, and a handle stays the same as others are made. What is kept
of an object is who made it and who has released it, in order, so a release of an object that is
gone, or by another manager, stands in its record.

- `Live`: the object is there and has not been released.
- `Proper`: every object has been released at most once, and by the manager that made it.
- `proper_release_iff`: a release keeps that if the object is live and the manager's own, and
  only then.
-/

namespace Managed

variable {μ : Type*}

/-- An object: who made it, and who has released it. -/
structure Object (μ : Type*) where
  owner : μ
  releases : List μ
  deriving DecidableEq, Repr

/-- A handle: the number of objects made before it. -/
abbrev Handle := Nat

/-- A new object, under the next handle. -/
def create (owner : μ) (objects : List (Object μ)) : List (Object μ) :=
  objects ++ [⟨owner, []⟩]

/-- One more release in the record. -/
def Object.releasedBy (manager : μ) (object : Object μ) : Object μ :=
  { object with releases := object.releases ++ [manager] }

/-- A manager releases an object. -/
def release (manager : μ) (handle : Handle) (objects : List (Object μ)) : List (Object μ) :=
  objects.modify handle (.releasedBy manager)

/-- The object is there and has not been released. -/
def live (objects : List (Object μ)) (handle : Handle) : Bool :=
  objects[handle]?.any (·.releases.isEmpty)

/-- The object is live. -/
def Live (objects : List (Object μ)) (handle : Handle) : Prop :=
  live objects handle = true

/-- The manager has made the object. -/
def Owned (objects : List (Object μ)) (handle : Handle) (manager : μ) : Prop :=
  objects[handle]?.map (·.owner) = some manager

/-- Every object has been released at most once, by the manager that made it. -/
def Proper (objects : List (Object μ)) : Prop :=
  ∀ object ∈ objects, object.releases = [] ∨ object.releases = [object.owner]

variable {objects : List (Object μ)} {handle other : Handle} {manager owner : μ}

theorem proper_nil : Proper ([] : List (Object μ)) :=
  nofun

/-! ## A new object -/

theorem live_create : Live (create owner objects) objects.length := by
  simp [Live, live, create]

theorem owned_create : Owned (create owner objects) objects.length owner := by
  simp [Owned, create]

theorem getElem?_create (h : handle < objects.length) :
    (create owner objects)[handle]? = objects[handle]? :=
  List.getElem?_append_left h

theorem Live.lt (h : Live objects handle) : handle < objects.length := by
  by_contra hge
  rw [Live, live, List.getElem?_eq_none (Nat.le_of_not_lt hge)] at h
  cases h

theorem Owned.lt (h : Owned objects handle manager) : handle < objects.length := by
  by_contra hge
  rw [Owned, List.getElem?_eq_none (Nat.le_of_not_lt hge)] at h
  cases h

theorem Live.create (h : Live objects handle) (owner : μ) :
    Live (create owner objects) handle := by
  rw [Live, live, getElem?_create h.lt]
  exact h

theorem Owned.create (h : Owned objects handle manager) (owner : μ) :
    Owned (create owner objects) handle manager := by
  rw [Owned, getElem?_create h.lt]
  exact h

theorem Proper.create (h : Proper objects) (owner : μ) : Proper (create owner objects) := by
  intro object hobject
  rcases List.mem_append.mp hobject with hold | hnew
  · exact h object hold
  · rw [List.mem_singleton.mp hnew]
    exact .inl rfl

/-! ## A release -/

theorem getElem?_release_self :
    (release manager handle objects)[handle]? = objects[handle]?.map (.releasedBy manager) :=
  List.getElem?_modify_eq _ _ _

theorem getElem?_release_of_ne (h : other ≠ handle) :
    (release manager handle objects)[other]? = objects[other]? :=
  List.getElem?_modify_ne _ _ (Ne.symm h)

/-- The other objects stay live. -/
theorem Live.release_of_ne (h : Live objects other) (hne : other ≠ handle) :
    Live (release manager handle objects) other := by
  rw [Live, live, getElem?_release_of_ne hne]
  exact h

/-- The managers stay the same. -/
theorem Owned.release (h : Owned objects other owner) :
    Owned (release manager handle objects) other owner := by
  by_cases hne : other = handle
  · subst hne
    rw [Owned, getElem?_release_self, Option.map_map]
    exact h
  · rw [Owned, getElem?_release_of_ne hne]
    exact h

theorem proper_iff_getElem? :
    Proper objects ↔ ∀ (handle : Handle) (object : Object μ), objects[handle]? = some object →
      object.releases = [] ∨ object.releases = [object.owner] := by
  constructor
  · intro h handle object hobject
    exact h object (List.mem_of_getElem? hobject)
  · intro h object hobject
    obtain ⟨handle, hhandle⟩ := List.mem_iff_getElem?.mp hobject
    exact h handle object hhandle

/-- **A release that is proper**: of an object that is live, by the manager that made it. -/
theorem proper_release_iff (h : Proper objects) (hlt : handle < objects.length) :
    Proper (release manager handle objects) ↔
      Live objects handle ∧ Owned objects handle manager := by
  obtain ⟨object, hobject⟩ : ∃ object, objects[handle]? = some object :=
    ⟨_, List.getElem?_eq_getElem hlt⟩
  have hself : (release manager handle objects)[handle]? = some (object.releasedBy manager) := by
    rw [getElem?_release_self, hobject]
    rfl
  have hlive : Live objects handle ↔ object.releases = [] := by
    rw [Live, live, hobject]
    exact List.isEmpty_iff
  have howned : Owned objects handle manager ↔ object.owner = manager := by
    rw [Owned, hobject]
    exact Option.some_inj
  rw [hlive, howned, proper_iff_getElem?]
  constructor
  · intro hproper
    rcases hproper handle _ hself with hnone | hone
    · exact absurd hnone (List.append_ne_nil_of_right_ne_nil _ (List.cons_ne_nil _ _))
    · have hreleases : object.releases ++ [manager] = [object.owner] := hone
      rcases List.append_eq_singleton_iff.mp hreleases with ⟨hnil, hmanager⟩ | ⟨-, hempty⟩
      · exact ⟨hnil, (List.singleton_inj.mp hmanager).symm⟩
      · exact absurd hempty (List.cons_ne_nil _ _)
  · intro ⟨hnil, hmanager⟩ other object' hother
    by_cases hne : other = handle
    · subst hne
      obtain rfl : object.releasedBy manager = object' :=
        Option.some_inj.mp (hself.symm.trans hother)
      right
      simp [Object.releasedBy, hnil, hmanager]
    · rw [getElem?_release_of_ne hne] at hother
      exact h object' (List.mem_of_getElem? hother)

end Managed
