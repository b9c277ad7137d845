import AccessPoint.Lib.Run
import Mathlib.Data.List.Induction
import AccessPoint.Request.Config

/-!
# The main loop and the registration thread

The two threads of `APsim.cpp` over the one `Config`. The main loop repeats `count()`,
`runScript` and `clear()`; `runScript` takes one `meters()` snapshot and reads
`payload_size()` once for every meter of it. The registration thread calls `interpret` at
any time. Every one of these takes the mutex once, so each is an atomic step, and a
schedule is a list of them in the order in which they get the mutex.

The snapshot, the reads and the `clear()` of a round are separate critical sections, and a
request accepted after the snapshot is cleared without having been read. Two laws say
which schedules keep what the two threads are for.

- `no_request_lost_iff`: a request is read or replaced before it is cleared exactly when,
  in every round, the last request accepted between the snapshot and the `clear()` names
  no meter.
- `one_request_a_round_iff`: every meter of a snapshot is read with the payload size that
  came with the snapshot exactly when, before every read, the last request accepted since
  the snapshot carries that same payload size.
-/

namespace AccessPoint

/-- Where the main loop stands: before `count()`, before `meters()`, or inside the round
with the meters still to read. With none left the next operation is `clear()`. -/
inductive Phase where
  | count
  | meters
  | script (todo : List StdString)
  deriving DecidableEq, Repr

/-- The shared object, the main loop's place, and the reads of the current round: each
meter with the object it was asked for. -/
structure Rounds where
  cfg : Config
  phase : Phase
  asked : List (StdString × StdString)
  deriving DecidableEq, Repr

/-- One critical section. `stray` is what a `payload_size_` that was never assigned is
taken for, should the main loop read one; any value outside the enumeration takes the
`default` branch, as `small` does. -/
inductive Op where
  | interpret (data : StdString)
  | main (stray : Config.Payload)
  deriving DecidableEq, Repr

namespace Rounds

/-- `main` before its first `count()`. -/
def atStart : Rounds :=
  { cfg := Config.atStart, phase := .count, asked := [] }

/-- The object the next `payload_size()` selects. -/
def objectRead (ap : Rounds) (stray : Config.Payload) : StdString :=
  objectFor (ap.cfg.payloadSize.getD stray)

/-- One atomic step of either thread. -/
def step (ap : Rounds) : Op → Rounds
  | .interpret data => { ap with cfg := ap.cfg.interpret data }
  | .main stray =>
    match ap.phase with
    | .count => { ap with phase := .meters }
    | .meters => { ap with phase := .script ap.cfg.meters, asked := [] }
    | .script (meter :: todo) =>
      { ap with phase := .script todo, asked := ap.asked ++ [(meter, ap.objectRead stray)] }
    | .script [] => { ap with cfg := ap.cfg.clear, phase := .count }

/-- The state a schedule leads to. -/
def run (ap : Rounds) (ops : List Op) : Rounds :=
  ops.foldl step ap

theorem run_append (ap : Rounds) (ops ops' : List Op) :
    ap.run (ops ++ ops') = (ap.run ops).run ops' :=
  List.foldl_append

/-- The operation is the main loop's `clear()`. -/
def Clears (ap : Rounds) (op : Op) : Prop :=
  (∃ stray, op = .main stray) ∧ ap.phase = .script []

/-- The operation is the main loop's `meters()`. -/
def Snapshots (ap : Rounds) (op : Op) : Prop :=
  (∃ stray, op = .main stray) ∧ ap.phase = .meters

/-- No operation of the schedule is a `clear()`. -/
def NoClear (ap : Rounds) (ops : List Op) : Prop :=
  Run.Along step (fun ap op => ¬ ap.Clears op) ap ops

end Rounds

/-- The request an operation puts into the object: an `interpret` whose construction
succeeds. -/
def Op.accepted : Op → Option Config
  | .interpret data => (Config.construct data).toOption
  | .main _ => none

/-- The last request a schedule puts into the object. -/
def lastAccepted (ops : List Op) : Option Config :=
  (ops.filterMap Op.accepted).getLast?

/-! ## What a step does -/

namespace Rounds

/-- A step that accepts a request holds exactly that request. -/
theorem cfg_step_accepted {ap : Rounds} {op : Op} {req : Config} (h : op.accepted = some req) :
    (ap.step op).cfg = req := by
  cases op with
  | interpret data =>
    cases hc : Config.construct data with
    | error e => simp [Op.accepted, hc, Except.toOption] at h
    | ok other =>
      simp only [Op.accepted, hc, Except.toOption, Option.some.injEq] at h
      simp only [step, Config.interpret, hc, h]
  | main stray => cases h

/-- A step that accepts nothing touches the object only to clear it. -/
theorem cfg_step_none (ap : Rounds) {op : Op} (h : op.accepted = none) :
    (ap.step op).cfg = ap.cfg ∨ ap.Clears op ∧ (ap.step op).cfg = ap.cfg.clear := by
  cases op with
  | interpret data =>
    cases hc : Config.construct data with
    | error e => exact .inl (by simp only [step, Config.interpret, hc])
    | ok other => simp [Op.accepted, hc, Except.toOption] at h
  | main stray =>
    cases hp : ap.phase with
    | count => exact .inl (by simp only [step, hp])
    | meters => exact .inl (by simp only [step, hp])
    | script todo =>
      cases todo with
      | nil => exact .inr ⟨⟨⟨stray, rfl⟩, hp⟩, by simp only [step, hp]⟩
      | cons meter todo => exact .inl (by simp only [step, hp])

/-- Inside a round the main loop stays inside it until the `clear()`, and works the
snapshot off from the front. -/
theorem phase_step_script {ap : Rounds} {op : Op} {todo : List StdString}
    (hp : ap.phase = .script todo) (h : ¬ ap.Clears op) :
    ∃ todo', (ap.step op).phase = .script todo' ∧ todo' <:+ todo := by
  cases op with
  | interpret data => exact ⟨todo, hp, List.suffix_refl _⟩
  | main stray =>
    cases todo with
    | nil => exact absurd ⟨⟨stray, rfl⟩, hp⟩ h
    | cons meter todo => exact ⟨todo, by simp only [step, hp], List.suffix_cons _ _⟩

/-- A round is entered at its snapshot only. -/
theorem script_of_step {ap : Rounds} {op : Op} {todo : List StdString}
    (h : (ap.step op).phase = .script todo) :
    ap.Snapshots op ∨ (∃ todo', ap.phase = .script todo') ∧ ¬ ap.Clears op := by
  cases op with
  | interpret data => exact .inr ⟨⟨todo, h⟩, fun hc => by obtain ⟨⟨_, he⟩, _⟩ := hc; cases he⟩
  | main stray =>
    cases hp : ap.phase with
    | count => simp [step, hp] at h
    | meters => exact .inl ⟨⟨stray, rfl⟩, hp⟩
    | script todo' =>
      cases todo' with
      | nil => simp [step, hp] at h
      | cons meter rest =>
        refine .inr ⟨⟨_, rfl⟩, fun hc => ?_⟩
        rw [Clears, hp] at hc
        simp at hc

/-! ## What a run does -/

theorem run_script {ap : Rounds} {ops : List Op} {todo : List StdString}
    (hp : ap.phase = .script todo) (h : ap.NoClear ops) :
    ∃ todo', (ap.run ops).phase = .script todo' ∧ todo' <:+ todo := by
  refine Run.Along.invariant (I := fun ap => ∃ todo', ap.phase = .script todo' ∧ todo' <:+ todo)
    h ⟨todo, hp, List.suffix_refl _⟩ ?_
  rintro ap op ⟨todo', hp', hsuffix⟩ hc
  obtain ⟨todo'', hp'', hsuffix'⟩ := phase_step_script hp' hc
  exact ⟨todo'', hp'', hsuffix'.trans hsuffix⟩

theorem noClear_append {ap : Rounds} {ops ops' : List Op} :
    ap.NoClear (ops ++ ops') ↔ ap.NoClear ops ∧ (ap.run ops).NoClear ops' :=
  Run.along_append

/-- A round has one snapshot: none follows it before the `clear()`. -/
theorem not_snapshots_in_round {ap : Rounds} {ops ops' : List Op} {op : Op}
    {todo : List StdString} (hp : ap.phase = .script todo) (h : ap.NoClear (ops ++ op :: ops')) :
    ¬ (ap.run ops).Snapshots op := by
  intro hs
  obtain ⟨todo', hp', -⟩ := run_script hp (noClear_append.mp h).1
  rw [Snapshots, hp'] at hs
  exact absurd hs.2 (by simp)

theorem phase_step_snapshots {ap : Rounds} {op : Op} (h : ap.Snapshots op) :
    (ap.step op).phase = .script ap.cfg.meters := by
  obtain ⟨⟨stray, rfl⟩, hp⟩ := h
  simp only [step, hp]

theorem accepted_of_snapshots {ap : Rounds} {op : Op} (h : ap.Snapshots op) :
    op.accepted = none := by
  obtain ⟨⟨stray, rfl⟩, -⟩ := h
  rfl

/-- Inside a round, its snapshot is found. The induction takes the schedule from its last
operation. -/
theorem snapshot_of_script {ops : List Op} {todo : List StdString}
    (h : (atStart.run ops).phase = .script todo) :
    ∃ before snap window, ops = before ++ snap :: window ∧
      (atStart.run before).Snapshots snap ∧
      (atStart.run (before ++ [snap])).NoClear window := by
  induction ops using List.reverseRecOn generalizing todo with
  | nil => cases h
  | append_singleton ops op ih =>
    rw [run_append] at h
    rcases script_of_step h with hs | ⟨⟨todo', hp⟩, hc⟩
    · exact ⟨ops, op, [], rfl, hs, trivial⟩
    · obtain ⟨before, snap, window, rfl, hs, hw⟩ := ih hp
      refine ⟨before, snap, window ++ [op], by simp, hs, noClear_append.mpr ⟨hw, ?_, trivial⟩⟩
      rw [← run_append]
      simpa using hc

/-- With no request accepted and no `clear()`, the object stays as it is. -/
theorem cfg_run_of_none {ap : Rounds} {ops : List Op} (h : ap.NoClear ops)
    (hnone : ops.filterMap Op.accepted = []) : (ap.run ops).cfg = ap.cfg := by
  induction ops generalizing ap with
  | nil => rfl
  | cons op ops ih =>
    obtain ⟨hop, hrest⟩ := h
    have hacc : op.accepted = none := by
      cases ha : op.accepted with
      | none => rfl
      | some req => simp [ha] at hnone
    rw [List.filterMap_cons_none hacc] at hnone
    have hcfg : (ap.step op).cfg = ap.cfg :=
      (cfg_step_none _ hacc).resolve_right fun hc => hop hc.1
    exact (ih hrest hnone).trans hcfg

end Rounds

theorem lastAccepted_append (ops ops' : List Op) :
    lastAccepted (ops ++ ops') = (lastAccepted ops').or (lastAccepted ops) := by
  unfold lastAccepted
  rw [List.filterMap_append, List.getLast?_append]

/-- The last accepted request, and the operation that brought it. -/
theorem lastAccepted_eq_some {ops : List Op} {req : Config} (h : lastAccepted ops = some req) :
    ∃ before data after, ops = before ++ .interpret data :: after ∧
      Config.construct data = .ok req ∧ after.filterMap Op.accepted = [] := by
  induction ops using List.reverseRecOn with
  | nil => cases h
  | append_singleton ops op ih =>
    rw [lastAccepted_append] at h
    cases ha : op.accepted with
    | none =>
      rw [show lastAccepted [op] = none by simp [lastAccepted, ha], Option.none_or] at h
      obtain ⟨before, data, after, rfl, hc, hnone⟩ := ih h
      exact ⟨before, data, after ++ [op], by simp, hc, by simp [hnone, ha]⟩
    | some req' =>
      rw [show lastAccepted [op] = some req' by simp [lastAccepted, ha], Option.some_or] at h
      cases h
      cases op with
      | main stray => cases ha
      | interpret data =>
        refine ⟨ops, data, [], rfl, ?_, rfl⟩
        cases hc : Config.construct data with
        | error e => simp [Op.accepted, hc, Except.toOption] at ha
        | ok other => simp [Op.accepted, hc, Except.toOption] at ha; rw [ha]

theorem lastAccepted_of_split (before : List Op) {after : List Op} {data : StdString} {req : Config}
    (hc : Config.construct data = .ok req) (hnone : after.filterMap Op.accepted = []) :
    lastAccepted (before ++ .interpret data :: after) = some req := by
  simp [lastAccepted, hnone, Op.accepted, hc, Except.toOption]

namespace Rounds

/-- The payload size is the last accepted request's, whatever was cleared meanwhile. -/
theorem payloadSize_run (ap : Rounds) (ops : List Op) :
    (ap.run ops).cfg.payloadSize =
      ((lastAccepted ops).map (·.payloadSize)).getD ap.cfg.payloadSize := by
  induction ops using List.reverseRecOn with
  | nil => rfl
  | append_singleton ops op ih =>
    rw [run_append, lastAccepted_append]
    show ((ap.run ops).step op).cfg.payloadSize = _
    cases ha : op.accepted with
    | some req =>
      rw [cfg_step_accepted ha, show lastAccepted [op] = some req by simp [lastAccepted, ha]]
      rfl
    | none =>
      rw [show lastAccepted [op] = none by simp [lastAccepted, ha], Option.none_or, ← ih]
      rcases cfg_step_none (ap.run ops) ha with h | ⟨-, h⟩
      · rw [h]
      · rw [h]; rfl

/-- What the list holds, when it holds anything, came with the last accepted request. -/
theorem meters_run (ops : List Op) :
    (atStart.run ops).cfg.meters = [] ∨
      ∃ req, lastAccepted ops = some req ∧ (atStart.run ops).cfg.meters = req.meters := by
  induction ops using List.reverseRecOn with
  | nil => exact .inl rfl
  | append_singleton ops op ih =>
    rw [run_append, lastAccepted_append]
    show ((atStart.run ops).step op).cfg.meters = [] ∨ ∃ req, _ ∧
      ((atStart.run ops).step op).cfg.meters = _
    cases ha : op.accepted with
    | some req =>
      rw [cfg_step_accepted ha, show lastAccepted [op] = some req by simp [lastAccepted, ha]]
      exact .inr ⟨req, rfl, rfl⟩
    | none =>
      rw [show lastAccepted [op] = none by simp [lastAccepted, ha], Option.none_or]
      rcases cfg_step_none (atStart.run ops) ha with h | ⟨-, h⟩
      · rw [h]; exact ih
      · exact .inl (by rw [h]; rfl)

/-! ## No accepted request is lost -/

/-- A snapshot of the schedule returned exactly these meters. -/
def Taken (ap : Rounds) (meters : List StdString) (ops : List Op) : Prop :=
  ∃ before op after, ops = before ++ op :: after ∧ (ap.run before).Snapshots op ∧
    (ap.run before).cfg.meters = meters

/-- The schedule accepts another request. -/
def Replaced (ops : List Op) : Prop :=
  ops.filterMap Op.accepted ≠ []

/-- Every accepted request that names a meter is returned by a snapshot or replaced by a
later accepted request before the first `clear()` after it. -/
def NoRequestLost (ops : List Op) : Prop :=
  ∀ before data between op after req,
    ops = before ++ .interpret data :: (between ++ op :: after) →
    Config.construct data = .ok req → req.meters ≠ [] →
    (atStart.run (before ++ [.interpret data])).NoClear between →
    (atStart.run (before ++ .interpret data :: between)).Clears op →
    (atStart.run (before ++ [.interpret data])).Taken req.meters between ∨ Replaced between

/-- In every round, the last request accepted between the snapshot and the `clear()`, if
there is one, names no meter. -/
def NoLateRequest (ops : List Op) : Prop :=
  ∀ before snap window op after,
    ops = before ++ snap :: (window ++ op :: after) →
    (atStart.run before).Snapshots snap →
    (atStart.run (before ++ [snap])).NoClear window →
    (atStart.run (before ++ snap :: window)).Clears op →
    ∀ req, lastAccepted window = some req → req.meters = []

theorem run_snoc (ap : Rounds) (ops : List Op) (op : Op) :
    ap.run (ops ++ [op]) = (ap.run ops).step op := by
  rw [run_append]
  rfl

theorem run_cons_append (ap : Rounds) (ops ops' : List Op) (op : Op) :
    ap.run (ops ++ op :: ops') = (ap.run (ops ++ [op])).run ops' := by
  rw [← run_append, List.append_assoc]
  rfl

/-- **When no request is lost**: in exactly the schedules in which no round's last late request
names a meter. A schedule is any interleaving of the two threads' critical sections, from the start.
A request is not lost if a snapshot returns it or a later one replaces it before the round's
`clear()`; the last one accepted between snapshot and `clear()` has neither. That a snapshot is
taken at all is not said. -/
theorem no_request_lost_iff (ops : List Op) : NoRequestLost ops ↔ NoLateRequest ops := by
  constructor
  · intro h before snap window op after hops hsnap hclear hop req hlast
    by_contra hne
    obtain ⟨w₁, data, w₂, rfl, hc, hnone⟩ := lastAccepted_eq_some hlast
    have hphase : (atStart.run (before ++ [snap])).phase =
        .script (atStart.run before).cfg.meters := by
      rw [run_snoc]
      exact phase_step_snapshots hsnap
    have hrun : atStart.run (before ++ snap :: w₁ ++ [.interpret data]) =
        (atStart.run (before ++ [snap])).run (w₁ ++ [.interpret data]) := by
      rw [← run_append]
      simp
    have hw₂ : (atStart.run (before ++ snap :: w₁ ++ [.interpret data])).NoClear w₂ := by
      rw [hrun]
      refine (noClear_append.mp ?_).2
      simpa using hclear
    have hlost := h (before ++ snap :: w₁) data w₂ op after req (by simpa using hops) hc hne hw₂
      (by simpa using hop)
    rcases hlost with ⟨b, o, a, rfl, htaken, -⟩ | hreplaced
    · have hround : (atStart.run (before ++ [snap])).NoClear
          ((w₁ ++ .interpret data :: b) ++ o :: a) := by simpa using hclear
      refine not_snapshots_in_round hphase hround ?_
      rw [← run_append]
      rw [hrun, ← run_append, ← run_append] at htaken
      simpa using htaken
    · exact hreplaced hnone
  · intro h before data between op after req hops hc hne hclear hop
    by_contra hno
    obtain ⟨hnotTaken, hnotReplaced⟩ := not_or.mp hno
    have hnone : between.filterMap Op.accepted = [] := not_not.mp hnotReplaced
    obtain ⟨b, snap, window, hsplit, hsnap, hw⟩ := snapshot_of_script hop.2
    -- the snapshot of the round that clears the request stands before the request or after it
    rcases Run.split_cases hsplit with ⟨ws, rfl, hbetween⟩ | ⟨rfl, rfl, rfl⟩ | ⟨ws, rfl, rfl⟩
    · -- after it: nothing changed the object in between, so the snapshot returned the request
      rw [hbetween] at hclear hnone
      rw [List.filterMap_append] at hnone
      have hkept := cfg_run_of_none (noClear_append.mp hclear).1
        (List.append_eq_nil_iff.mp hnone).1
      have hreq : (atStart.run (before ++ [.interpret data])).cfg = req := by
        rw [run_snoc]
        exact cfg_step_accepted (by simp [Op.accepted, hc, Except.toOption])
      rw [run_cons_append] at hsnap
      exact hnotTaken ⟨ws, snap, window, hbetween, hsnap, by rw [hkept, hreq]⟩
    · obtain ⟨⟨_, he⟩, -⟩ := hsnap
      cases he
    · -- before it: the request is the last one the round accepts after its snapshot
      have hlast := lastAccepted_of_split ws hc hnone
      exact hne (h b snap (ws ++ .interpret data :: between) op after (by simpa using hops) hsnap
        hw (by simpa using hop) req hlast)

/-- A request for the meter `a` that arrives between the first snapshot and its `clear()` is
lost. -/
theorem late_request_lost :
    ¬ NoRequestLost [.main .small, .main .small, .interpret "small,a".toList, .main .small] := by
  intro h
  have hlost := h [.main .small, .main .small] "small,a".toList [] (.main .small) []
    ⟨["a".toList], some .small⟩ rfl (by decide) (by decide) trivial ⟨⟨_, rfl⟩, by decide⟩
  rcases hlost with ⟨_, _, _, hsplit, -, -⟩ | hreplaced
  · simp at hsplit
  · exact hreplaced rfl

/-! ## One request a round -/

theorem objectFor_injective {size size' : Config.Payload} (h : objectFor size = objectFor size') :
    size = size' := by
  revert h
  cases size <;> cases size' <;> decide

/-- Every meter of a snapshot is read with the object of the payload size that the request
which supplied the snapshot carries. -/
def OneRequestARound (ops : List Op) : Prop :=
  ∀ before snap window stray after meter todo,
    ops = before ++ snap :: (window ++ .main stray :: after) →
    (atStart.run before).Snapshots snap →
    (atStart.run (before ++ [snap])).NoClear window →
    (atStart.run (before ++ snap :: window)).phase = .script (meter :: todo) →
    ∃ req size, lastAccepted before = some req ∧ (atStart.run before).cfg.meters = req.meters ∧
      req.payloadSize = some size ∧
      (atStart.run (before ++ snap :: window)).objectRead stray = objectFor size

/-- Before every read of a round, the last request accepted since the snapshot, if there is
one, carries the payload size of the last request accepted before it. -/
def SamePayloadSize (ops : List Op) : Prop :=
  ∀ before snap window stray after meter todo,
    ops = before ++ snap :: (window ++ .main stray :: after) →
    (atStart.run before).Snapshots snap →
    (atStart.run (before ++ [snap])).NoClear window →
    (atStart.run (before ++ snap :: window)).phase = .script (meter :: todo) →
    ∀ late req, lastAccepted window = some late → lastAccepted before = some req →
      req.payloadSize = some (late.payloadSize.getD stray)

/-- A snapshot that holds a meter came with the last accepted request, which carries a
payload size. -/
theorem supplier_of_read {before window : List Op} {snap : Op} {meter : StdString}
    {todo : List StdString} (hsnap : (atStart.run before).Snapshots snap)
    (hclear : (atStart.run (before ++ [snap])).NoClear window)
    (hphase : (atStart.run (before ++ snap :: window)).phase = .script (meter :: todo)) :
    ∃ req size, lastAccepted before = some req ∧ (atStart.run before).cfg.meters = req.meters ∧
      req.payloadSize = some size := by
  have hscript : (atStart.run (before ++ [snap])).phase =
      .script (atStart.run before).cfg.meters := by
    rw [run_snoc]
    exact phase_step_snapshots hsnap
  obtain ⟨todo', hphase', hsuffix⟩ := run_script hscript hclear
  rw [← run_cons_append, hphase] at hphase'
  cases hphase'
  rcases meters_run before with hnil | ⟨req, hlast, hmeters⟩
  · rw [hnil, List.suffix_nil] at hsuffix
    cases hsuffix
  · obtain ⟨_, data, _, -, hc, -⟩ := lastAccepted_eq_some hlast
    rw [hmeters] at hsuffix
    rcases Config.construct_ok_cases hc with ⟨-, rfl⟩ | ⟨size, hsize, -⟩
    · rw [List.suffix_nil] at hsuffix
      cases hsuffix
    · exact ⟨req, size, hlast, hmeters, hsize⟩

/-- The object a read of the round selects: the payload size is the last one accepted since
the snapshot, or else the snapshot's own. -/
theorem objectRead_eq {before window : List Op} {snap : Op} (stray : Config.Payload)
    {req : Config} {size : Config.Payload} (hsnap : (atStart.run before).Snapshots snap)
    (hlast : lastAccepted before = some req) (hsize : req.payloadSize = some size) :
    (atStart.run (before ++ snap :: window)).objectRead stray =
      match lastAccepted window with
      | some late => objectFor (late.payloadSize.getD stray)
      | none => objectFor size := by
  have hsnap' : lastAccepted [snap] = none := by
    simp [lastAccepted, accepted_of_snapshots hsnap]
  have hsplit : lastAccepted (before ++ snap :: window) =
      (lastAccepted window).or (some req) := by
    rw [List.append_cons, lastAccepted_append, lastAccepted_append, hsnap', hlast, Option.none_or]
  unfold objectRead
  rw [payloadSize_run, hsplit]
  cases lastAccepted window with
  | some late => rfl
  | none => simp [hsize]

/-- **When a round is served under one request**: in exactly the schedules in which every request
accepted in the round before a read carries the snapshot's own payload size. The payload size is
read again for every meter, so a request that comes in between is served with the meters of another.
The equivalence is over whole schedules; rounds without meters, and requests with the same size, are
sound and counted as such. -/
theorem one_request_a_round_iff (ops : List Op) : OneRequestARound ops ↔ SamePayloadSize ops := by
  constructor
  · intro h before snap window stray after meter todo hops hsnap hclear hphase late req' hlate hreq'
    obtain ⟨req, size, hlast, -, hsize, hobject⟩ :=
      h before snap window stray after meter todo hops hsnap hclear hphase
    rw [objectRead_eq stray hsnap hlast hsize, hlate] at hobject
    rw [hlast] at hreq'
    cases hreq'
    rw [hsize, objectFor_injective hobject]
  · intro h before snap window stray after meter todo hops hsnap hclear hphase
    obtain ⟨req, size, hlast, hmeters, hsize⟩ := supplier_of_read hsnap hclear hphase
    refine ⟨req, size, hlast, hmeters, hsize, ?_⟩
    rw [objectRead_eq stray hsnap hlast hsize]
    cases hlate : lastAccepted window with
    | none => rfl
    | some late =>
      have hsame := h before snap window stray after meter todo hops hsnap hclear hphase late req
        hlate hlast
      rw [hsize] at hsame
      exact congrArg objectFor (Option.some.inj hsame).symm

/-- A `large` request that arrives between the two reads of a `small` one: the second meter
is read with the large object. -/
theorem round_mixes_requests :
    ¬ OneRequestARound [.main .small, .interpret "small,a,b".toList, .main .small, .main .small,
      .interpret "large,c".toList, .main .small] := by
  intro h
  obtain ⟨req, size, hlast, -, hsize, hobject⟩ :=
    h [.main .small, .interpret "small,a,b".toList] (.main .small)
      [.main .small, .interpret "large,c".toList] .small [] "b".toList [] rfl
      ⟨⟨_, rfl⟩, by decide⟩
      ⟨fun hc => absurd hc.2 (by decide), fun hc => absurd hc.2 (by decide), trivial⟩ (by decide)
  have hreq : req = ⟨["a".toList, "b".toList], some .small⟩ :=
    Option.some.inj (hlast.symm.trans (by decide))
  rw [hreq] at hsize
  cases hsize
  revert hobject
  decide

end Rounds

end AccessPoint
