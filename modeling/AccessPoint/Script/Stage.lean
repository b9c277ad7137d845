import Mathlib.Logic.Function.Iterate
import AccessPoint.Script.RunScript

/-!
# What a meter does, in its own time

A meter's own operations are outstanding one at a time. A `Stage` says which one it is and
what the `APsim` knows; `Stage.poll` is one poll of it, and `Stage.tryOpen`, `Stage.get` and
`Stage.session` follow the client. There is no other meter here and no event loop to stop.

`session_recent` is what the meter is recorded with: its answer, if it is connected within
`max_tries` polls, associates within one and answers within one; nothing otherwise.
`session_poll_spec` says when nothing of it is left outstanding at the end, and
`openPolls_eq` how many polls `open` takes.
-/

namespace AccessPoint.Script

/-- What a meter's socket waits for. `due` is what the outstanding read is going to find. -/
inductive Stage where
  | resolving (wait : Nat) (it : List Endpoint)
  | connecting (wait : Nat) (accepted : Bool) (it : List Endpoint)
  | connected (due : Option (Nat × Apdu)) (engineOpen : Bool) (recent : StdString)
  | failed
  deriving DecidableEq, Repr

namespace Stage

def isOpen : Stage → Bool
  | connecting _ _ _ => true
  | connected _ _ _ => true
  | _ => false

def transportConnected : Stage → Bool
  | connected _ _ _ => true
  | _ => false

def engineOpen : Stage → Bool
  | connected _ engineOpen _ => engineOpen
  | _ => false

def recent : Stage → StdString
  | connected _ _ recent => recent
  | _ => []

/-- The next endpoint of the list, if there is one. -/
def next : List Endpoint → Stage
  | [] => failed
  | endpoint :: it => connecting endpoint.wait endpoint.accepts it

/-- One poll. -/
def poll : Stage → Stage
  | resolving (wait + 1) it => resolving wait it
  | resolving 0 it => next it
  | connecting (wait + 1) accepted it => connecting wait accepted it
  | connecting 0 true _ => connected none false []
  | connecting 0 false it => next it
  | connected (some (wait + 1, apdu)) engineOpen recent =>
    connected (some (wait, apdu)) engineOpen recent
  | connected (some (0, .associated)) _ recent => connected none true recent
  | connected (some (0, .value text)) engineOpen _ => connected none engineOpen text
  | connected none engineOpen recent => connected none engineOpen recent
  | failed => failed

/-- The meter reacts to a request. -/
def respond (reaction : Option (Nat × Apdu)) : Stage → Stage
  | connected none engineOpen recent => connected reaction engineOpen recent
  | stage => stage

/-- `APsim::open`. -/
def tryOpen (meter : Meter) : Nat → Stage → Stage
  | 0, stage => stage
  | tries + 1, stage =>
    if stage.poll.transportConnected then stage.poll.respond meter.onOpen
    else tryOpen meter tries stage.poll

/-- `APsim::Get`. -/
def get (meter : Meter) (obis : StdString) (stage : Stage) : Stage :=
  if stage.poll.engineOpen then stage.poll.respond (meter.onGet obis) else stage.poll

/-- The polls `open` takes. -/
def openPolls : Nat → Stage → Nat
  | 0, _ => 0
  | tries + 1, stage =>
    if stage.poll.transportConnected then 1 else openPolls tries stage.poll + 1

/-- What a new `APsim` waits for. -/
def start (meter : Meter) : Stage :=
  resolving meter.resolution meter.endpoints

/-- A meter at the moment `runScript` saves its reading. -/
def session (meter : Meter) (obis : StdString) : Stage :=
  (((start meter).tryOpen meter maxTries).get meter obis).poll

end Stage

/-! ## What is read off a meter -/

/-- The polls until one of the endpoints has accepted or all have refused. -/
def attempts : List Endpoint → Nat
  | [] => 0
  | endpoint :: it => endpoint.wait + 1 + if endpoint.accepts then 0 else attempts it

/-- One of the endpoints accepts. -/
def Meter.reachable (meter : Meter) : Bool :=
  meter.endpoints.any (·.accepts)

/-- The poll after which the meter is connected, or has failed. -/
def Meter.settles (meter : Meter) : Nat :=
  meter.resolution + 1 + attempts meter.endpoints

/-- The meter is connected while `open` tries. -/
def Meter.connects (meter : Meter) : Bool :=
  meter.reachable && decide (meter.settles ≤ maxTries)

/-- The polls between the making of an `APsim` and the release of its socket: those of `open`,
and one each of `Get`, `close` and the destructor. -/
def Meter.polls (meter : Meter) : Nat :=
  (if meter.connects then meter.settles else maxTries) + 3

/-- The resolution, or every connect, fails before the socket is released. -/
def Meter.fails (meter : Meter) : Bool :=
  !meter.reachable && decide (meter.settles ≤ meter.polls)

/-- The text the meter has sent in time. -/
def Meter.reading (meter : Meter) (obis : StdString) : StdString :=
  if meter.connects then
    match meter.association, meter.answer obis with
    | some 0, some (0, text) => text
    | _, _ => []
  else []

namespace Stage

/-- The polls until the stage is connected or has failed. -/
def settles : Stage → Nat
  | resolving wait it => wait + 1 + attempts it
  | connecting wait accepted it => wait + 1 + if accepted then 0 else attempts it
  | _ => 0

/-- It is going to be connected. -/
def reachable : Stage → Bool
  | resolving _ it => it.any (·.accepts)
  | connecting _ accepted it => accepted || it.any (·.accepts)
  | connected _ _ _ => true
  | failed => false

/-- The polls until the resolution is over. -/
def resolution : Stage → Nat
  | resolving wait _ => wait + 1
  | _ => 0

theorem next_spec (it : List Endpoint) :
    (next it).settles = attempts it ∧ (next it).reachable = it.any (·.accepts) ∧
      (next it).resolution = 0 := by
  cases it with
  | nil => exact ⟨rfl, rfl, rfl⟩
  | cons endpoint it => exact ⟨rfl, rfl, rfl⟩

/-- **One poll brings a stage one poll closer, to the same end.** -/
theorem poll_spec (stage : Stage) :
    stage.poll.settles = stage.settles - 1 ∧ stage.poll.reachable = stage.reachable ∧
      stage.poll.resolution = stage.resolution - 1 := by
  cases stage with
  | resolving wait it =>
    cases wait with
    | zero =>
      obtain ⟨hsettles, hreachable, hresolution⟩ := next_spec it
      refine ⟨hsettles.trans ?_, hreachable, hresolution⟩
      rw [settles]
      omega
    | succ wait =>
      refine ⟨?_, rfl, rfl⟩
      simp only [poll, settles]
      omega
  | connecting wait accepted it =>
    cases wait with
    | zero =>
      cases accepted with
      | true => exact ⟨rfl, rfl, rfl⟩
      | false =>
        obtain ⟨hsettles, hreachable, hresolution⟩ := next_spec it
        refine ⟨hsettles.trans ?_, hreachable, hresolution⟩
        simp only [settles, Bool.false_eq_true, if_false]
        omega
    | succ wait =>
      refine ⟨?_, rfl, rfl⟩
      simp only [poll, settles]
      omega
  | connected due engineOpen recent =>
    rcases due with _ | ⟨_ | wait, _ | text⟩ <;> exact ⟨rfl, rfl, rfl⟩
  | failed => exact ⟨rfl, rfl, rfl⟩

theorem iterate_spec (stage : Stage) (n : Nat) :
    (poll^[n] stage).settles = stage.settles - n ∧ (poll^[n] stage).reachable = stage.reachable ∧
      (poll^[n] stage).resolution = stage.resolution - n := by
  induction n generalizing stage with
  | zero => exact ⟨rfl, rfl, rfl⟩
  | succ n ih =>
    obtain ⟨hsettles, hreachable, hresolution⟩ := ih stage.poll
    obtain ⟨hsettles', hreachable', hresolution'⟩ := stage.poll_spec
    rw [Function.iterate_succ_apply, hsettles, hreachable, hresolution, hsettles', hreachable',
      hresolution']
    exact ⟨by omega, rfl, by omega⟩

/-- A stage is connected when it has settled and was going to be. -/
theorem transportConnected_iff (stage : Stage) :
    stage.transportConnected = true ↔ stage.reachable = true ∧ stage.settles = 0 := by
  cases stage <;> simp [transportConnected, reachable, settles]

theorem eq_failed_iff (stage : Stage) :
    stage = failed ↔ stage.reachable = false ∧ stage.settles = 0 := by
  cases stage <;> simp [reachable, settles]

/-! ## The client -/

/-- Nothing has been asked of the meter. -/
def Unasked (stage : Stage) : Prop :=
  stage.transportConnected = true → stage = connected none false []

theorem Unasked.poll {stage : Stage} (h : stage.Unasked) : stage.poll.Unasked := by
  intro hconnected
  cases stage with
  | resolving wait it =>
    cases wait with
    | zero => cases it <;> cases hconnected
    | succ wait => cases hconnected
  | connecting wait accepted it =>
    cases wait with
    | zero =>
      cases accepted with
      | true => rfl
      | false => cases it <;> cases hconnected
    | succ wait => cases hconnected
  | connected due engineOpen recent =>
    rw [h rfl]
    rfl
  | failed => cases hconnected

theorem Unasked.iterate {stage : Stage} (h : stage.Unasked) (n : Nat) :
    (Stage.poll^[n] stage).Unasked := by
  induction n generalizing stage with
  | zero => exact h
  | succ n ih => exact ih h.poll

theorem Unasked.nothing {stage : Stage} (h : stage.Unasked) :
    stage.engineOpen = false ∧ stage.recent = [] := by
  cases stage with
  | connected due engineOpen recent =>
    have hsame := h rfl
    injection hsame with _ hopen hrecent
    exact ⟨hopen, hrecent⟩
  | _ => exact ⟨rfl, rfl⟩

theorem Unasked.start (meter : Meter) : (start meter).Unasked := by
  intro h
  cases h

/-- **What `open` comes to.** -/
theorem tryOpen_eq (meter : Meter) {tries : Nat} {stage : Stage} (h : stage.Unasked)
    (hnot : stage.transportConnected = false) :
    stage.tryOpen meter tries =
      if stage.reachable = true ∧ stage.settles ≤ tries then connected meter.onOpen false []
      else poll^[tries] stage := by
  induction tries generalizing stage with
  | zero =>
    have hcond : ¬ (stage.reachable = true ∧ stage.settles ≤ 0) := by
      rw [Nat.le_zero, ← transportConnected_iff, hnot]
      exact Bool.false_ne_true
    rw [if_neg hcond]
    rfl
  | succ tries ih =>
    obtain ⟨hsettles, hreachable, -⟩ := stage.poll_spec
    simp only [tryOpen]
    cases hconnected : stage.poll.transportConnected with
    | true =>
      obtain ⟨hreach, hzero⟩ := (transportConnected_iff _).mp hconnected
      rw [if_pos rfl, h.poll hconnected, if_pos ⟨by rw [← hreachable, hreach], by omega⟩]
      rfl
    | false =>
      have hcond : (stage.reachable = true ∧ stage.settles ≤ tries + 1) ↔
          (stage.poll.reachable = true ∧ stage.poll.settles ≤ tries) := by
        rw [hreachable, hsettles, Nat.sub_le_iff_le_add]
      rw [if_neg Bool.false_ne_true, ih h.poll hconnected, Function.iterate_succ_apply]
      simp only [hcond]

theorem openPolls_eq {tries : Nat} {stage : Stage} (hnot : stage.transportConnected = false) :
    stage.openPolls tries =
      if stage.reachable = true ∧ stage.settles ≤ tries then stage.settles else tries := by
  induction tries generalizing stage with
  | zero =>
    simp only [openPolls, Nat.le_zero]
    split
    next h => exact h.2.symm
    next => rfl
  | succ tries ih =>
    obtain ⟨hsettles, hreachable, -⟩ := stage.poll_spec
    have hpositive : stage.reachable = true → stage.settles ≠ 0 := by
      intro hreach hzero
      rw [(transportConnected_iff stage).mpr ⟨hreach, hzero⟩] at hnot
      cases hnot
    simp only [openPolls]
    cases hconnected : stage.poll.transportConnected with
    | true =>
      obtain ⟨hreach, hzero⟩ := (transportConnected_iff _).mp hconnected
      rw [hreachable] at hreach
      have := hpositive hreach
      rw [if_pos rfl, if_pos ⟨hreach, by omega⟩]
      omega
    | false =>
      rw [if_neg Bool.false_ne_true, ih hconnected, hreachable, hsettles]
      split
      next h =>
        have := hpositive h.1
        rw [if_pos ⟨h.1, by omega⟩]
        omega
      next h => rw [if_neg fun hle => h ⟨hle.1, by omega⟩]

theorem connected_poll {stage : Stage} (h : stage.transportConnected = true) :
    stage.poll.transportConnected = true := by
  obtain ⟨hreach, hzero⟩ := (transportConnected_iff _).mp h
  obtain ⟨hsettles, hreachable, -⟩ := stage.poll_spec
  exact (transportConnected_iff _).mpr ⟨hreachable.trans hreach, by omega⟩

theorem connected_get {stage : Stage} (h : stage.transportConnected = true) (meter : Meter)
    (obis : StdString) : (stage.get meter obis).transportConnected = true := by
  have hpoll := connected_poll h
  unfold get
  split
  next =>
    cases hstage : stage.poll with
    | connected due engineOpen recent => cases due <;> rfl
    | _ => simp [hstage, transportConnected] at hpoll
  next => exact hpoll

/-! ## The session -/

/-- A meter that is not connected within `max_tries` is polled, and nothing else. -/
theorem session_of_not_connects {meter : Meter} (obis : StdString) (h : meter.connects = false) :
    session meter obis = poll^[maxTries + 2] (start meter) := by
  have hcond : ¬ ((start meter).reachable = true ∧ (start meter).settles ≤ maxTries) := by
    rintro ⟨hreach, hle⟩
    exact Bool.false_ne_true (h.symm.trans (Bool.and_eq_true_iff.mpr ⟨hreach, decide_eq_true hle⟩))
  have hunasked := (Unasked.start meter).iterate (maxTries + 1)
  rw [session, tryOpen_eq meter (Unasked.start meter) rfl, if_neg hcond, get,
    ← Function.iterate_succ_apply' poll, hunasked.nothing.1, if_neg Bool.false_ne_true,
    ← Function.iterate_succ_apply' poll]

theorem session_of_connects {meter : Meter} (obis : StdString) (h : meter.connects = true) :
    session meter obis = ((connected meter.onOpen false []).get meter obis).poll := by
  have hcond : (start meter).reachable = true ∧ (start meter).settles ≤ maxTries := by
    obtain ⟨hreach, hle⟩ := Bool.and_eq_true_iff.mp h
    exact ⟨hreach, of_decide_eq_true hle⟩
  rw [session, tryOpen_eq meter (Unasked.start meter) rfl, if_pos hcond]

/-- **What a meter is recorded with.** -/
theorem session_recent (meter : Meter) (obis : StdString) :
    (session meter obis).recent = meter.reading obis := by
  cases hconnects : meter.connects with
  | false =>
    rw [session_of_not_connects obis hconnects,
      ((Unasked.start meter).iterate (maxTries + 2)).nothing.2, Meter.reading, hconnects]
    rfl
  | true =>
    rw [session_of_connects obis hconnects, Meter.reading, hconnects, if_pos rfl]
    rcases hassociation : meter.association with _ | _ | wait
    · simp [Meter.onOpen, hassociation, get, poll, engineOpen, recent]
    · rcases hanswer : meter.answer obis with _ | ⟨_ | wait, text⟩ <;>
        simp [Meter.onOpen, Meter.onGet, hassociation, hanswer, get, poll, engineOpen, respond,
          recent]
    · cases wait <;>
        simp [Meter.onOpen, hassociation, get, poll, engineOpen, recent]

/-- **What a meter leaves behind** when its socket is released: nothing if it has failed, and
what is left of its resolution. -/
theorem session_poll_spec (meter : Meter) (obis : StdString) :
    ((session meter obis).poll = failed ↔ meter.fails = true) ∧
      (session meter obis).poll.resolution = meter.resolution + 1 - meter.polls := by
  cases hconnects : meter.connects with
  | false =>
    obtain ⟨hsettles, hreachable, hresolution⟩ := (start meter).iterate_spec (maxTries + 3)
    rw [session_of_not_connects obis hconnects, ← Function.iterate_succ_apply' poll, eq_failed_iff,
      hsettles, hreachable, hresolution, Nat.sub_eq_zero_iff_le]
    simp [Meter.fails, Meter.polls, hconnects, start, reachable, settles, resolution,
      Meter.reachable, Meter.settles]
  | true =>
    have hcond : meter.reachable = true ∧ meter.settles ≤ maxTries := by
      simpa [Meter.connects] using hconnects
    have hconnected : (session meter obis).poll.transportConnected = true := by
      rw [session_of_connects obis hconnects]
      exact connected_poll (connected_poll (connected_get rfl meter obis))
    cases hstage : (session meter obis).poll with
    | connected due engineOpen recent =>
      refine ⟨by simp [Meter.fails, hcond.1], ?_⟩
      simp only [resolution, Meter.polls, hconnects, if_true, Meter.settles]
      omega
    | _ => simp [hstage, transportConnected] at hconnected

end Stage

end AccessPoint.Script
