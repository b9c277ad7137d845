import AccessPoint.Script.Stage

/-!
# One meter on the shared event loop

What a meter's own operations go through does not depend on what else is outstanding: no
handler of another socket touches them, or what its `APsim` knows. So the shared loop shows
a `Stage` of the meter at work.

`Tracks.poll` is the simulation: a poll of the shared loop, going or stopped, is a poll of
the stage. A stopped loop has nothing outstanding, so the stage it shows has failed, which a
poll does not change. `Tracks.tryOpen` and `Tracks.get` carry it through the client.
-/

namespace AccessPoint.Script

open IoService

namespace Stage

/-- The operation that is outstanding. -/
def ops (c : Nat) : Stage → List (Operation Handler)
  | resolving wait it => [{ wait := some wait, handler := .resolver c it }]
  | connecting wait accepted it => [{ wait := some wait, handler := .connect c accepted it }]
  | connected none _ _ => [awaiting c]
  | connected (some (wait, apdu)) _ _ => [{ wait := some wait, handler := .read c (some apdu) }]
  | failed => []

theorem ops_eq_nil {c : Nat} {stage : Stage} : stage.ops c = [] ↔ stage = failed := by
  cases stage with
  | connected due engineOpen recent => rcases due with _ | ⟨wait, apdu⟩ <;> simp [ops]
  | _ => simp [ops]

end Stage

/-! ## Handlers of other sockets -/

/-- Bound to a socket. -/
def own (c : Nat) (handler : Handler) : Bool :=
  handler.socket == c

def Handler.isResolver : Handler → Bool
  | .resolver _ _ => true
  | _ => false

def Handler.isRemoval : Handler → Bool
  | .removeSocket _ => true
  | _ => false

/-- A connect or a read. -/
def Handler.isTransfer (handler : Handler) : Bool :=
  !handler.isResolver && !handler.isRemoval

/-- **What closing a socket does to an operation**: its connect or read is ready, still as
one of its operations, and anything else is left alone. -/
theorem abort_cases (socket : Nat) (op : Operation Handler) :
    (abort socket op = op ∧ (op.handler.socket = socket → op.handler.isTransfer = false)) ∨
      (op.handler.socket = socket ∧ op.handler.isTransfer = true ∧ (abort socket op).wait = some 0 ∧
        (abort socket op).handler.socket = socket ∧
        (abort socket op).handler.isTransfer = true) := by
  obtain ⟨wait, handler⟩ := op
  cases handler with
  | connect s accepted it =>
    by_cases hs : s = socket
    · have haborted : abort socket { wait, handler := .connect s accepted it } =
          { wait := some 0, handler := .connect s false it } := if_pos hs
      rw [haborted]
      exact .inr ⟨hs, rfl, rfl, hs, rfl⟩
    · exact .inl ⟨if_neg hs, fun h => absurd h hs⟩
  | read s arrived =>
    by_cases hs : s = socket
    · have haborted : abort socket { wait, handler := .read s arrived } =
          { wait := some 0, handler := .read s none } := if_pos hs
      rw [haborted]
      exact .inr ⟨hs, rfl, rfl, hs, rfl⟩
    · exact .inl ⟨if_neg hs, fun h => absurd h hs⟩
  | resolver s it => exact .inl ⟨rfl, fun _ => rfl⟩
  | removeSocket s => exact .inl ⟨rfl, fun _ => rfl⟩

@[simp] theorem abort_socket (socket : Nat) (op : Operation Handler) :
    (abort socket op).handler.socket = op.handler.socket := by
  rcases abort_cases socket op with ⟨hsame, -⟩ | ⟨hsocket, -, -, hsocket', -⟩
  · rw [hsame]
  · rw [hsocket', hsocket]

theorem abort_of_ne {socket : Nat} {op : Operation Handler} (h : op.handler.socket ≠ socket) :
    abort socket op = op := by
  rcases abort_cases socket op with ⟨hsame, -⟩ | ⟨hsocket, -⟩
  · exact hsame
  · exact absurd hsocket h

theorem part_own_abort {c socket : Nat} (h : socket ≠ c) (ops : List (Operation Handler)) :
    part (own c) (ops.map (abort socket)) = part (own c) ops := by
  refine part_map_same ops (fun op => by simp [own, abort_socket]) fun op hop => abort_of_ne ?_
  rw [eq_of_beq hop]
  exact h.symm

theorem arrive_socket (socket wait : Nat) (apdu : Apdu) (op : Operation Handler) :
    (arrive socket wait apdu op).handler.socket = op.handler.socket := by
  unfold arrive
  split
  next h =>
    rw [h]
    rfl
  next => rfl

/-- A service in which the `APsim` at work is at a stage, with these operations of its own
outstanding. -/
structure Shows (c : Nat) (stage : Stage) (ops : List (Operation Handler)) (s : Service) :
    Prop where
  current : s.1.apsim.socket = c
  alive : c ∈ s.1.sockets
  numbered : c < s.1.nextSocket
  outstanding : part (own c) s.2 = ops
  isOpen : stage.isOpen = true → s.1.apsim.isOpen = true
  transportConnected : s.1.apsim.transportConnected = stage.transportConnected
  engineOpen : s.1.apsim.engineOpen = stage.engineOpen
  recent : s.1.apsim.recent = stage.recent

theorem Library.setOpen_of_ne {lib : Library} {socket : Nat} (isOpen : Bool)
    (h : lib.apsim.socket ≠ socket) : lib.setOpen socket isOpen = lib :=
  if_neg h

theorem Library.setOpen_self {lib : Library} {socket : Nat} (isOpen : Bool)
    (h : lib.apsim.socket = socket) :
    lib.setOpen socket isOpen = { lib with apsim := { lib.apsim with isOpen } } :=
  if_pos h

theorem Shows.closeSocket {c socket : Nat} {stage : Stage} {ops : List (Operation Handler)}
    {s : Service} (h : Shows c stage ops s) (hne : socket ≠ c) :
    Shows c stage ops (closeSocket socket s) := by
  have hlib : s.1.setOpen socket false = s.1 :=
    Library.setOpen_of_ne false (by rw [h.current]; exact hne.symm)
  unfold Script.closeSocket
  rw [hlib]
  exact { h with outstanding := (part_own_abort hne s.2).trans h.outstanding }

theorem Shows.asyncConnect {c socket : Nat} {stage : Stage} {ops : List (Operation Handler)}
    {s : Service} (h : Shows c stage ops s) (hne : socket ≠ c) (endpoint : Endpoint)
    (it : List Endpoint) :
    Shows c stage ops (asyncConnect socket endpoint it s) := by
  have hlib : s.1.setOpen socket true = s.1 :=
    Library.setOpen_of_ne true (by rw [h.current]; exact hne.symm)
  unfold Script.asyncConnect
  rw [hlib]
  refine { h with outstanding := ?_ }
  rw [part_append, h.outstanding, part_cons, own, Handler.socket, beq_false_of_ne hne]
  exact List.append_nil ops

/-- **A handler of another socket does not show.** -/
theorem Shows.foreign {c : Nat} {stage : Stage} {ops : List (Operation Handler)} {s : Service}
    (h : Shows c stage ops s) {handler : Handler} (hown : own c handler = false) :
    Shows c stage ops (run handler s) := by
  have hne : handler.socket ≠ c := by simpa [own] using hown
  have hapsim : handler.socket ≠ s.1.apsim.socket := by
    rw [h.current]
    exact hne
  unfold run
  split
  next =>
    cases handler with
    | resolver socket it =>
      cases it with
      | nil => exact h
      | cons endpoint it => exact h.asyncConnect hne endpoint it
    | connect socket accepted it =>
      cases accepted with
      | true =>
        simp only [connectHandler, if_true]
        rw [if_neg (show ¬ socket = s.1.apsim.socket from hapsim)]
        exact h
      | false =>
        cases it with
        | nil => exact h
        | cons endpoint it => exact (h.closeSocket hne).asyncConnect hne endpoint it
    | read socket arrived =>
      cases arrived with
      | none => exact h
      | some apdu =>
        simp only [readHandler]
        rw [if_neg (show ¬ socket = s.1.apsim.socket from hapsim)]
        exact h
    | removeSocket socket =>
      refine { h with alive := ?_, outstanding := (part_own_abort hne s.2).trans h.outstanding }
      exact List.mem_filter.mpr ⟨h.alive, decide_eq_true hne.symm⟩
  next => exact h

/-! ## The handlers of a meter's own socket -/

/-- A meter that is not connected has nothing to show. -/
theorem Shows.idle {c : Nat} {stage : Stage} {ops : List (Operation Handler)} {s : Service}
    (h : Shows c stage ops s) (hstage : stage.transportConnected = false) :
    Shows c .failed ops s := by
  cases stage with
  | connected due engineOpen recent => cases hstage
  | _ => exact { h with isOpen := fun hopen => absurd hopen Bool.false_ne_true }

/-- The first endpoint of a list is tried, and none means failure. -/
theorem Shows.next {c : Nat} {s : Service} (h : Shows c .failed [] s) (it : List Endpoint) :
    Shows c (Stage.next it) ((Stage.next it).ops c) (resolverHandler c it s) := by
  cases it with
  | nil => exact h
  | cons endpoint it =>
    simp only [resolverHandler, Script.asyncConnect, Library.setOpen_self true h.current]
    refine { h with outstanding := ?_, isOpen := fun _ => rfl }
    simp [h.outstanding, part_cons, own, Handler.socket, Stage.next, Stage.ops]

theorem Shows.refused {c : Nat} {s : Service} (h : Shows c .failed [] s) (it : List Endpoint) :
    Shows c (Stage.next it) ((Stage.next it).ops c) (connectHandler c false it s) := by
  cases it with
  | nil => exact h
  | cons endpoint it =>
    have hclosed : Shows c .failed [] (Script.closeSocket c s) := by
      unfold Script.closeSocket
      rw [Library.setOpen_self false h.current]
      refine { h with outstanding := ?_, isOpen := fun hopen => absurd hopen Bool.false_ne_true }
      rw [part_map s.2 fun op => by simp [own], h.outstanding]
      rfl
    exact hclosed.next (endpoint :: it)

theorem Shows.accepted {c : Nat} {s : Service} (h : Shows c .failed [] s)
    (hopen : s.1.apsim.isOpen = true) (it : List Endpoint) :
    Shows c (.connected none false []) [awaiting c] (connectHandler c true it s) := by
  simp only [connectHandler, if_true]
  rw [if_pos h.current.symm]
  refine { h with outstanding := ?_, isOpen := fun _ => hopen, transportConnected := rfl }
  simp [h.outstanding, part_cons, own, Handler.socket, awaiting]

/-- What arrives is confirmed, and the next read is outstanding. -/
theorem Shows.arrived {c : Nat} {due : Option (Nat × Apdu)} {engineOpen : Bool}
    {recent : StdString} {s : Service} (h : Shows c (.connected due engineOpen recent) [] s)
    (apdu : Apdu) :
    Shows c (Stage.connected (some (0, apdu)) engineOpen recent).poll [awaiting c]
      (readHandler c (some apdu) s) := by
  simp only [readHandler]
  rw [if_pos h.current.symm]
  have hread : part (own c) (s.2 ++ [awaiting c]) = [awaiting c] := by
    simp [h.outstanding, part_cons, own, Handler.socket, awaiting]
  cases apdu with
  | associated => exact { h with outstanding := hread, engineOpen := rfl }
  | value text => exact { h with outstanding := hread, recent := rfl }

/-! ## One poll -/

/-- Nothing of the meter's own is ready. -/
theorem Shows.poll_never {c : Nat} {stage : Stage} {ops : List (Operation Handler)}
    {w : Loop Library Handler} (hgoing : w.stopped = false)
    (h : Shows c stage ops (w.state, w.outstanding)) (hready : ops.filter Operation.ready = []) :
    Shows c stage (IoService.later ops)
      ((IoService.poll run w).state, (IoService.poll run w).outstanding) := by
  refine IoService.poll_never (own c) (I := Shows c stage (IoService.later ops)) hgoing
    ?_ ?_ fun handler s hown hs => hs.foreign hown
  · rw [part_filter, h.outstanding, hready]
  · exact { h with outstanding := (part_later _ _).trans (congrArg IoService.later h.outstanding) }

/-- The meter's own operation is ready. -/
theorem Shows.poll_once {c : Nat} {stage stage' : Stage} {op : Operation Handler}
    {w : Loop Library Handler} (hgoing : w.stopped = false)
    (h : Shows c stage [op] (w.state, w.outstanding)) (hready : op.ready = true)
    (runs : ∀ s, Shows c stage [] s → Shows c stage' (stage'.ops c) (run op.handler s)) :
    Shows c stage' (stage'.ops c)
      ((IoService.poll run w).state, (IoService.poll run w).outstanding) := by
  refine IoService.poll_once (own c) (P := Shows c stage []) (Q := Shows c stage' (stage'.ops c))
    hgoing ?_ ?_ runs
    (fun handler s hown hs => hs.foreign hown) fun handler s hown hs => hs.foreign hown
  · rw [part_filter, h.outstanding]
    simp [hready]
  · refine { h with outstanding := (part_later _ _).trans ?_ }
    rw [h.outstanding]
    simp [IoService.later, hready]

/-- **A poll of a loop that is going is a poll of the stage.** -/
theorem Shows.poll {c : Nat} {stage : Stage} {w : Loop Library Handler} (hgoing : w.stopped = false)
    (h : Shows c stage (stage.ops c) (w.state, w.outstanding)) :
    Shows c stage.poll (stage.poll.ops c)
      ((IoService.poll run w).state, (IoService.poll run w).outstanding) := by
  have hrun : ∀ {stage : Stage} {handler : Handler} {s : Service}, Shows c stage [] s →
      handler.socket = c → handler.socket ∈ s.1.sockets := fun hs hc => hc ▸ hs.alive
  cases stage with
  | failed => exact h.poll_never hgoing rfl
  | resolving wait it =>
    cases wait with
    | zero =>
      refine h.poll_once hgoing rfl fun s hs => ?_
      rw [run, if_pos (hrun hs rfl)]
      exact (hs.idle rfl).next it
    | succ wait => exact { h.poll_never hgoing rfl with }
  | connecting wait accepted it =>
    cases wait with
    | zero =>
      cases accepted with
      | true =>
        refine h.poll_once hgoing rfl fun s hs => ?_
        rw [run, if_pos (hrun hs rfl)]
        exact (hs.idle rfl).accepted (hs.isOpen rfl) it
      | false =>
        refine h.poll_once hgoing rfl fun s hs => ?_
        rw [run, if_pos (hrun hs rfl)]
        exact (hs.idle rfl).refused it
    | succ wait => exact { h.poll_never hgoing rfl with }
  | connected due engineOpen recent =>
    rcases due with _ | ⟨wait, apdu⟩
    · exact { h.poll_never hgoing rfl with }
    · cases wait with
      | zero =>
        cases apdu with
        | associated =>
          refine h.poll_once hgoing rfl fun s hs => ?_
          rw [run, if_pos (hrun hs rfl)]
          exact hs.arrived .associated
        | value text =>
          refine h.poll_once hgoing rfl fun s hs => ?_
          rw [run, if_pos (hrun hs rfl)]
          exact hs.arrived (.value text)
      | succ wait => exact { h.poll_never hgoing rfl with }

/-! ## The client -/

/-- A loop on which the meter at work is at a stage. When it is stopped nothing is
outstanding. -/
structure Tracks (c : Nat) (stage : Stage) (w : Loop Library Handler) : Prop where
  shows : Shows c stage (stage.ops c) (w.state, w.outstanding)
  drained : w.stopped = true → w.outstanding = []

theorem Tracks.failed {c : Nat} {stage : Stage} {w : Loop Library Handler} (h : Tracks c stage w)
    (hstopped : w.stopped = true) : stage = .failed := by
  have hops := h.shows.outstanding
  rw [show (w.state, w.outstanding).2 = [] from h.drained hstopped] at hops
  exact Stage.ops_eq_nil.mp hops.symm

/-- **A poll of the shared loop, going or stopped, is a poll of the stage.** -/
theorem Tracks.poll {c : Nat} {stage : Stage} {w : Loop Library Handler} (h : Tracks c stage w) :
    Tracks c stage.poll (IoService.poll run w) := by
  cases hstopped : w.stopped with
  | true =>
    rw [poll_of_stopped hstopped]
    obtain rfl := h.failed hstopped
    exact h
  | false =>
    refine ⟨h.shows.poll hstopped, fun hafter => ?_⟩
    rw [poll_stopped hstopped] at hafter
    exact List.isEmpty_iff.mp hafter

/-- After a poll the loop is stopped exactly if nothing is outstanding. -/
theorem Tracks.poll_stopped_iff {c : Nat} {stage : Stage} {w : Loop Library Handler}
    (h : Tracks c stage w) :
    (IoService.poll run w).stopped = true ↔ (IoService.poll run w).outstanding = [] := by
  refine ⟨h.poll.drained, fun hnone => ?_⟩
  cases hstopped : w.stopped with
  | true => rw [poll_of_stopped hstopped, hstopped]
  | false => rw [poll_stopped hstopped, hnone]; rfl

theorem Tracks.respond {c : Nat} {stage : Stage} {w : Loop Library Handler} (h : Tracks c stage w)
    (reaction : Option (Nat × Apdu)) :
    Tracks c (stage.respond reaction) (Script.respond reaction w) := by
  cases reaction with
  | none =>
    have hsame : stage.respond none = stage := by
      cases stage with
      | connected due engineOpen recent => cases due <;> rfl
      | _ => rfl
    rw [hsame]
    exact h
  | some reaction =>
    obtain ⟨wait, apdu⟩ := reaction
    have hcurrent : w.state.apsim.socket = c := h.shows.current
    have hops : part (own c) (w.outstanding.map (arrive c wait apdu)) =
        (stage.ops c).map (arrive c wait apdu) := by
      rw [part_map w.outstanding fun op => by simp [own, arrive_socket]]
      exact congrArg _ h.shows.outstanding
    simp only [Script.respond, hcurrent]
    refine ⟨?_, fun hstopped => by simp only [h.drained hstopped, List.map_nil]⟩
    have harrived : (stage.ops c).map (arrive c wait apdu) =
        (stage.respond (some (wait, apdu))).ops c := by
      cases stage with
      | connected due engineOpen recent =>
        cases due with
        | none => simp [Stage.ops, arrive, Stage.respond]
        | some due => simp [Stage.ops, arrive, awaiting, Stage.respond]
      | _ => simp [Stage.ops, arrive, awaiting, Stage.respond]
    cases stage with
    | connected due engineOpen recent =>
      cases due with
      | none => exact { h.shows with outstanding := hops.trans harrived }
      | some due => exact { h.shows with outstanding := hops.trans harrived }
    | _ => exact { h.shows with outstanding := hops.trans harrived }

/-- What `open` asks. -/
theorem Tracks.connected {c : Nat} {stage : Stage} {w : Loop Library Handler}
    (h : Tracks c stage w) :
    (w.state.apsim.isOpen && w.state.apsim.transportConnected) = stage.transportConnected := by
  rw [show w.state.apsim.transportConnected = _ from h.shows.transportConnected]
  cases hstage : stage with
  | connected due engineOpen recent =>
    rw [show w.state.apsim.isOpen = true from h.shows.isOpen (hstage ▸ rfl)]
    rfl
  | _ => exact Bool.and_false _

/-- What `Get` asks. -/
theorem Tracks.associated {c : Nat} {stage : Stage} {w : Loop Library Handler}
    (h : Tracks c stage w) :
    (w.state.apsim.isOpen && w.state.apsim.engineOpen) = stage.engineOpen := by
  rw [show w.state.apsim.engineOpen = _ from h.shows.engineOpen]
  cases hstage : stage with
  | connected due engineOpen recent =>
    rw [show w.state.apsim.isOpen = true from h.shows.isOpen (hstage ▸ rfl)]
    rfl
  | _ => exact Bool.and_false _

/-- **`APsim::open` on the shared loop is `open` of the stage.** -/
theorem Tracks.tryOpen {c : Nat} (meter : Meter) (tries : Nat) {stage : Stage}
    {w : Loop Library Handler} (h : Tracks c stage w) :
    Tracks c (stage.tryOpen meter tries) (Script.tryOpen meter tries w).1 := by
  induction tries generalizing stage w with
  | zero => exact h
  | succ tries ih =>
    simp only [Script.tryOpen, Stage.tryOpen, h.poll.connected]
    split
    next => exact h.poll.respond _
    next => exact ih h.poll

theorem Tracks.get {c : Nat} {stage : Stage} {w : Loop Library Handler} (h : Tracks c stage w)
    (meter : Meter) (obis : StdString) :
    Tracks c (stage.get meter obis) (Script.get meter obis w).1 := by
  simp only [Script.get, Stage.get, h.poll.associated]
  split
  next => exact h.poll.respond _
  next => exact h.poll

end AccessPoint.Script
