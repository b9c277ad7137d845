import AccessPoint.Lib.Run
import AccessPoint.Request.Delivery

/-!
# Who owns a registration connection

`tcp_connection` and `RegistrationServer` of `APsim.cpp`, with the `shared_ptr` count of
every connection object written down. The accept handler makes the object, calls `start`,
and drops the only `shared_ptr` when the expression ends. `start` binds `this`, a raw
pointer, into the handler of its read. The class derives from `enable_shared_from_this`,
which is what a binding that owned the object would use.

`Binding` is that one choice. `start` is the code's, with `.raw`; the same machine with
`.shared` is what the base class is there for. `remote_endpoint()` is taken to succeed:
the accept handler returns.

Every order of events is a schedule: the accept handler starts and returns, peers write or
close at any time from before the accept on, and completed reads are delivered, one at a
time, by the one thread that also runs the accept handler. The destruction of a socket
makes its pending read complete with an error; a read that has completed keeps its result.

- `ownership_iff`: with the code's binding, a schedule meets the connection's contract only
  if it accepts no connection at all. Every `handle_read` runs on a destroyed object.
- `Machine.shared_contract`: with an owning binding every schedule meets it.
-/

namespace AccessPoint.Ownership

/-- What a handler bound by `start` holds of the object. -/
inductive Binding where
  | raw
  | shared
  deriving DecidableEq, Repr

/-- The `shared_ptr`s in a bound handler. -/
def Binding.owners : Binding → Nat
  | .raw => 0
  | .shared => 1

/-- What the peer has done on a connection. -/
inductive Peer where
  | silent
  | wrote (bytes : StdString)
  | closed
  deriving DecidableEq, Repr

/-- The one read of a connection. -/
inductive ReadState where
  | pending
  | completed (result : ReadResult)
  | delivered
  deriving DecidableEq, Repr

/-- A connection object. `handled` records, for every `handle_read` that ran, whether the
object had an owner then, and `interpreted` the texts given to `interpret`. -/
structure Conn where
  owners : Nat
  peer : Peer
  read : ReadState
  handled : List Bool
  interpreted : List StdString
  deriving DecidableEq, Repr

/-- The result a read finds on the socket, if it finds one. -/
def Peer.result : Peer → Option ReadResult
  | .silent => none
  | .wrote bytes => some (.success bytes)
  | .closed => some .error

/-- `make_shared` and `start`: the temporary owns the object, and the read completes at once
when the peer has been there already. -/
def Conn.start (binding : Binding) (peer : Peer) : Conn where
  owners := 1 + binding.owners
  peer
  read := peer.result.elim .pending .completed
  handled := []
  interpreted := []

/-- The peer acts. Its first act completes a pending read. -/
def Conn.arrive (conn : Conn) (act : Peer) : Conn :=
  if conn.peer = .silent then
    match conn.read with
    | .pending => { conn with peer := act, read := act.result.elim .pending .completed }
    | _ => { conn with peer := act }
  else conn

/-- The temporary `shared_ptr` goes. Without another owner the object is destroyed, its
socket with it, and a pending read completes with an error. -/
def Conn.release (conn : Conn) : Conn :=
  if conn.owners = 1 then
    match conn.read with
    | .pending => { conn with owners := 0, read := .completed .error }
    | _ => { conn with owners := 0 }
  else { conn with owners := conn.owners - 1 }

/-- A completed read is delivered: `handle_read` runs and the handler goes, with what it
owns. On a destroyed object `data_` reads as `stray`, whatever the memory holds by then. -/
def Conn.deliver (binding : Binding) (conn : Conn) (stray : StdString) : Conn :=
  match conn.read with
  | .completed result =>
    let alive := conn.owners ≠ 0
    { conn with
      owners := conn.owners - binding.owners
      read := .delivered
      handled := conn.handled ++ [decide alive]
      interpreted := conn.interpreted ++
        match result with
        | .success bytes => [if alive then bytes else stray]
        | .error => [] }
  | _ => conn

/-- The server: the connection whose accept handler is running, and the others. -/
structure Machine where
  handling : Option Conn
  conns : List Conn
  deriving DecidableEq, Repr

/-- An event. `arrive none` is about the connection being handled. -/
inductive Event where
  | accept (peer : Peer)
  | acceptReturns
  | arrive (who : Option Nat) (act : Peer)
  | deliver (who : Nat) (stray : StdString)
  deriving DecidableEq, Repr

namespace Machine

/-- No connection yet. -/
def atStart : Machine :=
  { handling := none, conns := [] }

/-- One event. The thread that runs the accept handler delivers nothing meanwhile, and
accepts the next connection after it. -/
def step (binding : Binding) (m : Machine) : Event → Machine
  | .accept peer =>
    match m.handling with
    | none => { m with handling := some (Conn.start binding peer) }
    | some _ => m
  | .acceptReturns =>
    match m.handling with
    | none => m
    | some conn => { handling := none, conns := m.conns ++ [conn.release] }
  | .arrive none act => { m with handling := m.handling.map (·.arrive act) }
  | .arrive (some i) act => { m with conns := m.conns.modify i (·.arrive act) }
  | .deliver i stray =>
    match m.handling with
    | none => { m with conns := m.conns.modify i (·.deliver binding stray) }
    | some _ => m

/-- The state a schedule leads to. -/
def run (binding : Binding) (events : List Event) : Machine :=
  events.foldl (step binding) atStart

/-- Every accept handler has returned and every read has been delivered. -/
def Settled (m : Machine) : Prop :=
  m.handling = none ∧ ∀ conn ∈ m.conns, conn.read = .delivered

end Machine

/-- What a connection owes: `handle_read` runs on an owned object, and what the peer wrote
is interpreted exactly once. -/
def Conn.Contract (conn : Conn) : Prop :=
  (∀ alive ∈ conn.handled, alive = true) ∧
    ∀ bytes, conn.peer = .wrote bytes → conn.interpreted = [bytes]

def Event.isAccept : Event → Bool
  | .accept _ => true
  | _ => false

/-! ## Connections one by one -/

namespace Machine

/-- A property of one connection that every event keeps holds of the connections a step
leaves. The accept handler's own connection has a property of its own. -/
theorem step_keeps {binding : Binding} {m : Machine} {P Q : Conn → Prop}
    (hstart : ∀ peer, P (Conn.start binding peer))
    (harriveP : ∀ conn act, P conn → P (conn.arrive act))
    (hrelease : ∀ conn, P conn → Q conn.release)
    (harriveQ : ∀ conn act, Q conn → Q (conn.arrive act))
    (hdeliver : ∀ conn stray, Q conn → Q (conn.deliver binding stray))
    (hP : ∀ conn ∈ m.handling, P conn) (hQ : ∀ conn ∈ m.conns, Q conn) (event : Event) :
    (∀ conn ∈ (m.step binding event).handling, P conn) ∧
      ∀ conn ∈ (m.step binding event).conns, Q conn := by
  have modify_keeps : ∀ (f : Conn → Conn) (i : Nat), (∀ conn, Q conn → Q (f conn)) →
      ∀ conn ∈ m.conns.modify i f, Q conn := by
    intro f i hf conn hconn
    obtain ⟨j, hj⟩ := List.mem_iff_getElem?.mp hconn
    rw [List.getElem?_modify] at hj
    obtain ⟨conn', hconn', heq⟩ := Option.map_eq_some_iff.mp hj
    have hq := hQ conn' (List.mem_of_getElem? hconn')
    by_cases hij : i = j
    · rw [if_pos hij] at heq
      exact heq ▸ hf conn' hq
    · rw [if_neg hij] at heq
      exact heq ▸ hq
  cases event with
  | accept peer =>
    cases hm : m.handling with
    | none => simpa [step, hm] using ⟨hstart peer, hQ⟩
    | some conn => simpa [step, hm] using ⟨hP conn hm, hQ⟩
  | acceptReturns =>
    cases hm : m.handling with
    | none => simpa [step, hm] using hQ
    | some conn =>
      simp only [step, hm, List.mem_append, List.mem_singleton]
      refine ⟨fun _ h => (nomatch h), ?_⟩
      rintro conn' (h | rfl)
      · exact hQ conn' h
      · exact hrelease conn (hP conn hm)
  | arrive who act =>
    cases who with
    | none =>
      refine ⟨fun conn hconn => ?_, hQ⟩
      obtain ⟨conn', hconn', rfl⟩ := Option.map_eq_some_iff.mp hconn
      exact harriveP conn' act (hP conn' hconn')
    | some i => exact ⟨hP, modify_keeps _ i fun conn => harriveQ conn act⟩
  | deliver i stray =>
    cases hm : m.handling with
    | none =>
      simp only [step, hm]
      exact ⟨fun _ h => (nomatch h), modify_keeps _ i fun conn => hdeliver conn stray⟩
    | some conn => simpa [step, hm] using ⟨hP conn hm, hQ⟩

/-- The same for a whole schedule. -/
theorem run_keeps (binding : Binding) {P Q : Conn → Prop}
    (hstart : ∀ peer, P (Conn.start binding peer))
    (harriveP : ∀ conn act, P conn → P (conn.arrive act))
    (hrelease : ∀ conn, P conn → Q conn.release)
    (harriveQ : ∀ conn act, Q conn → Q (conn.arrive act))
    (hdeliver : ∀ conn stray, Q conn → Q (conn.deliver binding stray)) (events : List Event) :
    ∀ conn ∈ (run binding events).conns, Q conn := by
  have hinv := Run.invariant
    (I := fun m => (∀ conn ∈ m.handling, P conn) ∧ ∀ conn ∈ m.conns, Q conn)
    (step binding) atStart events
    ⟨fun _ h => (nomatch h), fun _ h => (nomatch h)⟩
    fun m event h => step_keeps hstart harriveP hrelease harriveQ hdeliver h.1 h.2 event
  exact hinv.2

/-- An accepted connection is never forgotten, and none appears without an accept. -/
theorem accepted_iff (binding : Binding) (events : List Event) :
    ((run binding events).handling.isSome = true ∨ (run binding events).conns ≠ []) ↔
      ∃ event ∈ events, event.isAccept = true := by
  have hgrow : ∀ (events : List Event) (m : Machine),
      ((events.foldl (step binding) m).handling.isSome = true ∨
          (events.foldl (step binding) m).conns ≠ []) ↔
        (m.handling.isSome = true ∨ m.conns ≠ []) ∨ ∃ event ∈ events, event.isAccept = true := by
    intro events
    induction events with
    | nil => simp
    | cons event events ih =>
      intro m
      rw [List.foldl_cons, ih, List.exists_mem_cons_iff, ← or_assoc]
      refine or_congr_left ?_
      cases event with
      | accept peer => cases hm : m.handling <;> simp [step, hm, Event.isAccept]
      | acceptReturns => cases hm : m.handling <;> simp [step, hm, Event.isAccept]
      | arrive who act =>
        cases who with
        | none => simp [step, Event.isAccept]
        | some i => simp [step, Event.isAccept, List.modify_eq_nil_iff]
      | deliver i stray =>
        cases hm : m.handling <;> simp [step, hm, Event.isAccept, List.modify_eq_nil_iff]
  refine (hgrow events atStart).trans (or_iff_right ?_)
  simp [atStart]

end Machine

/-! ## The code's binding -/

/-- While its accept handler runs, the temporary is the object's only owner and nothing has
been delivered. -/
structure Conn.Handling (conn : Conn) : Prop where
  owners : conn.owners = 1
  read : conn.read ≠ .delivered
  handled : conn.handled = []

/-- Once the accept handler has returned nothing owns the object, and what is delivered is
delivered to a destroyed object. -/
structure Conn.Orphan (conn : Conn) : Prop where
  owners : conn.owners = 0
  handled : conn.handled = if conn.read = .delivered then [false] else []

theorem Conn.start_raw (peer : Peer) : (Conn.start .raw peer).Handling where
  owners := rfl
  read := by cases peer <;> simp [Conn.start, Peer.result]
  handled := rfl

theorem Conn.Handling.arrive {conn : Conn} (h : conn.Handling) (act : Peer) :
    (conn.arrive act).Handling := by
  obtain ⟨howners, hread, hhandled⟩ := h
  unfold Conn.arrive
  split
  · cases hr : conn.read with
    | pending => exact ⟨howners, by cases act <;> simp [Peer.result], hhandled⟩
    | completed result => exact ⟨howners, by simp, hhandled⟩
    | delivered => exact absurd hr hread
  · exact ⟨howners, hread, hhandled⟩

theorem Conn.Handling.release {conn : Conn} (h : conn.Handling) : conn.release.Orphan := by
  obtain ⟨howners, hread, hhandled⟩ := h
  unfold Conn.release
  rw [if_pos howners]
  cases hr : conn.read with
  | pending => exact ⟨rfl, by simp [hhandled]⟩
  | completed result => exact ⟨rfl, by simp [hhandled]⟩
  | delivered => exact absurd hr hread

theorem Conn.Orphan.arrive {conn : Conn} (h : conn.Orphan) (act : Peer) :
    (conn.arrive act).Orphan := by
  obtain ⟨howners, hhandled⟩ := h
  unfold Conn.arrive
  split
  · cases hr : conn.read with
    | pending =>
      refine ⟨howners, ?_⟩
      rw [hr] at hhandled
      cases act <;> simpa [Peer.result] using hhandled
    | completed result => exact ⟨howners, by simpa [hr] using hhandled⟩
    | delivered => exact ⟨howners, by simpa [hr] using hhandled⟩
  · exact ⟨howners, hhandled⟩

theorem Conn.Orphan.deliver {conn : Conn} (h : conn.Orphan) (stray : StdString) :
    (conn.deliver .raw stray).Orphan := by
  obtain ⟨howners, hhandled⟩ := h
  unfold Conn.deliver
  cases hr : conn.read with
  | pending => exact ⟨howners, hhandled⟩
  | completed result => exact ⟨by simp [howners], by simp [hhandled, hr, howners]⟩
  | delivered => exact ⟨howners, hhandled⟩

/-- Every connection whose accept handler has returned is an orphan. -/
theorem orphans (events : List Event) : ∀ conn ∈ (Machine.run .raw events).conns, conn.Orphan :=
  Machine.run_keeps .raw (P := Conn.Handling) Conn.start_raw (fun _ act h => h.arrive act)
    (fun _ h => h.release) (fun _ act h => h.arrive act) (fun _ stray h => h.deliver stray) events

/-- **What the raw pointer costs**: in a schedule that leaves nothing outstanding, every connection
meets its contract exactly when the schedule accepts no connection. A delivered read has run on an
orphan. The schedule is any order of accepts, returns of the accept handler, writes of the peers and
deliveries, with any number of connections; no order of them saves one. Schedules that leave a read
outstanding or a handler inside `start` are left out. -/
theorem ownership_iff (events : List Event) (hsettled : (Machine.run .raw events).Settled) :
    (∀ conn ∈ (Machine.run .raw events).conns, conn.Contract) ↔
      ∀ event ∈ events, event.isAccept = false := by
  have haccepted := Machine.accepted_iff .raw events
  rw [hsettled.1] at haccepted
  constructor
  · intro hcontract event hevent
    by_contra haccept
    have hconns : (Machine.run .raw events).conns ≠ [] :=
      (haccepted.mpr ⟨event, hevent, by simpa using haccept⟩).resolve_left (by simp)
    obtain ⟨conn, hconn⟩ := List.exists_mem_of_ne_nil _ hconns
    have horphan := orphans events conn hconn
    have hhandled : conn.handled = [false] := by
      rw [horphan.handled, if_pos (hsettled.2 conn hconn)]
    have hmem : false ∈ conn.handled := by rw [hhandled]; exact List.mem_singleton_self _
    have halive := (hcontract conn hconn).1 false hmem
    cases halive
  · intro hnone conn hconn
    have hne : (Machine.run .raw events).conns ≠ [] := List.ne_nil_of_mem hconn
    obtain ⟨event, hevent, haccept⟩ := haccepted.mp (.inr hne)
    rw [hnone event hevent] at haccept
    cases haccept

/-- The law at a schedule in which the request is there before the accept handler is. -/
theorem ownership_iff_early_request :
    ¬ ∀ conn ∈ (Machine.run .raw [.accept (.wrote "small,a".toList), .acceptReturns,
        .deliver 0 []]).conns, conn.Contract := by
  rw [ownership_iff _ ⟨by decide, by decide⟩]
  decide

/-- A request that arrives after the accept handler has returned is never interpreted. -/
theorem late_bytes_dropped :
    ¬ ∀ events, (Machine.run .raw events).Settled →
      ∀ conn ∈ (Machine.run .raw events).conns, conn.Contract := by
  intro h
  have hcontract := h [.accept .silent, .acceptReturns, .arrive (some 0) (.wrote "small,a".toList),
    .deliver 0 []] ⟨by decide, by decide⟩ ⟨0, .wrote "small,a".toList, .delivered, [false], []⟩
    (by decide)
  exact absurd (hcontract.2 _ rfl) (by decide)

/-! ## An owning binding -/

/-- While its accept handler runs, the object has two owners, and the read reflects what the
peer did. -/
structure Conn.Shared (owners : Nat) (conn : Conn) : Prop where
  pending : conn.read = .pending → conn.peer = .silent
  completed : ∀ result, conn.read = .completed result → conn.peer.result = some result
  owned : conn.read ≠ .delivered → conn.owners = owners ∧ conn.handled = [] ∧ conn.interpreted = []
  delivered : conn.read = .delivered → conn.peer ≠ .silent ∧ conn.Contract

theorem arrive_not_delivered {conn : Conn} (h : conn.read ≠ .delivered) (act : Peer) :
    (conn.arrive act).read ≠ .delivered := by
  unfold Conn.arrive
  split
  · cases hr : conn.read with
    | pending => cases act <;> simp [Peer.result]
    | completed result => simp
    | delivered => exact absurd hr h
  · exact h

theorem Conn.start_shared (peer : Peer) : (Conn.start .shared peer).Shared 2 := by
  cases peer <;> constructor <;> simp [Conn.start, Peer.result, Binding.owners]

theorem Conn.Shared.arrive {owners : Nat} {conn : Conn} (h : conn.Shared owners) (act : Peer) :
    (conn.arrive act).Shared owners := by
  unfold Conn.arrive
  split
  next hsilent =>
    cases hr : conn.read with
    | pending =>
      obtain ⟨ho, hh, hi⟩ := h.owned (by simp [hr])
      cases act <;> constructor <;> simp [Peer.result, ho, hh, hi]
    | completed result =>
      have := h.completed result hr
      simp [hsilent, Peer.result] at this
    | delivered => exact absurd hsilent (h.delivered hr).1
  next => exact h

theorem Conn.Shared.release {conn : Conn} (h : conn.Shared 2) (hr : conn.read ≠ .delivered) :
    conn.release.Shared 1 := by
  obtain ⟨ho, hh, hi⟩ := h.owned hr
  unfold Conn.release
  rw [if_neg (by simp [ho])]
  exact ⟨h.pending, h.completed, fun _ => ⟨by simp [ho], hh, hi⟩, fun h' => absurd h' hr⟩

theorem Conn.Shared.deliver {conn : Conn} (h : conn.Shared 1) (stray : StdString) :
    (conn.deliver .shared stray).Shared 1 := by
  unfold Conn.deliver
  cases hr : conn.read with
  | pending => exact h
  | completed result =>
    obtain ⟨ho, hh, hi⟩ := h.owned (by simp [hr])
    have hpeer := h.completed result hr
    refine ⟨fun hp => (nomatch hp), fun _ hp => (nomatch hp), fun hp => absurd rfl hp, fun _ => ?_⟩
    refine ⟨fun hs => ?_, fun alive halive => ?_, fun bytes hbytes => ?_⟩
    · have hs' : conn.peer = .silent := hs
      simp [hs', Peer.result] at hpeer
    · simpa [ho, hh] using halive
    · have hbytes' : conn.peer = .wrote bytes := hbytes
      rw [hbytes'] at hpeer
      cases hpeer
      simp [ho, hi]
  | delivered => exact h

/-- **With an owning binding the contract holds**: in every schedule, for every connection
whose read has been delivered. -/
theorem Machine.shared_contract (events : List Event) :
    ∀ conn ∈ (Machine.run .shared events).conns, conn.read = .delivered → conn.Contract := by
  have hshared := Machine.run_keeps .shared
    (P := fun conn => conn.Shared 2 ∧ conn.read ≠ .delivered) (Q := Conn.Shared 1)
    (fun peer => ⟨Conn.start_shared peer, by cases peer <;> simp [Conn.start, Peer.result]⟩)
    (fun conn act h => ⟨h.1.arrive act, arrive_not_delivered h.2 act⟩)
    (fun _ h => h.1.release h.2) (fun _ act h => h.arrive act)
    (fun _ stray h => h.deliver stray) events
  exact fun conn hconn hr => ((hshared conn hconn).delivered hr).2

end AccessPoint.Ownership
