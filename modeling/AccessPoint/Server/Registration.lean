import AccessPoint.Request.MultiRead

/-!
# The head-end's registration server

`RegistrationServer` of `HESsim.cpp`. Its accept handler serves the accepted connection
in place, with `tcp_connection::start`, and arms the next accept only after that.
`start` asks for the peer's address, inserts it into the set `meters`, and then waits for
one read of the peer's bytes. Both calls on the socket throw, and nothing between them and
`regs` catches: the exception skips the `do_accept()` at the end of the handler, leaves
`io_service::run()`, and `regs` prints it and returns.

`registration_survives_iff` says which sequences of connections the server survives: those
in which no connection makes `start` throw. The insertion itself comes before the read, so
a peer that closes without a byte is registered by the very call that ends the server
(`start_registers`).
-/

namespace AccessPoint

/-- The text `address().to_string()` gives for a peer's address. -/
abbrev Address := { text : StdString // IsMeterName text }

/-- `meters.insert(remote)`. -/
def MeterSet.insert (meters : MeterSet) (remote : Address) : MeterSet where
  names := Insert.insert remote.val meters.names
  valid name hname := by
    rcases Finset.mem_insert.mp hname with rfl | h
    · exact remote.property
    · exact meters.valid name h

theorem MeterSet.mem_insert {meters : MeterSet} {remote : Address} {name : StdString} :
    name ∈ (meters.insert remote).names ↔ name = remote.val ∨ name ∈ meters.names :=
  Finset.mem_insert

namespace Registration

/-- A connection the server accepts. `remoteEndpoint` is `none` when the peer is already
gone, so that `remote_endpoint()` throws. `received` is `none` when the peer closes or
resets before it sends a byte, so that `receive()` throws. -/
structure Connection where
  remoteEndpoint : Option Address
  received : Option StdString

/-- How an `async_accept` completes. -/
inductive Accept where
  | error
  | connection (conn : Connection)

/-- The calls of `start` that throw. -/
inductive Thrown where
  | remoteEndpoint
  | receive
  deriving DecidableEq, Repr

/-- The server's thread: the set it fills, and whether an accept is armed and `run()` is
still there to complete it. -/
structure Server where
  meters : MeterSet
  accepting : Bool

/-- `tcp_connection::start`: the set it leaves, and the exception, when it ends in one. -/
def start (meters : MeterSet) (conn : Connection) : MeterSet × Option Thrown :=
  match conn.remoteEndpoint with
  | none => (meters, some .remoteEndpoint)
  | some remote =>
    let meters := meters.insert remote
    match conn.received with
    | none => (meters, some .receive)
    | some _ => (meters, none)

/-- The accept handler. It arms the next accept unless `start` threw; an exception ends
`run()` and with it the server. Once the server has ended nothing is accepted. -/
def onAccept (server : Server) (accept : Accept) : Server :=
  if server.accepting then
    match accept with
    | .error => server
    | .connection conn =>
      let result := start server.meters conn
      { meters := result.1, accepting := result.2.isNone }
  else server

/-- The server after a sequence of accepts. -/
def serve (server : Server) (accepts : List Accept) : Server :=
  accepts.foldl onAccept server

/-- The connection makes `start` throw. -/
def Accept.Throws : Accept → Prop
  | .error => False
  | .connection conn => conn.remoteEndpoint = none ∨ conn.received = none

/-- The address a connection shows. -/
def Accept.address : Accept → Option Address
  | .error => none
  | .connection conn => conn.remoteEndpoint

theorem start_throws_iff (meters : MeterSet) (conn : Connection) :
    (start meters conn).2 ≠ none ↔ (Accept.connection conn).Throws := by
  unfold start Accept.Throws
  cases hr : conn.remoteEndpoint with
  | none => simp [hr]
  | some remote => cases hb : conn.received <;> simp [hr, hb]

/-- `start` registers every address it is shown, whether it throws afterwards or not, and
forgets none. -/
theorem start_registers (meters : MeterSet) (conn : Connection) (name : StdString) :
    name ∈ (start meters conn).1.names ↔
      name ∈ meters.names ∨ ∃ remote ∈ conn.remoteEndpoint, name = remote.val := by
  unfold start
  cases conn.remoteEndpoint with
  | none => simp
  | some remote => cases conn.received <;> simp [MeterSet.mem_insert, or_comm]

/-- One accept of a live server. -/
theorem onAccept_accepting {server : Server} (h : server.accepting = true) (accept : Accept) :
    (onAccept server accept).accepting = true ↔ ¬ accept.Throws := by
  unfold onAccept
  rw [if_pos h]
  cases accept with
  | error => simp [h, Accept.Throws]
  | connection conn =>
    rw [← start_throws_iff server.meters conn]
    simp

/-- An accept of a live server adds the connection's address and removes nothing. -/
theorem mem_onAccept {server : Server} (h : server.accepting = true) (accept : Accept)
    (name : StdString) :
    name ∈ (onAccept server accept).meters.names ↔
      name ∈ server.meters.names ∨ ∃ remote ∈ accept.address, name = remote.val := by
  unfold onAccept
  rw [if_pos h]
  cases accept with
  | error => simp [Accept.address]
  | connection conn => exact start_registers server.meters conn name

/-- A server that has ended stays as it is. -/
theorem serve_ended {server : Server} (h : server.accepting = false) (accepts : List Accept) :
    serve server accepts = server := by
  induction accepts with
  | nil => rfl
  | cons accept accepts ih =>
    have hstep : onAccept server accept = server := by
      unfold onAccept
      rw [if_neg (by simp [h])]
    show serve (onAccept server accept) accepts = server
    rw [hstep, ih]

/-- What the server owes after a sequence: it still accepts, and the set holds the address
of every connection that showed one. -/
def Registered (server : Server) (accepts : List Accept) : Prop :=
  (serve server accepts).accepting = true ∧
    ∀ accept ∈ accepts, ∀ remote ∈ accept.address,
      remote.val ∈ (serve server accepts).meters.names

/-- The set only grows. -/
theorem mem_serve {server : Server} {name : StdString} (accepts : List Accept)
    (h : name ∈ server.meters.names) : name ∈ (serve server accepts).meters.names := by
  induction accepts generalizing server with
  | nil => exact h
  | cons accept accepts ih =>
    cases ha : server.accepting with
    | false => rwa [serve_ended ha]
    | true => exact ih ((mem_onAccept ha accept name).mpr (.inl h))

/-- **When registration survives**: after exactly the sequences in which no connection makes `start`
throw. By induction over the sequence, with the outcome of its first accept as the case split.
Surviving is to accept still and to hold the address of every connection that showed one, on top of
any set of addresses. What a peer sends is not looked at, here as in the code. -/
theorem registration_survives_iff {meters : MeterSet} (accepts : List Accept) :
    Registered { meters, accepting := true } accepts ↔ ∀ accept ∈ accepts, ¬ accept.Throws := by
  induction accepts generalizing meters with
  | nil => exact ⟨fun _ => by simp, fun _ => ⟨rfl, by simp⟩⟩
  | cons accept accepts ih =>
    let next := onAccept { meters, accepting := true } accept
    by_cases hthrow : accept.Throws
    · refine iff_of_false (fun h => ?_) (fun h => h accept List.mem_cons_self hthrow)
      have hnext : next.accepting = false := by
        rw [← Bool.not_eq_true, onAccept_accepting rfl]
        exact not_not.mpr hthrow
      have hlive := h.1
      have hserve : serve { meters, accepting := true } (accept :: accepts) = serve next accepts :=
        rfl
      rw [hserve, serve_ended hnext, hnext] at hlive
      cases hlive
    · have hnext : next = { meters := next.meters, accepting := true } := by
        have hlive : next.accepting = true := (onAccept_accepting rfl accept).mpr hthrow
        rw [← hlive]
      have hrest := @ih next.meters
      rw [← hnext] at hrest
      rw [List.forall_mem_cons, ← hrest]
      constructor
      · intro h
        exact ⟨hthrow, h.1, fun a ha => h.2 a (List.mem_cons_of_mem _ ha)⟩
      · rintro ⟨-, hlive, hmem⟩
        refine ⟨hlive, fun a ha remote hremote => ?_⟩
        rcases List.mem_cons.mp ha with rfl | ha
        · exact mem_serve accepts ((mem_onAccept rfl a _).mpr (.inr ⟨remote, hremote, rfl⟩))
        · exact hmem a ha remote hremote

/-- A peer that connects and closes without a byte ends the server. -/
theorem silent_peer_ends_registration :
    ¬ ∀ (meters : MeterSet) (accepts : List Accept),
      Registered { meters, accepting := true } accepts := by
  intro h
  have hserve := h ⟨∅, by simp⟩
    [.connection ⟨some ⟨"::1".toList, by decide, by decide, by decide⟩, none⟩]
  exact absurd hserve.1 (by simp [serve, onAccept, start])

end Registration

end AccessPoint
