import AccessPoint.Lib.Mailbox
import AccessPoint.Request.Part
import AccessPoint.Request.Round
import AccessPoint.Script.Independence
import AccessPoint.Script.Report
import AccessPoint.Server.Registration
import AccessPoint.Websocket.HESConfig

/-!
# Meters, head-end and access point

The three programs together. Meters register with the head-end; its main loop writes a request for
all of them to the access point, by `multiRead`, unless its configuration says `route_only`; the
access point reads the meters of the last request it has got, and prints the report of each round.

A schedule interleaves the completions of the head-end's registration server, the changes of its
configuration, the steps of its main loop, the reads of the access point's registration connections
and the critical sections of its main loop. The set of meters is read in one step. Of a connection
to the access point it is assumed, as in `AccessPoint.Request.Delivery`, that its object stays alive
until its read completes, and that it is the head-end that made it. The code does not see to the
first: who owns the object is the subject of `AccessPoint.Server.Ownership`. The rounds are those of
`AccessPoint.Script.RunScript`, with what is assumed there of transports and meters.

`tried_registered` says which addresses the access point tries, whatever the schedule: those of a
set of registered meters, from the first on and in its order, of which only the last may be cut
short. It says nothing of a program in which the read of a destroyed connection is interpreted.
-/

namespace AccessPoint

open Delimited Script

/-- What the head-end asks of the access point. -/
structure Request where
  payloadSize : HESConfig.Payload
  meters : MeterSet

/-- As it is written. -/
def Request.text (request : Request) : StdString :=
  multiReadRequest request.payloadSize request.meters

/-- Where the head-end's main loop stands. An exception of `multiRead` ends the program. -/
inductive HesAt where
  | routeOnly
  | multiRead
  | ended
  deriving DecidableEq, Repr

/-- How the calls of `multiRead` on its socket come out: `asio::connect` throws, or `asio::write`
throws when it has written some of the request, or neither does. -/
inductive Sent where
  | refused
  | broken (count : Nat)
  | written
  deriving DecidableEq, Repr

/-- The programs. `requests` holds what was written to the access point's connections whose read is
outstanding; `readings` and `visits` belong to the round in progress, and `output` is what the
access point has printed. `sent`, `visits` and `rounds` are kept for the record. -/
structure Fleet where
  registration : Registration.Server
  hesConfig : HESConfig
  hesAt : HesAt
  requests : List StdString
  ap : Rounds
  library : IoService.Loop Library Handler
  readings : List MeterReading
  output : List StdString
  sent : List Request
  visits : List Visit
  rounds : List (List Visit)

/-- What happens. A read completes on a connection whose object is alive, and returns at most
`count` bytes if it succeeds; `meter` is how the meter that is tried next behaves. -/
inductive FleetEvent where
  | accept (accept : Registration.Accept)
  | configure (hesConfig : HESConfig)
  | headEnd (sent : Sent)
  | readDone (which : Nat) (count : Option Nat)
  | accessPoint (stray : Config.Payload) (meter : Meter)

namespace Fleet

/-- The set of no meter. -/
def noMeters : MeterSet :=
  { names := ∅, valid := fun name h => absurd h (Finset.notMem_empty name) }

/-- No meter has registered. -/
def start (hesConfig : HESConfig) : Fleet :=
  { registration := { meters := noMeters, accepting := true }
    hesConfig
    hesAt := .routeOnly
    requests := []
    ap := .atStart
    library := Script.fresh
    readings := []
    output := []
    sent := []
    visits := []
    rounds := [] }

/-- `multiRead`, from its `get_payload_size()` on. -/
def multiRead (s : Fleet) (sent : Sent) : Fleet :=
  let request : Request :=
    { payloadSize := s.hesConfig.payloadSize, meters := s.registration.meters }
  match sent with
  | .refused => { s with hesAt := .ended }
  | .broken count =>
    { s with hesAt := .ended, requests := s.requests ++ [request.text.take count] }
  | .written =>
    { s with
      hesAt := .routeOnly
      requests := s.requests ++ [request.text]
      sent := s.sent ++ [request] }

/-- What the one read of a connection returns of its stream. -/
def firstRead (stream : StdString) : Option Nat → ReadResult
  | none => .error
  | some count =>
    match stream.take (min (max 1 count) maxLength) with
    | [] => .error
    | bytes => .success bytes

/-- A critical section of the access point's main loop, with what it does before the next. -/
def accessPoint (s : Fleet) (stray : Config.Payload) (meter : Meter) : Fleet :=
  let ap := s.ap.step (.main stray)
  match s.ap.phase with
  | .count => { s with ap }
  | .meters => { s with ap, readings := [], visits := [] }
  | .script (name :: _) =>
    let visit : Visit := (s.ap.cfg.payloadSize.getD stray, { meter with name })
    let read := readMeter visit.1 visit.2 s.library
    { s with
      ap
      library := read.1
      readings := s.readings ++ [read.2]
      visits := s.visits ++ [visit] }
  | .script [] =>
    { s with
      ap
      readings := []
      output := s.output ++ [printReadings s.readings]
      visits := []
      rounds := s.rounds ++ [s.visits] }

/-- One event. -/
def step (s : Fleet) : FleetEvent → Fleet
  | .accept accept =>
    if s.hesAt = .ended then s
    else { s with registration := Registration.onAccept s.registration accept }
  | .configure hesConfig => { s with hesConfig }
  | .headEnd sent =>
    match s.hesAt with
    | .routeOnly => if s.hesConfig.routeOnly then s else { s with hesAt := .multiRead }
    | .multiRead => s.multiRead sent
    | .ended => s
  | .readDone which count =>
    match s.requests[which]? with
    | none => s
    | some stream =>
      { s with
        requests := s.requests.eraseIdx which
        ap := { s.ap with cfg := TcpConnection.handleRead s.ap.cfg (firstRead stream count) } }
  | .accessPoint stray meter => s.accessPoint stray meter

/-! ## Which meters are tried -/

/-- The names of a visit's meter. -/
def visited (visits : List Visit) : List StdString :=
  visits.map (·.2.name)

/-- The meters of the round in progress that have not been tried. -/
def todo (s : Fleet) : List StdString :=
  match s.ap.phase with
  | .script todo => todo
  | _ => []

/-- The addresses begin those of a set of registered meters. -/
def Known (s : Fleet) (names : List StdString) : Prop :=
  ∃ meters : MeterSet, meters.names ⊆ s.registration.meters.names ∧ Begins names meters.inOrder

/-- What is written to a connection begins a request for registered meters. -/
def Requested (s : Fleet) (stream : StdString) : Prop :=
  ∃ request : Request, request.meters.names ⊆ s.registration.meters.names ∧
    stream <+: request.text

/-- All that the access point is going to try, tries or has tried are addresses of registered
meters. -/
structure Tries (s : Fleet) : Prop where
  list : s.Known s.ap.cfg.meters
  round : s.Known (visited s.visits ++ s.todo)
  rounds : ∀ round ∈ s.rounds, s.Known (visited round)

/-- The same, and of all requests on their way. -/
structure Registered (s : Fleet) : Prop extends Tries s where
  requests : ∀ stream ∈ s.requests, s.Requested stream

theorem known_nil (s : Fleet) : s.Known [] :=
  ⟨s.registration.meters, Finset.Subset.refl _, .nil _⟩

theorem Registered.start (hesConfig : HESConfig) : (start hesConfig).Registered :=
  ⟨⟨known_nil _, known_nil _, nofun⟩, nofun⟩

variable {s s' : Fleet}

/-- What is known stays known while no meter is forgotten. -/
theorem Known.mono (hmeters : s.registration.meters.names ⊆ s'.registration.meters.names)
    {names : List StdString} (h : s.Known names) : s'.Known names := by
  obtain ⟨meters, hsubset, hbegins⟩ := h
  exact ⟨meters, hsubset.trans hmeters, hbegins⟩

theorem Requested.mono (hmeters : s.registration.meters.names ⊆ s'.registration.meters.names)
    {stream : StdString} (h : s.Requested stream) : s'.Requested stream := by
  obtain ⟨request, hsubset, hstream⟩ := h
  exact ⟨request, hsubset.trans hmeters, hstream⟩

/-- A step of another program changes nothing of this. -/
theorem Registered.of_same (h : s.Registered)
    (hmeters : s.registration.meters.names ⊆ s'.registration.meters.names)
    (hrequests : ∀ stream ∈ s'.requests, stream ∈ s.requests ∨ s'.Requested stream)
    (hap : s'.ap = s.ap) (hvisits : s'.visits = s.visits) (hrounds : s'.rounds = s.rounds) :
    s'.Registered := by
  have htodo : s'.todo = s.todo := by rw [todo, todo, hap]
  refine ⟨⟨?_, ?_, ?_⟩, ?_⟩
  · rw [hap]
    exact h.list.mono hmeters
  · rw [hvisits, htodo]
    exact h.round.mono hmeters
  · rw [hrounds]
    exact fun round hround => (h.rounds round hround).mono hmeters
  · intro stream hstream
    rcases hrequests stream hstream with hold | hnew
    · exact (h.requests stream hold).mono hmeters
    · exact hnew

/-- A connection is accepted: the set of meters grows. -/
theorem subset_onAccept (server : Registration.Server) (accept : Registration.Accept) :
    server.meters.names ⊆ (Registration.onAccept server accept).meters.names := by
  intro name hname
  cases haccepting : server.accepting with
  | true => exact (Registration.mem_onAccept haccepting accept name).mpr (.inl hname)
  | false =>
    have hsame : Registration.onAccept server accept = server :=
      if_neg (by rw [haccepting]; exact Bool.false_ne_true)
    rw [hsame]
    exact hname

/-- The head-end writes a request for the meters that are registered, or a beginning of it. -/
theorem Registered.multiRead (h : s.Registered) (sent : Sent) : (s.multiRead sent).Registered := by
  let request : Request :=
    { payloadSize := s.hesConfig.payloadSize, meters := s.registration.meters }
  have hnew : ∀ {s' : Fleet} {stream : StdString}, s'.registration = s.registration →
      stream <+: request.text → s'.Requested stream := by
    intro s' stream hregistration hprefix
    exact ⟨request, hregistration ▸ Finset.Subset.refl _, hprefix⟩
  cases sent with
  | refused => exact h.of_same (Finset.Subset.refl _) (fun stream hmem => .inl hmem) rfl rfl rfl
  | broken count =>
    refine h.of_same (Finset.Subset.refl _) ?_ rfl rfl rfl
    intro stream hmem
    rcases List.mem_append.mp hmem with hold | hlast
    · exact .inl hold
    · rw [List.mem_singleton.mp hlast]
      exact .inr (hnew rfl (List.take_prefix _ _))
  | written =>
    refine h.of_same (Finset.Subset.refl _) ?_ rfl rfl rfl
    intro stream hmem
    rcases List.mem_append.mp hmem with hold | hlast
    · exact .inl hold
    · rw [List.mem_singleton.mp hlast]
      exact .inr (hnew rfl (List.prefix_refl _))

/-- What a read of such a stream leaves on the access point's list. -/
theorem known_handleRead (h : s.Known s.ap.cfg.meters) {stream : StdString}
    (hstream : s.Requested stream) (count : Option Nat) :
    s.Known (TcpConnection.handleRead s.ap.cfg (firstRead stream count)).meters := by
  obtain ⟨request, hsubset, hprefix⟩ := hstream
  cases count with
  | none => exact h
  | some count =>
    simp only [firstRead]
    split
    next => exact h
    next bytes hne =>
      obtain ⟨rest, hrest⟩ := (List.take_prefix (min (max 1 count) maxLength) stream).trans hprefix
      generalize hbytes : stream.take (min (max 1 count) maxLength) = bytes at hne hrest
      have htake : bytes = request.text.take bytes.length := by rw [← hrest, List.take_left]
      have hpos : bytes.length ≠ 0 := fun hzero => hne (List.length_eq_zero_iff.mp hzero)
      have hpart := interpret_take s.ap.cfg request.payloadSize request.meters hpos
      rw [← Request.text, ← htake] at hpart
      show s.Known (s.ap.cfg.interpret bytes).meters
      rw [hpart]
      rcases begins_afterPart request.payloadSize request.meters s.ap.cfg with hsame | hbegins
      · rw [hsame]
        exact h
      · exact ⟨request.meters, hsubset, hbegins⟩

/-- The main loop of the access point works its snapshot off. -/
theorem Registered.accessPoint (h : s.Registered) (stray : Config.Payload) (meter : Meter) :
    (s.accessPoint stray meter).Registered := by
  have hround := h.round
  simp only [Fleet.accessPoint]
  cases hphase : s.ap.phase with
  | count =>
    rw [todo, hphase, List.append_nil] at hround
    refine ⟨⟨?_, ?_, h.rounds⟩, h.requests⟩
    · simp only [Rounds.step, hphase]
      exact h.list
    · simp only [todo, Rounds.step, hphase, List.append_nil]
      exact hround
  | meters =>
    refine ⟨⟨?_, ?_, h.rounds⟩, h.requests⟩
    · simp only [Rounds.step, hphase]
      exact h.list
    · simp only [todo, Rounds.step, hphase]
      exact h.list
  | script names =>
    rw [todo, hphase] at hround
    cases names with
    | cons name names =>
      refine ⟨⟨?_, ?_, h.rounds⟩, h.requests⟩
      · simp only [Rounds.step, hphase]
        exact h.list
      · simp only [todo, Rounds.step, hphase, visited, List.map_append, List.map_singleton,
          List.append_assoc]
        exact hround
    | nil =>
      rw [List.append_nil] at hround
      refine ⟨⟨?_, ?_, ?_⟩, h.requests⟩
      · simp only [Rounds.step, hphase, Config.clear]
        exact known_nil _
      · simp only [todo, Rounds.step, hphase, visited, List.map_nil, List.append_nil]
        exact known_nil _
      · intro round hmem
        rcases List.mem_append.mp hmem with hold | hlast
        · exact h.rounds round hold
        · rw [List.mem_singleton.mp hlast]
          exact hround

/-- **One step of any program.** -/
theorem Registered.step (h : s.Registered) (event : FleetEvent) : (s.step event).Registered := by
  cases event with
  | accept accept =>
    simp only [Fleet.step]
    split
    next => exact h
    next =>
      exact h.of_same (subset_onAccept s.registration accept) (fun stream hmem => .inl hmem) rfl rfl
        rfl
  | configure hesConfig =>
    exact h.of_same (Finset.Subset.refl _) (fun stream hmem => .inl hmem) rfl rfl rfl
  | headEnd sent =>
    simp only [Fleet.step]
    split
    next =>
      split
      next => exact h
      next => exact h.of_same (Finset.Subset.refl _) (fun stream hmem => .inl hmem) rfl rfl rfl
    next => exact h.multiRead sent
    next => exact h
  | readDone which count =>
    simp only [Fleet.step]
    cases hstream : s.requests[which]? with
    | none => exact h
    | some stream =>
      have hrequested := h.requests stream (List.mem_of_getElem? hstream)
      exact ⟨⟨known_handleRead h.list hrequested count, h.round, h.rounds⟩,
        fun stream hmem => h.requests stream (List.mem_of_mem_eraseIdx hmem)⟩
  | accessPoint stray meter => exact h.accessPoint stray meter

/-- **Which addresses the access point tries**, in every state of every run: the list it holds, what
is left of the round it is in and what every round has tried are each a beginning of some set of
registered addresses, in its order, of which only the last may be cut short. The connections'
objects are taken to stay alive until their reads complete. That any meter is tried, or tried for
the last request, is not said here. -/
theorem tried_registered (hesConfig : HESConfig) (events : List FleetEvent) :
    Run.Always step Tries (start hesConfig) events :=
  (Run.along_true events).always (I := Registered) (Registered.start hesConfig)
    (fun _ event hs _ => hs.step event) (fun _ hs => hs.toTries)

end Fleet

end AccessPoint
