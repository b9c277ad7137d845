import AccessPoint.System.Fleet

/-!
# What becomes of the head-end's requests

Between the head-end and the access point there is a `Mailbox`: a request is on its way until the
read of its connection completes, waits in the access point's `Config` until a round is over or the
next request comes, and the report of the round is the answer to it.

`Represents.step` is the simulation, for schedules in which the first read of a connection returns
all of its stream or fails, and does not complete while the access point is inside a round.
`requests_accounted` is the account of the requests that comes of it. `reports_read_back` adds what
the answers say: a reader of JSON finds in each report the meters of the request it answers, in the
order of the head-end's set, and for each what a round for that meter alone would have found.
With meters that are connected and answer in time that is what they hold (`held_values_reported`).

All of it takes the object of a connection to the access point to stay alive until its read
completes, and the close callback of a deleted transport, which an aborted read calls, to do
nothing.
-/

namespace AccessPoint.Fleet

open Json Script

/-! ## The mailbox -/

/-- What a visit asks of whom. -/
def ask (visit : Visit) : Config.Payload × StdString :=
  (visit.1, visit.2.name)

/-- What a round for a request asks of whom, in turn. -/
def asks : Option Request → List (Config.Payload × StdString)
  | none => []
  | some request => request.meters.inOrder.map (request.payloadSize.toConfig, ·)

/-- The access point is inside a round. -/
def InRound (s : Fleet) : Prop :=
  ∃ todo, s.ap.phase = .script todo

/-- The head-end writes its request whole, or not at all; the first read of a connection returns the
whole request, while the access point is outside its rounds. -/
def Calm (s : Fleet) : FleetEvent → Prop
  | .headEnd (.broken _) => s.hesAt ≠ .multiRead
  | .readDone which (some count) =>
    ¬ s.InRound ∧
      ∀ stream, s.requests[which]? = some stream → stream.length ≤ min count maxLength
  | _ => True

/-- What an event is to the mailbox. -/
def posted (s : Fleet) : FleetEvent → List (Mailbox.Event Request)
  | .headEnd .written =>
    match s.hesAt with
    | .multiRead =>
      [.send { payloadSize := s.hesConfig.payloadSize, meters := s.registration.meters }]
    | _ => []
  | .readDone which (some _) => [.arrive which]
  | .readDone which none => [.lose which]
  | .accessPoint _ _ =>
    match s.ap.phase with
    | .script [] => [.answer]
    | _ => []
  | _ => []

/-- The programs hold what the mailbox does: the texts of the requests on their way, the list and
the payload size of the one that waits, and a round for each answer. A round in progress is for the
request that waits. -/
structure Represents (m : Mailbox Request) (s : Fleet) : Prop where
  sent : s.sent = m.sent
  requests : s.requests = m.onTheWay.map Request.text
  list : s.ap.cfg.meters = (asks m.waiting).map Prod.snd
  payloadSize : ∀ request ∈ m.waiting, s.ap.cfg.payloadSize = some request.payloadSize.toConfig
  round : ∀ todo, s.ap.phase = .script todo →
    ∃ rest, asks m.waiting = s.visits.map ask ++ rest ∧ rest.map Prod.snd = todo
  idle : ¬ s.InRound → s.visits = []
  rounds : s.rounds.map (List.map ask) = m.answered.map asks

theorem Represents.start (hesConfig : HESConfig) : Represents .empty (start hesConfig) where
  sent := rfl
  requests := rfl
  list := rfl
  payloadSize := nofun
  round := nofun
  idle _ := rfl
  rounds := rfl

variable {m : Mailbox Request} {s s' : Fleet}

theorem asks_snd (request : Request) :
    (asks (some request)).map Prod.snd = request.meters.inOrder := by
  rw [asks, List.map_map]
  exact List.map_id _

/-- What is asked of a request is of its payload size. -/
theorem fst_of_mem_asks {waiting : Option Request} {entry : Config.Payload × StdString}
    (h : entry ∈ asks waiting) : ∃ request ∈ waiting, entry.1 = request.payloadSize.toConfig := by
  cases waiting with
  | none => exact absurd h List.not_mem_nil
  | some request =>
    obtain ⟨name, -, rfl⟩ := List.mem_map.mp h
    exact ⟨request, rfl, rfl⟩

/-- A step that neither touches the access point nor writes to it. -/
theorem Represents.of_same (h : Represents m s) (hsent : s'.sent = s.sent)
    (hrequests : s'.requests = s.requests) (hap : s'.ap = s.ap) (hvisits : s'.visits = s.visits)
    (hrounds : s'.rounds = s.rounds) : Represents m s' := by
  refine ⟨hsent.trans h.sent, hrequests.trans h.requests, ?_, ?_, ?_, ?_, ?_⟩
  · rw [hap]
    exact h.list
  · rw [hap]
    exact h.payloadSize
  · rw [hap, hvisits]
    exact h.round
  · rw [InRound, hap, hvisits]
    exact h.idle
  · rw [hrounds]
    exact h.rounds

/-- The head-end posts its request. -/
theorem Represents.headEnd (h : Represents m s) {sent : Sent}
    (hcalm : s.Calm (.headEnd sent)) :
    Represents ((s.posted (.headEnd sent)).foldl Mailbox.step m) (s.step (.headEnd sent)) := by
  cases hat : s.hesAt with
  | ended =>
    have hposted : s.posted (.headEnd sent) = [] := by cases sent <;> simp only [posted, hat]
    rw [hposted]
    simp only [Fleet.step, hat]
    exact h
  | routeOnly =>
    have hposted : s.posted (.headEnd sent) = [] := by cases sent <;> simp only [posted, hat]
    rw [hposted]
    simp only [Fleet.step, hat]
    split
    next => exact h
    next => exact h.of_same rfl rfl rfl rfl rfl
  | multiRead =>
    simp only [Fleet.step, hat]
    cases sent with
    | refused => exact h.of_same rfl rfl rfl rfl rfl
    | broken count => exact absurd hat hcalm
    | written =>
      simp only [posted, hat]
      refine { h with sent := ?_, requests := ?_ }
      · exact congrArg (· ++ _) h.sent
      · show s.requests ++ [_] = (m.onTheWay ++ [_]).map Request.text
        rw [h.requests, List.map_append, List.map_singleton]

/-- A read that returns all of a request makes it the one that waits. -/
theorem handleRead_whole {request : Request} {count : Nat}
    (hwhole : request.text.length ≤ min count maxLength) (cfg : Config) :
    TcpConnection.handleRead cfg (firstRead request.text (some count)) =
      { meters := request.meters.inOrder, payloadSize := some request.payloadSize.toConfig } := by
  have hne : request.text ≠ [] := multiReadRequest_ne_nil _ _
  have htake : request.text.take (min (max 1 count) maxLength) = request.text := by
    refine List.take_of_length_le ?_
    omega
  have hread : firstRead request.text (some count) = .success request.text := by
    simp only [firstRead, htake]
  rw [hread]
  show cfg.interpret (multiReadRequest request.payloadSize request.meters) = _
  rw [Config.interpret, construct_request]

/-- A read of the access point takes a request off its way. -/
theorem Represents.readDone (h : Represents m s) {which : Nat} {count : Option Nat}
    (hcalm : s.Calm (.readDone which count)) :
    Represents ((s.posted (.readDone which count)).foldl Mailbox.step m)
      (s.step (.readDone which count)) := by
  have hget : s.requests[which]? = (m.onTheWay[which]?).map Request.text := by
    rw [h.requests, List.getElem?_map]
  cases hrequest : m.onTheWay[which]? with
  | none =>
    rw [hrequest, Option.map_none] at hget
    cases count with
    | none =>
      simp only [posted, List.foldl_cons, List.foldl_nil, Mailbox.step, hrequest, Fleet.step, hget]
      exact h
    | some count =>
      simp only [posted, List.foldl_cons, List.foldl_nil, Mailbox.step, hrequest, Fleet.step, hget]
      exact h
  | some request =>
    rw [hrequest, Option.map_some] at hget
    have hrest : s.requests.eraseIdx which = (m.onTheWay.eraseIdx which).map Request.text := by
      rw [h.requests, List.eraseIdx_map]
    cases count with
    | none =>
      simp only [posted, List.foldl_cons, List.foldl_nil, Mailbox.step, hrequest, Fleet.step, hget]
      exact { h with requests := hrest }
    | some count =>
      obtain ⟨hidle, hwhole⟩ := hcalm
      have hread := handleRead_whole (hwhole _ hget) s.ap.cfg
      simp only [posted, List.foldl_cons, List.foldl_nil, Mailbox.step, hrequest, Fleet.step, hget,
        hread]
      refine ⟨h.sent, hrest, ?_, ?_, ?_, h.idle, h.rounds⟩
      · exact (asks_snd request).symm
      · intro request' hmem
        cases hmem
        rfl
      · intro todo hphase
        exact absurd ⟨todo, hphase⟩ hidle

theorem not_inRound {phase : Phase} (hphase : s.ap.phase = phase)
    (hother : ∀ todo, phase ≠ .script todo) : ¬ s.InRound := by
  rintro ⟨todo, htodo⟩
  exact hother todo (hphase.symm.trans htodo)

/-- **The main loop of the access point works off the request that waits, and answers it.** -/
theorem Represents.accessPoint (h : Represents m s) (stray : Config.Payload) (meter : Meter) :
    Represents ((s.posted (.accessPoint stray meter)).foldl Mailbox.step m)
      (s.accessPoint stray meter) := by
  cases hphase : s.ap.phase with
  | count =>
    have hvisits := h.idle (not_inRound hphase (by simp))
    simp only [posted, Fleet.accessPoint, hphase, List.foldl_nil]
    refine ⟨h.sent, h.requests, ?_, ?_, ?_, fun _ => hvisits, h.rounds⟩
    · simp only [Rounds.step, hphase]
      exact h.list
    · simp only [Rounds.step, hphase]
      exact h.payloadSize
    · simp only [Rounds.step, hphase]
      intro todo htodo
      cases htodo
  | meters =>
    simp only [posted, Fleet.accessPoint, hphase, List.foldl_nil]
    refine ⟨h.sent, h.requests, ?_, ?_, ?_, fun _ => rfl, h.rounds⟩
    · simp only [Rounds.step, hphase]
      exact h.list
    · simp only [Rounds.step, hphase]
      exact h.payloadSize
    · simp only [Rounds.step, hphase, Phase.script.injEq]
      intro todo htodo
      exact ⟨asks m.waiting, rfl, h.list.symm.trans htodo⟩
  | script names =>
    obtain ⟨rest, hasks, hrest⟩ := h.round names hphase
    cases names with
    | cons name names =>
      obtain ⟨entry, rest, rfl, rfl, htail⟩ := List.map_eq_cons_iff.mp hrest
      have hmem : entry ∈ asks m.waiting := by
        rw [hasks]
        exact List.mem_append_right _ List.mem_cons_self
      obtain ⟨request, hrequest, hfst⟩ := fst_of_mem_asks hmem
      have hpayload := h.payloadSize request hrequest
      simp only [posted, Fleet.accessPoint, hphase, List.foldl_nil]
      refine ⟨h.sent, h.requests, ?_, ?_, ?_, ?_, h.rounds⟩
      · simp only [Rounds.step, hphase]
        exact h.list
      · simp only [Rounds.step, hphase]
        exact h.payloadSize
      · simp only [Rounds.step, hphase, Phase.script.injEq]
        intro todo htodo
        refine ⟨rest, ?_, htail.trans htodo⟩
        rw [hasks, List.map_append, List.append_assoc, hpayload, Option.getD_some, ← hfst]
        rfl
      · intro hidle
        refine absurd ⟨names, ?_⟩ hidle
        simp only [Rounds.step, hphase]
    | nil =>
      rw [List.map_eq_nil_iff] at hrest
      subst hrest
      rw [List.append_nil] at hasks
      simp only [posted, Fleet.accessPoint, hphase, List.foldl_cons, List.foldl_nil, Mailbox.step]
      refine ⟨h.sent, h.requests, ?_, ?_, ?_, fun _ => rfl, ?_⟩
      · simp only [Rounds.step, hphase, Config.clear]
        rfl
      · intro request hrequest
        cases hrequest
      · simp only [Rounds.step, hphase]
        intro todo htodo
        cases htodo
      · rw [List.map_append, List.map_append, h.rounds, List.map_singleton, List.map_singleton,
          hasks]

/-- **A calm step of the programs is a step of the mailbox, or none.** -/
theorem Represents.step (h : Represents m s) {event : FleetEvent} (hcalm : s.Calm event) :
    Represents ((s.posted event).foldl Mailbox.step m) (s.step event) := by
  cases event with
  | accept accept =>
    simp only [Fleet.step]
    split
    next => exact h
    next => exact h.of_same rfl rfl rfl rfl rfl
  | configure hesConfig => exact h.of_same rfl rfl rfl rfl rfl
  | headEnd sent => exact h.headEnd hcalm
  | readDone which count => exact h.readDone hcalm
  | accessPoint stray meter => exact h.accessPoint stray meter

/-- **A calm run of the programs is a run of the mailbox.** -/
theorem represents_run (hesConfig : HESConfig) {events : List FleetEvent}
    (hcalm : Run.Along Fleet.step Calm (start hesConfig) events) :
    Represents
      ((Run.views Fleet.step posted (start hesConfig) events).foldl Mailbox.step .empty)
      (events.foldl Fleet.step (start hesConfig)) :=
  hcalm.simulates (R := fun s m => Represents m s) posted (.start hesConfig)
    fun _ _ _ h hstep => h.step hstep

/-- **The account of the requests**: in a calm run each request that the head-end has written is
still on its way, or has been lost or replaced, or waits, or has been answered by one round; they
are answered in the order in which they arrived, and the last that arrived is answered or waits.
Every round asks exactly the meters of the request it answers, in the order of the set, for the
object of its payload size; a round that answers none asks none. The connections' objects are taken
to stay alive until their reads complete. -/
theorem requests_accounted (hesConfig : HESConfig) (events : List FleetEvent)
    (hcalm : Run.Along Fleet.step Calm (start hesConfig) events) :
    let m := (Run.views Fleet.step posted (start hesConfig) events).foldl Mailbox.step .empty
    m.Accounts ∧ Represents m (events.foldl Fleet.step (start hesConfig)) :=
  ⟨Mailbox.accounts_run _, represents_run hesConfig hcalm⟩

/-! ## The reports -/

/-- All visits so far. -/
def allVisits (s : Fleet) : List Visit :=
  s.rounds.flatten ++ s.visits

/-- What the access point has read and printed is what the visits so far read on its one
`LinuxBaseLibrary`, round by round. -/
structure Printed (s : Fleet) : Prop where
  library : s.library = (readVisits s.allVisits Script.fresh).1
  output : ∃ reports : List (List MeterReading), s.output = reports.map printReadings ∧
    reports.map List.length = s.rounds.map List.length ∧
    reports.flatten ++ s.readings = (readVisits s.allVisits Script.fresh).2
  idle : ¬ s.InRound → s.visits = [] ∧ s.readings = []

theorem Printed.start (hesConfig : HESConfig) : (start hesConfig).Printed :=
  ⟨rfl, ⟨[], rfl, rfl, rfl⟩, fun _ => ⟨rfl, rfl⟩⟩

theorem Printed.of_same (h : s.Printed) (hphase : s'.ap.phase = s.ap.phase)
    (hlibrary : s'.library = s.library) (hreadings : s'.readings = s.readings)
    (houtput : s'.output = s.output) (hvisits : s'.visits = s.visits)
    (hrounds : s'.rounds = s.rounds) : s'.Printed := by
  have hall : s'.allVisits = s.allVisits := by rw [allVisits, allVisits, hrounds, hvisits]
  refine ⟨?_, ?_, ?_⟩
  · rw [hlibrary, hall]
    exact h.library
  · rw [houtput, hrounds, hreadings, hall]
    exact h.output
  · rw [InRound, hphase, hvisits, hreadings]
    exact h.idle

/-- The readings of the round in progress are those of its visits. -/
theorem Printed.readings_length (h : s.Printed) : s.readings.length = s.visits.length := by
  obtain ⟨reports, -, hlengths, hread⟩ := h.output
  have htotal := congrArg List.length hread
  rw [readVisits_length, allVisits, List.length_append, List.length_append, List.length_flatten,
    List.length_flatten, hlengths] at htotal
  omega

theorem Printed.accessPoint (h : s.Printed) (stray : Config.Payload) (meter : Meter) :
    (s.accessPoint stray meter).Printed := by
  obtain ⟨reports, houtput, hlengths, hread⟩ := h.output
  cases hphase : s.ap.phase with
  | count =>
    have hnone := h.idle (not_inRound hphase (by simp))
    simp only [Fleet.accessPoint, hphase]
    exact ⟨h.library, h.output, fun _ => hnone⟩
  | meters =>
    obtain ⟨hvisits, hreadings⟩ := h.idle (not_inRound hphase (by simp))
    simp only [Fleet.accessPoint, hphase]
    rw [allVisits, hvisits] at hread
    rw [hreadings] at hread
    have hlibrary := h.library
    rw [allVisits, hvisits] at hlibrary
    exact ⟨hlibrary, ⟨reports, houtput, hlengths, hread⟩, fun _ => ⟨rfl, rfl⟩⟩
  | script names =>
    cases names with
    | cons name names =>
      simp only [Fleet.accessPoint, hphase]
      have hone : ∀ visit : Visit, readVisits (s.allVisits ++ [visit]) Script.fresh =
          ((readMeter visit.1 visit.2 s.library).1,
            (readVisits s.allVisits Script.fresh).2 ++
              [(readMeter visit.1 visit.2 s.library).2]) := by
        intro visit
        rw [readVisits_append, ← h.library]
        rfl
      have hvisit := hone (s.ap.cfg.payloadSize.getD stray, { meter with name })
      rw [allVisits, List.append_assoc] at hvisit
      refine ⟨?_, ⟨reports, houtput, hlengths, ?_⟩, ?_⟩
      · exact (congrArg Prod.fst hvisit).symm
      · rw [← List.append_assoc, hread]
        exact (congrArg Prod.snd hvisit).symm
      · intro hout
        refine absurd ⟨names, ?_⟩ hout
        simp only [Rounds.step, hphase]
    | nil =>
      have hlength := h.readings_length
      simp only [Fleet.accessPoint, hphase]
      have hall : (s.rounds ++ [s.visits]).flatten ++ [] = s.allVisits := by
        rw [List.flatten_append, List.flatten_singleton, List.append_nil, allVisits]
      refine ⟨?_, ⟨reports ++ [s.readings], ?_, ?_, ?_⟩, fun _ => ⟨rfl, rfl⟩⟩
      · rw [allVisits, hall]
        exact h.library
      · rw [houtput, List.map_append, List.map_singleton]
      · rw [List.map_append, List.map_append, hlengths, List.map_singleton, List.map_singleton,
          hlength]
      · rw [allVisits, hall, List.flatten_append, List.flatten_singleton, List.append_nil]
        exact hread

theorem Printed.step (h : s.Printed) (event : FleetEvent) : (s.step event).Printed := by
  cases event with
  | accept accept =>
    simp only [Fleet.step]
    split
    next => exact h
    next => exact h.of_same rfl rfl rfl rfl rfl rfl
  | configure hesConfig => exact h.of_same rfl rfl rfl rfl rfl rfl
  | headEnd sent =>
    simp only [Fleet.step]
    split
    next =>
      split
      next => exact h
      next => exact h.of_same rfl rfl rfl rfl rfl rfl
    next => cases sent <;> exact h.of_same rfl rfl rfl rfl rfl rfl
    next => exact h
  | readDone which count =>
    simp only [Fleet.step]
    split
    next => exact h
    next => exact h.of_same rfl rfl rfl rfl rfl rfl
  | accessPoint stray meter => exact h.accessPoint stray meter

theorem printed_run (hesConfig : HESConfig) (events : List FleetEvent) :
    (events.foldl Fleet.step (start hesConfig)).Printed :=
  Run.invariant Fleet.step _ events (.start hesConfig) fun _ event h => h.step event

/-- **The reports are of the visits' own readings**, round by round, if no visit has disturbed a
later one. -/
theorem Printed.reports_eq (h : s.Printed) (hquiet : Undisturbed 0 s.allVisits) :
    s.output = s.rounds.map fun round => printReadings (round.map Visit.own) := by
  obtain ⟨reports, houtput, hlengths, hread⟩ := h.output
  rw [(boundary_fresh.readVisits_iff s.allVisits).mpr hquiet, allVisits, List.map_append] at hread
  have hlength : reports.flatten.length = (s.rounds.flatten.map Visit.own).length := by
    rw [List.length_map, List.length_flatten, List.length_flatten, hlengths]
  have hflatten := (List.append_inj hread hlength).1
  have hreports : reports = s.rounds.map (List.map Visit.own) := by
    refine List.eq_iff_flatten_eq.mpr ⟨?_, ?_⟩
    · rw [hflatten, List.map_flatten]
    · rw [hlengths, List.map_map]
      refine List.map_congr_left fun round _ => ?_
      exact (List.length_map Visit.own).symm
  rw [houtput, hreports, List.map_map]
  rfl

/-- **From the set of registered meters to the report.** In a calm run in which no visit disturbs
a later one and all texts are plain, each round asks the meters of the request it answers, in the
order of the head-end's set, and a reader of JSON finds in its report an entry for each of them in
that order, with what a round for that meter alone would have found. What it would have found is the
meter's own reading, whatever the meters before it did; that a meter answers at all is not said.
Connection objects are taken to stay alive until their reads complete, and the close callback of a
deleted transport to do nothing. -/
theorem reports_read_back (hesConfig : HESConfig) (events : List FleetEvent)
    (hcalm : Run.Along Fleet.step Calm (start hesConfig) events)
    (hquiet : Undisturbed 0 (events.foldl Fleet.step (start hesConfig)).allVisits)
    (hplain : ∀ round ∈ (events.foldl Fleet.step (start hesConfig)).rounds,
      ∀ visit ∈ round, (Visit.own visit).IsPlain) :
    let m := (Run.views Fleet.step posted (start hesConfig) events).foldl Mailbox.step .empty
    let s := events.foldl Fleet.step (start hesConfig)
    s.rounds.map (List.map ask) = m.answered.map asks ∧
      List.Forall₂ (fun round text => Parses text (reportValue (round.map Visit.own)))
        s.rounds s.output := by
  intro m s
  have hrepresents : Represents m s := represents_run hesConfig hcalm
  refine ⟨hrepresents.rounds, ?_⟩
  rw [show s.output = _ from (printed_run hesConfig events).reports_eq hquiet,
    List.forall₂_map_right_iff, List.forall₂_same]
  intro round hround
  refine (parses_report_iff _).mpr ?_
  intro mr hmr
  obtain ⟨visit, hvisit, rfl⟩ := List.mem_map.mp hmr
  exact hplain round hround visit hvisit

/-! ## What the meters hold -/

/-- The meter is connected in time, grants its association at once, and answers at once with the
text that it holds for the object. -/
structure Holds (meter : Meter) (obis text : StdString) : Prop where
  connects : meter.connects = true
  association : meter.association = some 0
  answer : meter.answer obis = some (0, text)

/-- What is entered for a meter that is asked, when the meters hold these values. -/
def held (value : StdString → StdString → StdString) (asked : Config.Payload × StdString) :
    MeterReading :=
  { meterAddr := asked.2, meterData := value asked.2 (objectFor asked.1) }

theorem Holds.own {visit : Visit} {value : StdString → StdString → StdString}
    (h : Holds visit.2 (objectFor visit.1) (value visit.2.name (objectFor visit.1))) :
    Visit.own visit = held value (ask visit) := by
  have hreading : visit.2.reading (objectFor visit.1) =
      value visit.2.name (objectFor visit.1) := by
    rw [Meter.reading, if_pos h.connects, h.association, h.answer]
    rfl
  rw [Visit.own, hreading]
  rfl

/-- Meters that are connected do not stop the loop. -/
theorem undisturbed_of_connects {visits : List Visit}
    (h : ∀ visit ∈ visits, visit.2.connects = true) (late : Nat) : Undisturbed late visits := by
  intro before visit after hsplit hstops
  have hmem : visit ∈ visits := by
    rw [hsplit]
    exact List.mem_append_right _ List.mem_cons_self
  obtain ⟨hreachable, -⟩ := Bool.and_eq_true_iff.mp (h visit hmem)
  obtain ⟨hfails, -⟩ := hstops
  rw [Meter.fails, hreachable] at hfails
  cases hfails

/-- **What the meters hold is what is reported.** In a calm run in which every meter that is tried
is connected and answers in time, a reader of JSON finds in each report, for the meters of the
request that it answers and in the order of the head-end's set, what they hold for its payload. It
is the purpose of the programs, from the registration of a meter to the line that is printed of it,
under the two assumptions on connections and transports and on runs that are calm. -/
theorem held_values_reported (hesConfig : HESConfig) (events : List FleetEvent)
    (hcalm : Run.Along Fleet.step Calm (start hesConfig) events)
    (value : StdString → StdString → StdString)
    (hholds : ∀ visit ∈ (events.foldl Fleet.step (start hesConfig)).allVisits,
      Holds visit.2 (objectFor visit.1) (value visit.2.name (objectFor visit.1)))
    (hplain : ∀ visit ∈ (events.foldl Fleet.step (start hesConfig)).allVisits,
      (held value (ask visit)).IsPlain) :
    let m := (Run.views Fleet.step posted (start hesConfig) events).foldl Mailbox.step .empty
    let s := events.foldl Fleet.step (start hesConfig)
    List.Forall₂ (fun request text => Parses text (reportValue ((asks request).map (held value))))
      m.answered s.output := by
  intro m s
  have hrepresents : Represents m s := represents_run hesConfig hcalm
  have hmem : ∀ round ∈ s.rounds, ∀ visit ∈ round, visit ∈ s.allVisits := by
    intro round hround visit hvisit
    exact List.mem_append_left _ (List.mem_flatten.mpr ⟨round, hround, hvisit⟩)
  have hquiet : Undisturbed 0 s.allVisits :=
    undisturbed_of_connects (fun visit hvisit => (hholds visit hvisit).connects) 0
  have hown : ∀ round ∈ s.rounds, round.map Visit.own = (round.map ask).map (held value) := by
    intro round hround
    rw [List.map_map]
    exact List.map_congr_left fun visit hvisit =>
      (hholds visit (hmem round hround visit hvisit)).own
  have houtput : s.output =
      (m.answered.map asks).map fun asked => printReadings (asked.map (held value)) := by
    rw [(printed_run hesConfig events).reports_eq hquiet, ← hrepresents.rounds, List.map_map]
    refine List.map_congr_left ?_
    intro round hround
    exact congrArg printReadings (hown round hround)
  have hall : ∀ asked ∈ m.answered.map asks, ∀ entry ∈ asked.map (held value), entry.IsPlain := by
    rw [← hrepresents.rounds]
    intro asked hasked entry hentry
    obtain ⟨round, hround, rfl⟩ := List.mem_map.mp hasked
    obtain ⟨_, hask, rfl⟩ := List.mem_map.mp hentry
    obtain ⟨visit, hvisit, rfl⟩ := List.mem_map.mp hask
    exact hplain visit (hmem round hround visit hvisit)
  rw [houtput, List.map_map, List.forall₂_map_right_iff, List.forall₂_same]
  intro request hrequest
  exact (parses_report_iff _).mpr (hall (asks request) (List.mem_map_of_mem hrequest))

/-! ## One meter -/

section OneMeter

/-- Requests for small payloads, by way of the access point. -/
def direct : HESConfig :=
  { payloadSize := .small, routeOnly := false }

/-- A meter that connects and answers at once. -/
def prompt : Meter :=
  { name := "::1".toList, resolution := 0, endpoints := [{ wait := 0, accepts := true }],
    association := some 0, answer := fun _ => some (0, "7".toList) }

/-- Its address. -/
def promptAddress : Address :=
  ⟨prompt.name, by decide, by decide, by decide⟩

/-- The set of that meter. -/
def promptMeters : MeterSet :=
  MeterSet.insert noMeters promptAddress

theorem promptMeters_inOrder : promptMeters.inOrder = [prompt.name] := by
  simp [promptMeters, noMeters, promptAddress, MeterSet.inOrder, MeterSet.insert]

theorem text_promptMeters :
    Request.text { payloadSize := .small, meters := promptMeters } = "small,::1".toList := by
  rw [Request.text, multiReadRequest, promptMeters_inOrder]
  rfl

/-- It registers and is asked for. -/
def askedFor : List FleetEvent :=
  [.accept (.connection { remoteEndpoint := some promptAddress, received := some "R".toList }),
    .headEnd .written, .headEnd .written, .readDone 0 (some 1024)]

/-- And it is read. -/
def readOut : List FleetEvent :=
  askedFor ++ List.replicate 4 (.accessPoint .small prompt)

/-- The programs when the access point has got a configuration. -/
def got (cfg : Config) : Fleet :=
  { start direct with
    registration := { meters := promptMeters, accepting := true }
    ap := { Rounds.atStart with cfg }
    sent := [{ payloadSize := .small, meters := promptMeters }] }

theorem run_askedFor : askedFor.foldl Fleet.step (start direct) =
    got { meters := [prompt.name], payloadSize := some .small } := by
  have hwhole : (Request.text { payloadSize := .small, meters := promptMeters }).length ≤
      min 1024 maxLength := by
    rw [text_promptMeters]
    decide
  have hread := handleRead_whole hwhole Config.atStart
  rw [promptMeters_inOrder] at hread
  exact congrArg got hread

theorem readOut_calm : Run.Along Fleet.step Calm (start direct) readOut := by
  refine Run.along_append.mpr ⟨⟨trivial, trivial, trivial, ?_, trivial⟩, ?_⟩
  · refine ⟨nofun, ?_⟩
    intro stream hstream
    cases hstream
    show (Request.text { payloadSize := .small, meters := promptMeters }).length ≤ _
    rw [text_promptMeters]
    decide
  · exact ⟨trivial, trivial, trivial, trivial, trivial⟩

theorem run_readOut :
    (readOut.foldl Fleet.step (start direct)).rounds = [[(.small, prompt)]] ∧
      (readOut.foldl Fleet.step (start direct)).visits = [] := by
  rw [readOut, List.foldl_append, run_askedFor]
  exact ⟨rfl, rfl⟩

/-- The account of a request that has been answered. -/
theorem requests_accounted_one :
    let m := (Run.views Fleet.step posted (start direct) readOut).foldl Mailbox.step .empty
    m.Accounts ∧ Represents m (readOut.foldl Fleet.step (start direct)) :=
  requests_accounted direct readOut readOut_calm

/-- The report of it. -/
theorem reports_read_back_one :
    ∃ text, (readOut.foldl Fleet.step (start direct)).output = [text] ∧
      Parses text (reportValue [{ meterAddr := "::1".toList, meterData := "7".toList }]) := by
  obtain ⟨hrounds, hvisits⟩ := run_readOut
  obtain ⟨-, hreports⟩ := reports_read_back direct readOut readOut_calm
    (by
      rw [allVisits, hrounds, hvisits]
      exact undisturbed_cons.mpr ⟨nofun, undisturbed_of_silent (List.forall_mem_nil _) _⟩)
    (by
      rw [hrounds]
      intro round hround visit hvisit
      rw [List.mem_singleton.mp hround] at hvisit
      rw [List.mem_singleton.mp hvisit]
      exact ⟨plain_of_decide (by decide), plain_of_decide (by decide)⟩)
  rw [hrounds] at hreports
  generalize (readOut.foldl Fleet.step (start direct)).output = output at hreports
  cases hreports with
  | cons hparses hrest =>
    cases hrest with
    | nil => exact ⟨_, rfl, hparses⟩

/-- The value of it. -/
theorem held_values_reported_one :
    let m := (Run.views Fleet.step posted (start direct) readOut).foldl Mailbox.step .empty
    List.Forall₂ (fun request text => Parses text
        (reportValue ((asks request).map (held fun _ _ => "7".toList))))
      m.answered (readOut.foldl Fleet.step (start direct)).output := by
  obtain ⟨hrounds, hvisits⟩ := run_readOut
  have hall : (readOut.foldl Fleet.step (start direct)).allVisits = [(.small, prompt)] := by
    rw [allVisits, hrounds, hvisits]
    rfl
  refine held_values_reported direct readOut readOut_calm (fun _ _ => "7".toList) ?_ ?_
  · rw [hall]
    intro visit hvisit
    rw [List.mem_singleton.mp hvisit]
    exact ⟨by decide, rfl, rfl⟩
  · rw [hall]
    intro visit hvisit
    rw [List.mem_singleton.mp hvisit]
    exact ⟨plain_of_decide (by decide), plain_of_decide (by decide)⟩

end OneMeter

end AccessPoint.Fleet
