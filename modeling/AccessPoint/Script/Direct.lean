import AccessPoint.Request.MultiRead
import AccessPoint.Script.Independence

/-!
# The head-end's own rounds

With `route_only`, which is the default, the head-end reads its meters itself, by the `runScript`
of `HESsim.cpp`. Its client is the access point's, line by line; of each meter it asks three things,
to reconnect its service, its time and its payload, and a round succeeds if all of it could be
asked. What the meter sends back on the first, `answer` gives for the object it is about. What the
answers are is not looked at.

The engine is not part of the repository. It may refuse each request that it is given while it is
open, and which ones it refuses is data of the visit. Of the rest it is assumed, as in
`AccessPoint.Script.RunScript`: a meter that has granted its connection does not end it before its
turn is over, and the close callback of a deleted transport, which the aborted read calls, does
nothing.

All rounds share one event loop, and `round_succeeds_iff` says when one of them succeeds: when it
has no meter, or each of its meters is connected in time and grants its association at once, the
engine accepts what is asked of it, and no meter of an earlier round has stopped the loop. So one
meter that fails with nothing else outstanding makes all later rounds fail, whatever their meters
are.
-/

namespace AccessPoint.Script

open IoService

namespace HESsim

/-- Which of the requests of a meter's turn the engine accepts, of those it is given. -/
structure Accepts where
  service : Bool
  time : Bool
  payload : Bool
  deriving DecidableEq, Repr

/-- A meter, the payload size that is in force when it is read, and what the engine accepts. -/
structure Visit where
  payloadSize : HESConfig.Payload
  meter : Meter
  accepts : Accepts

/-- The switch on `cfg.get_payload_size()`. -/
def payloadObject : HESConfig.Payload → StdString
  | .medium => "0-0:96.1.4*255".toList
  | .large => "0-0:96.1.9*255".toList
  | _ => "0-0:96.1.0*255".toList

/-- What `HESsim::Action` and `HESsim::Get` do alike: a request of the engine, on an open socket. -/
def request (accepts : Bool) (meter : Meter) (obis : StdString) (w : Loop Library Handler) :
    Loop Library Handler × Bool :=
  let w := poll run w
  if w.state.apsim.isOpen && w.state.apsim.engineOpen then
    if accepts then (respond (meter.onGet obis) w, true)
    else (w, false)
  else (w, false)

/-- `HESsim::Action`. -/
def action (accepts : Bool) (meter : Meter) (obis : StdString) (w : Loop Library Handler) :
    Loop Library Handler × Bool :=
  request accepts meter obis w

/-- `HESsim::Get`. -/
def get (accepts : Bool) (meter : Meter) (obis : StdString) (w : Loop Library Handler) :
    Loop Library Handler × Bool :=
  request accepts meter obis w

/-- `HESsim::serviceConnect`. -/
def serviceConnect (accepts : Bool) (meter : Meter) (w : Loop Library Handler) :
    Loop Library Handler × Bool :=
  action accepts meter "0-0:96.3.10*255".toList w

/-- The body of the loop, with the conjunction of the three results. -/
def readMeter (visit : Visit) (w : Loop Library Handler) : Loop Library Handler × Bool :=
  let w := construct visit.meter w
  let w := (tryOpen visit.meter maxTries w).1
  let connected := serviceConnect visit.accepts.service visit.meter w
  let time := get visit.accepts.time visit.meter "0-0:1.0.0*255".toList connected.1
  let payload := get visit.accepts.payload visit.meter (payloadObject visit.payloadSize) time.1
  (destroy (close payload.1), connected.2 && time.2 && payload.2)

/-- `runScript`, from a `result` on. -/
def runScript (visits : List Visit) (s : Loop Library Handler × Bool) :
    Loop Library Handler × Bool :=
  visits.foldl (fun s visit =>
    let read := readMeter visit s.1
    (read.1, s.2 && read.2)) s

/-- The rounds of `main` under `route_only`, and which of them succeed. -/
def runRounds : List (List Visit) → Loop Library Handler → List Bool
  | [], _ => []
  | round :: rounds, w =>
    let s := runScript round (w, true)
    s.2 :: runRounds rounds s.1

end HESsim

/-! ## One meter -/

namespace Stage

theorem engineOpen_poll {stage : Stage} (h : stage.engineOpen = true) :
    stage.poll.engineOpen = true := by
  cases stage with
  | connected due engineOpen recent =>
    cases h
    rcases due with _ | ⟨_ | wait, apdu⟩
    · rfl
    · cases apdu <;> rfl
    · rfl
  | _ => cases h

theorem engineOpen_respond (reaction : Option (Nat × Apdu)) (stage : Stage) :
    (stage.respond reaction).engineOpen = stage.engineOpen := by
  cases stage with
  | connected due engineOpen recent => cases due <;> rfl
  | _ => rfl

/-- A request of the engine: a `Get` if it is accepted, and a poll if it is not. -/
def request (accepts : Bool) (meter : Meter) (obis : StdString) (stage : Stage) : Stage :=
  if accepts then stage.get meter obis else stage.poll

/-- An engine that is open stays so. -/
theorem engineOpen_request {stage : Stage} (h : stage.poll.engineOpen = true) (accepts : Bool)
    (meter : Meter) (obis : StdString) : (stage.request accepts meter obis).engineOpen = true := by
  cases accepts with
  | false => exact h
  | true =>
    show (stage.get meter obis).engineOpen = true
    rw [get, if_pos h, engineOpen_respond]
    exact h

/-- A meter of which nothing can be asked is polled. -/
theorem request_of_unasked {stage : Stage} (h : stage.poll.Unasked) (accepts : Bool) (meter : Meter)
    (obis : StdString) : stage.request accepts meter obis = stage.poll := by
  cases accepts with
  | false => rfl
  | true =>
    show stage.get meter obis = stage.poll
    rw [get, if_neg (by rw [h.nothing.1]; exact Bool.false_ne_true)]

/-- A meter that is connected stays so. -/
theorem connected_request {stage : Stage} (h : stage.transportConnected = true) (accepts : Bool)
    (meter : Meter) (obis : StdString) :
    (stage.request accepts meter obis).transportConnected = true := by
  cases accepts with
  | false => exact connected_poll h
  | true => exact connected_get h meter obis

/-- A meter after `open`. -/
def opened (meter : Meter) : Stage :=
  (start meter).tryOpen meter maxTries

theorem opened_of_connects {meter : Meter} (h : meter.connects = true) :
    opened meter = connected meter.onOpen false [] := by
  obtain ⟨hreach, hle⟩ := Bool.and_eq_true_iff.mp h
  rw [opened, tryOpen_eq meter (Unasked.start meter) rfl]
  exact if_pos ⟨hreach, of_decide_eq_true hle⟩

theorem opened_of_not_connects {meter : Meter} (h : meter.connects = false) :
    opened meter = poll^[maxTries] (start meter) := by
  rw [opened, tryOpen_eq meter (Unasked.start meter) rfl, if_neg]
  intro hcond
  have hconnects : meter.connects = true :=
    Bool.and_eq_true_iff.mpr ⟨hcond.1, decide_eq_true hcond.2⟩
  exact Bool.false_ne_true (h.symm.trans hconnects)

end Stage

namespace HESsim

/-- The meter is connected while `open` tries, and grants its association at once. -/
def Prompt (meter : Meter) : Prop :=
  meter.connects = true ∧ meter.association = some 0

/-- The polls of a meter's turn: two more than the access point's. -/
def polls (meter : Meter) : Nat :=
  meter.polls + 2

/-- The resolution, or every connect, fails before the socket is released. -/
def fails (meter : Meter) : Bool :=
  !meter.reachable && decide (meter.settles ≤ polls meter)

/-- What the resolutions of a loop are late by after a meter's turn. -/
def latenessAfter (late : Nat) (meter : Meter) : Nat :=
  max (meter.resolution + 1 - polls meter) (late - polls meter)

/-- The loop stops in a meter's turn. -/
def Stops (late : Nat) (meter : Meter) : Prop :=
  fails meter = true ∧ late ≤ polls meter

/-- The meter is prompt, and the engine accepts all that is asked of it. -/
structure Visit.Succeeds (visit : Visit) : Prop where
  prompt : Prompt visit.meter
  service : visit.accepts.service = true
  time : visit.accepts.time = true
  payload : visit.accepts.payload = true

/-- The stage of a meter after the three requests. -/
def asked (visit : Visit) : Stage :=
  (((Stage.opened visit.meter).request visit.accepts.service visit.meter
    "0-0:96.3.10*255".toList).request visit.accepts.time visit.meter
    "0-0:1.0.0*255".toList).request visit.accepts.payload visit.meter
    (payloadObject visit.payloadSize)

/-- And after `close` and the last poll. -/
def ended (visit : Visit) : Stage :=
  (asked visit).poll.poll

/-- **The first request decides.** -/
theorem engineOpen_opened_iff (meter : Meter) :
    (Stage.opened meter).poll.engineOpen = true ↔ Prompt meter := by
  cases hconnects : meter.connects with
  | false =>
    have hunasked := ((Stage.Unasked.start meter).iterate maxTries).poll
    rw [Stage.opened_of_not_connects hconnects, hunasked.nothing.1, Prompt, hconnects]
    simp
  | true =>
    rw [Stage.opened_of_connects hconnects, Prompt, hconnects, Meter.onOpen]
    rcases meter.association with _ | _ | wait <;> simp [Stage.poll, Stage.engineOpen]

/-- A meter that fails is not prompt. -/
theorem not_prompt_of_fails {meter : Meter} (h : fails meter = true) : ¬ Prompt meter := by
  intro hprompt
  have hreach : meter.reachable = true := (Bool.and_eq_true_iff.mp hprompt.1).1
  rw [fails, hreach] at h
  cases h

/-- **What a meter leaves behind** when its socket is released. -/
theorem ended_spec (visit : Visit) :
    (ended visit = .failed ↔ fails visit.meter = true) ∧
      (ended visit).resolution = visit.meter.resolution + 1 - polls visit.meter := by
  obtain ⟨payloadSize, meter, accepts⟩ := visit
  cases hconnects : meter.connects with
  | false =>
    have hunasked : ∀ n, (Stage.poll^[n] (Stage.start meter)).poll.Unasked := fun n =>
      ((Stage.Unasked.start meter).iterate n).poll
    have hended : ended ⟨payloadSize, meter, accepts⟩ =
        Stage.poll^[maxTries + 5] (Stage.start meter) := by
      simp only [ended, asked, Stage.opened_of_not_connects hconnects,
        Stage.request_of_unasked (hunasked _), ← Function.iterate_succ_apply' Stage.poll]
    obtain ⟨hsettles, hreachable, hresolution⟩ := (Stage.start meter).iterate_spec (maxTries + 5)
    rw [hended, Stage.eq_failed_iff, hsettles, hreachable, hresolution, Nat.sub_eq_zero_iff_le]
    simp [fails, polls, Meter.polls, hconnects, Stage.start, Stage.reachable, Stage.settles,
      Stage.resolution, Meter.reachable, Meter.settles]
  | true =>
    have hreach : meter.reachable = true := (Bool.and_eq_true_iff.mp hconnects).1
    have hasked : (asked ⟨payloadSize, meter, accepts⟩).transportConnected = true := by
      simp only [asked, Stage.opened_of_connects hconnects]
      apply Stage.connected_request
      apply Stage.connected_request
      exact Stage.connected_request rfl _ _ _
    have hconnected : (ended ⟨payloadSize, meter, accepts⟩).transportConnected = true :=
      Stage.connected_poll (Stage.connected_poll hasked)
    cases hstage : ended ⟨payloadSize, meter, accepts⟩ with
    | connected due engineOpen recent =>
      refine ⟨by simp [fails, hreach], ?_⟩
      simp only [Stage.resolution, polls, Meter.polls, hconnects, if_true, Meter.settles]
      omega
    | _ => simp [hstage, Stage.transportConnected] at hconnected

/-! ## A request on the shared loop -/

section Request

variable {c late : Nat} {stage : Stage} {w : Loop Library Handler}

/-- What is accepted is a `Get` of the access point's client, and what is not is a poll. -/
theorem request_fst (accepts : Bool) (meter : Meter) (obis : StdString)
    (w : Loop Library Handler) :
    (request accepts meter obis w).1 =
      if accepts then (Script.get meter obis w).1 else poll run w := by
  simp only [request, Script.get]
  cases accepts with
  | false => split <;> rfl
  | true => rfl

/-- It succeeds if the engine is open and accepts it. -/
theorem request_snd (h : Tracks c stage w) (accepts : Bool) (meter : Meter) (obis : StdString) :
    (request accepts meter obis w).2 = (stage.poll.engineOpen && accepts) := by
  simp only [request, h.poll.associated]
  cases stage.poll.engineOpen with
  | false => rfl
  | true => cases accepts <;> rfl

theorem Tracks.request (h : Tracks c stage w) (accepts : Bool) (meter : Meter)
    (obis : StdString) :
    Tracks c (stage.request accepts meter obis) (HESsim.request accepts meter obis w).1 := by
  rw [request_fst]
  cases accepts with
  | false => exact h.poll
  | true => exact h.get meter obis

theorem Leaves.request (h : Leaves c late w) (htracks : Tracks c stage w) (accepts : Bool)
    (meter : Meter) (obis : StdString) :
    Leaves c (late - 1) (HESsim.request accepts meter obis w).1 := by
  rw [request_fst]
  cases accepts with
  | false => exact h.poll htracks
  | true => exact h.get htracks meter obis

theorem Tracks.gone_request (htracks : Tracks c stage w) (h : Aborting c (w.state, w.outstanding))
    (accepts : Bool) (meter : Meter) (obis : StdString) :
    Gone c ((HESsim.request accepts meter obis w).1.state,
      (HESsim.request accepts meter obis w).1.outstanding) := by
  rw [request_fst]
  cases accepts with
  | false => exact htracks.gone_poll h
  | true => exact htracks.gone_get h meter obis

end Request

/-- **One meter on a loop that is going**: its turn succeeds exactly if it is prompt and all is
accepted, and the loop goes on unless the meter stops it. -/
theorem readMeter_going {late : Nat} {w : Loop Library Handler} (h : Boundary late w)
    (visit : Visit) :
    ((readMeter visit w).2 = true ↔ visit.Succeeds) ∧
      (Stops late visit.meter → (readMeter visit w).1.stopped = true) ∧
      (¬ Stops late visit.meter →
        Boundary (latenessAfter late visit.meter) (readMeter visit w).1) := by
  -- the meter's own stage
  have htracks := h.tracks visit.meter
  have hopen := htracks.tryOpen visit.meter maxTries
  have hservice :=
    Tracks.request hopen visit.accepts.service visit.meter "0-0:96.3.10*255".toList
  have htime := Tracks.request hservice visit.accepts.time visit.meter "0-0:1.0.0*255".toList
  have hpayload :=
    Tracks.request htime visit.accepts.payload visit.meter (payloadObject visit.payloadSize)
  have hclosed := hpayload.poll
  -- what the others have left: the polls of `open`, and one each of the five that follow
  have hlate := (h.leaves_construct visit.meter).tryOpen visit.meter maxTries htracks
  have hlate₁ :=
    Leaves.request hlate hopen visit.accepts.service visit.meter "0-0:96.3.10*255".toList
  have hlate₂ :=
    Leaves.request hlate₁ hservice visit.accepts.time visit.meter "0-0:1.0.0*255".toList
  have hlate₃ := Leaves.request hlate₂ htime visit.accepts.payload visit.meter
    (payloadObject visit.payloadSize)
  have hlate₅ := (hlate₃.poll hpayload).poll hclosed
  have hpolls : late - (Stage.start visit.meter).openPolls maxTries - 1 - 1 - 1 - 1 - 1 =
      late - polls visit.meter := by
    have hstart := openPolls_start visit.meter
    simp only [polls]
    omega
  rw [hpolls] at hlate₅
  have htries : maxTries ≠ 0 := by decide
  have haborting := htracks.aborting_of_entering visit.meter htries h.going
    (h.entering_construct visit.meter)
  have hgone₁ := Tracks.gone_request hopen haborting visit.accepts.service visit.meter
    "0-0:96.3.10*255".toList
  have hgone₂ := Tracks.gone_request hservice hgone₁.aborting visit.accepts.time visit.meter
    "0-0:1.0.0*255".toList
  have hgone₃ := Tracks.gone_request htime hgone₂.aborting visit.accepts.payload visit.meter
    (payloadObject visit.payloadSize)
  have hending : Ending w.state.nextSocket (late - polls visit.meter) (ended visit) _ :=
    ⟨hclosed.poll, hlate₅, hclosed.gone_poll (hpayload.gone_poll hgone₃.aborting).aborting⟩
  obtain ⟨hfailed, hresolution⟩ := ended_spec visit
  have hstops := hclosed.poll_stopped_iff.trans hending.outstanding_eq_nil_iff
  rw [hfailed, Nat.sub_eq_zero_iff_le] at hstops
  refine ⟨?_, hstops.mpr, fun hnot => ?_⟩
  · have hfirst := request_snd hopen visit.accepts.service visit.meter "0-0:96.3.10*255".toList
    have hsecond := request_snd hservice visit.accepts.time visit.meter "0-0:1.0.0*255".toList
    have hthird := request_snd htime visit.accepts.payload visit.meter
      (payloadObject visit.payloadSize)
    simp only [readMeter, serviceConnect, action, get, Bool.and_eq_true, hfirst, hsecond, hthird]
    constructor
    · rintro ⟨⟨⟨hengine, hservice⟩, -, htime⟩, -, hpayload⟩
      exact ⟨(engineOpen_opened_iff visit.meter).mp hengine, hservice, htime, hpayload⟩
    · intro hsucceeds
      have hengine := (engineOpen_opened_iff visit.meter).mpr hsucceeds.prompt
      -- an engine that is open stays so through the requests
      have hengine₁ := Stage.engineOpen_poll
        (Stage.engineOpen_request hengine visit.accepts.service visit.meter
          "0-0:96.3.10*255".toList)
      have hengine₂ := Stage.engineOpen_poll
        (Stage.engineOpen_request hengine₁ visit.accepts.time visit.meter
          "0-0:1.0.0*255".toList)
      exact ⟨⟨⟨hengine, hsucceeds.service⟩, hengine₁, hsucceeds.time⟩, hengine₂,
        hsucceeds.payload⟩
  · have hgoing := Bool.eq_false_iff.mpr fun hstopped => hnot (hstops.mp hstopped)
    have hboundary := hending.release hgoing
    rwa [hresolution] at hboundary

/-- **One meter on a loop that is stopped**: nothing can be asked of it. -/
theorem readMeter_stopped {w : Loop Library Handler} (h : w.stopped = true) (visit : Visit) :
    (readMeter visit w).2 = false ∧ (readMeter visit w).1.stopped = true := by
  have hconstructed : (construct visit.meter w).stopped = true := h
  have hopen : (tryOpen visit.meter maxTries (construct visit.meter w)).1 =
      construct visit.meter w :=
    tryOpen_of_stopped visit.meter hconstructed rfl
  have hrequest : ∀ accepts obis, request accepts visit.meter obis (construct visit.meter w) =
      (construct visit.meter w, false) := by
    intro accepts obis
    simp only [request, poll_of_stopped hconstructed]
    rfl
  simp only [readMeter, serviceConnect, action, get, hopen, hrequest, close, destroy,
    poll_of_stopped hconstructed]
  exact ⟨rfl, h⟩

/-! ## A run -/

/-- One of the meters stops the loop. -/
def Stopped (late : Nat) (visits : List Visit) : Prop :=
  ∃ before visit after, visits = before ++ visit :: after ∧
    Stops ((before.map Visit.meter).foldl latenessAfter late) visit.meter

theorem not_stopped_nil (late : Nat) : ¬ Stopped late [] := by
  intro h
  obtain ⟨before, visit, after, hsplit, -⟩ := h
  cases before <;> cases hsplit

theorem stopped_cons {late : Nat} {visit : Visit} {visits : List Visit} :
    Stopped late (visit :: visits) ↔
      Stops late visit.meter ∨ Stopped (latenessAfter late visit.meter) visits := by
  constructor
  · intro h
    obtain ⟨before, stopping, after, hsplit, hstops⟩ := h
    cases before with
    | nil =>
      cases hsplit
      exact .inl hstops
    | cons first before =>
      cases hsplit
      exact .inr ⟨before, stopping, after, rfl, hstops⟩
  · intro h
    rcases h with hstops | ⟨before, stopping, after, rfl, hstops⟩
    · exact ⟨[], visit, visits, rfl, hstops⟩
    · exact ⟨visit :: before, stopping, after, rfl, hstops⟩

/-- The loop after some visits: stopped, or going with the resolutions late by so much. -/
structure Reached (late : Nat) (visits : List Visit) (w : Loop Library Handler) : Prop where
  stopped : Stopped late visits → w.stopped = true
  going : ¬ Stopped late visits →
    Boundary ((visits.map Visit.meter).foldl latenessAfter late) w

/-- A round on a loop that is stopped succeeds only if it has no meter. -/
theorem runScript_stopped {w : Loop Library Handler} (h : w.stopped = true) (visits : List Visit)
    (result : Bool) :
    ((runScript visits (w, result)).2 = true ↔ result = true ∧ visits = []) ∧
      (runScript visits (w, result)).1.stopped = true := by
  induction visits generalizing w result with
  | nil => exact ⟨by simp [runScript], h⟩
  | cons visit visits ih =>
    obtain ⟨hfalse, hstopped⟩ := readMeter_stopped h visit
    obtain ⟨hrest, hend⟩ := ih hstopped (result && (readMeter visit w).2)
    refine ⟨?_, hend⟩
    show (runScript visits ((readMeter visit w).1, result && (readMeter visit w).2)).2 = true ↔ _
    rw [hrest, hfalse, Bool.and_false]
    simp

/-- **A round on a loop that is going** succeeds exactly if all its visits do. -/
theorem runScript_going {late : Nat} {w : Loop Library Handler} (h : Boundary late w)
    (visits : List Visit) (result : Bool) :
    ((runScript visits (w, result)).2 = true ↔
        result = true ∧ ∀ visit ∈ visits, visit.Succeeds) ∧
      Reached late visits (runScript visits (w, result)).1 := by
  induction visits generalizing late w result with
  | nil =>
    exact ⟨by simp [runScript], fun hstopped => absurd hstopped (not_stopped_nil late), fun _ => h⟩
  | cons visit visits ih =>
    obtain ⟨hsucceeds, hstops, hgoes⟩ := readMeter_going h visit
    have hcons : runScript (visit :: visits) (w, result) =
        runScript visits ((readMeter visit w).1, result && (readMeter visit w).2) := rfl
    rw [hcons, List.forall_mem_cons]
    by_cases hstop : Stops late visit.meter
    · obtain ⟨hrest, hend⟩ :=
        runScript_stopped (hstops hstop) visits (result && (readMeter visit w).2)
      have hnot : ¬ visit.Succeeds := fun h => not_prompt_of_fails hstop.1 h.prompt
      refine ⟨?_, ⟨fun _ => hend, fun hgoing => absurd (stopped_cons.mpr (.inl hstop)) hgoing⟩⟩
      rw [hrest, Bool.and_eq_true, hsucceeds]
      constructor
      · intro hall
        exact absurd hall.1.2 hnot
      · intro hall
        exact absurd hall.2.1 hnot
    · obtain ⟨hrest, hend⟩ := ih (hgoes hstop) (result && (readMeter visit w).2)
      refine ⟨?_, ⟨?_, ?_⟩⟩
      · rw [hrest, Bool.and_eq_true, hsucceeds, and_assoc]
      · intro hstopped
        exact hend.stopped ((stopped_cons.mp hstopped).resolve_left hstop)
      · intro hgoing
        exact hend.going fun hrest => hgoing (stopped_cons.mpr (.inr hrest))

theorem stopped_append {late : Nat} {earlier visits : List Visit} :
    Stopped late (earlier ++ visits) ↔
      Stopped late earlier ∨
        Stopped ((earlier.map Visit.meter).foldl latenessAfter late) visits := by
  induction earlier generalizing late with
  | nil => exact ⟨.inr, fun h => h.resolve_left (not_stopped_nil late)⟩
  | cons visit earlier ih =>
    rw [List.cons_append, stopped_cons, stopped_cons, ih, or_assoc]
    rfl

/-- **A round on the loop that earlier rounds have left.** -/
theorem Reached.runScript {late : Nat} {earlier : List Visit} {w : Loop Library Handler}
    (h : Reached late earlier w) (round : List Visit) :
    ((runScript round (w, true)).2 = true ↔
        round = [] ∨ (∀ visit ∈ round, visit.Succeeds) ∧ ¬ Stopped late earlier) ∧
      Reached late (earlier ++ round) (runScript round (w, true)).1 := by
  by_cases hearlier : Stopped late earlier
  · obtain ⟨hresult, hend⟩ := runScript_stopped (h.stopped hearlier) round true
    refine ⟨?_, ⟨fun _ => hend, fun hgoing => absurd (stopped_append.mpr (.inl hearlier)) hgoing⟩⟩
    rw [hresult]
    simp [hearlier]
  · obtain ⟨hresult, hend⟩ := runScript_going (h.going hearlier) round true
    refine ⟨?_, ⟨?_, ?_⟩⟩
    · rw [hresult]
      constructor
      · intro hall
        exact .inr ⟨hall.2, hearlier⟩
      · intro hall
        refine ⟨rfl, ?_⟩
        rcases hall with rfl | hall
        · exact List.forall_mem_nil _
        · exact hall.1
    · intro hstopped
      exact hend.stopped ((stopped_append.mp hstopped).resolve_left hearlier)
    · intro hgoing
      rw [List.map_append, List.foldl_append]
      exact hend.going fun hround => hgoing (stopped_append.mpr (.inr hround))

theorem Reached.runRounds {late : Nat} {earlier : List Visit} {w : Loop Library Handler}
    (h : Reached late earlier w) (before after : List (List Visit)) (round : List Visit) :
    (runRounds (before ++ round :: after) w)[before.length]? = some true ↔
      round = [] ∨
        (∀ visit ∈ round, visit.Succeeds) ∧ ¬ Stopped late (earlier ++ before.flatten) := by
  induction before generalizing earlier w with
  | nil =>
    rw [List.flatten_nil, List.append_nil, ← (h.runScript round).1]
    exact Option.some_inj
  | cons first before ih =>
    have hrest := ih (h.runScript first).2
    rw [List.append_assoc, ← List.flatten_cons] at hrest
    exact hrest

end HESsim

end AccessPoint.Script
