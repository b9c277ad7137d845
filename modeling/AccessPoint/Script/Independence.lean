import AccessPoint.Script.Leftover

/-!
# When readings are independent

All the meters of a run share one event loop. What a meter leaves on it does not show in the
next one's reading, except in one way: when the last outstanding operation of the loop has
been run, the loop stops, nobody resets it, and every later meter is recorded with nothing.

`Boundary` is the invariant between two meters of a loop that is going; `Boundary.readMeter`
says what a meter is recorded with there and whether the loop goes on. The loop stops during
a meter's turn exactly if the meter fails, and no resolution of an earlier meter outlasts its
turn. From that `independent_iff`: the readings of a run are those of its meters, each alone on
a fresh library, exactly if no meter that stops the loop is followed by one with something to
say.
-/

namespace AccessPoint.Script

open IoService

/-! ## One meter -/

/-- The loop between two meters, going; the resolutions on it are late by so many polls. -/
structure Boundary (late : Nat) (w : Loop Library Handler) : Prop where
  going : w.stopped = false
  leaves : Leaves w.state.nextSocket late w
  entering : Entering w.state.nextSocket (w.state, w.outstanding)

theorem boundary_fresh : Boundary 0 fresh := by
  refine ⟨rfl, ⟨fun op hop => absurd hop List.not_mem_nil, rfl⟩, .inr ⟨?_, ?_⟩⟩
  · exact fun op hop => absurd hop List.not_mem_nil
  · exact fun op hop => absurd hop List.not_mem_nil

/-- What is outstanding on a bounded loop belongs to earlier sockets. -/
theorem Leaves.part_own {c late : Nat} {w : Loop Library Handler} (h : Leaves c late w) :
    part (own w.state.nextSocket) w.outstanding = [] := by
  refine List.filter_eq_nil_iff.mpr fun op hop => ?_
  have hlt := h.bound op hop
  simp only [own, beq_iff_eq]
  omega

theorem construct_outstanding (meter : Meter) (w : Loop Library Handler) :
    (construct meter w).outstanding =
      w.outstanding ++ (Stage.start meter).ops w.state.nextSocket := rfl

theorem mem_of_mem_construct {meter : Meter} {w : Loop Library Handler} {op : Operation Handler}
    (hop : op ∈ (construct meter w).outstanding) (hne : op.handler.socket ≠ w.state.nextSocket) :
    op ∈ w.outstanding := by
  rcases List.mem_append.mp hop with hop | hop
  · exact hop
  · obtain rfl := List.mem_singleton.mp hop
    exact absurd rfl hne

/-- **A new `APsim` starts its own session.** -/
theorem Boundary.tracks {late : Nat} {w : Loop Library Handler} (h : Boundary late w)
    (meter : Meter) : Tracks w.state.nextSocket (Stage.start meter) (construct meter w) := by
  constructor
  case drained =>
    intro hstopped
    cases h.going.symm.trans hstopped
  case shows =>
    refine ⟨rfl, List.mem_cons_self, Nat.lt_succ_self _, ?_, ?_, rfl, rfl, rfl⟩
    · rw [construct_outstanding, part_append, h.leaves.part_own]
      simp [part_cons, own, Handler.socket, Stage.start, Stage.ops]
    · intro hopen
      cases hopen

/-- What is left of the others is as it was. -/
theorem Boundary.leaves_construct {late : Nat} {w : Loop Library Handler} (h : Boundary late w)
    (meter : Meter) : Leaves w.state.nextSocket late (construct meter w) := by
  constructor
  case bound =>
    intro op hop
    by_cases hne : op.handler.socket = w.state.nextSocket
    · rw [hne]
      exact Nat.lt_succ_self _
    · exact Nat.lt_succ_of_lt (h.leaves.bound op (mem_of_mem_construct hop hne))
  case late =>
    rw [construct_outstanding, part_append]
    simp [part_cons, earlier, Handler.socket, Stage.start, Stage.ops, h.leaves.late]

theorem Boundary.entering_construct {late : Nat} {w : Loop Library Handler} (h : Boundary late w)
    (meter : Meter) :
    Entering w.state.nextSocket ((construct meter w).state, (construct meter w).outstanding) := by
  have hgone : ∀ socket, socket ≠ w.state.nextSocket → socket ∉ w.state.sockets →
      socket ∉ (construct meter w).state.sockets := by
    intro socket hne hgone hmem
    exact (List.mem_cons.mp hmem).elim hne hgone
  rcases h.entering with ⟨prev, hretiring⟩ | haborting
  · refine .inl ⟨prev, List.mem_append_left _ hretiring.removal, ?_, ?_⟩
    · intro op hop hne
      exact (hretiring.others op (mem_of_mem_construct hop hne) hne).imp_right (hgone _ hne)
    · intro op hop hne
      exact hretiring.settled op (mem_of_mem_construct hop hne) hne
  · refine .inr ⟨?_, ?_⟩
    · intro op hop hne
      exact hgone _ hne (haborting.gone op (mem_of_mem_construct hop hne) hne)
    · intro op hop hne
      exact haborting.settled op (mem_of_mem_construct hop hne) hne

theorem openPolls_start (meter : Meter) :
    (Stage.start meter).openPolls maxTries + 3 = meter.polls := by
  have hcond : ((Stage.start meter).reachable = true ∧ (Stage.start meter).settles ≤ maxTries) ↔
      meter.connects = true := by
    rw [Meter.connects, Bool.and_eq_true, decide_eq_true_iff]
    rfl
  rw [Stage.openPolls_eq rfl, Meter.polls]
  simp only [hcond]
  rfl

/-- A meter's own operation is a connect, a read or its resolution. -/
theorem Stage.lasting_of_mem_ops {c : Nat} {stage : Stage} {op : Operation Handler}
    (h : op ∈ stage.ops c) : Lasting op := by
  cases stage with
  | connected due engineOpen recent =>
    rcases due with _ | ⟨wait, apdu⟩
    · obtain rfl := List.mem_singleton.mp h
      exact .inl rfl
    · obtain rfl := List.mem_singleton.mp h
      exact .inl rfl
  | failed => cases h
  | resolving wait it =>
    obtain rfl := List.mem_singleton.mp h
    exact .inr ⟨rfl, Option.some_ne_none _⟩
  | connecting wait accepted it =>
    obtain rfl := List.mem_singleton.mp h
    exact .inl rfl

theorem Stage.lateness_ops {c c' : Nat} (hne : c ≠ c') (stage : Stage) :
    lateness (part (earlier c') (stage.ops c)) = stage.resolution := by
  cases stage with
  | connected due engineOpen recent => rcases due with _ | ⟨wait, apdu⟩ <;> rfl
  | failed => rfl
  | resolving wait it =>
    simp [Stage.ops, part_cons, earlier, Handler.isResolver, Handler.socket, hne, lateness_cons,
      Stage.resolution]
  | connecting wait accepted it => rfl

/-- The loop at the end of a meter's turn: the meter's stage, and old resolutions. -/
structure Ending (c late : Nat) (stage : Stage) (w : Loop Library Handler) : Prop where
  tracks : Tracks c stage w
  leaves : Leaves c late w
  gone : Gone c (w.state, w.outstanding)

/-- **Nothing is outstanding at the end** if the meter has failed and no resolution is late. -/
theorem Ending.outstanding_eq_nil_iff {c late : Nat} {stage : Stage} {w : Loop Library Handler}
    (h : Ending c late stage w) : w.outstanding = [] ↔ stage = .failed ∧ late = 0 := by
  have hown : part (own c) w.outstanding = stage.ops c := h.tracks.shows.outstanding
  refine ⟨fun hnil => ?_, ?_⟩
  · have hlate := h.leaves.late
    rw [hnil] at hown hlate
    exact ⟨Stage.ops_eq_nil.mp hown.symm, hlate.symm⟩
  · rintro ⟨rfl, rfl⟩
    have hne : ∀ op ∈ w.outstanding, op.handler.socket ≠ c := by
      intro op hop hsocket
      have hmem : op ∈ part (own c) w.outstanding := mem_part.mpr ⟨hop, beq_iff_eq.mpr hsocket⟩
      rw [hown] at hmem
      cases hmem
    have hearlier : part (earlier c) w.outstanding = w.outstanding := by
      refine List.filter_eq_self.mpr fun op hop => ?_
      rw [earlier, (h.gone.resolving op hop (hne op hop)).1]
      exact bne_iff_ne.mpr (hne op hop)
    have hlate := h.leaves.late
    rw [hearlier] at hlate
    exact eq_nil_of_lateness (fun op hop => (h.gone.resolving op hop (hne op hop)).2) hlate

/-- **The release hands the loop on.** -/
theorem Ending.release {c late : Nat} {stage : Stage} {w : Loop Library Handler}
    (h : Ending c late stage w) (hgoing : w.stopped = false) :
    Boundary (max stage.resolution late) (releaseSocket w) := by
  have hown : part (own c) w.outstanding = stage.ops c := h.tracks.shows.outstanding
  have hcurrent : w.state.apsim.socket = c := h.tracks.shows.current
  have hnumbered : c < w.state.nextSocket := h.tracks.shows.numbered
  have hnext : (releaseSocket w).state.nextSocket = w.state.nextSocket :=
    Library.setOpen_nextSocket ..
  have hsockets : (releaseSocket w).state.sockets = w.state.sockets := Library.setOpen_sockets ..
  have houtstanding : (releaseSocket w).outstanding =
      w.outstanding.map (abort c) ++ [{ wait := some 0, handler := .removeSocket c }] := by
    rw [← hcurrent]
    rfl
  have hcases : ∀ op ∈ (releaseSocket w).outstanding,
      (∃ op₀ ∈ w.outstanding, op = abort c op₀) ∨
        op = { wait := some 0, handler := .removeSocket c } := by
    intro op hop
    rw [houtstanding] at hop
    rcases List.mem_append.mp hop with hop | hop
    · obtain ⟨op₀, hop₀, rfl⟩ := List.mem_map.mp hop
      exact .inl ⟨op₀, hop₀, rfl⟩
    · exact .inr (List.mem_singleton.mp hop)
  refine ⟨hgoing, ⟨?_, ?_⟩, .inl ⟨c, ?_, ?_, ?_⟩⟩
  · intro op hop
    rw [hnext]
    rcases hcases op hop with ⟨op₀, hop₀, rfl⟩ | rfl
    · rw [abort_socket]
      exact h.leaves.bound op₀ hop₀
    · exact hnumbered
  · -- the meter's own resolution, if it is not over, joins those of the others
    rw [hnext, houtstanding, part_append, part_earlier_abort,
      show part (earlier w.state.nextSocket) [⟨some 0, Handler.removeSocket c⟩] = [] from rfl,
      List.append_nil, lateness_part (own c)]
    congr 1
    · rw [part_comm, hown]
      exact stage.lateness_ops (Nat.ne_of_lt hnumbered)
    · rw [← h.leaves.late, part, part, List.filter_filter]
      refine congrArg lateness (List.filter_congr fun op hop => ?_)
      have hlt := h.leaves.bound op hop
      have hne : op.handler.socket ≠ w.state.nextSocket := Nat.ne_of_lt hlt
      simp only [earlier, own, bne, beq_false_of_ne hne]
      cases op.handler.isResolver <;> simp
  · rw [houtstanding]
    exact List.mem_append_right _ (List.mem_singleton_self _)
  · intro op hop _
    rw [hsockets]
    rcases hcases op hop with ⟨op₀, hop₀, rfl⟩ | rfl
    · rw [abort_socket]
      by_cases hsocket : op₀.handler.socket = c
      · exact .inl hsocket
      · exact .inr (h.gone.gone op₀ hop₀ hsocket)
    · exact .inl rfl
  · intro op hop _
    rcases hcases op hop with ⟨op₀, hop₀, rfl⟩ | rfl
    · by_cases hsocket : op₀.handler.socket = c
      · have hmem : op₀ ∈ part (own c) w.outstanding := mem_part.mpr ⟨hop₀, beq_iff_eq.mpr hsocket⟩
        rw [hown] at hmem
        rw [← hsocket]
        exact (Stage.lasting_of_mem_ops hmem).settled
      · rw [abort_of_ne hsocket]
        exact .inr (h.gone.resolving op₀ hop₀ hsocket)
    · exact .inl rfl

/-- What the resolutions of a loop are late by after a meter's turn. -/
def latenessAfter (late : Nat) (meter : Meter) : Nat :=
  max (meter.resolution + 1 - meter.polls) (late - meter.polls)

/-- The loop stops in a meter's turn: the meter fails, and no earlier resolution outlasts the
turn. -/
def Stops (late : Nat) (meter : Meter) : Prop :=
  meter.fails = true ∧ late ≤ meter.polls

/-- **One meter on a loop that is going**: it is recorded with its own reading, and the loop
goes on unless the meter stops it. -/
theorem Boundary.readMeter {late : Nat} {w : Loop Library Handler} (h : Boundary late w)
    (payload : Config.Payload) (meter : Meter) :
    (readMeter payload meter w).2 =
        { meterAddr := meter.name, meterData := meter.reading (objectFor payload) } ∧
      (Stops late meter → (readMeter payload meter w).1.stopped = true) ∧
      (¬ Stops late meter → Boundary (latenessAfter late meter) (readMeter payload meter w).1) := by
  -- the meter's own stage: after the constructor, `open`, `Get` and `close`
  have htracks := h.tracks meter
  have hopen := htracks.tryOpen meter maxTries
  have hget := hopen.get meter (objectFor payload)
  have hclosed := hget.poll
  -- what the others have left: the polls of `open`, and one each of the three that follow
  have hlate := (h.leaves_construct meter).tryOpen meter maxTries htracks
  have hlate' := ((hlate.get hopen meter (objectFor payload)).poll hget).poll hclosed
  have hpolls : late - (Stage.start meter).openPolls maxTries - 1 - 1 - 1 = late - meter.polls := by
    have hstart := openPolls_start meter
    omega
  rw [hpolls] at hlate'
  have htries : maxTries ≠ 0 := by decide
  have haborting := htracks.aborting_of_entering meter htries h.going (h.entering_construct meter)
  have hgone := hopen.gone_get haborting meter (objectFor payload)
  have hgone' := hclosed.gone_poll (hget.gone_poll hgone.aborting).aborting
  have hending : Ending w.state.nextSocket (late - meter.polls)
      (Stage.session meter (objectFor payload)).poll _ := ⟨hclosed.poll, hlate', hgone'⟩
  obtain ⟨hfailed, hresolution⟩ := Stage.session_poll_spec meter (objectFor payload)
  have hstops := hclosed.poll_stopped_iff.trans hending.outstanding_eq_nil_iff
  rw [hfailed, Nat.sub_eq_zero_iff_le] at hstops
  refine ⟨?_, hstops.mpr, fun hnot => ?_⟩
  · have hrecent := hclosed.shows.recent.trans (Stage.session_recent meter (objectFor payload))
    exact congrArg (MeterReading.mk meter.name) hrecent
  · have hgoing := Bool.eq_false_iff.mpr fun hstopped => hnot (hstops.mp hstopped)
    have hboundary := hending.release hgoing
    rwa [hresolution] at hboundary

theorem tryOpen_of_stopped (meter : Meter) {tries : Nat} {w : Loop Library Handler}
    (h : w.stopped = true) (hconnected : w.state.apsim.transportConnected = false) :
    (tryOpen meter tries w).1 = w := by
  induction tries with
  | zero => rfl
  | succ tries ih =>
    simp only [tryOpen, poll_of_stopped h, hconnected, Bool.and_false, Bool.false_eq_true, if_false]
    exact ih

/-- **One meter on a loop that is stopped** is recorded with nothing. -/
theorem readMeter_of_stopped {w : Loop Library Handler} (h : w.stopped = true)
    (payload : Config.Payload) (meter : Meter) :
    (readMeter payload meter w).2 = { meterAddr := meter.name, meterData := [] } ∧
      (readMeter payload meter w).1.stopped = true := by
  have hconstructed : (construct meter w).stopped = true := h
  have hopen : (tryOpen meter maxTries (construct meter w)).1 = construct meter w :=
    tryOpen_of_stopped meter hconstructed rfl
  have hget : (get meter (objectFor payload) (construct meter w)).1 = construct meter w := by
    simp only [get, poll_of_stopped hconstructed]
    rfl
  simp only [readMeter, hopen, hget, close, destroy, poll_of_stopped hconstructed]
  exact ⟨rfl, h⟩

/-! ## A run -/

/-- A meter and what is asked of it. -/
abbrev Visit := Config.Payload × Meter

/-- The meter's own reading. -/
def Visit.own (visit : Visit) : MeterReading :=
  { meterAddr := visit.2.name, meterData := visit.2.reading (objectFor visit.1) }

/-- One visit after the other. -/
def readVisits : List Visit → Loop Library Handler → Loop Library Handler × List MeterReading
  | [], w => (w, [])
  | visit :: visits, w =>
    let first := readMeter visit.1 visit.2 w
    let rest := readVisits visits first.1
    (rest.1, first.2 :: rest.2)

/-- After a meter that stops the loop, no meter has anything to say. -/
def Undisturbed (late : Nat) (visits : List Visit) : Prop :=
  ∀ before visit after, visits = before ++ visit :: after →
    Stops ((before.map Prod.snd).foldl latenessAfter late) visit.2 →
      ∀ later ∈ after, later.2.reading (objectFor later.1) = []

theorem undisturbed_cons {late : Nat} {visit : Visit} {visits : List Visit} :
    Undisturbed late (visit :: visits) ↔
      (Stops late visit.2 → ∀ later ∈ visits, later.2.reading (objectFor later.1) = []) ∧
        Undisturbed (latenessAfter late visit.2) visits := by
  refine ⟨fun h => ⟨h [] visit visits rfl, fun before visit' after hsplit => ?_⟩,
    fun ⟨hfirst, hrest⟩ before visit' after hsplit => ?_⟩
  · exact h (visit :: before) visit' after (by rw [hsplit, List.cons_append])
  · cases before with
    | nil =>
      rw [List.nil_append, List.cons.injEq] at hsplit
      obtain ⟨rfl, rfl⟩ := hsplit
      exact hfirst
    | cons first before =>
      rw [List.cons_append, List.cons.injEq] at hsplit
      obtain ⟨rfl, hsplit⟩ := hsplit
      exact hrest before visit' after hsplit

theorem undisturbed_of_silent {visits : List Visit}
    (h : ∀ visit ∈ visits, visit.2.reading (objectFor visit.1) = []) (late : Nat) :
    Undisturbed late visits := by
  rintro before visit after rfl - later hlater
  exact h later (List.mem_append_right _ (List.mem_cons_of_mem _ hlater))

theorem readVisits_of_stopped {w : Loop Library Handler} (h : w.stopped = true)
    (visits : List Visit) :
    (readVisits visits w).2 =
      visits.map fun visit => { meterAddr := visit.2.name, meterData := [] } := by
  induction visits generalizing w with
  | nil => rfl
  | cons visit visits ih =>
    obtain ⟨hreading, hstopped⟩ := readMeter_of_stopped h visit.1 visit.2
    simp only [readVisits, hreading, ih hstopped, List.map_cons]

/-- **A run on a loop that is going** records every meter with its own reading exactly if it is
undisturbed. -/
theorem Boundary.readVisits_iff {late : Nat} {w : Loop Library Handler} (h : Boundary late w)
    (visits : List Visit) :
    (readVisits visits w).2 = visits.map Visit.own ↔ Undisturbed late visits := by
  induction visits generalizing late w with
  | nil =>
    refine ⟨fun _ => undisturbed_of_silent ?_ late, fun _ => rfl⟩
    exact fun visit hvisit => absurd hvisit List.not_mem_nil
  | cons visit visits ih =>
    obtain ⟨hreading, hstops, hgoes⟩ := h.readMeter visit.1 visit.2
    have hfirst : (readVisits (visit :: visits) w).2 = (visit :: visits).map Visit.own ↔
        (readVisits visits (Script.readMeter visit.1 visit.2 w).1).2 = visits.map Visit.own := by
      simp only [readVisits, hreading, List.map_cons, Visit.own, List.cons.injEq, true_and]
    rw [hfirst, undisturbed_cons]
    by_cases hstop : Stops late visit.2
    · -- the loop is stopped from here on
      have hempty : (readVisits visits (Script.readMeter visit.1 visit.2 w).1).2 =
          visits.map Visit.own ↔ ∀ later ∈ visits, later.2.reading (objectFor later.1) = [] := by
        rw [readVisits_of_stopped (hstops hstop), List.map_inj_left]
        simp only [Visit.own, MeterReading.mk.injEq, true_and, eq_comm]
      rw [hempty]
      exact ⟨fun hsilent => ⟨fun _ => hsilent, undisturbed_of_silent hsilent _⟩,
        fun hundisturbed => hundisturbed.1 hstop⟩
    · rw [ih (hgoes hstop)]
      exact (and_iff_right fun h => absurd h hstop).symm

/-! ## The rounds of `main` -/

/-- The visits of a run, in order. -/
def visits (rounds : List (Config.Payload × List Meter)) : List Visit :=
  rounds.flatMap fun round => round.2.map fun meter => (round.1, meter)

/-- Every reading of a run is the one `runScript` would store for the meter alone, on a fresh
library. -/
def Independent (rounds : List (Config.Payload × List Meter)) : Prop :=
  runRounds rounds fresh =
    rounds.map fun round => round.2.flatMap fun meter => (runScript round.1 [meter] fresh).2

theorem readVisits_append (first rest : List Visit) (w : Loop Library Handler) :
    readVisits (first ++ rest) w =
      ((readVisits rest (readVisits first w).1).1,
        (readVisits first w).2 ++ (readVisits rest (readVisits first w).1).2) := by
  induction first generalizing w with
  | nil => rfl
  | cons visit first ih => simp only [List.cons_append, readVisits, ih]

theorem runScript_eq (payload : Config.Payload) (meters : List Meter) (w : Loop Library Handler) :
    runScript payload meters w = readVisits (meters.map fun meter => (payload, meter)) w := by
  induction meters generalizing w with
  | nil => rfl
  | cons meter meters ih => simp only [runScript, List.map_cons, readVisits, ih]

theorem readVisits_length (visits : List Visit) (w : Loop Library Handler) :
    (readVisits visits w).2.length = visits.length := by
  induction visits generalizing w with
  | nil => rfl
  | cons visit visits ih => simp only [readVisits, List.length_cons, ih]

theorem runRounds_flatten (rounds : List (Config.Payload × List Meter)) (w : Loop Library Handler) :
    (runRounds rounds w).flatten = (readVisits (visits rounds) w).2 := by
  induction rounds generalizing w with
  | nil => rfl
  | cons round rounds ih =>
    simp only [runRounds, List.flatten_cons, visits, List.flatMap_cons, readVisits_append]
    rw [ih, runScript_eq]
    rfl

theorem runRounds_lengths (rounds : List (Config.Payload × List Meter)) (w : Loop Library Handler) :
    (runRounds rounds w).map List.length = rounds.map fun round => round.2.length := by
  induction rounds generalizing w with
  | nil => rfl
  | cons round rounds ih =>
    simp only [runRounds, List.map_cons, ih, runScript_eq, readVisits_length, List.length_map]

/-- A meter alone. -/
theorem runScript_alone (payload : Config.Payload) (meter : Meter) :
    (runScript payload [meter] fresh).2 = [Visit.own (payload, meter)] := by
  rw [runScript, (boundary_fresh.readMeter payload meter).1]
  rfl

/-- **When the readings of a run are independent**: no meter that stops the loop is followed, in its
round or a later one, by a meter that alone would be recorded with something. The rounds are any,
over the one event loop, and the meters behave in any way that a `Meter` says; what is compared is
the recorded data of every meter with that of a run for it alone. The close callback of a deleted
transport is taken to do nothing. -/
theorem independent_iff (rounds : List (Config.Payload × List Meter)) :
    Independent rounds ↔ Undisturbed 0 (visits rounds) := by
  have halone : (rounds.map fun round =>
      round.2.flatMap fun meter => (runScript round.1 [meter] fresh).2) =
      rounds.map fun round => round.2.map fun meter => Visit.own (round.1, meter) := by
    refine List.map_congr_left fun round _ => ?_
    simp only [runScript_alone]
    exact List.map_eq_flatMap.symm
  have hflatten : (rounds.map fun round => round.2.map fun meter =>
      Visit.own (round.1, meter)).flatten = (visits rounds).map Visit.own := by
    rw [visits, List.map_flatMap, List.flatMap_def]
    simp only [List.map_map, Function.comp_def]
  rw [Independent, halone, List.eq_iff_flatten_eq, runRounds_flatten, hflatten, runRounds_lengths,
    boundary_fresh.readVisits_iff]
  refine and_iff_left ?_
  simp only [List.map_map, Function.comp_def, List.length_map]

/-- A meter whose name does not resolve stops the loop, and the next one, which would have
answered, is recorded with nothing. -/
theorem unresolved_meter_silences_next : ¬ ∀ rounds, Independent rounds := by
  intro h
  have hround := h [(.small,
    [{ name := "a".toList, resolution := 0, endpoints := [], association := none,
       answer := fun _ => none },
     { name := "b".toList, resolution := 0, endpoints := [{ wait := 0, accepts := true }],
       association := some 0, answer := fun _ => some (0, "7".toList) }])]
  unfold Independent at hround
  revert hround
  decide +kernel

end AccessPoint.Script
