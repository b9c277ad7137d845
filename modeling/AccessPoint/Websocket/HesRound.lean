import AccessPoint.Lib.Run
import AccessPoint.Websocket.HESConfig

/-!
# The rounds of the head-end

`main` of `HESsim.cpp` against the configuration thread. A round reads `get_route_only()` once;
`runScript` then reads `get_payload_size()` for every meter, and `multiRead` reads it once for
all of them. A message makes its assignments one at a time and without the lock, so each
assignment and each read is an atomic step.

`inForce` is the last complete configuration: the initial one, or what a whole message has
left. Only a message that makes both assignments comes into force. One that throws after the
payload size leaves that size in the field, where the rounds read it, and in no configuration
in force. A pair that a meter is run under is sound if it was in force at some moment of the
round.

`one_configuration_of_steady` says that a round is sound if, whenever it reads the payload
size, that size is still the one that was in force when the round began, or the fields are a
configuration in force whose flag is the one the round read. While at most one message has come
into force in the round, a read that is not steady takes a pair that was never in force in it.
What is in force is never anything but the initial configuration or one that a message carries.
-/

namespace AccessPoint

open HESConfig

/-- Where the main loop stands. `written` is `multiRead` after it has read the payload size. -/
inductive HesPhase where
  | between
  | runScript
  | multiRead
  | written
  deriving DecidableEq, Repr

/-- The value of `get_route_only()` that led here. -/
def HesPhase.routeOnly : HesPhase → Bool
  | .runScript => true
  | _ => false

/-- The fields, what the load in progress has still to assign, and the round: the pairs its
meters are run under, and the configurations that have been in force in it. -/
structure HesRounds where
  cfg : HESConfig
  pending : List Assignment
  phase : HesPhase
  inForce : HESConfig
  atStart : HESConfig
  complete : List HESConfig
  used : List HESConfig
  deriving DecidableEq, Repr

/-- A step of the configuration thread, or of the main loop. A message arrives with its first
assignment, if it makes any. -/
inductive HesEvent where
  | message (str : StdString)
  | assign
  | getRouteOnly
  | getPayloadSize
  | endRound
  deriving DecidableEq, Repr

namespace HesRounds

/-- Before the first round, under any configuration. -/
def start (cfg : HESConfig) : HesRounds :=
  { cfg, pending := [], phase := .between, inForce := cfg, atStart := cfg, complete := []
    used := [] }

/-- A configuration comes into force. -/
def comesIntoForce (s : HesRounds) : HesRounds :=
  { s with
    inForce := s.cfg
    complete := if s.phase = .between then s.complete else s.complete ++ [s.cfg] }

/-- The load makes the next of its assignments. The flag is the last one of a whole message, which
comes into force with it. After the payload size there may be nothing left to assign: `load` has
thrown, and the message is over without coming into force. -/
def doAssign (s : HesRounds) : List Assignment → HesRounds
  | [] => s
  | .payloadSize payloadSize :: pending =>
    { s with cfg := s.cfg.assign (.payloadSize payloadSize), pending }
  | .routeOnly routeOnly :: pending =>
    { s with cfg := s.cfg.assign (.routeOnly routeOnly), pending }.comesIntoForce

/-- The pair that a meter read now is run under. -/
def pair (s : HesRounds) : HESConfig :=
  { payloadSize := s.cfg.payloadSize, routeOnly := s.phase.routeOnly }

variable {Tree : Type} (boost : PropertyTree Tree)

/-- One step; a step that is not offered changes nothing. -/
def step (s : HesRounds) : HesEvent → HesRounds
  | .message str => if s.pending = [] then s.doAssign (assignments boost str) else s
  | .assign => s.doAssign s.pending
  | .getRouteOnly =>
    if s.phase = .between then
      { s with
        phase := if s.cfg.routeOnly then .runScript else .multiRead
        atStart := s.inForce
        complete := [s.inForce]
        used := [] }
    else s
  | .getPayloadSize =>
    match s.phase with
    | .runScript => { s with used := s.used ++ [s.pair] }
    | .multiRead => { s with used := s.used ++ [s.pair], phase := .written }
    | _ => s
  | .endRound =>
    match s.phase with
    | .runScript | .written => { s with phase := .between }
    | _ => s

/-- Every meter of a round that is over was run under a configuration that was in force at some
moment of it. -/
def Sound (s : HesRounds) : Prop :=
  s.phase = .between → ∀ pair ∈ s.used, pair ∈ s.complete

/-- The main loop is about to read the payload size. -/
def Reading (s : HesRounds) : Prop :=
  s.phase = .runScript ∨ s.phase = .multiRead

/-- The payload size is read while it is the one that was in force at the start of the round, or
while the fields are a configuration in force with the flag that the round has read. -/
def Steady (s : HesRounds) : HesEvent → Prop
  | .getPayloadSize =>
    s.Reading → s.cfg.payloadSize = s.atStart.payloadSize ∨
      s.cfg = s.inForce ∧ s.cfg.routeOnly = s.phase.routeOnly
  | _ => True

/-- What every step keeps, of a run whose messages carry configurations in `W`: a load that is not
over has the flag left to assign, has not touched it, and will leave a configuration in `W`; what
has been in force is in `W`; in a round, the first of its configurations is the one at its start,
whose flag it has read, and the last is the one in force. -/
structure Kept (W : HESConfig → Prop) (s : HesRounds) : Prop where
  pending : s.pending = [] ∨
    ∃ routeOnly, s.pending = [.routeOnly routeOnly] ∧ W { s.cfg with routeOnly }
  inForce : W s.inForce
  complete : ∀ c ∈ s.complete, W c
  flag : s.cfg.routeOnly = s.inForce.routeOnly
  first : s.phase ≠ .between → s.complete.head? = some s.atStart
  last : s.phase ≠ .between → s.complete.getLast? = some s.inForce
  read : s.Reading → s.atStart.routeOnly = s.phase.routeOnly

variable {W : HESConfig → Prop}

theorem Kept.start {cfg : HESConfig} (hcfg : W cfg) : (start cfg).Kept W where
  pending := .inl rfl
  inForce := hcfg
  complete := nofun
  flag := rfl
  first h := absurd rfl h
  last h := absurd rfl h
  read h := by rcases h with h | h <;> cases h

/-- The load of a message makes its first assignment, and leaves the flag for later or throws. -/
theorem Kept.assignsPayloadSize {s : HesRounds} (h : s.Kept W) {payloadSize : Payload}
    {pending : List Assignment}
    (hpending : pending = [] ∨
      ∃ routeOnly, pending = [.routeOnly routeOnly] ∧ W { payloadSize, routeOnly }) :
    (s.doAssign (.payloadSize payloadSize :: pending)).Kept W where
  pending := hpending
  inForce := h.inForce
  complete := h.complete
  flag := h.flag
  first := h.first
  last := h.last
  read := h.read

/-- The load of a message makes its last assignment. -/
theorem Kept.assignsRouteOnly {s : HesRounds} (h : s.Kept W) {routeOnly : Bool}
    (hwhole : W { s.cfg with routeOnly }) : (s.doAssign [.routeOnly routeOnly]).Kept W where
  pending := .inl rfl
  inForce := hwhole
  complete := by
    intro c hc
    simp only [HesRounds.doAssign, comesIntoForce] at hc
    split at hc
    · exact h.complete c hc
    · rcases List.mem_append.mp hc with hold | hnew
      · exact h.complete c hold
      · rw [List.mem_singleton.mp hnew]
        exact hwhole
  flag := rfl
  first hin := by
    have hphase : ¬ s.phase = .between := hin
    have hhead : ∀ c, (s.complete ++ [c]).head? = some s.atStart := by
      intro c
      rw [List.head?_append, h.first hin, Option.some_or]
    simpa [HesRounds.doAssign, comesIntoForce, hphase] using hhead _
  last hin := by
    have hphase : ¬ s.phase = .between := hin
    simp [HesRounds.doAssign, comesIntoForce, hphase]
  read := h.read

/-- A message assigns nothing, the payload size alone, or the two fields it carries. -/
theorem assignments_cases (str : StdString) :
    assignments boost str = [] ∨
      (∃ payloadSize, assignments boost str = [.payloadSize payloadSize]) ∨
      ∃ c, carried boost str = some c ∧
        assignments boost str = [.payloadSize c.payloadSize, .routeOnly c.routeOnly] := by
  cases hread : boost.readJson str with
  | error e => exact .inl (by simp [assignments, hread])
  | ok tree =>
    cases hpayload : boost.get Payload.getValue tree payloadPath with
    | error e => exact .inl (by simp [assignments, hread, hpayload])
    | ok payloadSize =>
      cases hroute : boost.get boost.toBool tree routePath with
      | error e =>
        have hassign : assignments boost str = [.payloadSize payloadSize] := by
          simp [assignments, hread, hpayload, hroute]
        exact .inr (.inl ⟨payloadSize, hassign⟩)
      | ok routeOnly =>
        have hcarried : carried boost str = some { payloadSize, routeOnly } := by
          simp [carried, hread, hpayload, hroute]
        refine .inr (.inr ⟨_, hcarried, ?_⟩)
        simp [assignments, hread, hpayload, hroute]

/-- A message arrives while no load is in progress. -/
theorem Kept.message {s : HesRounds} (h : s.Kept W) {str : StdString}
    (hstr : ∀ c, carried boost str = some c → W c) :
    (s.doAssign (assignments boost str)).Kept W := by
  rcases assignments_cases boost str with
    hnone | ⟨payloadSize, hsize⟩ | ⟨c, hcarried, hboth⟩
  · rw [hnone]
    exact h
  · rw [hsize]
    exact h.assignsPayloadSize (.inl rfl)
  · rw [hboth]
    exact h.assignsPayloadSize (.inr ⟨_, rfl, hstr c hcarried⟩)

/-- **What the two threads keep.** -/
theorem Kept.step {s : HesRounds} (h : s.Kept W) {event : HesEvent}
    (hevent : ∀ str c, event = .message str → carried boost str = some c → W c) :
    (s.step boost event).Kept W := by
  cases event with
  | message str =>
    by_cases hpending : s.pending = []
    · simp only [HesRounds.step, if_pos hpending]
      exact h.message boost fun c => hevent str c rfl
    · simpa only [HesRounds.step, if_neg hpending] using h
  | assign =>
    rcases h.pending with hpending | ⟨routeOnly, hpending, hwhole⟩
    · simp only [HesRounds.step, hpending]
      exact h
    · simp only [HesRounds.step, hpending]
      exact h.assignsRouteOnly hwhole
  | getRouteOnly =>
    by_cases hphase : s.phase = .between
    · simp only [HesRounds.step, if_pos hphase]
      have hcomplete : ∀ c ∈ [s.inForce], W c := by
        intro c hc
        rw [List.mem_singleton.mp hc]
        exact h.inForce
      refine ⟨h.pending, h.inForce, hcomplete, h.flag, fun _ => rfl, fun _ => rfl, ?_⟩
      intro _
      cases hflag : s.cfg.routeOnly with
      | true => exact h.flag.symm.trans hflag
      | false => exact h.flag.symm.trans hflag
    · simpa only [HesRounds.step, if_neg hphase] using h
  | getPayloadSize =>
    cases hphase : s.phase with
    | runScript =>
      have hin : s.phase ≠ .between := by
        rw [hphase]
        decide
      have hread : s.atStart.routeOnly = true := (h.read (.inl hphase)).trans (by rw [hphase]; rfl)
      simp only [HesRounds.step, hphase]
      exact ⟨h.pending, h.inForce, h.complete, h.flag, fun _ => h.first hin, fun _ => h.last hin,
        fun _ => hread⟩
    | multiRead =>
      have hin : s.phase ≠ .between := by
        rw [hphase]
        decide
      simp only [HesRounds.step, hphase]
      refine ⟨h.pending, h.inForce, h.complete, h.flag, fun _ => h.first hin,
        fun _ => h.last hin, ?_⟩
      rintro (hreading | hreading)
      · cases hreading
      · cases hreading
    | between => simpa only [HesRounds.step, hphase] using h
    | written => simpa only [HesRounds.step, hphase] using h
  | endRound =>
    have hbetween : { s with phase := .between : HesRounds }.Kept W := by
      refine ⟨h.pending, h.inForce, h.complete, h.flag, fun hne => absurd rfl hne,
        fun hne => absurd rfl hne, ?_⟩
      rintro (hreading | hreading)
      · cases hreading
      · cases hreading
    cases hphase : s.phase with
    | runScript => simpa only [HesRounds.step, hphase] using hbetween
    | written => simpa only [HesRounds.step, hphase] using hbetween
    | between => simpa only [HesRounds.step, hphase] using h
    | multiRead => simpa only [HesRounds.step, hphase] using h

/-! ## The pairs of a round -/

/-- A configuration of the round: the one at its start or the one in force. -/
theorem Kept.mem_complete {s : HesRounds} (h : s.Kept W) (hphase : s.phase ≠ .between)
    {cfg : HESConfig} (hcfg : cfg = s.atStart ∨ cfg = s.inForce) : cfg ∈ s.complete := by
  rcases hcfg with rfl | rfl
  · exact List.mem_of_head? (h.first hphase)
  · exact List.mem_of_getLast? (h.last hphase)

theorem Reading.ne_between {s : HesRounds} (h : s.Reading) : s.phase ≠ .between := by
  rcases h with h | h
  · rw [h]
    decide
  · rw [h]
    decide

/-- **A steady read** takes a pair that was in force at the start of the round or is now. -/
theorem Kept.pair_mem {s : HesRounds} (h : s.Kept W) (hreading : s.Reading)
    (hsteady : s.Steady .getPayloadSize) : s.pair ∈ s.complete := by
  apply h.mem_complete hreading.ne_between
  rcases hsteady hreading with hsize | ⟨hcfg, hflag⟩
  · refine .inl ?_
    rw [pair, hsize, ← h.read hreading]
  · refine .inr ?_
    rw [pair, ← hflag, ← hcfg]

/-- No meter of the round has been run under another pair. -/
def UsedComplete (s : HesRounds) : Prop :=
  ∀ pair ∈ s.used, pair ∈ s.complete

/-- The configuration thread takes no configuration from the round. -/
theorem UsedComplete.doAssign {s : HesRounds} (h : s.UsedComplete) (todo : List Assignment) :
    (s.doAssign todo).UsedComplete := by
  match todo with
  | [] => exact h
  | .payloadSize _ :: _ => exact h
  | .routeOnly _ :: _ =>
    intro pair hpair
    have hmem : pair ∈ s.complete := h pair hpair
    simp only [HesRounds.doAssign, comesIntoForce]
    split
    · exact hmem
    · exact List.mem_append_left _ hmem

/-- **What a steady step keeps.** -/
theorem UsedComplete.step {s : HesRounds} (h : s.UsedComplete) (hkept : s.Kept W)
    {event : HesEvent} (hsteady : s.Steady event) : (s.step boost event).UsedComplete := by
  have hread : s.Reading → s.Steady .getPayloadSize →
      ∀ pair ∈ s.used ++ [s.pair], pair ∈ s.complete := by
    intro hreading hsteady pair hpair
    rcases List.mem_append.mp hpair with hold | hnew
    · exact h pair hold
    · rw [List.mem_singleton.mp hnew]
      exact hkept.pair_mem hreading hsteady
  cases event with
  | message str =>
    by_cases hpending : s.pending = []
    · simp only [HesRounds.step, if_pos hpending]
      exact h.doAssign _
    · simpa only [HesRounds.step, if_neg hpending] using h
  | assign => exact h.doAssign _
  | getRouteOnly =>
    by_cases hphase : s.phase = .between
    · simp only [HesRounds.step, if_pos hphase]
      exact nofun
    · simpa only [HesRounds.step, if_neg hphase] using h
  | getPayloadSize =>
    cases hphase : s.phase with
    | runScript =>
      simp only [HesRounds.step, hphase]
      exact hread (.inl hphase) hsteady
    | multiRead =>
      simp only [HesRounds.step, hphase]
      exact hread (.inr hphase) hsteady
    | between => simpa only [HesRounds.step, hphase] using h
    | written => simpa only [HesRounds.step, hphase] using h
  | endRound =>
    cases hphase : s.phase with
    | runScript =>
      simp only [HesRounds.step, hphase]
      exact h
    | written =>
      simp only [HesRounds.step, hphase]
      exact h
    | between => simpa only [HesRounds.step, hphase] using h
    | multiRead => simpa only [HesRounds.step, hphase] using h

/-- A message that throws after the payload size is never in force, and a round that reads the size
it has left is not sound. -/
example :
    ¬ ([.getRouteOnly, .message halfMessage, .getPayloadSize, .endRound].foldl (step messageTree)
      (start initial)).Sound := by
  rw [Sound]
  decide

end HesRounds

end AccessPoint
