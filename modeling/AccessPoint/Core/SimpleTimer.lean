import Mathlib.Data.List.Induction
import AccessPoint.Lib.Run
import AccessPoint.Lib.Wrap

/-!
# The simple timer

`LinuxSimpleTimer` reads a 32 bit millisecond tick, keeps the tick at which it ends, and compares
the two as plain numbers. `expires_once_iff` says which sequences of calls see it expire on time:
those without an `IsExpired` on one turn of the tick for an end on another.

`RemainingTime` subtracts the wrong way round. `remainingTime_iff` says which sequences of calls
see the time that remains: those that ask only in the millisecond in which none does.
-/

namespace AccessPoint.Core

/-- `struct timespec`, as `CLOCK_MONOTONIC` fills it. -/
structure Timespec where
  sec : Nat
  nsec : Nat
  deriving DecidableEq, Repr

/-- The milliseconds of the clock. -/
def Timespec.milliseconds (ts : Timespec) : Nat :=
  ts.sec * 1000 + ts.nsec / 1000000

/-- `ISimpleTimer::TimerState`. -/
inductive TimerState where
  | idle
  | running
  | expired
  deriving DecidableEq, Repr

/-- `LinuxSimpleTimer`. -/
structure LinuxSimpleTimer where
  state : TimerState
  durationInMilliseconds : UInt32
  endTick : UInt32
  deriving DecidableEq, Repr

/-- The public operations. `Initialize` keeps a longer name here. -/
inductive TimerCall where
  | initializeTimer (durationInMilliseconds : UInt32)
  | start
  | stop
  | isExpired
  | remainingTime
  | state
  deriving DecidableEq, Repr

/-- A call, and the clock it reads. -/
structure TimerEvent where
  clock : Timespec
  call : TimerCall
  deriving DecidableEq, Repr

/-- `GetTickCount`. -/
def getTickCount (ts : Timespec) : UInt32 :=
  .ofNat ts.milliseconds

namespace LinuxSimpleTimer

/-- A timer as its constructor leaves it. -/
def create : LinuxSimpleTimer :=
  { state := .idle, durationInMilliseconds := 0, endTick := 0 }

/-- `Initialize`. -/
def initializeTimer (t : LinuxSimpleTimer) (durationInMilliseconds : UInt32) : LinuxSimpleTimer :=
  { t with durationInMilliseconds }

/-- `Start`. -/
def start (t : LinuxSimpleTimer) (ts : Timespec) : LinuxSimpleTimer :=
  { t with state := .running, endTick := getTickCount ts + t.durationInMilliseconds }

/-- `Stop`. -/
def stop (t : LinuxSimpleTimer) : LinuxSimpleTimer :=
  { t with state := .idle }

/-- `IsExpired`: the answer, and the timer after it. -/
def isExpired (t : LinuxSimpleTimer) (ts : Timespec) : Bool × LinuxSimpleTimer :=
  if t.state = .running ∧ getTickCount ts ≥ t.endTick then (true, { t with state := .expired })
  else (false, t)

/-- `RemainingTime`. -/
def remainingTime (t : LinuxSimpleTimer) (ts : Timespec) : UInt32 :=
  if t.state = .running then getTickCount ts - t.endTick else 0

/-- The timer after one call. -/
def step (t : LinuxSimpleTimer) (e : TimerEvent) : LinuxSimpleTimer :=
  match e.call with
  | .initializeTimer durationInMilliseconds => t.initializeTimer durationInMilliseconds
  | .start => t.start e.clock
  | .stop => t.stop
  | .isExpired => (t.isExpired e.clock).2
  | .remainingTime | .state => t

/-- The timer after a history of calls. -/
def after (history : List TimerEvent) : LinuxSimpleTimer :=
  history.foldl step create

end LinuxSimpleTimer

/-! ## What the calls ask for -/

/-- The duration in force after a history: the one that `Initialize` has set last. -/
def durationInForce (history : List TimerEvent) : UInt32 :=
  history.foldl (fun d e => match e.call with | .initializeTimer d' => d' | _ => d) 0

/-- The latest `Start` of a history: its time, its duration, and the calls since. -/
def LatestStart (history : List TimerEvent) (started duration : Nat) (since : List TimerEvent) :
    Prop :=
  ∃ before clock, history = before ++ ⟨clock, .start⟩ :: since ∧
    clock.milliseconds = started ∧ (durationInForce before).toNat = duration ∧
    ∀ e ∈ since, e.call ≠ .start

/-- The latest `Start` of a history has neither been stopped nor been asked about when its time
was over. -/
def Pending (history : List TimerEvent) (started duration : Nat) : Prop :=
  ∃ since, LatestStart history started duration since ∧ (∀ e ∈ since, e.call ≠ .stop) ∧
    ∀ e ∈ since, e.call = .isExpired → e.clock.milliseconds < started + duration

/-- An `IsExpired` that is the first, with the time over and no `Stop` in between, to follow the
latest `Start` of a history. -/
def Due (history : List TimerEvent) (clock : Timespec) : Prop :=
  ∃ started duration, Pending history started duration ∧
    started + duration ≤ clock.milliseconds

/-- What is promised of the calls: a clock that does not go back, and durations of less than half
a turn of the tick. -/
structure Promised (run : List TimerEvent) : Prop where
  clock : run.Pairwise fun e e' => e.clock.milliseconds ≤ e'.clock.milliseconds
  durations : ∀ e ∈ run, ∀ d, e.call = .initializeTimer d → d.toNat < 2 ^ 31

/-- Each `IsExpired` is called less than half a turn after the latest `Start`. -/
def ExpiryNear (run : List TimerEvent) : Prop :=
  ∀ before e after, run = before ++ e :: after → e.call = .isExpired →
    ∀ started duration since, LatestStart before started duration since →
      e.clock.milliseconds < started + 2 ^ 31

/-- `IsExpired` answers true when it is due and false at every other call. -/
def ExpiresOnce (run : List TimerEvent) : Prop :=
  ∀ before e after, run = before ++ e :: after → e.call = .isExpired →
    (((LinuxSimpleTimer.after before).isExpired e.clock).1 = true ↔ Due before e.clock)

/-- While a `Start` is pending, `IsExpired` is called on the turn of the tick on which that `Start`
ends. -/
def SameTurn (run : List TimerEvent) : Prop :=
  ∀ before e after, run = before ++ e :: after → e.call = .isExpired →
    ∀ started duration, Pending before started duration →
      e.clock.milliseconds / 2 ^ 32 = (started + duration) / 2 ^ 32

/-! ## A history that grows by one call -/

section Histories

variable {history : List TimerEvent} {e : TimerEvent} {since : List TimerEvent}
  {started duration : Nat}

theorem LinuxSimpleTimer.after_concat :
    LinuxSimpleTimer.after (history ++ [e]) = (LinuxSimpleTimer.after history).step e :=
  List.foldl_concat _ _ _ _

theorem durationInForce_concat : durationInForce (history ++ [e]) =
    match e.call with | .initializeTimer d => d | _ => durationInForce history :=
  List.foldl_concat _ _ _ _

theorem not_latestStart_nil : ¬ LatestStart [] started duration since := by
  rintro ⟨before, clock, hsplit, -⟩
  simp at hsplit

theorem latestStart_concat : LatestStart (history ++ [e]) started duration since ↔
    e.call = .start ∧ e.clock.milliseconds = started ∧
        (durationInForce history).toNat = duration ∧ since = [] ∨
      e.call ≠ .start ∧ ∃ since', since = since' ++ [e] ∧
        LatestStart history started duration since' := by
  constructor
  · rintro ⟨before, clock, hsplit, hstarted, hduration, hsince⟩
    rcases List.eq_nil_or_concat since with rfl | ⟨since', e', rfl⟩
    · obtain ⟨rfl, he⟩ := List.append_inj' hsplit rfl
      cases he
      exact .inl ⟨rfl, hstarted, hduration, rfl⟩
    · rw [List.concat_eq_append, ← List.cons_append, ← List.append_assoc] at hsplit
      obtain ⟨rfl, he⟩ := List.append_inj' hsplit rfl
      cases he
      rw [List.concat_eq_append] at hsince ⊢
      have hlatest : ∀ e ∈ since', e.call ≠ .start :=
        fun e he => hsince e (List.mem_append_left _ he)
      exact .inr ⟨hsince e (by simp), since', rfl, before, clock, rfl, hstarted, hduration, hlatest⟩
  · rintro (⟨hcall, hstarted, hduration, rfl⟩ | ⟨hcall, since', rfl, before, clock, rfl, hlatest⟩)
    · obtain ⟨clock, call⟩ := e
      cases hcall
      exact ⟨history, clock, rfl, hstarted, hduration, by simp⟩
    · obtain ⟨hstarted, hduration, hsince⟩ := hlatest
      refine ⟨before, clock, by simp, hstarted, hduration, ?_⟩
      intro e' he'
      rcases List.mem_append.mp he' with he' | he'
      · exact hsince e' he'
      · rwa [List.mem_singleton.mp he']

/-- There is one latest `Start` at most. -/
theorem LatestStart.unique {started' duration' : Nat} {since' : List TimerEvent}
    (h : LatestStart history started duration since)
    (h' : LatestStart history started' duration' since') :
    started = started' ∧ duration = duration' := by
  induction history using List.reverseRecOn generalizing since since' with
  | nil => exact absurd h not_latestStart_nil
  | append_singleton history e ih =>
    rcases latestStart_concat.mp h with ⟨hcall, rfl, rfl, -⟩ | ⟨hcall, since, -, h⟩ <;>
      rcases latestStart_concat.mp h' with ⟨hcall', rfl, rfl, -⟩ | ⟨hcall', since', -, h'⟩
    · exact ⟨rfl, rfl⟩
    · exact absurd hcall hcall'
    · exact absurd hcall' hcall
    · exact ih h h'

theorem not_pending_nil : ¬ Pending [] started duration := by
  rintro ⟨since, hlatest, -⟩
  exact not_latestStart_nil hlatest

/-- What one more call does to the pending `Start`. -/
theorem pending_concat : Pending (history ++ [e]) started duration ↔
    e.call = .start ∧ e.clock.milliseconds = started ∧
        (durationInForce history).toNat = duration ∨
      e.call ≠ .start ∧ e.call ≠ .stop ∧ Pending history started duration ∧
        (e.call = .isExpired → e.clock.milliseconds < started + duration) := by
  constructor
  · rintro ⟨since, hlatest, hstop, hasked⟩
    rcases latestStart_concat.mp hlatest with ⟨hcall, hs, hd, -⟩ | ⟨hcall, since', rfl, hprev⟩
    · exact .inl ⟨hcall, hs, hd⟩
    · rw [List.forall_mem_append, List.forall_mem_singleton] at hstop hasked
      exact .inr ⟨hcall, hstop.2, ⟨since', hprev, hstop.1, hasked.1⟩, hasked.2⟩
  · rintro (⟨hcall, hs, hd⟩ | ⟨hcall, hstop, ⟨since, hlatest, hstops, hasked⟩, hlast⟩)
    · exact ⟨[], latestStart_concat.mpr (.inl ⟨hcall, hs, hd, rfl⟩), by simp, by simp⟩
    · refine ⟨since ++ [e], latestStart_concat.mpr (.inr ⟨hcall, since, rfl, hlatest⟩), ?_, ?_⟩
      · exact List.forall_mem_append.mpr ⟨hstops, List.forall_mem_singleton.mpr hstop⟩
      · exact List.forall_mem_append.mpr ⟨hasked, List.forall_mem_singleton.mpr hlast⟩

theorem Pending.unique {started' duration' : Nat} (h : Pending history started duration)
    (h' : Pending history started' duration') : started = started' ∧ duration = duration' := by
  obtain ⟨since, hlatest, -⟩ := h
  obtain ⟨since', hlatest', -⟩ := h'
  exact hlatest.unique hlatest'

end Histories

/-! ## The fields after a history -/

section Fields

variable {history : List TimerEvent} {e : TimerEvent} {ts : Timespec} {t : LinuxSimpleTimer}
  {started duration : Nat} {since : List TimerEvent}

theorem getTickCount_toNat : (getTickCount ts).toNat = ts.milliseconds % 2 ^ 32 :=
  UInt32.toNat_ofNat

namespace LinuxSimpleTimer

theorem isExpired_iff :
    (t.isExpired ts).1 = true ↔ t.state = .running ∧ t.endTick ≤ getTickCount ts := by
  unfold isExpired
  split <;> simp_all

theorem isExpired_running :
    (t.isExpired ts).2.state = .running ↔ t.state = .running ∧ ¬ (t.isExpired ts).1 = true := by
  unfold isExpired
  split <;> simp_all

@[simp] theorem isExpired_fields :
    (t.isExpired ts).2.endTick = t.endTick ∧
      (t.isExpired ts).2.durationInMilliseconds = t.durationInMilliseconds := by
  unfold isExpired
  split <;> exact ⟨rfl, rfl⟩

/-- Only `Initialize` sets the duration. -/
theorem after_duration : (after history).durationInMilliseconds = durationInForce history := by
  induction history using List.reverseRecOn with
  | nil => rfl
  | append_singleton history e ih =>
    rw [after_concat, durationInForce_concat, ← ih, step]
    cases e.call with
    | isExpired => exact isExpired_fields.2
    | _ => rfl

/-- Only `Start` sets the end. -/
theorem after_endTick (h : LatestStart history started duration since) :
    (after history).endTick.toNat = (started + duration) % 2 ^ 32 := by
  induction history using List.reverseRecOn generalizing since with
  | nil => exact absurd h not_latestStart_nil
  | append_singleton history e ih =>
    rw [after_concat, step]
    rcases latestStart_concat.mp h with ⟨hcall, rfl, rfl, -⟩ | ⟨hcall, since', -, hprev⟩
    · rw [hcall]
      show (getTickCount e.clock + (after history).durationInMilliseconds).toNat = _
      rw [UInt32.toNat_add, getTickCount_toNat, after_duration, Nat.mod_add_mod]
    · have hend := ih hprev
      cases hc : e.call with
      | start => exact absurd hc hcall
      | isExpired => rwa [isExpired_fields.1]
      | _ => exact hend

/-- A running timer has been started. -/
theorem exists_latestStart (h : (after history).state = .running) :
    ∃ started duration since, LatestStart history started duration since := by
  induction history using List.reverseRecOn with
  | nil => cases h
  | append_singleton history e ih =>
    by_cases hcall : e.call = .start
    · exact ⟨_, _, [], latestStart_concat.mpr (.inl ⟨hcall, rfl, rfl, rfl⟩)⟩
    · have hrunning : (after history).state = .running := by
        rw [after_concat, step] at h
        cases hc : e.call with
        | start => exact absurd hc hcall
        | stop => rw [hc] at h; cases h
        | isExpired => rw [hc] at h; exact (isExpired_running.mp h).1
        | _ => rw [hc] at h; exact h
      obtain ⟨started, duration, since, hprev⟩ := ih hrunning
      exact ⟨started, duration, since ++ [e],
        latestStart_concat.mpr (.inr ⟨hcall, since, rfl, hprev⟩)⟩

end LinuxSimpleTimer

end Fields

/-! ## Expiry -/

section Expiry

open LinuxSimpleTimer

variable {history : List TimerEvent} {e : TimerEvent} {started duration : Nat}

/-- The timer runs exactly when a `Start` is pending. -/
def Tracks (history : List TimerEvent) : Prop :=
  (after history).state = .running ↔ ∃ started duration, Pending history started duration

/-- What a call may rely on: it comes after the latest `Start`, by less than half a turn, and the
duration is one. -/
def WithinTurn (history : List TimerEvent) (e : TimerEvent) : Prop :=
  ∀ started duration since, LatestStart history started duration since →
    started ≤ e.clock.milliseconds ∧ e.clock.milliseconds < started + 2 ^ 31 ∧ duration < 2 ^ 31

theorem durationInForce_lt
    (h : ∀ e ∈ history, ∀ d, e.call = .initializeTimer d → d.toNat < 2 ^ 31) :
    (durationInForce history).toNat < 2 ^ 31 := by
  induction history using List.reverseRecOn with
  | nil => decide
  | append_singleton history e ih =>
    obtain ⟨hbefore, hlast⟩ := List.forall_mem_append.mp h
    have hprev := ih hbefore
    rw [durationInForce_concat]
    cases hc : e.call with
    | initializeTimer d => exact hlast e (List.mem_singleton_self e) d hc
    | _ => exact hprev

/-- What is promised of a run is promised of each call that is near the latest `Start`. -/
theorem Promised.withinTurn {run after : List TimerEvent} (h : Promised run)
    (hcut : run = history ++ e :: after)
    (hnear : ∀ started duration since, LatestStart history started duration since →
      e.clock.milliseconds < started + 2 ^ 31) : WithinTurn history e := by
  intro started duration since hlatest
  have hlt := hnear started duration since hlatest
  obtain ⟨before, clock, rfl, rfl, rfl, -⟩ := hlatest
  have hclock := (List.pairwise_append.mp (hcut ▸ h.clock)).2.2
  refine ⟨hclock ⟨clock, .start⟩ (by simp) e (by simp), hlt, durationInForce_lt ?_⟩
  intro e' he'
  exact h.durations e' (by simp [hcut, he'])

/-- **Where the timer tracks its history**, one `IsExpired` answers right exactly when it is called
on the turn of the tick on which the pending `Start` ends. -/
theorem isExpired_due_iff (htracks : Tracks history) (hw : WithinTurn history e) :
    (((after history).isExpired e.clock).1 = true ↔ Due history e.clock) ↔
      ∀ started duration, Pending history started duration →
        e.clock.milliseconds / 2 ^ 32 = (started + duration) / 2 ^ 32 := by
  by_cases hrunning : (after history).state = .running
  · obtain ⟨started, duration, hpending⟩ := htracks.mp hrunning
    have ⟨since, hlatest, _⟩ := hpending
    obtain ⟨hge, hlt, hd⟩ := hw started duration since hlatest
    have hend := after_endTick hlatest
    have hanswer : ((after history).isExpired e.clock).1 = true ↔
        (started + duration) % 2 ^ 32 ≤ e.clock.milliseconds % 2 ^ 32 := by
      rw [isExpired_iff, and_iff_right hrunning, UInt32.le_iff_toNat_le, hend, getTickCount_toNat]
    have hdue : Due history e.clock ↔ started + duration ≤ e.clock.milliseconds := by
      constructor
      · rintro ⟨started', duration', hpending', hle⟩
        obtain ⟨rfl, rfl⟩ := hpending.unique hpending'
        exact hle
      · intro hle
        exact ⟨started, duration, hpending, hle⟩
    have hhalf : 2 ^ 32 = 2 * 2 ^ 31 := rfl
    have hbounds : started ≤ started + duration ∧ started + duration < started + 2 ^ 31 := by omega
    rw [hanswer, hdue, Wrap.mod_le_mod_iff hhalf hbounds ⟨hge, hlt⟩]
    constructor
    · intro hturn started' duration' hpending'
      obtain ⟨rfl, rfl⟩ := hpending.unique hpending'
      exact hturn.symm
    · intro hturn
      exact (hturn started duration hpending).symm
  · have hnone : ∀ started duration, ¬ Pending history started duration :=
      fun started duration hpending => hrunning (htracks.mpr ⟨started, duration, hpending⟩)
    have hanswer : ¬ ((after history).isExpired e.clock).1 = true :=
      fun h => hrunning (isExpired_iff.mp h).1
    have hdue : ¬ Due history e.clock :=
      fun ⟨started, duration, hpending, _⟩ => hnone started duration hpending
    exact iff_of_true (iff_of_false hanswer hdue)
      fun started duration hpending => absurd hpending (hnone started duration)

/-- One more call, an `IsExpired` that answers right among them, and the timer still tracks its
history. -/
theorem Tracks.concat (htracks : Tracks history)
    (hanswer : e.call = .isExpired →
      (((after history).isExpired e.clock).1 = true ↔ Due history e.clock)) :
    Tracks (history ++ [e]) := by
  unfold Tracks at htracks
  have hkeep : e.call ≠ .start → e.call ≠ .stop → e.call ≠ .isExpired →
      (after (history ++ [e])).state = (after history).state → Tracks (history ++ [e]) := by
    intro hstart hstop hasked hstate
    rw [Tracks, hstate, htracks]
    simp only [pending_concat, hstart, hstop, hasked, false_and, false_or, ne_eq, not_false_eq_true,
      true_and, false_imp_iff, and_true]
  have hstate : (after (history ++ [e])).state = ((after history).step e).state := by
    rw [after_concat]
  cases hc : e.call with
  | start =>
    apply iff_of_true
    · rw [hstate, step, hc]
      rfl
    · exact ⟨_, _, pending_concat.mpr (.inl ⟨hc, rfl, rfl⟩)⟩
  | stop =>
    apply iff_of_false
    · rw [hstate, step, hc]
      nofun
    · rintro ⟨started, duration, hpending⟩
      rcases pending_concat.mp hpending with ⟨hcall, -⟩ | ⟨-, hstop, -⟩
      · rw [hc] at hcall
        cases hcall
      · exact hstop hc
  | isExpired =>
    rw [Tracks, hstate, step, hc, isExpired_running, hanswer hc, htracks]
    constructor
    · rintro ⟨⟨started, duration, hpending⟩, hdue⟩
      refine ⟨started, duration, ?_⟩
      apply pending_concat.mpr (.inr ⟨by simp [hc], by simp [hc], hpending, _⟩)
      intro _
      by_contra hlt
      exact hdue ⟨started, duration, hpending, Nat.le_of_not_lt hlt⟩
    · rintro ⟨started, duration, hpending⟩
      rcases pending_concat.mp hpending with ⟨hcall, -⟩ | ⟨-, -, hprev, hlt⟩
      · rw [hc] at hcall
        cases hcall
      · refine ⟨⟨started, duration, hprev⟩, ?_⟩
        rintro ⟨started', duration', hprev', hle⟩
        obtain ⟨rfl, rfl⟩ := hprev.unique hprev'
        exact absurd (hlt hc) (Nat.not_lt.mpr hle)
  | _ =>
    apply hkeep (by simp [hc]) (by simp [hc]) (by simp [hc])
    simp only [hstate, step, hc, initializeTimer]

/-- **The timer expires once and on time exactly in the runs that ask on the right turn**: while a
`Start` is pending, every `IsExpired` falls on the turn of the tick on which that `Start` ends. The
calls come in any order and at any times, on a clock that does not go back, with durations of less
than half a turn and each question less than half a turn after the latest `Start`; that much is
promised of the callers. Nobody has to ask, and no lower bound is put on how often. -/
theorem expires_once_iff {run : List TimerEvent} (hp : Promised run)
    (hnear : ExpiryNear run) : ExpiresOnce run ↔ SameTurn run := by
  have hw : Run.Along (fun history e => history ++ [e])
      (fun history e => e.call = .isExpired → WithinTurn history e) [] run :=
    Run.along_history.mpr fun before e after hcut hcall =>
      hp.withinTurn hcut (hnear before e after hcut hcall)
  have hcongr := Run.along_congr (I := Tracks)
    (G := fun history e => e.call = .isExpired → ∀ started duration,
      Pending history started duration →
        e.clock.milliseconds / 2 ^ 32 = (started + duration) / 2 ^ 32)
    (H := fun history e => e.call = .isExpired →
      (((after history).isExpired e.clock).1 = true ↔ Due history e.clock))
    hw (iff_of_false (by nofun) (by simp [not_pending_nil])) ?_ ?_
  · rwa [Run.along_history, Run.along_history] at hcongr
  · intro history e htracks hwithin hturn
    exact htracks.concat fun hcall => (isExpired_due_iff htracks (hwithin hcall)).mpr (hturn hcall)
  · intro history e htracks hwithin
    exact forall_congr' fun hcall => isExpired_due_iff htracks (hwithin hcall)

/-- A timer of five seconds, started a second before the tick wraps and asked half a second
later. -/
def acrossTheWrap : List TimerEvent :=
  [⟨⟨4294966, 0⟩, .initializeTimer 5000⟩, ⟨⟨4294966, 296000000⟩, .start⟩,
    ⟨⟨4294966, 796000000⟩, .isExpired⟩]

theorem acrossTheWrap_promised : Promised acrossTheWrap := by
  constructor
  · decide
  · intro e he d hd
    simp only [acrossTheWrap, List.mem_cons, List.not_mem_nil, or_false] at he
    rcases he with rfl | rfl | rfl <;> cases hd
    decide

theorem acrossTheWrap_near : ExpiryNear acrossTheWrap := by
  have hspan : ∀ e ∈ acrossTheWrap,
      4294966000 ≤ e.clock.milliseconds ∧ e.clock.milliseconds < 4294967000 := by decide
  intro before e after hcut _ started duration since hlatest
  obtain ⟨first, clock, rfl, rfl, -, -⟩ := hlatest
  have hstart : 4294966000 ≤ clock.milliseconds :=
    (hspan ⟨clock, .start⟩ (by rw [hcut]; simp)).1
  have hcall := (hspan e (by rw [hcut]; simp)).2
  omega

/-- The timer expires at once: the tick has not wrapped, its end has. -/
theorem not_expires_once :
    ¬ ∀ run : List TimerEvent, Promised run → ExpiryNear run → ExpiresOnce run := by
  intro h
  have honce := h acrossTheWrap acrossTheWrap_promised acrossTheWrap_near
  obtain ⟨started, duration, ⟨since, hlatest, -⟩, hle⟩ :=
    (honce (acrossTheWrap.take 2) ⟨⟨4294966, 796000000⟩, .isExpired⟩ [] rfl rfl).mp (by decide)
  have hconcat : LatestStart ([⟨⟨4294966, 0⟩, .initializeTimer 5000⟩] ++
    [⟨⟨4294966, 296000000⟩, .start⟩]) started duration since := hlatest
  rcases latestStart_concat.mp hconcat with ⟨-, rfl, rfl, -⟩ | ⟨hcall, -⟩
  · revert hle
    decide
  · exact hcall rfl

theorem expires_once_iff_acrossTheWrap : Promised acrossTheWrap ∧ ExpiryNear acrossTheWrap ∧
    (ExpiresOnce acrossTheWrap ↔ SameTurn acrossTheWrap) :=
  ⟨acrossTheWrap_promised, acrossTheWrap_near,
    expires_once_iff acrossTheWrap_promised acrossTheWrap_near⟩

end Expiry

/-! ## The time that remains -/

section Remaining

open LinuxSimpleTimer

variable {history : List TimerEvent} {e : TimerEvent} {started duration : Nat}
  {since : List TimerEvent}

/-- While the timer runs, `RemainingTime` is called less than half a turn after the latest
`Start`. -/
def RemainingNear (run : List TimerEvent) : Prop :=
  ∀ before e after', run = before ++ e :: after' → e.call = .remainingTime →
    (after before).state = .running →
      ∀ started duration since, LatestStart before started duration since →
        e.clock.milliseconds < started + 2 ^ 31

/-- While the timer runs, `RemainingTime` is the duration less the time since the latest `Start`,
and zero from then on. -/
def RemainingIsRight (run : List TimerEvent) : Prop :=
  ∀ before e after', run = before ++ e :: after' → e.call = .remainingTime →
    (after before).state = .running →
      ∀ started duration since, LatestStart before started duration since →
        ((after before).remainingTime e.clock).toNat =
          duration - (e.clock.milliseconds - started)

/-- Between two `Start`s the time that remains does not go up. -/
def NeverIncreases (run : List TimerEvent) : Prop :=
  ∀ before e between e' after', run = before ++ e :: (between ++ e' :: after') →
    e.call = .remainingTime → e'.call = .remainingTime → (∀ b ∈ between, b.call ≠ .start) →
      (after (before ++ e :: between)).remainingTime e'.clock ≤
        (after before).remainingTime e.clock

/-- While the timer runs, no time remains exactly when an `IsExpired` in its place would answer
true. -/
def ZeroWhenExpired (run : List TimerEvent) : Prop :=
  ∀ before e after', run = before ++ e :: after' → e.call = .remainingTime →
    (after before).state = .running →
      ((after before).remainingTime e.clock = 0 ↔
        ((after before).isExpired e.clock).1 = true)

/-- While the timer runs, `RemainingTime` is called only in the millisecond in which it ends. -/
def AskedAtTheEnd (run : List TimerEvent) : Prop :=
  ∀ before e after', run = before ++ e :: after' → e.call = .remainingTime →
    (after before).state = .running →
      ∀ started duration since, LatestStart before started duration since →
        e.clock.milliseconds = started + duration

/-- What `RemainingTime` returns while the timer runs: the time since the end, on the tick. -/
theorem remainingTime_toNat (hrunning : (after history).state = .running)
    (hlatest : LatestStart history started duration since) :
    ((after history).remainingTime e.clock).toNat =
      (2 ^ 32 - (started + duration) % 2 ^ 32 + e.clock.milliseconds % 2 ^ 32) % 2 ^ 32 := by
  rw [remainingTime, if_pos hrunning, UInt32.toNat_sub, after_endTick hlatest, getTickCount_toNat]

/-- **One call while the timer runs** returns the time that remains only at the end of it. -/
theorem remainingTime_right_iff (hrunning : (after history).state = .running)
    (hlatest : LatestStart history started duration since) (hw : WithinTurn history e) :
    ((after history).remainingTime e.clock).toNat =
        duration - (e.clock.milliseconds - started) ↔
      e.clock.milliseconds = started + duration := by
  obtain ⟨hge, hlt, hd⟩ := hw started duration since hlatest
  rw [remainingTime_toNat hrunning hlatest]
  omega

/-- At the end nothing remains. -/
theorem remainingTime_end (hrunning : (after history).state = .running)
    (hlatest : LatestStart history started duration since)
    (hend : e.clock.milliseconds = started + duration) :
    (after history).remainingTime e.clock = 0 := by
  apply UInt32.toNat_inj.mp
  rw [remainingTime_toNat hrunning hlatest, UInt32.toNat_zero]
  omega

/-- At the end `IsExpired` answers true. -/
theorem isExpired_end (hrunning : (after history).state = .running)
    (hlatest : LatestStart history started duration since)
    (hend : e.clock.milliseconds = started + duration) :
    ((after history).isExpired e.clock).1 = true := by
  rw [isExpired_iff, UInt32.le_iff_toNat_le, after_endTick hlatest, getTickCount_toNat, hend]
  exact ⟨hrunning, Nat.le_refl _⟩

/-- A run that asks at the end is told that nothing remains, whether the timer runs or not. -/
theorem AskedAtTheEnd.remainingTime {run after' : List TimerEvent} (h : AskedAtTheEnd run)
    (hcut : run = history ++ e :: after') (hcall : e.call = .remainingTime) :
    (after history).remainingTime e.clock = 0 := by
  by_cases hrunning : (after history).state = .running
  · obtain ⟨started, duration, since, hlatest⟩ := exists_latestStart hrunning
    exact remainingTime_end hrunning hlatest
      (h history e after' hcut hcall hrunning started duration since hlatest)
  · exact if_neg hrunning

/-- **The time that remains is right, does not go up between two `Start`s and agrees with
`IsExpired` exactly in the runs that ask for it only at the end**, in the millisecond in which the
duration is over. The promises are those of `expires_once_iff`. The condition is that of the
three properties together, over all questions of a run; which of them fails first is not said. -/
theorem remainingTime_iff {run : List TimerEvent} (hp : Promised run)
    (hnear : RemainingNear run) :
    RemainingIsRight run ∧ NeverIncreases run ∧ ZeroWhenExpired run ↔ AskedAtTheEnd run := by
  constructor
  · rintro ⟨hright, -, -⟩ before e after' hcut hcall hrunning started duration since hlatest
    have hwithin := hp.withinTurn hcut (hnear before e after' hcut hcall hrunning)
    apply (remainingTime_right_iff hrunning hlatest hwithin).mp
    exact hright before e after' hcut hcall hrunning started duration since hlatest
  · intro h
    refine ⟨?_, ?_, ?_⟩
    · intro before e after' hcut hcall hrunning started duration since hlatest
      have hwithin := hp.withinTurn hcut (hnear before e after' hcut hcall hrunning)
      apply (remainingTime_right_iff hrunning hlatest hwithin).mpr
      exact h before e after' hcut hcall hrunning started duration since hlatest
    · intro before e between e' after' hcut hcall hcall' _
      have hsecond : run = (before ++ e :: between) ++ e' :: after' := by
        rw [hcut, List.append_assoc, List.cons_append]
      rw [h.remainingTime hcut hcall, h.remainingTime hsecond hcall']
      exact UInt32.le_refl 0
    · intro before e after' hcut hcall hrunning
      obtain ⟨started, duration, since, hlatest⟩ := exists_latestStart hrunning
      have hend := h before e after' hcut hcall hrunning started duration since hlatest
      exact iff_of_true (remainingTime_end hrunning hlatest hend)
        (isExpired_end hrunning hlatest hend)

/-- A timer of five seconds, asked a second after its start. -/
def askedEarly : List TimerEvent :=
  [⟨⟨10, 0⟩, .initializeTimer 5000⟩, ⟨⟨10, 0⟩, .start⟩, ⟨⟨11, 0⟩, .remainingTime⟩]

theorem askedEarly_promised : Promised askedEarly := by
  constructor
  · decide
  · intro e he d hd
    simp only [askedEarly, List.mem_cons, List.not_mem_nil, or_false] at he
    rcases he with rfl | rfl | rfl <;> cases hd
    decide

theorem askedEarly_near : RemainingNear askedEarly := by
  have hspan : ∀ e ∈ askedEarly, e.clock.milliseconds < 12000 := by decide
  intro before e after' hcut _ _ started duration since _
  have hcall := hspan e (by rw [hcut]; simp)
  omega

/-- A second into the five, 4294963296 milliseconds remain. -/
theorem not_remainingTime : ¬ ∀ run : List TimerEvent, Promised run → RemainingNear run →
    RemainingIsRight run ∧ NeverIncreases run ∧ ZeroWhenExpired run := by
  intro h
  obtain ⟨hright, -, -⟩ := h askedEarly askedEarly_promised askedEarly_near
  have hlatest : LatestStart (askedEarly.take 2) 10000 5000 [] :=
    ⟨askedEarly.take 1, ⟨10, 0⟩, rfl, rfl, by decide, by simp⟩
  have hvalue := hright (askedEarly.take 2) ⟨⟨11, 0⟩, .remainingTime⟩ [] rfl rfl (by decide)
    10000 5000 [] hlatest
  revert hvalue
  decide

theorem remainingTime_iff_askedEarly : Promised askedEarly ∧ RemainingNear askedEarly ∧
    (RemainingIsRight askedEarly ∧ NeverIncreases askedEarly ∧ ZeroWhenExpired askedEarly ↔
      AskedAtTheEnd askedEarly) :=
  ⟨askedEarly_promised, askedEarly_near, remainingTime_iff askedEarly_promised askedEarly_near⟩

end Remaining

end AccessPoint.Core
