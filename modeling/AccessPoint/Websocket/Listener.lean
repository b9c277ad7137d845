import AccessPoint.Lib.Family
import AccessPoint.Websocket.Session
import AccessPoint.Websocket.TaskRunner

/-!
# The websocket servers

`listener` of `server.cpp` and of `taskrunner.cpp`, and the sessions it makes. The constructor opens
the acceptor and prepares it, and returns at the first call that fails; `run` looks only at whether
the acceptor is open. Every accept that completes starts the next, and one that succeeds makes a
session on the connection. A session of `server.cpp` loads every message into the one `HESConfig`.

`listener_steady` says what the accept loop keeps, from any outcome of the constructor.
`sessions_apart` says that the sessions of the configuration server have nothing in common but the
configuration, and `received_take_effect` what that is in a run in which no read fails.
`statistics_isolated` is about the replies of all sessions of the statistics server; as in
`AccessPoint.Websocket.TaskRunner`, each call of `fetchNetStats` is taken to return.
-/

namespace AccessPoint

open HESConfig

/-- The calls of the constructor that can fail. -/
inductive ListenCall where
  | openAcceptor
  | setOption
  | bind
  | listen
  deriving DecidableEq, Repr

/-- A `listener`: its acceptor, and the accepts that are outstanding. -/
structure Listener where
  isOpen : Bool
  listening : Bool
  accepting : Nat
  deriving DecidableEq, Repr

namespace Listener

/-- The constructor, by the calls that would fail. -/
def construct (fails : ListenCall → Bool) : Listener :=
  if fails .openAcceptor then { isOpen := false, listening := false, accepting := 0 }
  else if fails .setOption then { isOpen := true, listening := false, accepting := 0 }
  else if fails .bind then { isOpen := true, listening := false, accepting := 0 }
  else if fails .listen then { isOpen := true, listening := false, accepting := 0 }
  else { isOpen := true, listening := true, accepting := 0 }

/-- `do_accept`. -/
def doAccept (s : Listener) : Listener :=
  { s with accepting := s.accepting + 1 }

/-- `run`. -/
def run (s : Listener) : Listener :=
  if s.isOpen = false then s else s.doAccept

end Listener

/-- A server: its listener and the sessions made, with what they share. -/
structure WebsocketServer (σ γ : Type) where
  listener : Listener
  sessions : Family σ γ
  deriving DecidableEq, Repr

/-- An accept completes, or a session has something to do. -/
inductive ServerEvent (α : Type) where
  | acceptDone (ok : Bool)
  | session (who : Nat) (label : α)
  deriving DecidableEq, Repr

/-- An accept that succeeds. -/
def ServerEvent.isAccepted {α : Type} : ServerEvent α → Bool
  | .acceptDone ok => ok
  | .session _ _ => false

namespace WebsocketServer

variable {σ γ α : Type} (kind : Family.Kind σ γ α)

/-- `server`, before the loop runs. -/
def start (fails : ListenCall → Bool) (shared : γ) : WebsocketServer σ γ :=
  { listener := (Listener.construct fails).run, sessions := .empty shared }

/-- `on_accept`: a session is made and run when the accept succeeded, and another accept started in
either case. -/
def onAccept (s : WebsocketServer σ γ) (ok : Bool) : WebsocketServer σ γ :=
  let s := { s with listener := { s.listener with accepting := s.listener.accepting - 1 } }
  let s := if ok then { s with sessions := s.sessions.step kind .join } else s
  { s with listener := s.listener.doAccept }

/-- One event. An accept completes when one is outstanding, and with a connection only on an
acceptor that listens. -/
def step (s : WebsocketServer σ γ) : ServerEvent α → WebsocketServer σ γ
  | .acceptDone ok =>
    if s.listener.accepting = 0 then s
    else if ok = true ∧ s.listener.listening = false then s
    else s.onAccept kind ok
  | .session who label => { s with sessions := s.sessions.step kind (.act who label) }

/-- What an event is for the sessions, when the acceptor listens and when it does not. -/
def forSessions (listening : Bool) : ServerEvent α → Option (Family.Event α)
  | .acceptDone ok => if ok = true ∧ listening = true then some .join else none
  | .session who label => some (.act who label)

variable {kind}

/-- The listener that a server starts with. -/
theorem run_cases (fails : ListenCall → Bool) :
    (fails .openAcceptor = true ∧ (Listener.construct fails).run = ⟨false, false, 0⟩) ∨
    (fails .openAcceptor = false ∧ (∃ call, fails call = true) ∧
      (Listener.construct fails).run = ⟨true, false, 1⟩) ∨
    ((∀ call, fails call = false) ∧ (Listener.construct fails).run = ⟨true, true, 1⟩) := by
  unfold Listener.construct
  split
  next hopen => exact .inl ⟨hopen, rfl⟩
  next hopen =>
    have hopen' : fails .openAcceptor = false := by simpa using hopen
    split
    next h => exact .inr (.inl ⟨hopen', ⟨.setOption, h⟩, rfl⟩)
    next hset =>
      split
      next h => exact .inr (.inl ⟨hopen', ⟨.bind, h⟩, rfl⟩)
      next hbind =>
        split
        next h => exact .inr (.inl ⟨hopen', ⟨.listen, h⟩, rfl⟩)
        next hlisten =>
          refine .inr (.inr ⟨?_, rfl⟩)
          intro call
          cases call with
          | openAcceptor => exact hopen'
          | setOption => simpa using hset
          | bind => simpa using hbind
          | listen => simpa using hlisten

/-- **An event leaves the listener as it was**, and is for the sessions what it says. -/
theorem step_eq (kind : Family.Kind σ γ α) {s : WebsocketServer σ γ}
    (hlistener : s.listener.listening = true → s.listener.accepting = 1) (event : ServerEvent α) :
    s.step kind event =
      { listener := s.listener
        sessions := (forSessions s.listener.listening event).toList.foldl (Family.step kind)
          s.sessions } := by
  cases event with
  | session who label => rfl
  | acceptDone ok =>
    simp only [step]
    split
    next hzero =>
      have hnot : s.listener.listening = false := by
        by_contra hlistening
        rw [hlistener (by simpa using hlistening)] at hzero
        cases hzero
      simp [forSessions, hnot]
    next hpos =>
      have hlast : s.listener.accepting - 1 + 1 = s.listener.accepting := by omega
      split
      next hoffered => simp [forSessions, hoffered.2]
      next hoffered =>
        cases ok with
        | false => simp [onAccept, Listener.doAccept, forSessions, hlast]
        | true =>
          have hlistening : s.listener.listening = true := by simpa using hoffered
          have hjoin : forSessions (α := α) s.listener.listening (.acceptDone true) = some .join :=
            if_pos ⟨rfl, hlistening⟩
          simp only [hjoin, onAccept, Listener.doAccept, hlast, if_true]
          rfl

/-- The events of a run that are for the sessions. -/
def sessionEvents (fails : ListenCall → Bool) (events : List (ServerEvent α)) :
    List (Family.Event α) :=
  events.filterMap (forSessions (Listener.construct fails).run.listening)

/-- One event of a server that has started. -/
theorem step_started (kind : Family.Kind σ γ α) (fails : ListenCall → Bool)
    (sessions : Family σ γ) (event : ServerEvent α) :
    step kind { listener := (Listener.construct fails).run, sessions } event =
      { listener := (Listener.construct fails).run
        sessions := (forSessions (Listener.construct fails).run.listening event).toList.foldl
          (Family.step kind) sessions } := by
  apply step_eq
  intro hlistening
  obtain ⟨-, hrun⟩ | ⟨-, -, hrun⟩ | ⟨-, hrun⟩ := run_cases fails
  · rw [hrun] at hlistening
    cases hlistening
  · rw [hrun]
  · rw [hrun]

/-- A run: the listener stays as `run` has left it, and the sessions are those of a family that one
joins with each accept that succeeds, or none. -/
theorem run_eq (kind : Family.Kind σ γ α) (fails : ListenCall → Bool) (shared : γ)
    (events : List (ServerEvent α)) :
    events.foldl (step kind) (start fails shared) =
      { listener := (Listener.construct fails).run
        sessions := (sessionEvents fails events).foldl (Family.step kind) (.empty shared) } := by
  unfold start sessionEvents
  generalize (Family.empty shared : Family σ γ) = sessions
  induction events generalizing sessions with
  | nil => rfl
  | cons event events ih =>
    rw [List.foldl_cons, step_started, ih, List.filterMap_cons]
    cases forSessions (Listener.construct fails).run.listening event with
    | none => rfl
    | some joined => rfl

theorem isJoin_sessionEvents {fails : ListenCall → Bool}
    (h : (Listener.construct fails).run.listening = true) (events : List (ServerEvent α)) :
    ((sessionEvents fails events).filter (·.isJoin)).length =
      (events.filter (·.isAccepted)).length := by
  unfold sessionEvents
  rw [h]
  induction events with
  | nil => rfl
  | cons event events ih =>
    cases event with
    | session who label =>
      rw [List.filterMap_cons, List.filter_cons_of_neg Bool.false_ne_true]
      show (List.filter _ (Family.Event.act who label :: _)).length = _
      rw [List.filter_cons_of_neg Bool.false_ne_true]
      exact ih
    | acceptDone ok =>
      rw [List.filterMap_cons]
      cases ok with
      | false =>
        rw [List.filter_cons_of_neg Bool.false_ne_true]
        exact ih
      | true =>
        rw [List.filter_cons_of_pos rfl]
        show (List.filter _ (Family.Event.join :: _)).length = _
        rw [List.filter_cons_of_pos rfl, List.length_cons, List.length_cons, ih]

/-- Nobody acts where nobody joins. -/
theorem sessions_of_deaf (kind : Family.Kind σ γ α) (shared : γ) (events : List (ServerEvent α)) :
    (events.filterMap (forSessions false)).foldl (Family.step kind) (.empty shared) =
      .empty shared := by
  induction events with
  | nil => rfl
  | cons event events ih =>
    cases event with
    | session who label => exact ih
    | acceptDone ok =>
      cases ok with
      | false => exact ih
      | true => exact ih

/-- **The accept loop is steady**, whatever the constructor ran into and however accepts complete.
On an acceptor that was opened one accept is outstanding at any time; one that listens has made a
session of each accept that succeeded, in order; and one that does not has none to make, and never
comes to an end. -/
theorem listener_steady (kind : Family.Kind σ γ α) (fails : ListenCall → Bool) (shared : γ)
    (events : List (ServerEvent α)) :
    let s := events.foldl (step kind) (start fails shared)
    (s.listener.accepting = if fails .openAcceptor then 0 else 1) ∧
      ((∀ call, fails call = false) →
        s.sessions.members.length = (events.filter (·.isAccepted)).length) ∧
      ((∃ call, fails call = true) → s.sessions = .empty shared) := by
  intro s
  have hs : s = _ := run_eq kind fails shared events
  rw [hs]
  obtain ⟨hopen, hrun⟩ | ⟨hopen, ⟨call, hcall⟩, hrun⟩ | ⟨hnone, hrun⟩ := run_cases fails
  · refine ⟨by rw [hrun, hopen]; rfl, ?_, ?_⟩
    · intro hnone
      rw [hnone] at hopen
      cases hopen
    · rintro -
      simp only [sessionEvents, hrun]
      exact sessions_of_deaf kind shared events
  · refine ⟨by rw [hrun, hopen]; rfl, ?_, ?_⟩
    · intro hnone
      rw [hnone] at hcall
      cases hcall
    · rintro -
      simp only [sessionEvents, hrun]
      exact sessions_of_deaf kind shared events
  · refine ⟨by rw [hrun, hnone]; rfl, ?_, ?_⟩
    · rintro -
      have hlistening : (Listener.construct fails).run.listening = true := by rw [hrun]
      show ((sessionEvents fails events).foldl (Family.step kind)
        (.empty shared)).members.length = _
      rw [Family.length_run, isJoin_sessionEvents hlistening]
      exact Nat.zero_add _
    · rintro ⟨call, hcall⟩
      rw [hnone] at hcall
      cases hcall

end WebsocketServer

/-! ## The configuration server -/

namespace Session

variable {Tree : Type} (boost : PropertyTree Tree)

/-- A session without the configuration that it has a reference to. -/
def apart (s : Session) : Session :=
  { s with cfg := HESConfig.initial }

/-- The text that a completion loads. -/
def loads (s : Session) : SessionEvent → List StdString
  | .readDone code bytes => if s.op = .read ∧ code ≠ .closed then [s.buffer ++ bytes] else []
  | _ => []

/-- **A completion under any configuration**: the configuration loads the text, and nothing else
depends on it. -/
theorem step_under (s : Session) (cfg : HESConfig) (event : SessionEvent) :
    { s with cfg }.step boost event =
      { s.step boost event with cfg := (s.loads event).foldl (loaded boost) cfg } := by
  cases event with
  | acceptDone ok =>
    by_cases hop : s.op = .accept
    · simp only [step, if_pos hop, onAccept, loads]
      cases ok with
      | true => rfl
      | false => rfl
    · simp only [step, if_neg hop, loads]
      rfl
  | writeDone ok =>
    by_cases hop : s.op = .write
    · simp only [step, if_pos hop, onWrite, loads]
      cases ok with
      | true => rfl
      | false => rfl
    · simp only [step, if_neg hop, loads]
      rfl
  | readDone code bytes =>
    by_cases hop : s.op = .read
    · simp only [step, if_pos hop, onRead]
      by_cases hclosed : code = .closed
      · have hnot : ¬ (s.op = .read ∧ code ≠ .closed) := fun h => h.2 hclosed
        simp only [if_pos hclosed, loads, if_neg hnot]
        rfl
      · have hboth : s.op = .read ∧ code ≠ .closed := ⟨hop, hclosed⟩
        simp only [if_neg hclosed, loads, if_pos hboth]
        rfl
    · have hnot : ¬ (s.op = .read ∧ code ≠ .closed) := fun h => hop h.1
      simp only [step, if_neg hop, loads, if_neg hnot]
      rfl

theorem apart_step (s : Session) (cfg : HESConfig) (event : SessionEvent) :
    ({ s with cfg }.step boost event).apart = (s.step boost event).apart := by
  have hunder := congrArg apart (step_under boost s cfg event)
  exact hunder

/-- What a completion makes of the rest of a session. -/
def alone (s : Session) (event : SessionEvent) : Session :=
  (s.step boost event).apart

/-- A session as a member of the configuration server: it loads into the one configuration. -/
def kind : Family.Kind Session HESConfig SessionEvent where
  start := Session.start HESConfig.initial
  act cfg s event :=
    let s := { s with cfg }.step boost event
    (s, s.cfg)

/-- What is a session's own, and the texts it loads. -/
def part : Family.Part Session SessionEvent Session StdString where
  own := apart
  step := alone boost
  tells := loads

theorem apart_kind : Family.Apart (kind boost) (part boost) (loaded boost) := by
  constructor
  · intro cfg s event
    exact (apart_step boost s cfg event).trans (apart_step boost s HESConfig.initial event).symm
  · intro cfg s event
    exact congrArg Session.cfg (step_under boost s cfg event)

/-- A run of a session, seen without its configuration. -/
theorem apart_foldl (s : Session) (labels : List SessionEvent) :
    (labels.foldl (step boost) s).apart = labels.foldl (alone boost) s.apart := by
  induction labels generalizing s with
  | nil => rfl
  | cons label labels ih =>
    have hlabel : (s.step boost label).apart = alone boost s.apart label :=
      (apart_step boost s HESConfig.initial label).symm
    rw [List.foldl_cons, ih, List.foldl_cons, hlabel]

end Session

namespace WebsocketServer

variable {Tree : Type} (boost : PropertyTree Tree)

/-- The texts that a run of the configuration server loads, with the sessions that load them. -/
def loadLog (fails : ListenCall → Bool) (cfg : HESConfig)
    (events : List (ServerEvent SessionEvent)) :
    List (Nat × StdString) :=
  Family.log (Session.kind boost) (Session.part boost) (.empty cfg) (sessionEvents fails events)

/-- The completions of one session of a run. -/
def completionsOf {α : Type} (fails : ListenCall → Bool) (who : Nat)
    (events : List (ServerEvent α)) : Option (List α) :=
  Family.labelsOf who (sessionEvents fails events)

/-- **Sessions have nothing in common but the configuration**, in any interleaving of any number of
them. A session's operation, buffer, messages and replies are those it would have alone with its own
completions, under any configuration; and the configuration is what the loaded texts make of it, in
the order in which they were loaded, where each session has loaded what it would have alone. -/
theorem sessions_apart (fails : ListenCall → Bool) (cfg : HESConfig)
    (events : List (ServerEvent SessionEvent)) :
    let s := events.foldl (step (Session.kind boost)) (start fails cfg)
    s.sessions.shared = ((loadLog boost fails cfg events).map (·.2)).foldl (loaded boost) cfg ∧
      ∀ who other,
        (s.sessions.members[who]?).map Session.apart =
            (completionsOf fails who events).map (fun completions =>
              (completions.foldl (Session.step boost) (Session.start other)).apart) ∧
          Family.toldBy who (loadLog boost fails cfg events) =
            Family.told (Session.part boost) (Session.start other).apart
              ((completionsOf fails who events).getD []) := by
  intro s
  have hs : s = _ := run_eq (Session.kind boost) fails cfg events
  rw [hs]
  refine ⟨Family.shared_of_run (Session.apart_kind boost) _ _, ?_⟩
  intro who other
  refine ⟨?_, Family.told_by (Session.apart_kind boost) cfg _ who⟩
  have hown := Family.own_of_run (Session.apart_kind boost) cfg (sessionEvents fails events) who
  simp only [Session.apart_foldl]
  exact hown

end WebsocketServer

namespace Session

variable {Tree : Type} {boost : PropertyTree Tree} {s : Session}

/-- Every message has been echoed, and a read has an empty buffer to read into. -/
structure Echoes (s : Session) : Prop where
  replies : s.replies = s.messages.map (.success, ·)
  buffer : s.op = .accept ∨ s.op = .read → s.buffer = []

theorem Echoes.start (cfg : HESConfig) : (start cfg).Echoes :=
  ⟨rfl, fun _ => rfl⟩

/-- **A completion that is clean** loads the message that it has received, if any, and echoes it. -/
theorem Echoes.step (h : s.Echoes) {event : SessionEvent} (hclean : s.Clean event) :
    (s.step boost event).Echoes ∧ (s.step boost event).messages = s.messages ++ s.loads event := by
  have hidle : ∀ {s' : Session}, s'.op = .write ∨ s'.op = .ended →
      s'.op = .accept ∨ s'.op = .read → s'.buffer = [] := by
    intro s' hop hreading
    rcases hop with hop | hop <;> rw [hop] at hreading <;> exact absurd hreading (by decide)
  cases event with
  | acceptDone ok =>
    have hnone : s.loads (.acceptDone ok) = [] := rfl
    rw [hnone, List.append_nil]
    by_cases hop : s.op = .accept
    · simp only [Session.step, if_pos hop]
      cases ok with
      | true => exact ⟨⟨h.replies, fun _ => h.buffer (.inl hop)⟩, rfl⟩
      | false => exact ⟨⟨h.replies, hidle (.inr rfl)⟩, rfl⟩
    · simp only [Session.step, if_neg hop]
      exact ⟨h, trivial⟩
  | writeDone ok =>
    have hnone : s.loads (.writeDone ok) = [] := rfl
    rw [hnone, List.append_nil]
    by_cases hop : s.op = .write
    · simp only [Session.step, if_pos hop]
      cases ok with
      | true => exact ⟨⟨h.replies, fun _ => rfl⟩, rfl⟩
      | false => exact ⟨⟨h.replies, hidle (.inr rfl)⟩, rfl⟩
    · simp only [Session.step, if_neg hop]
      exact ⟨h, trivial⟩
  | readDone code bytes =>
    by_cases hop : s.op = .read
    · simp only [Session.step, if_pos hop]
      cases code with
      | failed => exact absurd hop hclean
      | closed =>
        have hnone : s.loads (.readDone .closed bytes) = [] := if_neg fun hboth => hboth.2 rfl
        rw [hnone, List.append_nil]
        exact ⟨⟨h.replies, hidle (.inr rfl)⟩, rfl⟩
      | success =>
        have hone : s.loads (.readDone .success bytes) = [bytes] := by
          rw [loads, if_pos ⟨hop, by decide⟩, h.buffer (.inr hop), List.nil_append]
        rw [hone]
        refine ⟨⟨?_, hidle (.inl rfl)⟩, rfl⟩
        show s.replies ++ [(.success, s.buffer ++ bytes)] = (s.messages ++ [bytes]).map _
        rw [h.buffer (.inr hop), h.replies, List.map_append]
        rfl
    · have hnone : s.loads (.readDone code bytes) = [] := if_neg fun hboth => hop hboth.1
      simp only [Session.step, if_neg hop, hnone, List.append_nil]
      exact ⟨h, trivial⟩

end Session

namespace WebsocketServer

variable {Tree : Type} (boost : PropertyTree Tree)

/-- No outstanding read of any session fails with an error other than `closed`. -/
def Clean (s : WebsocketServer Session HESConfig) : ServerEvent SessionEvent → Prop
  | .acceptDone _ => True
  | .session who completion =>
    ∀ session, s.sessions.members[who]? = some session → session.Clean completion

end WebsocketServer

/-! ## The statistics server -/

/-- A session of the statistics server, which shares nothing. -/
def TaskSession.kind : Family.Kind TaskSession Unit TaskEvent where
  start := TaskSession.run
  act _ s event := (s.step event, ())

namespace WebsocketServer

/-- No read and no write of any session fails. -/
def CleanTask (s : WebsocketServer TaskSession Unit) : ServerEvent TaskEvent → Prop
  | .acceptDone _ => True
  | .session who event =>
    ∀ session, s.sessions.members[who]? = some session → session.Clean event

/-- Where all sessions stand, after an event. -/
theorem stands_step {s : WebsocketServer TaskSession Unit}
    (h : ∀ session ∈ s.sessions.members, session.Stands) {event : ServerEvent TaskEvent}
    (hclean : s.CleanTask event) :
    ∀ session ∈ (s.step TaskSession.kind event).sessions.members, session.Stands := by
  cases event with
  | acceptDone ok =>
    simp only [step]
    split
    next => exact h
    next =>
      split
      next => exact h
      next =>
        cases ok with
        | false => exact h
        | true =>
          intro session hsession
          rcases List.mem_append.mp hsession with hold | hnew
          · exact h session hold
          · rw [List.mem_singleton.mp hnew]
            exact TaskSession.Stands.run
  | session who event =>
    show ∀ session ∈ (s.sessions.step TaskSession.kind (.act who event)).members, session.Stands
    cases hwho : s.sessions.members[who]? with
    | none =>
      rw [Family.step_act_none hwho]
      exact h
    | some old =>
      rw [Family.step_act_some hwho]
      intro session hsession
      rcases List.mem_or_eq_of_mem_set hsession with hkept | rfl
      · exact h session hkept
      · exact (h old (List.mem_of_getElem? hwho)).step (hclean old hwho)

/-- **Replies do not leak across sessions**: in every state of every run of the statistics server in
which no read and no write fails, whatever the sessions are and however they alternate, every
session has at most one operation outstanding and an empty buffer to read into, and has sent the
replies to its own messages, in order, each its own and each once. -/
theorem statistics_isolated (fails : ListenCall → Bool) (events : List (ServerEvent TaskEvent))
    (hclean : Run.Along (step TaskSession.kind) CleanTask (start fails ()) events) :
    Run.Always (step TaskSession.kind)
      (fun s => ∀ session ∈ s.sessions.members, session.Isolated) (start fails ()) events := by
  refine hclean.always (I := fun s => ∀ session ∈ s.sessions.members, session.Stands) nofun ?_ ?_
  · intro s event hs hevent
    exact stands_step hs hevent
  · intro s hs session hsession
    exact (hs session hsession).isolated

/-- Two sessions whose messages arrive in turn. -/
theorem statistics_isolated_two :
    Run.Always (step TaskSession.kind)
      (fun s => ∀ session ∈ s.sessions.members, session.Isolated) (start (fun _ => false) ())
      [.acceptDone true, .acceptDone true, .session 0 (.complete 0 .success ⟨true, []⟩),
        .session 1 (.complete 0 .success ⟨true, []⟩), .session 1 (.deliver 0 []),
        .session 0 (.deliver 0 []),
        .session 0 (.complete 0 .success ⟨true, TaskSession.netstat⟩),
        .session 1 (.complete 0 .success ⟨false, ['x']⟩), .session 0 (.deliver 0 ['e', '\n']),
        .session 1 (.deliver 0 [])] :=
  statistics_isolated (fun _ => false) _ (by simp [CleanTask, TaskSession.Clean])

end WebsocketServer

end AccessPoint
