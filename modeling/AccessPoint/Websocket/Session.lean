import AccessPoint.Lib.Run
import AccessPoint.Websocket.HESConfig

/-!
# A configuration session

`session` of `server.cpp`: after the handshake it reads a message into its buffer, loads the
configuration from the buffer, echoes the buffer, clears it, and reads again. One operation is
outstanding at a time, and its completion runs the handler that starts the next.

A read appends to the buffer, and one that fails may have appended part of a message. The
handler returns when the code is `closed`; for any other error it prints a line and goes on as
if the read had succeeded.

`session_faithful_iff` says which runs load exactly the messages that were received and reply to
no failed read: those in which no read that is outstanding fails with an error other than
`closed`.
-/

namespace AccessPoint

open HESConfig

/-- The codes a read completes with. -/
inductive ReadCode where
  | success
  | closed
  | failed
  deriving DecidableEq, Repr

/-- The operation that is outstanding. -/
inductive SessionOp where
  | accept
  | read
  | write
  | ended
  deriving DecidableEq, Repr

/-- A session and the configuration it loads into. `messages` are the payloads of the reads
that completed without error, and `replies` are the writes started, with the codes of the reads
they answer. -/
structure Session where
  op : SessionOp
  buffer : StdString
  cfg : HESConfig
  messages : List StdString
  replies : List (ReadCode × StdString)
  deriving DecidableEq, Repr

/-- A completion. -/
inductive SessionEvent where
  | acceptDone (ok : Bool)
  | readDone (code : ReadCode) (bytes : StdString)
  | writeDone (ok : Bool)
  deriving DecidableEq, Repr

namespace Session

/-- `run`: the handshake is outstanding. -/
def start (cfg : HESConfig) : Session :=
  { op := .accept, buffer := [], cfg, messages := [], replies := [] }

/-- `do_read`. -/
def doRead (s : Session) : Session :=
  { s with op := .read }

/-- `on_accept`. -/
def onAccept (s : Session) (ok : Bool) : Session :=
  if ok then s.doRead else { s with op := .ended }

variable {Tree : Type} (boost : PropertyTree Tree)

/-- `on_read`. An error other than `closed` is only reported. -/
def onRead (s : Session) (code : ReadCode) : Session :=
  if code = .closed then { s with op := .ended }
  else
    { s with
      op := .write
      cfg := loaded boost s.cfg s.buffer
      replies := s.replies ++ [(code, s.buffer)] }

/-- `on_write`. -/
def onWrite (s : Session) (ok : Bool) : Session :=
  if ok then { s with buffer := [] }.doRead else { s with op := .ended }

/-- What `async_read` has done when it completes. -/
def received (s : Session) (code : ReadCode) (bytes : StdString) : Session :=
  { s with
    buffer := s.buffer ++ bytes
    messages := if code = .success then s.messages ++ [bytes] else s.messages }

/-- One completion, of the operation that is outstanding. -/
def step (s : Session) : SessionEvent → Session
  | .acceptDone ok => if s.op = .accept then s.onAccept ok else s
  | .readDone code bytes => if s.op = .read then (s.received code bytes).onRead boost code else s
  | .writeDone ok => if s.op = .write then s.onWrite ok else s

/-- The configuration is what the received messages load, in order, and every reply answers a
read that succeeded. -/
structure Faithful (cfg : HESConfig) (s : Session) : Prop where
  cfg : s.cfg = s.messages.foldl (loaded boost) cfg
  replies : ∀ reply ∈ s.replies, reply.1 = .success

/-- No outstanding read fails with an error other than `closed`. -/
def Clean (s : Session) : SessionEvent → Prop
  | .readDone .failed _ => s.op ≠ .read
  | _ => True

/-! ## The run -/

/-- A faithful session; the buffer is empty when a read starts. -/
structure Good (cfg : HESConfig) (s : Session) : Prop extends Faithful boost cfg s where
  buffer : s.op = .accept ∨ s.op = .read → s.buffer = []

theorem Good.start (cfg : HESConfig) : (start cfg).Good boost cfg :=
  ⟨⟨rfl, nofun⟩, fun _ => rfl⟩

variable {boost} {cfg : HESConfig} {s : Session}

/-- A session with nothing to read into is good if it is faithful. -/
theorem Faithful.good (h : s.Faithful boost cfg) (hop : s.op = .write ∨ s.op = .ended) :
    s.Good boost cfg := by
  refine ⟨h, ?_⟩
  intro hreading
  rcases hop with hop | hop
  · rw [hop] at hreading
    exact absurd hreading (by decide)
  · rw [hop] at hreading
    exact absurd hreading (by decide)

/-- A read that succeeds loads its own payload. -/
theorem Good.onRead (h : s.Good boost cfg) (hop : s.op = .read) (bytes : StdString) :
    ((s.received .success bytes).onRead boost .success).Good boost cfg := by
  refine Faithful.good ⟨?_, ?_⟩ (.inl rfl)
  · show loaded boost s.cfg (s.buffer ++ bytes) =
      (s.messages ++ [bytes]).foldl (loaded boost) cfg
    rw [h.buffer (.inr hop), List.nil_append, List.foldl_append, ← h.cfg]
    rfl
  · intro reply hreply
    rcases List.mem_append.mp hreply with hold | hnew
    · exact h.replies reply hold
    · rw [List.mem_singleton.mp hnew]

/-- What a completion does: the handler of the operation that is outstanding, or nothing. -/
theorem step_cases (boost : PropertyTree Tree) (s : Session) (event : SessionEvent) :
    s.step boost event = s ∨
      (∃ ok, event = .acceptDone ok ∧ s.op = .accept ∧ s.step boost event = s.onAccept ok) ∨
      (∃ code bytes, event = .readDone code bytes ∧ s.op = .read ∧
        s.step boost event = (s.received code bytes).onRead boost code) ∨
      ∃ ok, event = .writeDone ok ∧ s.op = .write ∧ s.step boost event = s.onWrite ok := by
  cases event with
  | acceptDone ok =>
    by_cases hop : s.op = .accept
    · exact .inr (.inl ⟨ok, rfl, hop, if_pos hop⟩)
    · exact .inl (if_neg hop)
  | readDone code bytes =>
    by_cases hop : s.op = .read
    · exact .inr (.inr (.inl ⟨code, bytes, rfl, hop, if_pos hop⟩))
    · exact .inl (if_neg hop)
  | writeDone ok =>
    by_cases hop : s.op = .write
    · exact .inr (.inr (.inr ⟨ok, rfl, hop, if_pos hop⟩))
    · exact .inl (if_neg hop)

/-- A completion that is clean leaves the session good. -/
theorem Good.step (h : s.Good boost cfg) {event : SessionEvent} (hclean : s.Clean event) :
    (s.step boost event).Good boost cfg := by
  rcases step_cases boost s event with hsame | ⟨ok, -, hop, hstep⟩ |
    ⟨code, bytes, rfl, hop, hstep⟩ | ⟨ok, -, -, hstep⟩
  · rw [hsame]
    exact h
  · rw [hstep]
    cases ok with
    | true => exact ⟨⟨h.cfg, h.replies⟩, fun _ => h.buffer (.inl hop)⟩
    | false => exact Faithful.good ⟨h.cfg, h.replies⟩ (.inr rfl)
  · rw [hstep]
    cases code with
    | success => exact h.onRead hop bytes
    | closed => exact Faithful.good ⟨h.cfg, h.replies⟩ (.inr rfl)
    | failed => exact absurd hop hclean
  · rw [hstep]
    cases ok with
    | true => exact ⟨⟨h.cfg, h.replies⟩, fun _ => rfl⟩
    | false => exact Faithful.good ⟨h.cfg, h.replies⟩ (.inr rfl)

/-- A reply to a failed read has been started. -/
def RepliedToFailure (s : Session) : Prop :=
  ∃ reply ∈ s.replies, reply.1 ≠ .success

/-- A completion that is not clean starts one. -/
theorem repliedToFailure_of_not_clean {event : SessionEvent} (h : ¬ s.Clean event) :
    (s.step boost event).RepliedToFailure := by
  match event with
  | .acceptDone ok => exact absurd trivial h
  | .writeDone ok => exact absurd trivial h
  | .readDone .success bytes => exact absurd trivial h
  | .readDone .closed bytes => exact absurd trivial h
  | .readDone .failed bytes =>
    have hop : s.op = .read := not_not.mp h
    refine ⟨(.failed, s.buffer ++ bytes), ?_, nofun⟩
    simp [Session.step, hop, Session.onRead, received]

/-- No reply is taken back. -/
theorem RepliedToFailure.step (h : s.RepliedToFailure) (event : SessionEvent) :
    (s.step boost event).RepliedToFailure := by
  obtain ⟨reply, hreply, hfailed⟩ := h
  refine ⟨reply, ?_, hfailed⟩
  rcases step_cases boost s event with hsame | ⟨ok, -, -, hstep⟩ |
    ⟨code, bytes, -, -, hstep⟩ | ⟨ok, -, -, hstep⟩
  · rw [hsame]
    exact hreply
  · rw [hstep]
    cases ok with
    | true => exact hreply
    | false => exact hreply
  · rw [hstep, Session.onRead]
    split
    · exact hreply
    · exact List.mem_append_left _ hreply
  · rw [hstep]
    cases ok with
    | true => exact hreply
    | false => exact hreply

/-- **When only completely received messages take effect**: in exactly the runs in which no
outstanding read fails with an error other than `closed`. The run is any order of completions, with
messages of any content and failures at any operation. Taking effect is to be loaded into the
configuration and to be answered; after a read that has failed the code goes on with what is in the
buffer, which may be a part of a message. -/
theorem session_faithful_iff (boost : PropertyTree Tree) (cfg : HESConfig)
    (events : List SessionEvent) :
    (events.foldl (step boost) (start cfg)).Faithful boost cfg ↔
      Run.Along (step boost) Clean (start cfg) events := by
  constructor
  · intro h
    refine (Run.along_true events).refine (B := RepliedToFailure) (Good.start boost cfg) ?_ ?_ ?_ ?_
    · intro s event hs hclean
      exact hs.step hclean
    · intro s event _ _ hnot
      exact repliedToFailure_of_not_clean hnot
    · intro s event hs
      exact hs.step event
    · rintro ⟨reply, hreply, hfailed⟩
      exact hfailed (h.replies reply hreply)
  · intro h
    exact (h.invariant (Good.start boost cfg) fun s event hs hclean => hs.step hclean).toFaithful

/-- A read that fails after a whole text has been buffered loads it and echoes it. -/
theorem failed_read_takes_effect :
    ¬ ∀ events : List SessionEvent,
      (events.foldl (step messageTree) (start initial)).Faithful messageTree initial := by
  intro h
  have hcfg := (h [.acceptDone true, .readDone .failed largeMessage]).cfg
  revert hcfg
  decide

end Session

end AccessPoint
