import AccessPoint.Lib.Run
import AccessPoint.Request.Config

/-!
# The statistics websocket

`session` of `taskrunner.cpp`: after the handshake it reads a message into its buffer, answers it
from the buffer, clears the buffer and reads again. One buffer serves the reads, the command that
is matched, the reply and the write.

An operation that is started is pending until it completes, and its handler is ready from then on
until it runs. `async_read` appends one message to the buffer, and `async_write` sends what is in
the buffer. The environment chooses which operation completes and which handler runs, so nothing
here says that there is one of them only.

`fetchNetStats` runs `ifstat` in a child process and reads what it prints. The output stands in the
event that runs `on_read`, so the child is taken to start and its output to end: a call that throws
or never returns leaves a handler that has not run.

`replies_isolated` says that one operation is outstanding at most, in every state of every run in
which no read or write fails, and that the replies answer the messages one by one. From each of
these states any further messages are answered too, once what is outstanding is done.
-/

namespace AccessPoint

open Delimited

/-- The codes an operation completes with. -/
inductive ErrorCode where
  | success
  | closed
  | failed
  deriving DecidableEq, Repr

/-- A websocket message, text or binary. -/
structure Message where
  text : Bool
  contents : StdString
  deriving DecidableEq, Repr

/-- An operation of a session. -/
inductive TaskOp where
  | accept
  | read
  | write
  deriving DecidableEq, Repr

/-- A session. `pending` are the operations started, `ready` those that have completed and whose
handlers have not run. `messages` are those read, `netstats` what `ifstat` had to say in each run of
`on_read`, and `sent` the messages written. -/
structure TaskSession where
  buffer : StdString
  gotText : Bool
  text : Bool
  pending : List TaskOp
  ready : List (TaskOp × ErrorCode)
  messages : List Message
  netstats : List StdString
  sent : List Message
  deriving DecidableEq, Repr

/-- An operation completes, a read with its message, or a handler runs, `on_read` with the output
of `ifstat`. -/
inductive TaskEvent where
  | complete (which : Nat) (code : ErrorCode) (message : Message)
  | deliver (which : Nat) (output : StdString)
  deriving DecidableEq, Repr

/-- `fetchNetStats`, of the output of `ifstat -j`: its lines, up to the first empty one. -/
def fetchNetStats (output : StdString) : StdString :=
  ((getlines '\n' output).takeWhile (· ≠ [])).flatMap (· ++ ['\n'])

namespace TaskSession

/-- The command `on_read` compares with. -/
def netstat : StdString := "\x7bnetstat\x7d".toList

/-- What `on_read` has to say about any other message. -/
def unknownCommand : StdString := "\x7berror:unknown_command\x7d\n".toList

/-- `run`: the handshake is started. -/
def run : TaskSession :=
  { buffer := [], gotText := true, text := true, pending := [.accept], ready := []
    messages := [], netstats := [], sent := [] }

/-- `do_read`. -/
def doRead (s : TaskSession) : TaskSession :=
  { s with pending := s.pending ++ [.read] }

/-- `on_accept`. -/
def onAccept (s : TaskSession) (code : ErrorCode) : TaskSession :=
  if code = .success then s.doRead else s

/-- `on_read`. An error other than `closed` is only reported. -/
def onRead (s : TaskSession) (code : ErrorCode) (output : StdString) : TaskSession :=
  if code = .closed then s
  else
    { s with
      text := s.gotText
      buffer :=
        if s.buffer = netstat then fetchNetStats output ++ ['\n'] else s.buffer ++ unknownCommand
      netstats := s.netstats ++ [output]
      pending := s.pending ++ [.write] }

/-- `on_write`. -/
def onWrite (s : TaskSession) (code : ErrorCode) : TaskSession :=
  if code = .success then { s with buffer := [] }.doRead else s

/-- What an operation has done when it completes. A read that fails may have appended a part of
its message. -/
def perform (s : TaskSession) (op : TaskOp) (code : ErrorCode) (message : Message) : TaskSession :=
  match op with
  | .accept => s
  | .read =>
    { s with
      buffer := s.buffer ++ message.contents
      gotText := message.text
      messages := if code = .success then s.messages ++ [message] else s.messages }
  | .write =>
    { s with
      sent := if code = .success then s.sent ++ [⟨s.text, s.buffer⟩] else s.sent }

/-- A pending operation completes. -/
def complete (s : TaskSession) (which : Nat) (code : ErrorCode) (message : Message) :
    TaskSession :=
  match s.pending[which]? with
  | none => s
  | some op =>
    { s.perform op code message with
      pending := s.pending.eraseIdx which
      ready := s.ready ++ [(op, code)] }

/-- The handler of an operation. -/
def handle (s : TaskSession) (op : TaskOp) (code : ErrorCode) (output : StdString) : TaskSession :=
  match op with
  | .accept => s.onAccept code
  | .read => s.onRead code output
  | .write => s.onWrite code

/-- A handler that is ready runs. -/
def deliver (s : TaskSession) (which : Nat) (output : StdString) : TaskSession :=
  match s.ready[which]? with
  | none => s
  | some (op, code) => { s with ready := s.ready.eraseIdx which }.handle op code output

def step (s : TaskSession) : TaskEvent → TaskSession
  | .complete which code message => s.complete which code message
  | .deliver which output => s.deliver which output

/-! ## The replies -/

/-- The reply to a message, of that message and the output of `ifstat` alone. -/
def reply (message : Message) (output : StdString) : Message :=
  { text := message.text
    contents :=
      if message.contents = netstat then fetchNetStats output ++ ['\n']
      else message.contents ++ unknownCommand }

/-- One operation is outstanding at most, a read that is pending has an empty buffer to read into,
the replies answer the messages in order, each its own, and only the message that is being answered
has none. -/
structure Isolated (s : TaskSession) : Prop where
  one : s.pending.length + s.ready.length ≤ 1
  empty : .read ∈ s.pending → s.buffer = []
  replies : s.sent <+: List.zipWith reply s.messages s.netstats
  each : s.messages.length =
    s.sent.length + s.ready.count (.read, .success) + s.pending.count .write

/-- No read and no write fails; a read may find the connection closed. -/
def Clean (s : TaskSession) : TaskEvent → Prop
  | .complete which code _ =>
    (s.pending[which]? = some .read → code ≠ .failed) ∧
      (s.pending[which]? = some .write → code = .success)
  | .deliver _ _ => True

/-! ## Where a session stands -/

/-- Every message has its reply. -/
structure Settled (s : TaskSession) : Prop where
  replies : s.sent = List.zipWith reply s.messages s.netstats
  netstats : s.netstats.length = s.messages.length

/-- Every message has its reply, and nothing is in the buffer. -/
structure Waiting (s : TaskSession) : Prop extends Settled s where
  buffer : s.buffer = []

/-- The last message is in the buffer, and all before it have their replies. -/
structure Unhandled (s : TaskSession) (before : List Message) (message : Message) : Prop where
  messages : s.messages = before ++ [message]
  replies : s.sent = List.zipWith reply before s.netstats
  netstats : s.netstats.length = before.length
  buffer : s.buffer = message.contents
  gotText : s.gotText = message.text

/-- The reply to the last message is in the buffer, and all before it have their replies. -/
structure Answering (s : TaskSession) (before : List Message) (message : Message)
    (outputs : List StdString) (output : StdString) : Prop where
  messages : s.messages = before ++ [message]
  netstats : s.netstats = outputs ++ [output]
  length : outputs.length = before.length
  replies : s.sent = List.zipWith reply before outputs
  reply : ⟨s.text, s.buffer⟩ = reply message output

/-- Where a session stands in a run in which no read or write fails, by what is pending and
ready. -/
inductive Stands (s : TaskSession) : Prop where
  | accepting (hp : s.pending = [.accept]) (hr : s.ready = []) (h : s.Waiting)
  | accepted (code : ErrorCode) (hp : s.pending = []) (hr : s.ready = [(.accept, code)])
    (h : s.Waiting)
  | reading (hp : s.pending = [.read]) (hr : s.ready = []) (h : s.Waiting)
  | hasRead (before : List Message) (message : Message) (hp : s.pending = [])
    (hr : s.ready = [(.read, .success)]) (h : s.Unhandled before message)
  | writing (before : List Message) (message : Message) (outputs : List StdString)
    (output : StdString) (hp : s.pending = [.write]) (hr : s.ready = [])
    (h : s.Answering before message outputs output)
  | written (hp : s.pending = []) (hr : s.ready = [(.write, .success)]) (h : s.Settled)
  | closing (hp : s.pending = []) (hr : s.ready = [(.read, .closed)]) (h : s.Settled)
  | ended (hp : s.pending = []) (hr : s.ready = []) (h : s.Settled)

variable {s : TaskSession}

theorem Stands.run : TaskSession.run.Stands :=
  .accepting rfl rfl ⟨⟨rfl, rfl⟩, rfl⟩

/-- There are as many replies as messages. -/
theorem length_replies {messages : List Message} {outputs : List StdString}
    (h : outputs.length = messages.length) :
    (List.zipWith reply messages outputs).length = messages.length := by
  rw [List.length_zipWith, h, Nat.min_self]

/-- A session that owes no reply. -/
theorem Settled.isolated (h : s.Settled) (hone : s.pending.length + s.ready.length ≤ 1)
    (hempty : .read ∈ s.pending → s.buffer = []) (hread : (.read, .success) ∉ s.ready)
    (hwrite : .write ∉ s.pending) : s.Isolated where
  one := hone
  empty := hempty
  replies := ⟨[], (List.append_nil _).trans h.replies⟩
  each := by
    rw [h.replies, length_replies h.netstats, List.count_eq_zero_of_not_mem hread,
      List.count_eq_zero_of_not_mem hwrite]
    rfl

theorem Unhandled.isolated {before : List Message} {message : Message}
    (h : s.Unhandled before message) (hp : s.pending = []) (hr : s.ready = [(.read, .success)]) :
    s.Isolated where
  one := by simp [hp, hr]
  empty := by simp [hp]
  replies := by
    have hzip : List.zipWith reply (before ++ [message]) (s.netstats ++ []) =
        List.zipWith reply before s.netstats ++ [] :=
      List.zipWith_append h.netstats.symm
    rw [List.append_nil, List.append_nil] at hzip
    rw [h.messages, hzip]
    exact ⟨[], (List.append_nil _).trans h.replies⟩
  each := by
    have hsent : s.sent.length = before.length := by
      rw [h.replies, length_replies h.netstats]
    simp [hp, hr, h.messages, hsent]

theorem Answering.isolated {before : List Message} {message : Message}
    {outputs : List StdString} {output : StdString}
    (h : s.Answering before message outputs output) (hp : s.pending = [.write])
    (hr : s.ready = []) : s.Isolated where
  one := by simp [hp, hr]
  empty := by simp [hp]
  replies := by
    rw [h.replies, h.messages, h.netstats, List.zipWith_append h.length.symm]
    exact List.prefix_append _ _
  each := by
    have hsent : s.sent.length = before.length := by
      rw [h.replies, length_replies h.length]
    simp [hp, hr, h.messages, hsent]

theorem Stands.isolated (h : s.Stands) : s.Isolated := by
  cases h with
  | accepting hp hr h =>
    exact h.isolated (by simp [hp, hr]) (fun _ => h.buffer) (by simp [hr]) (by simp [hp])
  | accepted code hp hr h =>
    exact h.isolated (by simp [hp, hr]) (fun _ => h.buffer) (by simp [hr]) (by simp [hp])
  | reading hp hr h =>
    exact h.isolated (by simp [hp, hr]) (fun _ => h.buffer) (by simp [hr]) (by simp [hp])
  | hasRead before message hp hr h => exact h.isolated hp hr
  | writing before message outputs output hp hr h => exact h.isolated hp hr
  | written hp hr h =>
    exact h.isolated (by simp [hp, hr]) (by simp [hp]) (by simp [hr]) (by simp [hp])
  | closing hp hr h =>
    exact h.isolated (by simp [hp, hr]) (by simp [hp]) (by simp [hr]) (by simp [hp])
  | ended hp hr h =>
    exact h.isolated (by simp [hp, hr]) (by simp [hp]) (by simp [hr]) (by simp [hp])

/-! ## One event -/

/-- Of one outstanding operation at most, it is the pending one that completes. -/
theorem complete_cases (hone : s.pending.length + s.ready.length ≤ 1) (which : Nat)
    (code : ErrorCode) (message : Message) :
    s.complete which code message = s ∨
      ∃ op, s.pending = [op] ∧ s.pending[which]? = some op ∧
        s.complete which code message =
          { s.perform op code message with pending := [], ready := [(op, code)] } := by
  cases hwhich : s.pending[which]? with
  | none => exact .inl (by simp [complete, hwhich])
  | some op =>
    have hlt : which < s.pending.length := (List.getElem?_eq_some_iff.mp hwhich).1
    obtain ⟨op', hpending⟩ := List.length_eq_one_iff.mp (show s.pending.length = 1 by omega)
    have hready : s.ready = [] := List.eq_nil_of_length_eq_zero (by omega)
    obtain rfl : which = 0 := by omega
    obtain rfl : op' = op := by simpa [hpending] using hwhich
    exact .inr ⟨op', hpending, rfl, by simp [complete, hpending, hready]⟩

/-- And the one that has completed whose handler runs. -/
theorem deliver_cases (hone : s.pending.length + s.ready.length ≤ 1) (which : Nat)
    (output : StdString) :
    s.deliver which output = s ∨
      ∃ op code, s.ready = [(op, code)] ∧ s.pending = [] ∧
        s.deliver which output = { s with ready := [] }.handle op code output := by
  cases hwhich : s.ready[which]? with
  | none => exact .inl (by simp [deliver, hwhich])
  | some completion =>
    have hlt : which < s.ready.length := (List.getElem?_eq_some_iff.mp hwhich).1
    obtain ⟨completion', hready⟩ := List.length_eq_one_iff.mp (show s.ready.length = 1 by omega)
    have hpending : s.pending = [] := List.eq_nil_of_length_eq_zero (by omega)
    obtain rfl : which = 0 := by omega
    obtain rfl : completion' = completion := by simpa [hready] using hwhich
    exact .inr ⟨completion'.1, completion'.2, hready, hpending, by simp [deliver, hready]⟩

/-- The message that is read is the one to be answered. -/
theorem Waiting.read (h : s.Waiting) (message : Message) :
    ({ s.perform .read .success message with
        pending := [], ready := [(.read, .success)] } : TaskSession).Unhandled
      s.messages message where
  messages := rfl
  replies := h.replies
  netstats := h.netstats
  buffer := by
    show s.buffer ++ message.contents = message.contents
    rw [h.buffer, List.nil_append]
  gotText := rfl

/-- `on_read` builds the reply to the message in the buffer. -/
theorem Unhandled.onRead {before : List Message} {message : Message}
    (h : s.Unhandled before message) (output : StdString) :
    (s.onRead .success output).Answering before message s.netstats output where
  messages := h.messages
  netstats := rfl
  length := h.netstats
  replies := h.replies
  reply := by
    simp only [TaskSession.onRead, reduceCtorEq, if_false, h.buffer, h.gotText,
      TaskSession.reply]

/-- The write sends it. -/
theorem Answering.write {before : List Message} {message : Message}
    {outputs : List StdString} {output : StdString}
    (h : s.Answering before message outputs output) (message' : Message) :
    ({ s.perform .write .success message' with
        pending := [], ready := [(.write, .success)] } : TaskSession).Settled where
  replies := by
    show s.sent ++ [⟨s.text, s.buffer⟩] = List.zipWith TaskSession.reply s.messages s.netstats
    rw [h.reply, h.replies, h.messages, h.netstats, List.zipWith_append h.length.symm]
    rfl
  netstats := by
    show s.netstats.length = s.messages.length
    rw [h.messages, h.netstats, List.length_append, List.length_append, h.length]
    rfl

/-- A completion that is clean. -/
theorem Stands.complete (h : s.Stands) {which : Nat} {code : ErrorCode} {message : Message}
    (hclean : s.Clean (.complete which code message)) :
    (s.complete which code message).Stands := by
  rcases complete_cases h.isolated.one which code message with
    hsame | ⟨op, hpending, hwhich, hdone⟩
  · rw [hsame]
    exact h
  rw [hdone]
  cases h with
  | accepting hp hr h =>
    cases hp.symm.trans hpending
    exact .accepted code rfl rfl ⟨⟨h.replies, h.netstats⟩, h.buffer⟩
  | reading hp hr h =>
    cases hp.symm.trans hpending
    cases code with
    | success => exact .hasRead s.messages message rfl rfl (h.read message)
    | closed => exact .closing rfl rfl ⟨h.replies, h.netstats⟩
    | failed => exact absurd rfl (hclean.1 hwhich)
  | writing before message' outputs output hp hr h =>
    cases hp.symm.trans hpending
    rw [hclean.2 hwhich]
    exact .written rfl rfl (h.write message)
  | accepted code' hp => cases hp.symm.trans hpending
  | hasRead before message' hp => cases hp.symm.trans hpending
  | written hp => cases hp.symm.trans hpending
  | closing hp => cases hp.symm.trans hpending
  | ended hp => cases hp.symm.trans hpending

/-- A handler that runs. -/
theorem Stands.deliver (h : s.Stands) (which : Nat) (output : StdString) :
    (s.deliver which output).Stands := by
  rcases deliver_cases h.isolated.one which output with
    hsame | ⟨op, code, hready, hpending, hrun⟩
  · rw [hsame]
    exact h
  rw [hrun]
  cases h with
  | accepted code' hp hr h =>
    cases hr.symm.trans hready
    simp only [handle, onAccept]
    split
    · exact .reading (by simp [doRead, hp]) rfl ⟨⟨h.replies, h.netstats⟩, h.buffer⟩
    · exact .ended hp rfl ⟨h.replies, h.netstats⟩
  | hasRead before message hp hr h =>
    cases hr.symm.trans hready
    have h' : ({ s with ready := [] } : TaskSession).Unhandled before message :=
      ⟨h.messages, h.replies, h.netstats, h.buffer, h.gotText⟩
    exact .writing before message s.netstats output (by simp [handle, TaskSession.onRead, hp])
      rfl (h'.onRead output)
  | written hp hr h =>
    cases hr.symm.trans hready
    exact .reading (by simp [handle, onWrite, doRead, hp]) rfl ⟨⟨h.replies, h.netstats⟩, rfl⟩
  | closing hp hr h =>
    cases hr.symm.trans hready
    exact .ended hp rfl ⟨h.replies, h.netstats⟩
  | accepting hp hr => cases hr.symm.trans hready
  | reading hp hr => cases hr.symm.trans hready
  | writing before message outputs output' hp hr => cases hr.symm.trans hready
  | ended hp hr => cases hr.symm.trans hready

theorem Stands.step (h : s.Stands) {event : TaskEvent} (hclean : s.Clean event) :
    (s.step event).Stands := by
  cases event with
  | complete which code message => exact h.complete hclean
  | deliver which output => exact h.deliver which output

/-- The `i`th reply is the one to the `i`th message. -/
theorem Isolated.reply_of_getElem? (h : s.Isolated) {i : Nat} {sent : Message}
    (hsent : s.sent[i]? = some sent) :
    ∃ message output, s.messages[i]? = some message ∧ s.netstats[i]? = some output ∧
      TaskSession.reply message output = sent := by
  have hzip : (List.zipWith TaskSession.reply s.messages s.netstats)[i]? = some sent := by
    obtain ⟨rest, hrest⟩ := h.replies
    rw [← hrest, List.getElem?_append_left (List.getElem?_eq_some_iff.mp hsent).1]
    exact hsent
  exact List.getElem?_zipWith_eq_some.mp hzip

/-! ## Rounds -/

/-- A message that is read, handled and answered. -/
def round (message : Message) (output : StdString) : List TaskEvent :=
  [.complete 0 .success message, .deliver 0 output, .complete 0 .success message, .deliver 0 []]

/-- Messages one after the other, each with what `ifstat` says then. -/
def rounds (exchanges : List (Message × StdString)) : List TaskEvent :=
  exchanges.flatMap fun exchange => round exchange.1 exchange.2

/-- A session that waits for a message has read what `start` has, and has answered it all. -/
structure ReadsAgain (start s : TaskSession) : Prop extends Waiting s where
  pending : s.pending = [.read]
  ready : s.ready = []
  messages : s.messages = start.messages
  sent : start.sent <+: s.sent

/-- **One round** answers its message, and the session reads again. -/
theorem foldl_round (hp : s.pending = [.read]) (hr : s.ready = []) (hbuffer : s.buffer = [])
    (message : Message) (output : StdString) :
    Run.Along step Clean s (round message output) ∧
      (round message output).foldl step s =
        { s with
          gotText := message.text
          text := message.text
          messages := s.messages ++ [message]
          netstats := s.netstats ++ [output]
          sent := s.sent ++ [reply message output] } := by
  have hread : s.complete 0 .success message =
      { s with
        buffer := message.contents, gotText := message.text, pending := []
        ready := [(.read, .success)], messages := s.messages ++ [message] } := by
    simp [complete, perform, hp, hr, hbuffer]
  constructor
  · simp [round, Clean]
  · simp only [round, List.foldl_cons, List.foldl_nil, step, hread]
    simp [deliver, handle, onRead, complete, perform, onWrite, doRead, reply, hp, hr, hbuffer]

/-- Rounds answer their messages, by induction on them: each leaves the session reading. -/
theorem foldl_rounds (hp : s.pending = [.read]) (hr : s.ready = []) (hbuffer : s.buffer = [])
    (exchanges : List (Message × StdString)) :
    Run.Along step Clean s (rounds exchanges) ∧
      let served := (rounds exchanges).foldl step s
      served.pending = [.read] ∧ served.messages = s.messages ++ exchanges.map Prod.fst ∧
        served.sent = s.sent ++ exchanges.map fun exchange => reply exchange.1 exchange.2 := by
  induction exchanges generalizing s with
  | nil => simp [rounds, hp]
  | cons exchange exchanges ih =>
    obtain ⟨hclean, hround⟩ := foldl_round hp hr hbuffer exchange.1 exchange.2
    rw [rounds, List.flatMap_cons, ← rounds, Run.along_append, List.foldl_append, hround]
    obtain ⟨hcleans, hpending, hmessages, hsent⟩ :=
      @ih { s with
        gotText := exchange.1.text
        text := exchange.1.text
        messages := s.messages ++ [exchange.1]
        netstats := s.netstats ++ [exchange.2]
        sent := s.sent ++ [reply exchange.1 exchange.2] } hp hr hbuffer
    exact ⟨⟨hclean, hcleans⟩, hpending, by simpa using hmessages, by simpa using hsent⟩

/-! ## What is outstanding is done -/

/-- The handshake has not failed and the connection is not closed: an operation is pending, or one
has succeeded and its handler is still to run. -/
def Live (s : TaskSession) : Prop :=
  s.pending ≠ [] ∨ ∃ op, (op, .success) ∈ s.ready

/-- There are clean events after which the session waits for its next message. -/
def Resumes (s : TaskSession) : Prop :=
  ∃ resume, Run.Along step Clean s resume ∧ s.ReadsAgain (resume.foldl step s)

/-- One clean event that reads nothing. -/
theorem Resumes.of_step {event : TaskEvent} {s' : TaskSession} (hstep : s.step event = s')
    (hclean : s.Clean event) (hmessages : s'.messages = s.messages)
    (hsent : s.sent <+: s'.sent) (h : s'.Resumes) : s.Resumes := by
  subst hstep
  obtain ⟨resume, hresume, hreads⟩ := h
  exact ⟨event :: resume, ⟨hclean, hresume⟩,
    ⟨hreads.toWaiting, hreads.pending, hreads.ready, hreads.messages.trans hmessages,
      hsent.trans hreads.sent⟩⟩

theorem Waiting.resumes (h : s.Waiting) (hp : s.pending = [.read]) (hr : s.ready = []) :
    s.Resumes :=
  ⟨[], trivial, ⟨h, hp, hr, rfl, List.prefix_rfl⟩⟩

/-- `on_accept` starts the first read. -/
theorem Waiting.resumes_accepted (h : s.Waiting) (hp : s.pending = [])
    (hr : s.ready = [(.accept, .success)]) : s.Resumes := by
  have hstep : s.step (.deliver 0 []) = { s with pending := [.read], ready := [] } := by
    simp [step, deliver, handle, onAccept, doRead, hp, hr]
  refine Resumes.of_step hstep trivial rfl List.prefix_rfl ?_
  exact Waiting.resumes ⟨⟨h.replies, h.netstats⟩, h.buffer⟩ rfl rfl

/-- `on_write` clears the buffer and starts the next read. -/
theorem Settled.resumes_written (h : s.Settled) (hp : s.pending = [])
    (hr : s.ready = [(.write, .success)]) : s.Resumes := by
  have hstep : s.step (.deliver 0 []) =
      { s with buffer := [], pending := [.read], ready := [] } := by
    simp [step, deliver, handle, onWrite, doRead, hp, hr]
  refine Resumes.of_step hstep trivial rfl List.prefix_rfl ?_
  exact Waiting.resumes ⟨⟨h.replies, h.netstats⟩, rfl⟩ rfl rfl

/-- The write ends. -/
theorem Answering.resumes {before : List Message} {message : Message} {outputs : List StdString}
    {output : StdString} (h : s.Answering before message outputs output)
    (hp : s.pending = [.write]) (hr : s.ready = []) : s.Resumes := by
  have hstep : s.step (.complete 0 .success message) =
      { s.perform .write .success message with pending := [], ready := [(.write, .success)] } := by
    simp [step, complete, hp, hr]
  refine Resumes.of_step hstep (by simp [Clean]) rfl (List.prefix_append _ _) ?_
  exact (h.write message).resumes_written rfl rfl

/-- `on_read` builds its reply and starts the write. -/
theorem Unhandled.resumes {before : List Message} {message : Message}
    (h : s.Unhandled before message) (hp : s.pending = []) (hr : s.ready = [(.read, .success)]) :
    s.Resumes := by
  have hstep : s.step (.deliver 0 []) =
      ({ s with ready := [] } : TaskSession).onRead .success [] := by
    simp [step, deliver, handle, hr]
  have h' : ({ s with ready := [] } : TaskSession).Unhandled before message :=
    ⟨h.messages, h.replies, h.netstats, h.buffer, h.gotText⟩
  refine Resumes.of_step hstep trivial rfl List.prefix_rfl ?_
  exact (h'.onRead []).resumes (by simp [TaskSession.onRead, hp]) rfl

/-- **A session that has not ended comes back to reading**, by what is pending and ready. -/
theorem Stands.resumes (h : s.Stands) (hlive : s.Live) : s.Resumes := by
  have hnot : s.pending = [] → ∀ op code, s.ready = [(op, code)] → code = .success := by
    intro hp op code hr
    rcases hlive with hpending | ⟨op', hmem⟩
    · exact absurd hp hpending
    · rw [hr, List.mem_singleton] at hmem
      exact (Prod.mk.inj hmem).2.symm
  cases h with
  | accepting hp hr h =>
    have hstep : s.step (.complete 0 .success ⟨true, []⟩) =
        { s with pending := [], ready := [(.accept, .success)] } := by
      simp [TaskSession.step, TaskSession.complete, perform, hp, hr]
    refine Resumes.of_step hstep (by simp [Clean]) rfl List.prefix_rfl ?_
    exact Waiting.resumes_accepted ⟨⟨h.replies, h.netstats⟩, h.buffer⟩ rfl rfl
  | accepted code hp hr h =>
    rw [hnot hp _ _ hr] at hr
    exact h.resumes_accepted hp hr
  | reading hp hr h => exact h.resumes hp hr
  | hasRead before message hp hr h => exact h.resumes hp hr
  | writing before message outputs output hp hr h => exact h.resumes hp hr
  | written hp hr h => exact h.resumes_written hp hr
  | closing hp hr h => cases hnot hp _ _ hr
  | ended hp hr h =>
    rcases hlive with hpending | ⟨op, hmem⟩
    · exact absurd hp hpending
    · rw [hr] at hmem
      cases hmem

/-- **Any further messages get their replies.** What is outstanding is done first, which answers
what has been read; then each message is answered in its turn, and the session reads again. -/
theorem Stands.serves (h : s.Stands) (hlive : s.Live) (exchanges : List (Message × StdString)) :
    ∃ resume, Run.Along TaskSession.step Clean s (resume ++ rounds exchanges) ∧
      let served := (resume ++ rounds exchanges).foldl TaskSession.step s
      served.pending = [.read] ∧ served.messages = s.messages ++ exchanges.map Prod.fst ∧
        ∃ before, before.length = s.messages.length ∧ s.sent <+: before ∧
          served.sent = before ++ exchanges.map fun exchange => reply exchange.1 exchange.2 := by
  obtain ⟨resume, hresume, hreads⟩ := h.resumes hlive
  obtain ⟨hclean, hpending, hmessages, hsent⟩ :=
    foldl_rounds hreads.pending hreads.ready hreads.buffer exchanges
  have hlength : (resume.foldl TaskSession.step s).sent.length = s.messages.length := by
    rw [hreads.replies, length_replies hreads.netstats, hreads.messages]
  refine ⟨resume, Run.along_append.mpr ⟨hresume, hclean⟩, ?_⟩
  rw [List.foldl_append]
  refine ⟨hpending, ?_, _, hlength, hreads.sent, hsent⟩
  rw [hmessages, hreads.messages]

/-! ## The run -/

/-- **Replies do not leak across messages.** In every state of every run in which no read or write
fails, one operation is outstanding at most, a pending read has an empty buffer, and the replies
answer the messages in order, each once. The `i`th reply is that of the `i`th message and of what
`ifstat` said for it, and of nothing else. From the state that is reached, unless the handshake has
failed or the connection is closed, any further messages are answered, one reply each and in their
order, after those already read. It is not said that the peer sends anything, nor that an operation
completes; what is outstanding when it does not is the one operation the session waits for. -/
theorem replies_isolated {events : List TaskEvent}
    (hclean : Run.Along step Clean TaskSession.run events) :
    Run.Always step Isolated TaskSession.run events ∧
      let s := events.foldl step TaskSession.run
      (∀ (i : Nat) (sent : Message), s.sent[i]? = some sent →
        ∃ message output, s.messages[i]? = some message ∧ s.netstats[i]? = some output ∧
          reply message output = sent) ∧
      (s.Live → ∀ exchanges, ∃ resume,
        Run.Along step Clean s (resume ++ rounds exchanges) ∧
          let served := (resume ++ rounds exchanges).foldl step s
          served.pending = [.read] ∧ served.messages = s.messages ++ exchanges.map Prod.fst ∧
            ∃ before, before.length = s.messages.length ∧ s.sent <+: before ∧
              served.sent = before ++
                exchanges.map fun exchange => reply exchange.1 exchange.2) := by
  have hstands : (events.foldl step TaskSession.run).Stands :=
    hclean.invariant Stands.run fun _ _ hs hg => hs.step hg
  refine ⟨hclean.always Stands.run (fun _ _ hs hg => hs.step hg) fun _ hs => hs.isolated, ?_, ?_⟩
  · intro i sent hsent
    exact hstands.isolated.reply_of_getElem? hsent
  · intro hlive exchanges
    exact hstands.serves hlive exchanges

/-- `{netstat}` as text is answered and a binary message of the same session is being answered,
when a third one is still to come. -/
theorem replies_isolated_two :
    let events : List TaskEvent :=
      [.complete 0 .success ⟨true, []⟩, .deliver 0 [],
        .complete 0 .success ⟨true, netstat⟩, .deliver 0 ['e', '\n'],
        .complete 0 .success ⟨true, []⟩, .deliver 0 [],
        .complete 0 .success ⟨false, ['x']⟩, .deliver 0 []]
    Run.Always step Isolated TaskSession.run events ∧
      ∃ resume, ((resume ++ rounds [(⟨true, ['y']⟩, [])]).foldl step
        (events.foldl step TaskSession.run)).messages =
          [⟨true, netstat⟩, ⟨false, ['x']⟩, ⟨true, ['y']⟩] := by
  intro events
  obtain ⟨halways, -, hserves⟩ := @replies_isolated events (by simp [events, Clean])
  obtain ⟨resume, -, -, hmessages, -⟩ := hserves (.inl (by decide)) [(⟨true, ['y']⟩, [])]
  exact ⟨halways, resume, hmessages⟩

end TaskSession

end AccessPoint
