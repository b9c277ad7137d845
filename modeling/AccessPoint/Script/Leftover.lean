import AccessPoint.Script.Alone

/-!
# What earlier meters leave on the event loop

When an `APsim` is destroyed its socket may still have an operation outstanding: the read or
connect that the release aborts, or a resolution, which the release does not touch. They
share the loop with the next meter, and as long as they are there it does not stop.

They are gone soon. The first poll removes the socket, so nothing is started for it any more
(`Retiring.poll`); the second runs what the removal has aborted (`Aborting.poll`); what is
left are resolutions of sockets that are gone, whose handlers do nothing, and `lateness` counts
down to the last of them.
-/

namespace AccessPoint.Script

open IoService

/-! ## What a handler does to the operations outstanding -/

/-- **What a handler can do**: nothing; start reads or connects for its socket, which it may
close first; or remove its socket. -/
theorem run_cases (handler : Handler) (s : Service) :
    (run handler s = s ∧ (handler.isRemoval = true → handler.socket ∉ s.1.sockets)) ∨
      (handler.socket ∈ s.1.sockets ∧ handler.isRemoval = false ∧
        (run handler s).1.sockets = s.1.sockets ∧
        ∃ kept started, (run handler s).2 = kept ++ started ∧
          (kept = s.2 ∨ kept = s.2.map (abort handler.socket)) ∧
          ∀ op ∈ started, op.handler.socket = handler.socket ∧ op.handler.isTransfer = true) ∨
      (handler.socket ∈ s.1.sockets ∧ handler.isRemoval = true ∧
        run handler s = removeSocket handler.socket s) := by
  unfold run
  split
  next halive =>
    cases handler with
    | resolver socket it =>
      cases it with
      | nil => exact .inl ⟨rfl, fun h => absurd h Bool.false_ne_true⟩
      | cons endpoint it =>
        refine .inr (.inl ⟨halive, rfl, Library.setOpen_sockets .., s.2, _, rfl, .inl rfl, ?_⟩)
        simp [Handler.socket, Handler.isTransfer, Handler.isResolver, Handler.isRemoval]
    | connect socket accepted it =>
      cases accepted with
      | true =>
        simp only [connectHandler, if_true]
        split
        next =>
          refine .inr (.inl ⟨halive, rfl, rfl, s.2, _, rfl, .inl rfl, ?_⟩)
          simp [awaiting, Handler.socket, Handler.isTransfer, Handler.isResolver, Handler.isRemoval]
        next => exact .inl ⟨rfl, fun h => absurd h Bool.false_ne_true⟩
      | false =>
        cases it with
        | nil => exact .inl ⟨rfl, fun h => absurd h Bool.false_ne_true⟩
        | cons endpoint it =>
          refine .inr (.inl ⟨halive, rfl, ?_, s.2.map (abort socket), _, rfl, .inr rfl, ?_⟩)
          · simp [connectHandler, asyncConnect, closeSocket]
          · simp [Handler.socket, Handler.isTransfer, Handler.isResolver, Handler.isRemoval]
    | read socket arrived =>
      cases arrived with
      | none => exact .inl ⟨rfl, fun h => absurd h Bool.false_ne_true⟩
      | some apdu =>
        simp only [readHandler]
        split
        next =>
          refine .inr (.inl ⟨halive, rfl, rfl, s.2, _, rfl, .inl rfl, ?_⟩)
          simp [awaiting, Handler.socket, Handler.isTransfer, Handler.isResolver, Handler.isRemoval]
        next => exact .inl ⟨rfl, fun h => absurd h Bool.false_ne_true⟩
    | removeSocket socket => exact .inr (.inr ⟨halive, rfl, rfl⟩)
  next hgone => exact .inl ⟨rfl, fun _ => hgone⟩

theorem run_nextSocket (handler : Handler) (s : Service) :
    (run handler s).1.nextSocket = s.1.nextSocket := by
  unfold run
  split
  next =>
    cases handler with
    | resolver socket it => cases it <;> simp [resolverHandler, asyncConnect]
    | connect socket accepted it =>
      cases accepted with
      | true =>
        simp only [connectHandler, if_true]
        split
        next => rfl
        next => rfl
      | false => cases it <;> simp [connectHandler, asyncConnect, closeSocket]
    | read socket arrived =>
      cases arrived with
      | none => rfl
      | some apdu =>
        simp only [readHandler]
        split
        next => rfl
        next => rfl
    | removeSocket socket => rfl
  next => rfl

theorem run_sockets {handler : Handler} {s : Service} {socket : Nat}
    (h : socket ∈ (run handler s).1.sockets) : socket ∈ s.1.sockets := by
  rcases run_cases handler s with ⟨hsame, -⟩ | ⟨-, -, hsockets, -⟩ | ⟨-, -, hremoved⟩
  · rwa [hsame] at h
  · rwa [hsockets] at h
  · rw [hremoved] at h
    exact List.mem_of_mem_filter h

/-- A socket that a handler makes an end of. -/
theorem run_removed {handler : Handler} {s : Service} {socket : Nat} (h : socket ∈ s.1.sockets)
    (hgone : socket ∉ (run handler s).1.sockets) : run handler s = removeSocket socket s := by
  rcases run_cases handler s with ⟨hsame, -⟩ | ⟨-, -, hsockets, -⟩ | ⟨-, -, hremoved⟩
  · rw [hsame] at hgone
    exact absurd h hgone
  · rw [hsockets] at hgone
    exact absurd h hgone
  · have hsocket : socket = handler.socket := by
      by_contra hne
      rw [hremoved] at hgone
      exact hgone (List.mem_filter.mpr ⟨h, decide_eq_true hne⟩)
    rw [hremoved, hsocket]

theorem not_mem_run_removeSocket (socket : Nat) (s : Service) :
    socket ∉ (run (.removeSocket socket) s).1.sockets := by
  by_cases h : socket ∈ s.1.sockets
  · simp [run, Handler.socket, h, removeSocket]
  · exact fun hmem => h (run_sockets hmem)

/-- **An operation a handler leaves** was there before, or its socket was closed, or it has
been started for a socket that stays. -/
theorem mem_run {handler : Handler} {s : Service} {op : Operation Handler}
    (h : op ∈ (run handler s).2) :
    (∃ op₀ ∈ s.2, op = op₀ ∨ op = abort handler.socket op₀) ∨
      (op.handler.socket = handler.socket ∧ handler.socket ∈ (run handler s).1.sockets ∧
        op.handler.isTransfer = true) := by
  rcases run_cases handler s with
    ⟨hsame, -⟩ | ⟨halive, -, hsockets, kept, started, houtstanding, hkept, hstarted⟩ |
    ⟨-, -, hremoved⟩
  · rw [hsame] at h
    exact .inl ⟨op, h, .inl rfl⟩
  · rw [houtstanding] at h
    rcases List.mem_append.mp h with hop | hop
    · rcases hkept with rfl | rfl
      · exact .inl ⟨op, hop, .inl rfl⟩
      · obtain ⟨op₀, hop₀, rfl⟩ := List.mem_map.mp hop
        exact .inl ⟨op₀, hop₀, .inr rfl⟩
    · obtain ⟨hsocket, htransfer⟩ := hstarted op hop
      exact .inr ⟨hsocket, hsockets ▸ halive, htransfer⟩
  · rw [hremoved] at h
    obtain ⟨op₀, hop₀, rfl⟩ := List.mem_map.mp h
    exact .inl ⟨op₀, hop₀, .inr rfl⟩

/-- An operation of another socket was there before the handler ran. -/
theorem mem_of_mem_run {handler : Handler} {s : Service} {op : Operation Handler}
    (h : op ∈ (run handler s).2) (hne : op.handler.socket ≠ handler.socket) : op ∈ s.2 := by
  rcases mem_run h with ⟨op₀, hop₀, rfl | rfl⟩ | ⟨hsocket, -⟩
  · exact hop₀
  · rw [abort_socket] at hne
    rw [abort_of_ne hne]
    exact hop₀
  · exact absurd hsocket hne

/-! ## The operations of earlier sockets -/

/-- A resolution that is going to be over, or an operation the next poll runs. -/
def Settled (op : Operation Handler) : Prop :=
  op.wait = some 0 ∨ op.handler.isResolver = true ∧ op.wait ≠ none

theorem Settled.abort {op : Operation Handler} (h : Settled op) (socket : Nat) :
    Settled (abort socket op) := by
  rcases abort_cases socket op with ⟨hsame, -⟩ | ⟨-, -, hwait, -⟩
  · rw [hsame]
    exact h
  · exact .inl hwait

/-- A connect or read, or a resolution that is going to be over. -/
def Lasting (op : Operation Handler) : Prop :=
  op.handler.isTransfer = true ∨ op.handler.isResolver = true ∧ op.wait ≠ none

theorem Lasting.abort {op : Operation Handler} (h : Lasting op) (socket : Nat) :
    Lasting (abort socket op) := by
  rcases abort_cases socket op with ⟨hsame, -⟩ | ⟨-, -, -, -, htransfer⟩
  · rw [hsame]
    exact h
  · exact .inl htransfer

/-- Closing its socket settles an operation. -/
theorem Lasting.settled {op : Operation Handler} (h : Lasting op) :
    Settled (Script.abort op.handler.socket op) := by
  rcases abort_cases op.handler.socket op with ⟨hsame, htransfer⟩ | ⟨-, -, hwait, -⟩
  · rw [hsame]
    rcases h with h | h
    · rw [htransfer rfl] at h
      cases h
    · exact .inr h
  · exact .inl hwait

/-- After a release: all that is outstanding besides socket `c` belongs to `prev`, whose
removal is posted, or to sockets that are gone. -/
structure Retiring (c prev : Nat) (s : Service) : Prop where
  removal : { wait := some 0, handler := .removeSocket prev } ∈ s.2
  others : ∀ op ∈ s.2, op.handler.socket ≠ c →
    op.handler.socket = prev ∨ op.handler.socket ∉ s.1.sockets
  settled : ∀ op ∈ s.2, op.handler.socket ≠ c → Settled op

/-- All that is outstanding besides socket `c` belongs to sockets that are gone. -/
structure Aborting (c : Nat) (s : Service) : Prop where
  gone : ∀ op ∈ s.2, op.handler.socket ≠ c → op.handler.socket ∉ s.1.sockets
  settled : ∀ op ∈ s.2, op.handler.socket ≠ c → Settled op

/-- And it is resolutions. -/
structure Gone (c : Nat) (s : Service) : Prop where
  gone : ∀ op ∈ s.2, op.handler.socket ≠ c → op.handler.socket ∉ s.1.sockets
  resolving : ∀ op ∈ s.2, op.handler.socket ≠ c → op.handler.isResolver = true ∧ op.wait ≠ none

theorem Gone.aborting {c : Nat} {s : Service} (h : Gone c s) : Aborting c s :=
  ⟨h.gone, fun op hop hne => .inr (h.resolving op hop hne)⟩

/-- What a poll finds not ready is a resolution. -/
theorem resolving_of_mem_later {c : Nat} {ops : List (Operation Handler)}
    (hsettled : ∀ op ∈ ops, op.handler.socket ≠ c → Settled op) {op : Operation Handler}
    (hop : op ∈ later ops) (hne : op.handler.socket ≠ c) :
    op.handler.isResolver = true ∧ op.wait ≠ none := by
  obtain ⟨op, hmem, hwait, rfl⟩ := mem_later.mp hop
  rcases hsettled op hmem hne with hready | ⟨hresolver, hnone⟩
  · exact absurd hready hwait
  · exact ⟨hresolver, by simpa [Operation.tick] using hnone⟩

/-- **The second poll runs what the removal has aborted.** -/
theorem Aborting.poll {c : Nat} {w : Loop Library Handler} (hgoing : w.stopped = false)
    (h : Aborting c (w.state, w.outstanding)) :
    Gone c ((IoService.poll run w).state, (IoService.poll run w).outstanding) := by
  have hpoll := poll_induct run w
    (I := fun _ s => Gone c s ∧ ∀ socket ∈ s.1.sockets, socket ∈ w.state.sockets) hgoing ?_ ?_
  · exact hpoll.1
  · refine ⟨⟨?_, ?_⟩, fun _ hsocket => hsocket⟩
    · intro op hop hne
      obtain ⟨op, hmem, -, rfl⟩ := mem_later.mp hop
      exact h.gone op hmem hne
    · intro op hop
      exact resolving_of_mem_later h.settled hop
  · rintro op ready s hmem - ⟨hs, hsub⟩
    -- a handler that does something is one of socket `c`
    have hown : op.handler.socket ∈ s.1.sockets → op.handler.socket = c := by
      intro halive
      by_contra hne
      exact h.gone op hmem hne (hsub _ halive)
    by_cases halive : op.handler.socket ∈ s.1.sockets
    · have hforeign : ∀ op' ∈ (run op.handler s).2, op'.handler.socket ≠ c → op' ∈ s.2 := by
        intro op' hop' hne
        rw [← hown halive] at hne
        exact mem_of_mem_run hop' hne
      refine ⟨⟨?_, ?_⟩, fun socket hsocket => hsub socket (run_sockets hsocket)⟩
      · intro op' hop' hne hsocket
        exact hs.gone op' (hforeign op' hop' hne) hne (run_sockets hsocket)
      · intro op' hop' hne
        exact hs.resolving op' (hforeign op' hop' hne) hne
    · rw [run_of_gone halive]
      exact ⟨hs, hsub⟩

/-- A handler while the removal of `prev` is to come, or has been run: the operations of
`prev` are to be aborted, or have been. -/
structure Removing (c prev : Nat) (ready : List (Operation Handler)) (s : Service) : Prop where
  lasting : ∀ op ∈ s.2, op.handler.socket ≠ c → Lasting op
  others : ∀ op ∈ s.2, op.handler.socket ≠ c → op.handler.socket ∈ s.1.sockets →
    op.handler.socket = prev
  settled : ∀ op ∈ s.2, op.handler.socket ≠ c → op.handler.socket ∉ s.1.sockets → Settled op
  removal : prev ∈ s.1.sockets → ∃ op ∈ ready, op.handler = .removeSocket prev

theorem Removing.run {c prev : Nat} {op : Operation Handler} {ready : List (Operation Handler)}
    {s : Service} (h : Removing c prev (op :: ready) s)
    (hop : op.handler.socket ≠ c → op.handler.socket ∈ s.1.sockets → op.handler.socket = prev) :
    Removing c prev ready (run op.handler s) := by
  constructor
  case lasting =>
    intro op' hop' hne
    rcases mem_run hop' with ⟨op₀, hop₀, rfl | rfl⟩ | ⟨-, -, htransfer⟩
    · exact h.lasting op' hop₀ hne
    · rw [abort_socket] at hne
      exact (h.lasting op₀ hop₀ hne).abort _
    · exact .inl htransfer
  case others =>
    intro op' hop' hne hmem
    have halive := run_sockets hmem
    rcases mem_run hop' with ⟨op₀, hop₀, rfl | rfl⟩ | ⟨hsocket, -⟩
    · exact h.others op' hop₀ hne halive
    · rw [abort_socket] at hne halive ⊢
      exact h.others op₀ hop₀ hne halive
    · rw [hsocket] at hne halive ⊢
      exact hop hne halive
  case settled =>
    intro op' hop' hne hgone
    by_cases halive : op'.handler.socket ∈ s.1.sockets
    · -- its socket has just been removed, and closed
      rw [run_removed halive hgone] at hop'
      obtain ⟨op₀, hop₀, hsame⟩ := List.mem_map.mp hop'
      have hsocket : op₀.handler.socket = op'.handler.socket := by rw [← hsame, abort_socket]
      rw [← hsocket] at hne hsame
      rw [← hsame]
      exact (h.lasting op₀ hop₀ hne).settled
    · rcases mem_run hop' with ⟨op₀, hop₀, rfl | rfl⟩ | ⟨hsocket, hmem, -⟩
      · exact h.settled op' hop₀ hne halive
      · rw [abort_socket] at hne halive
        exact (h.settled op₀ hop₀ hne halive).abort _
      · exact absurd (hsocket ▸ hmem) hgone
  case removal =>
    intro hprev
    obtain ⟨op', hmem, hremoval⟩ := h.removal (run_sockets hprev)
    rcases List.mem_cons.mp hmem with rfl | hmem
    · rw [hremoval] at hprev
      exact absurd hprev (not_mem_run_removeSocket prev s)
    · exact ⟨op', hmem, hremoval⟩

/-- **The first poll removes the socket.** -/
theorem Retiring.poll {c prev : Nat} {w : Loop Library Handler} (hgoing : w.stopped = false)
    (h : Retiring c prev (w.state, w.outstanding)) :
    Aborting c ((IoService.poll run w).state, (IoService.poll run w).outstanding) := by
  have hpoll := poll_induct Script.run w
    (I := fun ready s => Removing c prev ready s ∧ ∀ socket ∈ s.1.sockets, socket ∈ w.state.sockets)
    hgoing ?_ ?_
  · obtain ⟨hremoving, -⟩ := hpoll
    have hremoved : prev ∉ (IoService.poll Script.run w).state.sockets := by
      intro hmem
      obtain ⟨op, hop, -⟩ := hremoving.removal hmem
      cases hop
    have hgone : ∀ op ∈ (IoService.poll Script.run w).outstanding, op.handler.socket ≠ c →
        op.handler.socket ∉ (IoService.poll Script.run w).state.sockets := by
      intro op hop hne halive
      exact hremoved (hremoving.others op hop hne halive ▸ halive)
    refine ⟨hgone, ?_⟩
    intro op hop hne
    exact hremoving.settled op hop hne (hgone op hop hne)
  · have hresolving : ∀ op ∈ later w.outstanding, op.handler.socket ≠ c →
        op.handler.isResolver = true ∧ op.wait ≠ none := by
      intro op hop hne
      exact resolving_of_mem_later h.settled hop hne
    refine ⟨?_, fun _ hsocket => hsocket⟩
    constructor
    case lasting =>
      intro op hop hne
      exact .inr (hresolving op hop hne)
    case others =>
      intro op hop hne halive
      obtain ⟨op, hmem, -, rfl⟩ := mem_later.mp hop
      rcases h.others op hmem hne with hprev | hgone
      · exact hprev
      · exact absurd halive hgone
    case settled =>
      intro op hop hne _
      exact .inr (hresolving op hop hne)
    case removal =>
      intro _
      exact ⟨_, List.mem_filter.mpr ⟨h.removal, rfl⟩, rfl⟩
  · rintro op ready s hmem - ⟨hs, hsub⟩
    refine ⟨hs.run fun hne halive => ?_, fun socket hsocket => hsub socket (run_sockets hsocket)⟩
    rcases h.others op hmem hne with hprev | hgone
    · exact hprev
    · exact absurd (hsub _ halive) hgone

/-! ## The client -/

/-- A resolution of another socket. -/
def earlier (c : Nat) (handler : Handler) : Bool :=
  handler.isResolver && handler.socket != c

theorem not_earlier_of_isTransfer {c : Nat} {handler : Handler} (h : handler.isTransfer = true) :
    earlier c handler = false := by
  cases handler with
  | resolver socket it => cases h
  | _ => rfl

theorem abort_earlier (c socket : Nat) (op : Operation Handler) :
    earlier c (abort socket op).handler = earlier c op.handler := by
  rcases abort_cases socket op with ⟨hsame, -⟩ | ⟨-, htransfer, -, -, htransfer'⟩
  · rw [hsame]
  · rw [not_earlier_of_isTransfer htransfer, not_earlier_of_isTransfer htransfer']

theorem abort_of_earlier {c socket : Nat} {op : Operation Handler}
    (h : earlier c op.handler = true) : abort socket op = op := by
  rcases abort_cases socket op with ⟨hsame, -⟩ | ⟨-, htransfer, -⟩
  · exact hsame
  · rw [not_earlier_of_isTransfer htransfer] at h
    cases h

theorem part_earlier_abort (c socket : Nat) (ops : List (Operation Handler)) :
    part (earlier c) (ops.map (abort socket)) = part (earlier c) ops :=
  part_map_same ops (abort_earlier c socket) fun _ => abort_of_earlier

theorem part_earlier_arrive (c socket wait : Nat) (apdu : Apdu) (ops : List (Operation Handler)) :
    part (earlier c) (ops.map (arrive socket wait apdu)) = part (earlier c) ops := by
  refine part_map_same ops (fun op => ?_) fun op hop => if_neg ?_
  · unfold arrive
    split
    next h => rw [h]; rfl
    next => rfl
  · rintro rfl
    cases hop

/-- No handler touches a resolution of another socket. -/
theorem part_earlier_run (c : Nat) (handler : Handler) (s : Service) :
    part (earlier c) (run handler s).2 = part (earlier c) s.2 := by
  rcases run_cases handler s with
    ⟨hsame, -⟩ | ⟨-, -, -, kept, started, houtstanding, hkept, hstarted⟩ | ⟨-, -, hremoved⟩
  · rw [hsame]
  · have hnone : part (earlier c) started = [] := by
      refine List.filter_eq_nil_iff.mpr fun op hop => ?_
      rw [not_earlier_of_isTransfer (hstarted op hop).2]
      exact Bool.false_ne_true
    rw [houtstanding, part_append, hnone, List.append_nil]
    rcases hkept with rfl | rfl
    · rfl
    · exact part_earlier_abort c _ _
  · rw [hremoved]
    exact part_earlier_abort c _ _

/-- A loop whose sockets are numbered below the next one, and on which the resolutions of
sockets other than `c` are late by so many polls. -/
structure Leaves (c late : Nat) (w : Loop Library Handler) : Prop where
  bound : ∀ op ∈ w.outstanding, op.handler.socket < w.state.nextSocket
  late : lateness (part (earlier c) w.outstanding) = late

/-- **One poll.** -/
theorem Leaves.poll {c late : Nat} {stage : Stage} {w : Loop Library Handler} (h : Leaves c late w)
    (htracks : Tracks c stage w) : Leaves c (late - 1) (IoService.poll run w) := by
  cases hstopped : w.stopped with
  | true =>
    have hlate := h.late
    rw [htracks.drained hstopped, part_nil, lateness_nil] at hlate
    rw [poll_of_stopped hstopped, ← hlate]
    exact ⟨h.bound, by rw [htracks.drained hstopped]; rfl⟩
  | false =>
    have hpoll := poll_induct run w
      (I := fun _ s => (∀ op ∈ s.2, op.handler.socket < w.state.nextSocket) ∧
        s.1.nextSocket = w.state.nextSocket) hstopped ?_ ?_
    · refine ⟨?_, ?_⟩
      · rw [hpoll.2]
        exact hpoll.1
      · rw [poll_part hstopped (part_earlier_run c), lateness_later, h.late]
    · refine ⟨fun op hop => ?_, rfl⟩
      obtain ⟨op, hmem, -, rfl⟩ := mem_later.mp hop
      exact h.bound op hmem
    · rintro op ready s hmem - ⟨hs, hnext⟩
      refine ⟨fun op' hop' => ?_, (run_nextSocket _ _).trans hnext⟩
      rcases mem_run hop' with ⟨op₀, hop₀, rfl | rfl⟩ | ⟨hsocket, -⟩
      · exact hs op' hop₀
      · rw [abort_socket]
        exact hs op₀ hop₀
      · rw [hsocket]
        exact h.bound op hmem

theorem Leaves.respond {c late : Nat} {w : Loop Library Handler} (h : Leaves c late w)
    (reaction : Option (Nat × Apdu)) : Leaves c late (Script.respond reaction w) := by
  cases reaction with
  | none => exact h
  | some reaction =>
    refine ⟨fun op hop => ?_, (congrArg lateness (part_earlier_arrive ..)).trans h.late⟩
    obtain ⟨op, hmem, rfl⟩ := List.mem_map.mp hop
    rw [arrive_socket]
    exact h.bound op hmem

theorem Leaves.tryOpen {c late : Nat} (meter : Meter) (tries : Nat) {stage : Stage}
    {w : Loop Library Handler} (h : Leaves c late w) (htracks : Tracks c stage w) :
    Leaves c (late - stage.openPolls tries) (Script.tryOpen meter tries w).1 := by
  induction tries generalizing stage late w with
  | zero => exact h
  | succ tries ih =>
    have hpoll := h.poll htracks
    simp only [Script.tryOpen, Stage.openPolls, htracks.poll.connected]
    split
    next => exact hpoll.respond _
    next =>
      have hrest := ih hpoll htracks.poll
      rwa [Nat.sub_sub, Nat.add_comm 1] at hrest

theorem Leaves.get {c late : Nat} {stage : Stage} {w : Loop Library Handler} (h : Leaves c late w)
    (htracks : Tracks c stage w) (meter : Meter) (obis : StdString) :
    Leaves c (late - 1) (Script.get meter obis w).1 := by
  unfold Script.get
  simp only
  split
  next => exact (h.poll htracks).respond _
  next => exact h.poll htracks

/-- What a meter reacts with is found by its own socket. -/
theorem mem_of_mem_respond {c : Nat} {stage : Stage} {w : Loop Library Handler}
    (htracks : Tracks c stage w) {reaction : Option (Nat × Apdu)} {op : Operation Handler}
    (hop : op ∈ (respond reaction w).outstanding) (hne : op.handler.socket ≠ c) :
    op ∈ w.outstanding := by
  cases reaction with
  | none => exact hop
  | some reaction =>
    obtain ⟨op, hmem, rfl⟩ := List.mem_map.mp hop
    rw [arrive_socket] at hne
    have hsame : arrive w.state.apsim.socket reaction.1 reaction.2 op = op := by
      refine if_neg fun hawaiting => hne ?_
      rw [hawaiting, show w.state.apsim.socket = c from htracks.shows.current]
      rfl
    rw [hsame]
    exact hmem

theorem respond_state (reaction : Option (Nat × Apdu)) (w : Loop Library Handler) :
    (respond reaction w).state = w.state := by
  cases reaction with
  | none => rfl
  | some reaction => rfl

theorem Gone.respond {c : Nat} {stage : Stage} {w : Loop Library Handler}
    (h : Gone c (w.state, w.outstanding)) (htracks : Tracks c stage w)
    (reaction : Option (Nat × Apdu)) :
    Gone c ((Script.respond reaction w).state, (Script.respond reaction w).outstanding) := by
  rw [respond_state]
  exact ⟨fun op hop hne => h.gone op (mem_of_mem_respond htracks hop hne) hne,
    fun op hop hne => h.resolving op (mem_of_mem_respond htracks hop hne) hne⟩

theorem Aborting.respond {c : Nat} {stage : Stage} {w : Loop Library Handler}
    (h : Aborting c (w.state, w.outstanding)) (htracks : Tracks c stage w)
    (reaction : Option (Nat × Apdu)) :
    Aborting c ((Script.respond reaction w).state, (Script.respond reaction w).outstanding) := by
  rw [respond_state]
  exact ⟨fun op hop hne => h.gone op (mem_of_mem_respond htracks hop hne) hne,
    fun op hop hne => h.settled op (mem_of_mem_respond htracks hop hne) hne⟩

/-- **From the second poll on only resolutions are left.** -/
theorem Tracks.gone_poll {c : Nat} {stage : Stage} {w : Loop Library Handler}
    (htracks : Tracks c stage w) (h : Aborting c (w.state, w.outstanding)) :
    Gone c ((IoService.poll run w).state, (IoService.poll run w).outstanding) := by
  cases hstopped : w.stopped with
  | false => exact h.poll hstopped
  | true =>
    rw [poll_of_stopped hstopped, htracks.drained hstopped]
    exact ⟨fun op hop => absurd hop List.not_mem_nil, fun op hop => absurd hop List.not_mem_nil⟩

theorem Tracks.aborting_tryOpen {c : Nat} (meter : Meter) {tries : Nat} {stage : Stage}
    {w : Loop Library Handler} (htracks : Tracks c stage w)
    (h : Aborting c (w.state, w.outstanding)) :
    Aborting c ((Script.tryOpen meter tries w).1.state,
      (Script.tryOpen meter tries w).1.outstanding) := by
  induction tries generalizing stage w with
  | zero => exact h
  | succ tries ih =>
    have hpoll := (htracks.gone_poll h).aborting
    simp only [Script.tryOpen]
    split
    next => exact hpoll.respond htracks.poll _
    next => exact ih htracks.poll hpoll

/-- What is left when a meter's turn begins: a socket that is being retired, or less. -/
def Entering (c : Nat) (s : Service) : Prop :=
  (∃ prev, Retiring c prev s) ∨ Aborting c s

/-- `open` takes the first poll. -/
theorem Tracks.aborting_of_entering {c : Nat} (meter : Meter) {tries : Nat} (hpos : tries ≠ 0)
    {stage : Stage} {w : Loop Library Handler} (htracks : Tracks c stage w)
    (hgoing : w.stopped = false) (h : Entering c (w.state, w.outstanding)) :
    Aborting c ((Script.tryOpen meter tries w).1.state,
      (Script.tryOpen meter tries w).1.outstanding) := by
  obtain ⟨tries, rfl⟩ := Nat.exists_eq_succ_of_ne_zero hpos
  have hpoll : Aborting c ((IoService.poll run w).state, (IoService.poll run w).outstanding) := by
    rcases h with ⟨prev, h⟩ | h
    · exact h.poll hgoing
    · exact (h.poll hgoing).aborting
  simp only [Script.tryOpen]
  split
  next => exact hpoll.respond htracks.poll _
  next => exact htracks.poll.aborting_tryOpen meter hpoll

theorem Tracks.gone_get {c : Nat} {stage : Stage} {w : Loop Library Handler}
    (htracks : Tracks c stage w) (h : Aborting c (w.state, w.outstanding)) (meter : Meter)
    (obis : StdString) :
    Gone c ((Script.get meter obis w).1.state, (Script.get meter obis w).1.outstanding) := by
  unfold Script.get
  simp only
  split
  next => exact (htracks.gone_poll h).respond htracks.poll _
  next => exact htracks.gone_poll h

end AccessPoint.Script
