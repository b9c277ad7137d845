import AccessPoint.Socket.Connect

/-!
# From one endpoint to the next

A resolution gives a list of endpoints, and `ASIO_Connect_Handler` starts a connect to the next
one of them until one succeeds. It takes a success without a connect callback for a failure.

`iterates_iff` says when the endpoints are tried as they should be, whatever each of them does: a
connect callback is registered, or no endpoint but the last accepts.

The schedule of `iteration` is a fixed one for its endpoints and their outcomes: each connect
completes, its handler runs, and only then does the next one complete. No peer resets a connection
before the handler of its connect runs, and neither `Close()` nor a second `Open` comes meanwhile.
What those do to a socket that is connecting is in `AccessPoint.Socket.Connect`.
-/

namespace AccessPoint.Socket

/-- An endpoint a name resolves to, and whether it accepts the connect. -/
structure Candidate where
  endpoint : Endpoint
  accepts : Bool
  deriving DecidableEq, Repr

/-- A connect to a candidate completes, and its handler runs. -/
def Candidate.events (c : Candidate) : List Event :=
  [.connectDone 0 c.accepts, .deliver 0]

/-- The resolution gives the candidates, and each connect that is started completes. -/
def iteration (first : Candidate) (rest : List Candidate) : List Event :=
  .resolveDone (some (first.endpoint, rest.map (·.endpoint))) :: .deliver 0 ::
    (first :: rest).flatMap Candidate.events

/-- The candidates up to the first that accepts, that one included. -/
def untilAccepted : List Candidate → List Candidate
  | [] => []
  | c :: cs => c :: if c.accepts then [] else untilAccepted cs

/-- The endpoints that connects were started to. -/
def started (effects : List Effect) : List Endpoint :=
  effects.filterMap fun
    | .asyncConnect endpoint => some endpoint
    | _ => none

namespace TcpSocket

/-- The effects of some events, one after the other. -/
def allEffects (s : TcpSocket) : List Event → List Effect
  | [] => []
  | event :: events => s.effects event ++ (s.step event).allEffects events

/-- The event does not close a connection. -/
def KeepsConnection (s : TcpSocket) (event : Event) : Prop :=
  s.descriptor = .connected → (s.step event).descriptor = .connected

/-- `Open` has closed the socket and started the one resolution that is outstanding. -/
structure Resolving (s : TcpSocket) : Prop where
  closed : s.descriptor = .closed
  resolving : s.resolving = 1
  connecting : s.connecting = []
  ready : s.ready = []

/-- The candidates are tried in turn up to the first that accepts, no connection is closed, and a
registered callback is called once if one accepts and never otherwise. -/
structure Iterates (s : TcpSocket) (first : Candidate) (rest : List Candidate) : Prop where
  attempts : started (s.allEffects (iteration first rest)) =
    (untilAccepted (first :: rest)).map (·.endpoint)
  keeps : Run.Along step KeepsConnection s (iteration first rest)
  callback : (s.allEffects (iteration first rest)).count .connectCallback =
    if s.hasConnect && (first :: rest).any (·.accepts) then 1 else 0

/-! ## One attempt -/

section Attempt

variable (s : TcpSocket) (endpoint : Endpoint) (it : List Endpoint)

/-- A connect is outstanding. -/
def trying : TcpSocket :=
  { s with descriptor := .opened, connecting := [{ endpoint, it }], ready := [] }

/-- A connect has completed. -/
def completed (accepts : Bool) : TcpSocket :=
  { s with
    descriptor := if accepts then .connected else .opened
    connecting := []
    ready := [.connected (if accepts then .success else .refused) it] }

/-- Nothing is outstanding. -/
def quiet (descriptor : Descriptor) : TcpSocket :=
  { s with descriptor, connecting := [], ready := [] }

theorem trying_done (accepts : Bool) :
    (s.trying endpoint it).stepEffects (.connectDone 0 accepts) = (s.completed it accepts, []) :=
  rfl

theorem completed_deliver (accepts : Bool) :
    (s.completed it accepts).stepEffects (.deliver 0) =
      (s.quiet (if accepts then .connected else .opened)).connectHandler
        (if accepts then .success else .refused) it :=
  rfl

/-- The handler's condition for calling the callback. -/
theorem told_iff {accepts : Bool} {descriptor : Descriptor} :
    (if accepts then ConnectCode.success else .refused) = .success ∧
        (s.quiet descriptor).hasConnect = true ↔
      accepts = true ∧ s.hasConnect = true := by
  have hquiet : (s.quiet descriptor).hasConnect = s.hasConnect := rfl
  cases accepts <;> simp [hquiet]

theorem completed_last {accepts : Bool} (h : ¬ (accepts = true ∧ s.hasConnect = true)) :
    (s.completed [] accepts).stepEffects (.deliver 0) =
      (s.quiet (if accepts then .connected else .opened), []) := by
  rw [completed_deliver, connectHandler, if_neg (mt s.told_iff.mp h)]

theorem completed_next {accepts : Bool} (h : ¬ (accepts = true ∧ s.hasConnect = true)) :
    (s.completed (endpoint :: it) accepts).stepEffects (.deliver 0) =
      (s.trying endpoint it, [.asyncConnect endpoint]) := by
  rw [completed_deliver, connectHandler, if_neg (mt s.told_iff.mp h)]
  rfl

theorem completed_callback (h : s.hasConnect = true) :
    (s.completed it true).stepEffects (.deliver 0) = (s.quiet .connected, [.connectCallback]) := by
  rw [completed_deliver, connectHandler.eq_def, if_pos (s.told_iff.mpr ⟨rfl, h⟩)]
  rfl

end Attempt

/-- The effects of one event and of what follows, from what the event does. -/
theorem allEffects_cons {s s' : TcpSocket} {event : Event} {effects : List Effect}
    (h : s.stepEffects event = (s', effects)) (events : List Event) :
    s.allEffects (event :: events) = effects ++ s'.allEffects events := by
  rw [allEffects, TcpSocket.effects, step, h]

theorem along_cons {s s' : TcpSocket} {event : Event} {effects : List Effect}
    (h : s.stepEffects event = (s', effects)) (events : List Event) :
    Run.Along step KeepsConnection s (event :: events) ↔
      (s.descriptor = .connected → s'.descriptor = .connected) ∧
        Run.Along step KeepsConnection s' events := by
  rw [Run.along_cons, KeepsConnection, step, h]

/-- When nothing is outstanding nothing happens. -/
theorem quiet_events (s : TcpSocket) (descriptor : Descriptor) (cs : List Candidate) :
    (s.quiet descriptor).allEffects (cs.flatMap Candidate.events) = [] ∧
      Run.Along step KeepsConnection (s.quiet descriptor) (cs.flatMap Candidate.events) := by
  induction cs with
  | nil => exact ⟨rfl, trivial⟩
  | cons c cs ih => exact ⟨ih.1, id, id, ih.2⟩

/-- A candidate that accepts with a callback registered ends the iteration. -/
theorem trying_accepted {s : TcpSocket} (h : s.hasConnect = true) (endpoint : Endpoint)
    (it : List Endpoint) {c : Candidate} (hc : c.accepts = true) (cs : List Candidate) :
    (s.trying endpoint it).allEffects ((c :: cs).flatMap Candidate.events) = [.connectCallback] ∧
      Run.Along step KeepsConnection (s.trying endpoint it)
        ((c :: cs).flatMap Candidate.events) := by
  obtain ⟨hquiet, hkeeps⟩ := quiet_events s .connected cs
  have hcompleted := completed_callback s it h
  rw [List.flatMap_cons, Candidate.events, hc]
  constructor
  · calc (s.trying endpoint it).allEffects
          ([.connectDone 0 true, .deliver 0] ++ cs.flatMap Candidate.events)
      _ = (s.completed it true).allEffects (.deliver 0 :: cs.flatMap Candidate.events) :=
        allEffects_cons (trying_done s endpoint it true) _
      _ = .connectCallback :: (s.quiet .connected).allEffects (cs.flatMap Candidate.events) :=
        allEffects_cons hcompleted _
      _ = [.connectCallback] := by rw [hquiet]
  · apply (along_cons (trying_done s endpoint it true) _).mpr
    exact ⟨nofun, (along_cons hcompleted _).mpr ⟨fun _ => rfl, hkeeps⟩⟩

/-- The last candidate ends the iteration, when no callback is to be called. -/
theorem trying_last {s : TcpSocket} {c : Candidate}
    (h : ¬ (c.accepts = true ∧ s.hasConnect = true)) (endpoint : Endpoint) :
    (s.trying endpoint []).allEffects ([c].flatMap Candidate.events) = [] ∧
      Run.Along step KeepsConnection (s.trying endpoint []) ([c].flatMap Candidate.events) := by
  have hcompleted := completed_last s h
  rw [List.flatMap_singleton, Candidate.events]
  constructor
  · calc (s.trying endpoint []).allEffects [.connectDone 0 c.accepts, .deliver 0]
      _ = (s.completed [] c.accepts).allEffects [.deliver 0] :=
        allEffects_cons (trying_done s endpoint [] c.accepts) _
      _ = [] := allEffects_cons hcompleted _
  · apply (along_cons (trying_done s endpoint [] c.accepts) _).mpr
    exact ⟨nofun, (along_cons hcompleted _).mpr ⟨id, trivial⟩⟩

/-- Any other candidate is followed by the next one, when no callback is to be called; its
connection is closed for that if it accepts. -/
theorem trying_next {s : TcpSocket} {c : Candidate}
    (h : ¬ (c.accepts = true ∧ s.hasConnect = true)) (endpoint next : Endpoint)
    (it : List Endpoint) (cs : List Candidate) :
    (s.trying endpoint (next :: it)).allEffects ((c :: cs).flatMap Candidate.events) =
        .asyncConnect next :: (s.trying next it).allEffects (cs.flatMap Candidate.events) ∧
      (Run.Along step KeepsConnection (s.trying endpoint (next :: it))
          ((c :: cs).flatMap Candidate.events) ↔
        c.accepts = false ∧
          Run.Along step KeepsConnection (s.trying next it) (cs.flatMap Candidate.events)) := by
  have hcompleted := completed_next s next it h
  rw [List.flatMap_cons, Candidate.events]
  constructor
  · calc (s.trying endpoint (next :: it)).allEffects
          ([.connectDone 0 c.accepts, .deliver 0] ++ cs.flatMap Candidate.events)
      _ = (s.completed (next :: it) c.accepts).allEffects
            (.deliver 0 :: cs.flatMap Candidate.events) :=
        allEffects_cons (trying_done s endpoint (next :: it) c.accepts) _
      _ = .asyncConnect next :: (s.trying next it).allEffects (cs.flatMap Candidate.events) :=
        allEffects_cons hcompleted _
  · rw [List.cons_append, along_cons (trying_done s endpoint (next :: it) c.accepts),
      and_iff_right nofun, List.cons_append, List.nil_append, along_cons hcompleted]
    cases c.accepts with
    | false => exact and_congr_left fun _ => iff_of_true nofun rfl
    | true => exact and_congr_left fun _ => iff_of_false (fun h => nomatch h rfl) nofun

/-! ## The iteration -/

theorem count_asyncConnect (endpoint : Endpoint) (effects : List Effect) :
    (Effect.asyncConnect endpoint :: effects).count .connectCallback =
      effects.count .connectCallback :=
  List.count_cons_of_ne (by simp)

/-- A callback is registered, or no candidate but the last accepts. -/
def OnlyLastAccepts (hasConnect : Bool) (cs : List Candidate) : Prop :=
  hasConnect = true ∨ ∀ c ∈ cs.dropLast, c.accepts = false

/-- What `Iterates` asks for, from an outstanding connect on. -/
structure IteratesFrom (s : TcpSocket) (c : Candidate) (cs : List Candidate) : Prop where
  attempts : c.endpoint :: started ((s.trying c.endpoint (cs.map (·.endpoint))).allEffects
    ((c :: cs).flatMap Candidate.events)) = (untilAccepted (c :: cs)).map (·.endpoint)
  keeps : Run.Along step KeepsConnection (s.trying c.endpoint (cs.map (·.endpoint)))
    ((c :: cs).flatMap Candidate.events)
  callback : ((s.trying c.endpoint (cs.map (·.endpoint))).allEffects
    ((c :: cs).flatMap Candidate.events)).count .connectCallback =
      if s.hasConnect && (c :: cs).any (·.accepts) then 1 else 0

theorem IteratesFrom.accepted {s : TcpSocket} (h : s.hasConnect = true) {c : Candidate}
    (hc : c.accepts = true) (cs : List Candidate) : s.IteratesFrom c cs := by
  obtain ⟨heffects, hkeeps⟩ := trying_accepted h c.endpoint (cs.map (·.endpoint)) hc cs
  refine ⟨?_, hkeeps, ?_⟩
  · rw [heffects]
    simp [untilAccepted, started, hc]
  · rw [heffects]
    simp [h, hc]

theorem IteratesFrom.last {s : TcpSocket} {c : Candidate}
    (h : ¬ (c.accepts = true ∧ s.hasConnect = true)) : s.IteratesFrom c [] := by
  obtain ⟨heffects, hkeeps⟩ := trying_last h c.endpoint
  refine ⟨?_, hkeeps, ?_⟩
  · rw [List.map_nil, heffects]
    simp [untilAccepted, started]
  · rw [List.map_nil, heffects]
    simpa [and_comm] using h

theorem IteratesFrom.refused {s : TcpSocket} {c d : Candidate} {ds : List Candidate}
    (hrefuses : c.accepts = false) (h : s.IteratesFrom d ds) : s.IteratesFrom c (d :: ds) := by
  have hboth : ¬ (c.accepts = true ∧ s.hasConnect = true) := by simp [hrefuses]
  obtain ⟨heffects, halong⟩ :=
    trying_next hboth c.endpoint d.endpoint (ds.map (·.endpoint)) (d :: ds)
  refine ⟨?_, halong.mpr ⟨hrefuses, h.keeps⟩, ?_⟩
  · have hnext : untilAccepted (c :: d :: ds) = c :: untilAccepted (d :: ds) := by
      rw [untilAccepted, hrefuses]
      rfl
    rw [List.map_cons, heffects, hnext, List.map_cons, ← h.attempts]
    rfl
  · have hany : (c :: d :: ds).any (·.accepts) = (d :: ds).any (·.accepts) := by
      rw [List.any_cons, hrefuses, Bool.false_or]
    rw [List.map_cons, heffects, count_asyncConnect, h.callback, hany]

theorem OnlyLastAccepts.tail {hasConnect : Bool} {c d : Candidate} {ds : List Candidate}
    (h : OnlyLastAccepts hasConnect (c :: d :: ds)) : OnlyLastAccepts hasConnect (d :: ds) := by
  apply h.imp id
  intro hlast x hx
  exact hlast x (by
    rw [List.dropLast_cons_cons]
    exact List.mem_cons_of_mem c hx)

/-- From an outstanding connect on, by induction over the candidates that are left. -/
theorem iteratesFrom {s : TcpSocket} {c : Candidate} {cs : List Candidate}
    (h : OnlyLastAccepts s.hasConnect (c :: cs)) : s.IteratesFrom c cs := by
  induction cs generalizing c with
  | nil =>
    by_cases hboth : c.accepts = true ∧ s.hasConnect = true
    · exact .accepted hboth.2 hboth.1 []
    · exact .last hboth
  | cons d ds ih =>
    by_cases hboth : c.accepts = true ∧ s.hasConnect = true
    · exact .accepted hboth.2 hboth.1 (d :: ds)
    · have hrefuses : c.accepts = false := by
        rcases h with hcallback | hlast
        · simpa [hcallback] using hboth
        · exact hlast c (by simp)
      exact .refused hrefuses (ih h.tail)

/-- A run that closes no connection has a callback, or no candidate but the last that accepts. -/
theorem onlyLast_of_along (s : TcpSocket) (c : Candidate) (cs : List Candidate)
    (h : Run.Along step KeepsConnection (s.trying c.endpoint (cs.map (·.endpoint)))
      ((c :: cs).flatMap Candidate.events)) : OnlyLastAccepts s.hasConnect (c :: cs) := by
  induction cs generalizing c with
  | nil => exact .inr nofun
  | cons d ds ih =>
    cases hcallback : s.hasConnect with
    | true => exact .inl rfl
    | false =>
      have hboth : ¬ (c.accepts = true ∧ s.hasConnect = true) := by simp [hcallback]
      obtain ⟨-, halong⟩ :=
        trying_next hboth c.endpoint d.endpoint (ds.map (·.endpoint)) (d :: ds)
      obtain ⟨hrefuses, hrest⟩ := halong.mp h
      rcases ih d hrest with hnow | hlast
      · exact absurd hnow (by simp [hcallback])
      · refine .inr ?_
        rw [List.dropLast_cons_cons]
        exact List.forall_mem_cons.mpr ⟨hrefuses, hlast⟩

/-- The resolution completes, and its handler starts the first connect. -/
theorem Resolving.first {s : TcpSocket} (h : s.Resolving) (first : Candidate)
    (rest : List Candidate) :
    let t := TcpSocket.trying { s with resolving := 0 } first.endpoint (rest.map (·.endpoint))
    let events := (first :: rest).flatMap Candidate.events
    s.allEffects (iteration first rest) = .asyncConnect first.endpoint :: t.allEffects events ∧
      (Run.Along step KeepsConnection s (iteration first rest) ↔
        Run.Along step KeepsConnection t events) := by
  obtain ⟨descriptor, hasConnect, resolving, connecting, ready⟩ := s
  obtain ⟨hclosed, hresolving, hconnecting, hready⟩ := h
  cases hclosed
  cases hresolving
  cases hconnecting
  cases hready
  refine ⟨rfl, ?_⟩
  constructor
  · intro halong
    exact halong.2.2
  · intro halong
    exact ⟨nofun, nofun, halong⟩

/-- **The endpoints are tried as they should be exactly when a connect callback is registered or no
endpoint but the last accepts.** The list is any that a resolution gives and the outcomes are any;
the socket is one that `Open` has just left. Tried as they should be is in order and up to the first
that accepts, with no connection closed and the callback called once for it. Resets and a second
`Open` in between are not in the schedule. -/
theorem iterates_iff {s : TcpSocket} (h : s.Resolving) (first : Candidate)
    (rest : List Candidate) :
    s.Iterates first rest ↔
      s.hasConnect = true ∨ ∀ c ∈ (first :: rest).dropLast, c.accepts = false := by
  obtain ⟨heffects, halong⟩ := h.first first rest
  constructor
  · intro hiterates
    exact onlyLast_of_along { s with resolving := 0 } first rest (halong.mp hiterates.keeps)
  · intro honly
    have hfrom : IteratesFrom { s with resolving := 0 } first rest := iteratesFrom honly
    refine ⟨?_, halong.mpr hfrom.keeps, ?_⟩
    · rw [heffects, ← hfrom.attempts]
      rfl
    · rw [heffects, count_asyncConnect, hfrom.callback]

/-- The socket after `Open` on a fresh one. -/
theorem fresh_resolving (hasConnect : Bool) (destination : StdString) :
    ((fresh hasConnect).step (.openCall (some destination))).Resolving :=
  ⟨rfl, rfl, rfl, rfl⟩

/-- Without a callback, a connection to the first of two endpoints is closed for the second. -/
theorem not_iterates : ¬ ∀ (s : TcpSocket), s.Resolving → ∀ (first : Candidate)
    (rest : List Candidate), s.Iterates first rest := by
  intro h
  have hiterates := h _ (fresh_resolving false "meter".toList)
    { endpoint := ⟨"2001::2".toList, 4059⟩, accepts := true }
    [{ endpoint := ⟨"2001::3".toList, 4059⟩, accepts := true }]
  exact absurd hiterates.attempts (by decide)

theorem iterates_iff_fresh :
    ((fresh true).step (.openCall (some "meter".toList))).Resolving ∧
      (((fresh true).step (.openCall (some "meter".toList))).Iterates
          { endpoint := ⟨"2001::2".toList, 4059⟩, accepts := true } [] ↔
        ((fresh true).step (.openCall (some "meter".toList))).hasConnect = true ∨
          ∀ c ∈ [({ endpoint := ⟨"2001::2".toList, 4059⟩, accepts := true } : Candidate)].dropLast,
            c.accepts = false) :=
  ⟨fresh_resolving true "meter".toList, iterates_iff (fresh_resolving true "meter".toList) _ []⟩

end TcpSocket

end AccessPoint.Socket
