import AccessPoint.Request.MultiRead

/-!
# Delivery of a request over one connection

The access point's side of a registration connection, `tcp_connection` of `APsim.cpp`,
with the connection object taken to stay alive until its read completes (who owns it is
`AccessPoint.Server.Ownership`'s subject).

`start` issues one `async_read_some` into the 1024 octets of `data_`, and `handle_read`
gives what that one read returned to `Config::interpret` and issues no other. A stream
that reaches the connection in several reads is therefore read once, and the rest stays
in the kernel.

`Cut` is a way the stream can arrive: the results of successive reads, each nonempty and
no longer than the array. `delivered_iff` says exactly when the one read does what
`interpret` on the whole request would: the first read returns the whole request, or it
ends inside the payload word and the object already holds what the request asks for.
-/

namespace AccessPoint

open Delimited

/-- `tcp_connection::max_length`, the size of `data_`. -/
def maxLength : Nat := 1024

/-- What a read reports to its handler. -/
inductive ReadResult where
  | success (bytes : StdString)
  | error
  deriving DecidableEq, Repr

/-- A connection being served: the object it reports to, and whether a read is
outstanding. -/
structure TcpConnection where
  cfg : Config
  reading : Bool
  deriving DecidableEq, Repr

namespace TcpConnection

/-- `start`: one `async_read_some`. -/
def start (cfg : Config) : TcpConnection :=
  { cfg, reading := true }

/-- `handle_read`: interpret what was read, or print the error; no read is started. -/
def handleRead (cfg : Config) : ReadResult → Config
  | .success bytes => cfg.interpret bytes
  | .error => cfg

/-- One result of the stream reaches the connection. With no read outstanding it stays
where it is. -/
def receive (conn : TcpConnection) (result : ReadResult) : TcpConnection :=
  if conn.reading then { cfg := handleRead conn.cfg result, reading := false } else conn

/-- Without an outstanding read nothing changes any more. -/
theorem foldl_receive_idle (results : List ReadResult) (cfg : Config) :
    results.foldl receive { cfg, reading := false } = { cfg, reading := false } := by
  induction results with
  | nil => rfl
  | cons _ _ ih => exact ih

end TcpConnection

/-- A way a byte stream is cut into the results of successive reads. -/
structure Cut (stream : StdString) where
  parts : List StdString
  flatten_eq : parts.flatten = stream
  nonempty : ∀ part ∈ parts, part ≠ []
  fits : ∀ part ∈ parts, part.length ≤ maxLength

/-- The results of the reads: the parts, and the end of the stream. -/
def Cut.results {stream : StdString} (cut : Cut stream) : List ReadResult :=
  cut.parts.map .success ++ [.error]

/-- The access point's `Config` after the connection has been handled. -/
def handleConnection (cfg : Config) {stream : StdString} (cut : Cut stream) : Config :=
  (cut.results.foldl TcpConnection.receive (TcpConnection.start cfg)).cfg

/-- Only the first read counts. -/
theorem handleConnection_eq {stream : StdString} (cfg : Config) (cut : Cut stream)
    {first : StdString} {rest : List StdString} (h : cut.parts = first :: rest) :
    handleConnection cfg cut = cfg.interpret first := by
  unfold handleConnection Cut.results
  rw [h, List.map_cons, List.cons_append, List.foldl_cons]
  show (List.foldl TcpConnection.receive
    { cfg := cfg.interpret first, reading := false } _).cfg = _
  rw [TcpConnection.foldl_receive_idle]

theorem Cut.parts_ne_nil {stream : StdString} (cut : Cut stream) (h : stream ≠ []) :
    cut.parts ≠ [] := by
  intro hnil
  rw [← cut.flatten_eq, hnil] at h
  exact h rfl

/-- A cut whose first part is the whole stream has no other part. -/
theorem Cut.rest_nil {stream : StdString} (cut : Cut stream) {rest : List StdString}
    (h : cut.parts = stream :: rest) : rest = [] := by
  have hflat := cut.flatten_eq
  rw [h, List.flatten_cons, List.append_right_eq_self] at hflat
  cases rest with
  | nil => rfl
  | cons p ps =>
    have hp := cut.nonempty p (by rw [h]; simp)
    simp only [List.flatten_cons, List.append_eq_nil_iff] at hflat
    exact absurd hflat.1 hp

/-- A beginning of a request that holds its payload word is accepted. -/
theorem construct_prefix_ok {size : Config.Payload} {meters : List StdString}
    {first : StdString} (hprint : (Config.text size meters).all isprint = true)
    (hfirst : first <+: Config.text size meters) (hword : size.word <+: first) :
    ∃ other, Config.construct first = .ok other := by
  obtain ⟨t, rfl⟩ := hword
  have hall : (size.word ++ t).all isprint = true :=
    List.all_eq_true.mpr fun c hc => List.all_eq_true.mp hprint c (hfirst.subset hc)
  have ht : t <+: delimited ',' meters := (List.prefix_append_right_inj _).mp hfirst
  cases t with
  | nil =>
    have hg : getline ',' (size.word ++ []) = some (size.word, []) := by
      rw [List.append_nil]
      exact getline_last (Config.comma_not_mem_word size) (Config.word_ne_nil size)
    exact ⟨_, Config.construct_of_getline hall hg⟩
  | cons c cs =>
    have hc : c = ',' := by
      cases meters with
      | nil => simp at ht
      | cons n ns =>
        rw [delimited_cons, List.cons_prefix_cons] at ht
        exact ht.1
    subst hc
    have hg := getline_field (Config.comma_not_mem_word size) cs
    exact ⟨_, Config.construct_of_getline hall hg⟩

/-- The text `multiRead` writes is printable throughout. -/
theorem multiReadRequest_printable (payloadSize : HESConfig.Payload) (meters : MeterSet) :
    (multiReadRequest payloadSize meters).all isprint = true := by
  cases hall : (multiReadRequest payloadSize meters).all isprint with
  | true => rfl
  | false =>
    have h := construct_request payloadSize meters
    simp [Config.construct, hall] at h

theorem multiReadRequest_ne_nil (payloadSize : HESConfig.Payload) (meters : MeterSet) :
    multiReadRequest payloadSize meters ≠ [] := by
  rw [multiReadRequest_eq_text, Config.text]
  intro h
  exact Config.word_ne_nil _ (List.append_eq_nil_iff.mp h).1

/-- An accepted beginning of a request that asks for the same meters is the request. A
shorter beginning loses a name or the end of one. -/
theorem eq_request_of_construct {payloadSize : HESConfig.Payload} {meters : MeterSet}
    {first : StdString} (hfirst : first <+: multiReadRequest payloadSize meters)
    (hne : first ≠ [])
    (h : Config.construct first = .ok ⟨meters.inOrder, some payloadSize.toConfig⟩) :
    first = multiReadRequest payloadSize meters := by
  have hle := hfirst.length_le
  rcases Config.construct_ok_cases h with ⟨hnil, -⟩ | ⟨size, hsize, htext⟩
  · exact absurd hnil hne
  · cases hsize
    rw [← multiReadRequest_eq_text] at htext
    rcases htext with htext | htext
    · exact htext
    · rw [htext, List.length_append, List.length_singleton] at hle
      omega

/-- **When a request is delivered**: the object after the connection is the one `interpret` makes of
the whole request exactly when the first read returned the whole request, or when it ended inside
the payload word and the object already held what the request asks for. The request is that of any
set of meters, and the cut any that the reads of its stream can make. The connection object is taken
to stay alive until its read completes. -/
theorem delivered_iff (cfg : Config) (payloadSize : HESConfig.Payload) (meters : MeterSet)
    (cut : Cut (multiReadRequest payloadSize meters)) :
    handleConnection cfg cut = cfg.interpret (multiReadRequest payloadSize meters) ↔
      cut.parts = [multiReadRequest payloadSize meters] ∨
        (∃ first ∈ cut.parts.head?, first <+: payloadSize.toConfig.word ∧
          first ≠ payloadSize.toConfig.word) ∧
          cfg = ⟨meters.inOrder, some payloadSize.toConfig⟩ := by
  have hconstruct := construct_request payloadSize meters
  have hwhole : cfg.interpret (multiReadRequest payloadSize meters) =
      ⟨meters.inOrder, some payloadSize.toConfig⟩ := by
    simp only [Config.interpret, hconstruct]
  cases hparts : cut.parts with
  | nil => exact absurd hparts (cut.parts_ne_nil (multiReadRequest_ne_nil payloadSize meters))
  | cons first rest =>
    have hne : first ≠ [] := cut.nonempty first (by rw [hparts]; simp)
    have hfirst : first <+: multiReadRequest payloadSize meters :=
      ⟨rest.flatten, by rw [← cut.flatten_eq, hparts]; rfl⟩
    rw [handleConnection_eq cfg cut hparts, hwhole]
    constructor
    · intro h
      cases hc : Config.construct first with
      | ok other =>
        simp only [Config.interpret, hc] at h
        have heq := eq_request_of_construct hfirst hne (h ▸ hc)
        have hrest := cut.rest_nil (heq ▸ hparts)
        exact .inl (by rw [heq, hrest])
      | error e =>
        simp only [Config.interpret, hc] at h
        rw [multiReadRequest_eq_text] at hfirst
        -- the word itself would have been accepted, so the read ended inside it
        have hnot : ¬ payloadSize.toConfig.word <+: first := by
          intro hword
          have hprint := multiReadRequest_printable payloadSize meters
          rw [multiReadRequest_eq_text] at hprint
          obtain ⟨other, hok⟩ := construct_prefix_ok hprint hfirst hword
          rw [hc] at hok
          cases hok
        have hinside : first <+: payloadSize.toConfig.word :=
          (List.prefix_or_prefix_of_prefix hfirst (List.prefix_append _ _)).resolve_right hnot
        refine .inr ⟨⟨first, rfl, hinside, ?_⟩, h⟩
        rintro rfl
        exact hnot (List.prefix_refl _)
    · rintro (h | ⟨⟨first', hf, hinside, hword⟩, rfl⟩)
      · cases h
        exact hwhole
      · cases hf
        exact Config.interpret_of_word_prefix hinside hword hne _

/-- The request for the single meter `a` that arrives in two segments, `small` and `,a`,
leaves the list empty. -/
theorem not_always_delivered :
    ¬ ∀ (cfg : Config) (payloadSize : HESConfig.Payload) (meters : MeterSet)
      (cut : Cut (multiReadRequest payloadSize meters)),
      handleConnection cfg cut = cfg.interpret (multiReadRequest payloadSize meters) := by
  intro h
  let meters : MeterSet :=
    { names := {"a".toList}
      valid := fun name hname => by
        rw [Finset.mem_singleton.mp hname]
        exact ⟨by decide, by decide, by decide⟩ }
  have hrequest : multiReadRequest .small meters = "small,a".toList := by
    simp only [multiReadRequest, MeterSet.inOrder, meters, Finset.sort_singleton]
    rfl
  let cut : Cut (multiReadRequest .small meters) :=
    { parts := ["small".toList, ",a".toList]
      flatten_eq := by rw [hrequest]; rfl
      nonempty := by decide
      fits := by decide }
  have hcut := h Config.atStart .small meters cut
  rw [handleConnection_eq Config.atStart cut rfl, hrequest] at hcut
  revert hcut
  decide

end AccessPoint
