import ServiceDiscovery.Proofs.Discovery.Operation
import ServiceDiscovery.Proofs.Message.Received
import Mathlib.Data.List.DropRight

/-!
# Datagrams that leave a discovery

A message that is accepted for sending becomes one datagram, which waits behind the earlier ones
until it is handed out. Its bytes are remembered with those of the fifteen before it, so that a
discovery takes no notice when one of them comes back.

* `accepts`, `accepted`, `dispatches`, `dispatched`: messages that come in, datagrams that go out;
* `Datagram.Carries`: the datagram of a message;
* `Posts`, `exists_posts_single`, `exists_posts`: what operations do to the datagrams, one step and
  a run;
* `remember_rtake`: the last datagrams after one more;
* `receive_eq_of_mem_recent`: a datagram that comes back;
* `isDispatched_run`: all of this for every run until the discovery is closed.
-/

namespace ServiceDiscovery

/-- The message that an operation wants to be sent. -/
def Operation.message? : Operation → Option Message
  | .start request _ _ => some request
  | .send m => some m
  | _ => none

/-- The datagram of a message: its bytes, from an unspecified address to the destination. -/
structure Datagram.Carries (destination : SocketAddress) (m : Message) (x : Datagram) : Prop where
  bytes : m.encode = .ok x.bytes
  addressed : x.destination = destination
  source : x.source.address.isUnspecified
  family : x.source.address.isV4 = destination.address.isV4

namespace Discovery

variable {d : Discovery} {op : Operation}

/-! ### Messages and datagrams -/

/-- The message that an operation accepts for sending, if there is one. -/
def accepts (d : Discovery) (op : Operation) : List Message :=
  match (d.perform op).1 with
  | .ok () => op.message?.toList
  | .error _ => []

/-- The messages that operations accept one after another. -/
def accepted (d : Discovery) : List Operation → List Message
  | [] => []
  | op :: ops => d.accepts op ++ (d.after op).accepted ops

/-- The datagram that an operation hands out, if there is one. -/
def dispatches (d : Discovery) : Operation → List Datagram
  | .nextDatagram => d.nextDatagram.1.toList
  | _ => []

/-- The datagrams that operations hand out one after another. -/
def dispatched (d : Discovery) : List Operation → List Datagram
  | [] => []
  | op :: ops => d.dispatches op ++ (d.after op).dispatched ops

theorem toList_nextDatagram (d : Discovery) :
    d.nextDatagram.1.toList ++ d.outgoing.tail = d.outgoing := by
  unfold nextDatagram
  cases d.outgoing <;> rfl

theorem accepts_of_message?_eq_none (h : op.message? = none) : d.accepts op = [] := by
  unfold accepts
  rw [h]
  cases (d.perform op).1 <;> rfl

theorem dispatches_of_message?_eq_some {m : Message} (h : op.message? = some m) :
    d.dispatches op = [] := by
  cases op <;> first | rfl | cases h

/-! ### What operations do to the datagrams -/

/-- The last datagrams after several more. -/
def rememberAll (recent : List Bytes) (xs : List Datagram) : List Bytes :=
  xs.foldl (fun recent x => remember x.bytes recent) recent

/-- What operations do to the datagrams: those that are handed out are the oldest, and new ones for
the messages that are accepted come last and are remembered. -/
structure Posts (d : Discovery) (ops : List Operation) (new : List Datagram) : Prop where
  carries : List.Forall₂ (Datagram.Carries d.destination) (d.accepted ops) new
  outgoing : d.dispatched ops ++ (d.run ops).outgoing = d.outgoing ++ new
  recent : (d.run ops).recent = rememberAll d.recent new
  destination : (d.run ops).destination = d.destination

theorem posts_nil (d : Discovery) : d.Posts [] [] :=
  ⟨.nil, (List.append_nil _).symm, rfl, rfl⟩

theorem isUnspecified_unspecified (x : SocketAddress) : x.unspecified.address.isUnspecified := by
  cases x <;> rfl

theorem isV4_unspecified (x : SocketAddress) :
    x.unspecified.address.isV4 = x.address.isV4 := by
  cases x <;> rfl

/-- The datagram that is queued for the bytes of a message. -/
def datagram (d : Discovery) (bytes : Bytes) (time? : Option Nat) : Datagram :=
  { bytes, source := d.destination.unspecified, destination := d.destination, time? }

theorem carries_datagram {m : Message} {bytes : Bytes} (h : m.encode = .ok bytes)
    (time? : Option Nat) : (d.datagram bytes time?).Carries d.destination m :=
  ⟨h, rfl, isUnspecified_unspecified _, isV4_unspecified _⟩

/-- A single operation, from the lists of its message and its datagram. -/
theorem posts_single {new : List Datagram}
    (hcarries : List.Forall₂ (Datagram.Carries d.destination) (d.accepts op) new)
    (houtgoing : d.dispatches op ++ (d.after op).outgoing = d.outgoing ++ new)
    (hrecent : (d.after op).recent = rememberAll d.recent new)
    (hdestination : (d.after op).destination = d.destination) : d.Posts [op] new := by
  refine ⟨?_, ?_, hrecent, hdestination⟩
  · rw [accepted, accepted, List.append_nil]
    exact hcarries
  · rw [dispatched, dispatched, List.append_nil]
    exact houtgoing

/-- An operation that queues its message posts one datagram if the message can be written, and none
otherwise. -/
theorem exists_posts_enqueue {d₀ : Discovery} {m : Message} {time? : Option Nat}
    (hm : op.message? = some m) (h : d.perform op = d₀.enqueue m time?)
    (hdestination : d₀.destination = d.destination) (hrecent : d₀.recent = d.recent)
    (houtgoing : d₀.outgoing = d.outgoing) : ∃ new, d.Posts [op] new := by
  have hafter : d.after op = (d₀.enqueue m time?).2 := by rw [after, h]
  have haccepts : d.accepts op = match (d₀.enqueue m time?).1 with
      | .ok () => [m]
      | .error _ => [] := by
    rw [accepts, h, hm]
    rfl
  have hdispatches := dispatches_of_message?_eq_some (d := d) hm
  cases hb : m.encode with
  | error e =>
    have henqueue : d₀.enqueue m time? = (.error e, d₀) := by rw [enqueue, hb]
    rw [henqueue] at hafter haccepts
    refine ⟨[], posts_single ?_ ?_ ?_ ?_⟩
    · rw [haccepts]
      exact .nil
    · rw [hdispatches, hafter, List.append_nil]
      exact houtgoing
    · rw [hafter]
      exact hrecent
    · rw [hafter]
      exact hdestination
  | ok bytes =>
    have henqueue : d₀.enqueue m time? = (.ok (), { d₀ with
        recent := remember bytes d₀.recent
        outgoing := d₀.outgoing ++ [d₀.datagram bytes time?] }) := by
      rw [enqueue, hb]
      rfl
    rw [henqueue] at hafter haccepts
    have hx : (d₀.datagram bytes time?).Carries d.destination m :=
      hdestination ▸ carries_datagram hb time?
    refine ⟨[d₀.datagram bytes time?], posts_single ?_ ?_ ?_ ?_⟩
    · rw [haccepts]
      exact .cons hx .nil
    · rw [hdispatches, hafter, List.nil_append, ← houtgoing]
    · rw [hafter, ← hrecent]
      rfl
    · rw [hafter]
      exact hdestination

/-- An operation without a message posts nothing. -/
theorem posts_of_message?_eq_none (hd : ¬d.closed) (hop : op ≠ .close) (h : op.message? = none) :
    d.Posts [op] [] := by
  have haccepts := accepts_of_message?_eq_none (d := d) h
  have heffect := effect hd hop
  refine posts_single (haccepts ▸ .nil) ?_ ?_ ?_
  all_goals generalize d.emits op = es, d.after op = d' at heffect
  · rw [List.append_nil]
    cases heffect with
    | asks => cases h
    | sends => cases h
    | handsDatagram => exact toList_nextDatagram d
    | _ => rfl
  · cases heffect <;> first | rfl | cases h
  · cases heffect <;> rfl

/-- **What one operation does to the datagrams of an open discovery.** -/
theorem exists_posts_single (hd : ¬d.closed) (hop : op ≠ .close) : ∃ new, d.Posts [op] new := by
  cases op with
  | start request now timeout =>
    have hperform : d.perform (.start request now timeout) =
        { d with catalog := {}, pending := some ⟨request, now + timeout⟩ }.enqueue request
          (some now) := by rw [perform, start, if_neg hd]
    exact exists_posts_enqueue rfl hperform rfl rfl rfl
  | send m =>
    have hperform : d.perform (.send m) = d.enqueue m none := by rw [perform, send, if_neg hd]
    exact exists_posts_enqueue rfl hperform rfl rfl rfl
  | _ => exact ⟨[], posts_of_message?_eq_none hd hop rfl⟩

theorem Posts.cons {ops : List Operation} {new new' : List Datagram} (h : d.Posts [op] new)
    (h' : (d.after op).Posts ops new') : d.Posts (op :: ops) (new ++ new') := by
  obtain ⟨hcarries, houtgoing, hrecent, hdestination⟩ := h
  rw [accepted, accepted, List.append_nil] at hcarries
  rw [dispatched, dispatched, List.append_nil] at houtgoing
  have hdestination : (d.after op).destination = d.destination := hdestination
  refine ⟨?_, ?_, ?_, h'.destination.trans hdestination⟩
  · exact List.rel_append hcarries (hdestination ▸ h'.carries)
  · rw [dispatched, run_cons, List.append_assoc, h'.outgoing, ← List.append_assoc,
      ← List.append_assoc]
    exact congrArg (· ++ new') houtgoing
  · rw [run_cons, h'.recent, rememberAll, rememberAll, List.foldl_append]
    exact congrArg (rememberAll · new') hrecent

/-- **What a run does to the datagrams of an open discovery.** -/
theorem exists_posts (hd : ¬d.closed) {ops : List Operation} (hops : .close ∉ ops) :
    ∃ new, d.Posts ops new := by
  induction ops generalizing d with
  | nil => exact ⟨[], posts_nil d⟩
  | cons op ops ih =>
    obtain ⟨hop, hops⟩ := List.ne_and_not_mem_of_not_mem_cons hops
    obtain ⟨new, hnew⟩ := exists_posts_single hd hop.symm
    obtain ⟨new', hnew'⟩ := ih (after_open hd hop.symm) hops
    exact ⟨new ++ new', hnew.cons hnew'⟩

/-! ### The last datagrams -/

/-- **The last sixteen of several, after one more.** -/
theorem remember_rtake (bytes : Bytes) (sent : List Bytes) :
    remember bytes (sent.rtake maxRecent) = (sent ++ [bytes]).rtake maxRecent := by
  have hlen : (sent.rtake maxRecent).length = min maxRecent sent.length := by
    rw [List.rtake, List.length_drop]
    omega
  have hconcat : (sent ++ [bytes]).rtake maxRecent = sent.rtake 15 ++ [bytes] :=
    List.rtake_concat_succ sent 15 bytes
  rw [remember, hlen, hconcat]
  have hmax : maxRecent = 16 := rfl
  by_cases hfull : 16 ≤ sent.length
  · rw [if_pos (by omega), List.rtake, List.drop_drop, List.rtake]
    congr 2
    omega
  · -- There is room for another one, so none has been forgotten so far.
    rw [if_neg (by omega), List.rtake, List.rtake, hmax, Nat.sub_eq_zero_of_le (by omega),
      Nat.sub_eq_zero_of_le (by omega)]

/-- The last datagrams after those with the given bytes. -/
def rememberBytes (recent packets : List Bytes) : List Bytes :=
  packets.foldl (fun recent packet => remember packet recent) recent

/-- **The last sixteen of several, after many more.** -/
theorem rememberBytes_rtake (sent packets : List Bytes) :
    rememberBytes (sent.rtake maxRecent) packets = (sent ++ packets).rtake maxRecent := by
  induction packets generalizing sent with
  | nil => rw [List.append_nil, rememberBytes, List.foldl_nil]
  | cons packet packets ih =>
    rw [List.append_cons, ← ih, ← remember_rtake]
    rfl

theorem rememberAll_rtake (sent : List Bytes) (xs : List Datagram) :
    rememberAll (sent.rtake maxRecent) xs = (sent ++ xs.map (·.bytes)).rtake maxRecent := by
  rw [← rememberBytes_rtake, rememberBytes, List.foldl_map]
  rfl

theorem length_rtake_le (sent : List Bytes) (n : Nat) : (sent.rtake n).length ≤ n := by
  rw [List.rtake, List.length_drop]
  omega

/-! ### Datagrams that come back -/

/-- A message that was read is sent as the packet that it was read from. -/
theorem encode_of_decodeFrom {packet : Bytes} {sender : SocketAddress} {m : Message}
    (h : Message.decodeFrom packet sender = .ok m) : m.encode = .ok packet := by
  obtain ⟨m', hm', h⟩ := bind_eq_ok.1 h
  cases pure_eq_ok.1 h
  have hreceived : (m'.tagged sender).received = some packet :=
    (Message.isFrom_of_decode hm').received
  exact Message.encode_of_received hreceived

/-- **A datagram that was sent lately changes nothing when it comes back**, whoever seems to have
sent it. -/
theorem receive_eq_of_mem_recent (hd : ¬d.closed) {packet : Bytes} (hp : packet ∈ d.recent)
    {sender : SocketAddress} {m : Message} (h : Message.decodeFrom packet sender = .ok m) :
    d.perform (.receive m) = (.ok (), d) := by
  have hown : d.isOwn m := by
    rw [isOwn, encode_of_decodeFrom h]
    exact List.contains_iff_mem.2 hp
  have hcollect : d.collect m = d := by
    rw [collect, if_pos (by rw [hown, Bool.true_or])]
  rw [perform, receive, if_neg hd, hcollect]

/-! ### Whole runs -/

/-- No datagram of a run is lost, sent twice, or taken for one of another host. -/
structure IsDispatched (destination : SocketAddress) (ops : List Operation) : Prop where
  /-- The datagrams that were handed out and those that wait carry the messages that were accepted,
  in their order. -/
  carries : List.Forall₂ (Datagram.Carries destination) (accepted { destination } ops)
    (dispatched { destination } ops ++ (run { destination } ops).outgoing)
  /-- The last sixteen of them are remembered. -/
  recent : (run { destination } ops).recent =
    ((dispatched { destination } ops ++ (run { destination } ops).outgoing).map
      (·.bytes)).rtake 16
  length_recent : (run { destination } ops).recent.length ≤ 16
  /-- Whatever is asked, each of these changes nothing when it comes back. -/
  echo : ∀ packet ∈ (run { destination } ops).recent, ∀ sender m pending,
    Message.decodeFrom packet sender = .ok m →
      { run { destination } ops with pending }.perform (.receive m) =
        (.ok (), { run { destination } ops with pending })

/-- **The datagrams of a discovery are those of the messages that it accepts, and it knows the last
of them when they come back, as long as it is not closed.** -/
theorem isDispatched_run (destination : SocketAddress) {ops : List Operation}
    (hops : .close ∉ ops) : IsDispatched destination ops := by
  have hd : ¬({ destination } : Discovery).closed := Bool.false_ne_true
  obtain ⟨new, hcarries, houtgoing, hrecent, -⟩ := exists_posts hd hops
  have hnew : dispatched { destination } ops ++ (run { destination } ops).outgoing = new :=
    houtgoing.trans (List.nil_append new)
  have hlast : (run { destination } ops).recent = (new.map (·.bytes)).rtake 16 :=
    hrecent.trans (rememberAll_rtake [] new)
  refine ⟨hnew ▸ hcarries, hnew ▸ hlast, hlast ▸ length_rtake_le _ 16, ?_⟩
  intro packet hp sender m pending h
  have hopen : ¬({ run { destination } ops with pending } : Discovery).closed := run_open hd hops
  exact receive_eq_of_mem_recent hopen hp h

/-- A request with an identifier. -/
def numberedRequest (id : UInt16) : Message := { webRequest with
  header := { webRequest.header with id } }

/-- A query and sixteen more messages, where one that cannot be written comes in between and a
datagram is handed out. -/
def numberedRun : List Operation :=
  [.start webRequest 0 1000, .nextDatagram, .send longRequest]
    ++ (List.range 16).map fun n => .send (numberedRequest (UInt16.ofNat (n + 1)))

/-- The first datagram of the run is forgotten, and the sixteen after it are remembered. -/
theorem isDispatched_run_numberedRun : .close ∉ numberedRun ∧
    IsDispatched (groupAddress none groupPort) numberedRun ∧
    (accepted {} numberedRun).length = 17 ∧ (run {} numberedRun).recent.length = 16 ∧
      webRequest.wire ∉ (run {} numberedRun).recent := by
  have hopen : .close ∉ numberedRun := by simp [numberedRun]
  exact ⟨hopen, isDispatched_run (groupAddress none groupPort) hopen, by decide +kernel⟩

end Discovery

end ServiceDiscovery
