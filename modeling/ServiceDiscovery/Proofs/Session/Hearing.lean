import ServiceDiscovery.Proofs.Session.Lifecycle
import ServiceDiscovery.Proofs.Discovery.Arrival
import ServiceDiscovery.Proofs.Message.Truncation

/-!
# What a session hears

Of what arrives at an interface on which a session listens, as much is read as its buffers hold, and
what can be parsed of that is a message that the session hears. Each message is shown to the
handlers that are registered by then, and after that it goes to the discovery.

* `Delivery`, `Session.packets`, `heard`: what arrives, what is read of it, and the messages;
* `Roster.showEach`, `calls`, `filter_isSeen_showEach`: messages shown one after another, and which
  handlers are called with them;
* `Hears`: what messages do to a session; `hears_receive`, `hears_foldl`: one arrival, and many.
-/

namespace ServiceDiscovery

/-! ### What arrives -/

/-- Something that arrives at the interface with a given position. -/
structure Delivery where
  position : Nat
  arrival : Arrival

def Delivery.incident (x : Delivery) : Incident := .receive x.position x.arrival

/-- The bytes that were read of a datagram, and who has sent it. -/
structure Packet where
  bytes : Bytes
  sender : SocketAddress

def Packet.message? (p : Packet) : Option Message :=
  (Message.decodeFrom p.bytes p.sender).toOption

namespace Session

def listensOn (s : Session) (position : Nat) : Bool :=
  s.endpoints.any fun l => l.position = position

/-- What is read of an arrival: of a datagram as much as the buffers hold, where the session listens
at all. -/
def packet? (s : Session) (x : Delivery) : Option Packet :=
  match x.arrival with
  | .datagram bytes sender =>
    if s.listensOn x.position then some ⟨bytes.take s.settings.bufferSize, sender⟩ else none
  | .failure => none

def packets (s : Session) (xs : List Delivery) : List Packet := xs.filterMap s.packet?

/-- The messages of all that arrives, in order. -/
def heard (s : Session) (xs : List Delivery) : List Message :=
  (s.packets xs).filterMap Packet.message?

end Session

/-! ### Messages before the handlers -/

def Handler.label : Handler → String
  | .mk label _ _ => label

/-- Whether a handler leaves the registrations as they are. -/
def Handler.isPlain : Handler → Bool
  | .mk _ removes? adds? => removes?.isNone && adds?.isNone

/-- What a handler notes of a message when it is called. -/
def Handler.sees (h : Handler) (m : Message) : Note :=
  .seen h.label m.header.id m.isResponse m.sender

/-- Whether a note is of the call of a handler. -/
def Note.isSeen : Note → Bool
  | .seen .. => true
  | .removed .. | .added .. => false

namespace Roster

/-- Shows messages, one after another, each to the handlers that are registered by then. -/
def showEach (r : Roster) : List Message → List Note × Roster
  | [] => ([], r)
  | m :: ms =>
    let (notes, r) := r.showAll m
    let (more, r) := r.showEach ms
    (notes ++ more, r)

/-- The calls that messages lead to: each message one of every handler that is registered by then,
in the order of the registrations. -/
def calls (r : Roster) : List Message → List Note
  | [] => []
  | m :: ms => r.entries.map (fun e => e.2.sees m) ++ (r.showAll m).2.calls ms

variable (r : Roster)

theorem showEach_cons (m : Message) (ms : List Message) : r.showEach (m :: ms) =
    ((r.showAll m).1 ++ ((r.showAll m).2.showEach ms).1, ((r.showAll m).2.showEach ms).2) := rfl

theorem showEach_append (ms ms' : List Message) : r.showEach (ms ++ ms') =
    ((r.showEach ms).1 ++ ((r.showEach ms).2.showEach ms').1,
      ((r.showEach ms).2.showEach ms').2) := by
  induction ms generalizing r with
  | nil => rfl
  | cons m ms ih => rw [List.cons_append, showEach_cons, showEach_cons, ih, List.append_assoc]

theorem filter_isSeen_apply (m : Message) (h : Handler) :
    (r.apply m h).1.filter Note.isSeen = [h.sees m] := by
  obtain ⟨label, removes?, adds?⟩ := h
  rcases removes? with _ | id <;> rcases adds? with _ | h <;> rfl

theorem applyAll_cons (m : Message) (h : Handler) (hs : List Handler) : applyAll m (h :: hs) r =
    ((r.apply m h).1 ++ (applyAll m hs (r.apply m h).2).1, (applyAll m hs (r.apply m h).2).2) := rfl

theorem filter_isSeen_applyAll (m : Message) (hs : List Handler) :
    (applyAll m hs r).1.filter Note.isSeen = hs.map fun h => h.sees m := by
  induction hs generalizing r with
  | nil => rfl
  | cons h hs ih =>
    rw [applyAll_cons, List.filter_append, filter_isSeen_apply, ih]
    rfl

/-- A message leads to one call of every handler that is registered. -/
theorem filter_isSeen_showAll (m : Message) :
    (r.showAll m).1.filter Note.isSeen = r.entries.map fun e => e.2.sees m := by
  rw [showAll, filter_isSeen_applyAll, List.map_map]
  rfl

/-- **Every handler is called once with each message, in order, and with nothing else.** -/
theorem filter_isSeen_showEach (ms : List Message) :
    (r.showEach ms).1.filter Note.isSeen = r.calls ms := by
  induction ms generalizing r with
  | nil => rfl
  | cons m ms ih =>
    rw [showEach_cons, List.filter_append, filter_isSeen_showAll, ih, calls]

variable {r}

theorem apply_of_isPlain {h : Handler} (hplain : h.isPlain) (m : Message) :
    r.apply m h = ([h.sees m], r) := by
  obtain ⟨label, removes?, adds?⟩ := h
  rw [Handler.isPlain, Bool.and_eq_true, Option.isNone_iff_eq_none,
    Option.isNone_iff_eq_none] at hplain
  obtain ⟨rfl, rfl⟩ := hplain
  rfl

theorem applyAll_of_isPlain (m : Message) {hs : List Handler} (hplain : ∀ h ∈ hs, h.isPlain) :
    applyAll m hs r = (hs.map fun h => h.sees m, r) := by
  induction hs with
  | nil => rfl
  | cons h hs ih =>
    obtain ⟨hh, hhs⟩ := List.forall_mem_cons.1 hplain
    rw [applyAll_cons, apply_of_isPlain hh, ih hhs]
    rfl

/-- Handlers that leave the registrations as they are see every message. -/
theorem showEach_of_isPlain (hplain : ∀ e ∈ r.entries, e.2.isPlain) (ms : List Message) :
    r.showEach ms = (ms.flatMap fun m => r.entries.map fun e => e.2.sees m, r) := by
  have hshow : ∀ m, r.showAll m = (r.entries.map fun e => e.2.sees m, r) := by
    intro m
    rw [showAll, applyAll_of_isPlain, List.map_map]
    · rfl
    · intro h hmem
      obtain ⟨e, he, rfl⟩ := List.mem_map.1 hmem
      exact hplain e he
  induction ms with
  | nil => rfl
  | cons m ms ih => rw [showEach_cons, hshow, ih, List.flatMap_cons]

end Roster

/-! ### Endpoints -/

namespace Endpoint

/-- An endpoint apart from what datagrams have left in its buffer. -/
def bare (l : Endpoint) : Endpoint := { l with buffer := [] }

theorem bare_receive (l : Endpoint) (arrival : Arrival) : (l.receive arrival).2.bare = l.bare := by
  cases arrival <;> rfl

theorem any_position_eq {endpoints endpoints' : List Endpoint}
    (h : endpoints'.map bare = endpoints.map bare) (position : Nat) :
    (endpoints'.any fun l => l.position = position) =
      endpoints.any fun l => l.position = position := by
  have hbare : ∀ ls : List Endpoint, (ls.any fun l => l.position = position) =
      (ls.map bare).any fun l => l.position = position := by
    intro ls
    rw [List.any_map]
    rfl
  rw [hbare endpoints', h, ← hbare endpoints]

end Endpoint

namespace Session

variable {position : Nat} {arrival : Arrival} {endpoints endpoints' : List Endpoint}
  {message? : Option Message}

theorem hear_eq_none_iff : hear position arrival endpoints = none ↔
    (endpoints.any fun l => l.position = position) = false := by
  induction endpoints with
  | nil => simp [hear]
  | cons l ls ih =>
    unfold hear
    by_cases h : l.position = position
    · simp [h]
    · simp [h, ih]

/-- What is heard is what an endpoint with the position receives, and of the endpoints nothing else
changes than a buffer. -/
theorem hear_eq_some (h : hear position arrival endpoints = some (message?, endpoints')) :
    endpoints'.map Endpoint.bare = endpoints.map Endpoint.bare ∧
      ∃ l ∈ endpoints, message? = (l.receive arrival).1 := by
  induction endpoints generalizing endpoints' with
  | nil => cases h
  | cons l ls ih =>
    unfold hear at h
    by_cases hp : l.position = position
    · rw [if_pos hp, Option.some.injEq, Prod.mk.injEq] at h
      obtain ⟨rfl, rfl⟩ := h
      refine ⟨?_, l, List.mem_cons_self, rfl⟩
      rw [List.map_cons, List.map_cons, Endpoint.bare_receive]
    · rw [if_neg hp, Option.map_eq_some_iff] at h
      obtain ⟨⟨found, rest⟩, hrest, h⟩ := h
      rw [Prod.mk.injEq] at h
      obtain ⟨rfl, rfl⟩ := h
      obtain ⟨hbare, l', hl', hfound⟩ := ih hrest
      refine ⟨?_, l', List.mem_cons_of_mem l hl', hfound⟩
      rw [List.map_cons, List.map_cons, hbare]

end Session

/-! ### What messages do to a session -/

theorem Discovery.Untouched.trans {d d' d'' : Discovery} (h : d.Untouched d')
    (h' : d'.Untouched d'') : d.Untouched d'' :=
  ⟨h'.closed.trans h.closed, h'.pending.trans h.pending, h'.recent.trans h.recent,
    h'.outgoing.trans h.outgoing⟩

/-- What is taken from a message depends only on what is asked and what was sent. -/
theorem Discovery.Untouched.servicesOf {d d' : Discovery} (h : d.Untouched d') :
    d'.servicesOf = d.servicesOf := by
  funext m
  unfold Discovery.servicesOf Discovery.isOwn
  rw [h.pending, h.recent]

namespace Session

/-- What a session becomes that hears messages one after another. -/
structure Hears (s : Session) (ms : List Message) (s' : Session) : Prop where
  settings : s'.settings = s.settings
  phase : s'.phase = s.phase
  endpoints : s'.endpoints.map Endpoint.bare = s.endpoints.map Endpoint.bare
  sent : s'.activity.sent = s.activity.sent
  notes : s'.activity.notes = s.activity.notes ++ (s.roster.showEach ms).1
  roster : s'.roster = (s.roster.showEach ms).2
  discovery : s.discovery.Untouched s'.discovery
  catalog : s'.discovery.catalog =
    s.discovery.catalog.insertAll (ms.flatMap s.discovery.servicesOf)

variable {s s' s'' : Session} {ms ms' : List Message}

/-- Nothing is heard of what only fills a buffer. -/
theorem hears_nil {endpoints : List Endpoint}
    (h : endpoints.map Endpoint.bare = s.endpoints.map Endpoint.bare) :
    s.Hears [] { s with endpoints } :=
  ⟨rfl, rfl, h, rfl, (List.append_nil _).symm, rfl, ⟨rfl, rfl, rfl, rfl⟩, rfl⟩

theorem Hears.trans (h : s.Hears ms s') (h' : s'.Hears ms' s'') : s.Hears (ms ++ ms') s'' where
  settings := h'.settings.trans h.settings
  phase := h'.phase.trans h.phase
  endpoints := h'.endpoints.trans h.endpoints
  sent := h'.sent.trans h.sent
  notes := by rw [h'.notes, h.notes, h.roster, Roster.showEach_append, List.append_assoc]
  roster := by rw [h'.roster, h.roster, Roster.showEach_append]
  discovery := h.discovery.trans h'.discovery
  catalog := by
    rw [h'.catalog, h.catalog, h.discovery.servicesOf, List.flatMap_append,
      Catalog.insertAll_append]

/-- A message is shown to the handlers and adds its services. -/
theorem hears_process (hd : ¬s.discovery.closed) (m : Message) {endpoints : List Endpoint}
    (h : endpoints.map Endpoint.bare = s.endpoints.map Endpoint.bare) :
    s.Hears [m] ({ s with endpoints }.process m) := by
  have hreceive : (s.discovery.receive m).2 = s.discovery.collect m :=
    Discovery.after_receive hd m
  unfold process
  rw [hreceive, Discovery.collect_eq]
  refine ⟨rfl, rfl, h, rfl, ?_, rfl, ⟨rfl, rfl, rfl, rfl⟩, ?_⟩
  · rw [Roster.showEach_cons, Roster.showEach, List.append_nil]
  · rw [List.flatMap_singleton]
    rfl

/-- Endpoints are on different interfaces, have buffers of the size that the settings ask for and
send to the group of their own interface. -/
structure IsBound (settings : Settings) (endpoints : List Endpoint) : Prop where
  buffers : ∀ l ∈ endpoints, l.bufferSize = settings.bufferSize
  positions : (endpoints.map (·.position)).Nodup
  destinations : ∀ l ∈ endpoints, l.destination = groupAddress (some l.interface) settings.port

/-- Endpoints keep their interfaces, their destinations and the size of their buffers. -/
theorem isBound_of_eq (hsettings : s'.settings = s.settings)
    (hendpoints : s'.endpoints.map Endpoint.bare = s.endpoints.map Endpoint.bare)
    (hbound : IsBound s.settings s.endpoints) : IsBound s'.settings s'.endpoints := by
  have hmem : ∀ l ∈ s'.endpoints, ∃ l' ∈ s.endpoints, l'.bare = l.bare := by
    intro l hl
    have hbare : l.bare ∈ s.endpoints.map Endpoint.bare := by
      rw [← hendpoints]
      exact List.mem_map_of_mem hl
    exact List.mem_map.1 hbare
  refine ⟨fun l hl => ?_, ?_, fun l hl => ?_⟩
  · obtain ⟨l', hl', he⟩ := hmem l hl
    rw [hsettings, ← hbound.buffers l' hl']
    exact (congrArg Endpoint.bufferSize he).symm
  · have hpositions : ∀ ls : List Endpoint,
        ls.map (·.position) = (ls.map Endpoint.bare).map (·.position) := by
      intro ls
      rw [List.map_map]
      rfl
    rw [hpositions, hendpoints, ← hpositions]
    exact hbound.positions
  · obtain ⟨l', hl', he⟩ := hmem l hl
    have hdestination : l'.destination = l.destination := (congrArg Endpoint.destination he :)
    have hinterface : l'.interface = l.interface := (congrArg Endpoint.interface he :)
    rw [hsettings, ← hdestination, ← hinterface, hbound.destinations l' hl']

/-- What is read depends on the settings and on where the session listens. -/
theorem packets_eq (hsettings : s'.settings = s.settings)
    (hendpoints : s'.endpoints.map Endpoint.bare = s.endpoints.map Endpoint.bare)
    (xs : List Delivery) : s'.packets xs = s.packets xs := by
  have hpacket : s'.packet? = s.packet? := by
    funext x
    unfold packet? listensOn
    rw [hsettings, Endpoint.any_position_eq hendpoints]
  rw [packets, packets, hpacket]

theorem heard_cons (s : Session) (x : Delivery) (xs : List Delivery) :
    s.heard (x :: xs) = s.heard [x] ++ s.heard xs := by
  rw [heard, packets, ← List.singleton_append, List.filterMap_append, List.filterMap_append]
  rfl

/-- What an endpoint of a session makes of a datagram. -/
theorem receive_datagram (hbound : IsBound s.settings s.endpoints) {l : Endpoint}
    (hl : l ∈ s.endpoints) (bytes : Bytes) (sender : SocketAddress) :
    (l.receive (.datagram bytes sender)).1 =
      Packet.message? ⟨bytes.take s.settings.bufferSize, sender⟩ := by
  rw [Message.receive_datagram, hbound.buffers l hl, Packet.message?]

/-- What is heard of a single arrival. -/
theorem heard_singleton (hbound : IsBound s.settings s.endpoints) (x : Delivery) : s.heard [x] =
    match hear x.position x.arrival s.endpoints with
    | some (message?, _) => message?.toList
    | none => [] := by
  obtain ⟨position, arrival⟩ := x
  have hheard : s.heard [⟨position, arrival⟩] =
      ((s.packet? ⟨position, arrival⟩).bind Packet.message?).toList := by
    rw [heard, packets, List.filterMap_filterMap]
    cases h : (s.packet? ⟨position, arrival⟩).bind Packet.message? <;> simp [h]
  rw [hheard]
  dsimp only
  cases h : hear position arrival s.endpoints with
  | none =>
    have hlistens : s.listensOn position = false := hear_eq_none_iff.1 h
    cases arrival with
    | datagram bytes sender => simp [packet?, hlistens]
    | failure => rfl
  | some found =>
    obtain ⟨message?, endpoints⟩ := found
    obtain ⟨-, l, hl, rfl⟩ := hear_eq_some h
    cases arrival with
    | datagram bytes sender =>
      have hlistens : s.listensOn position = true := by
        rw [← Bool.not_eq_false]
        intro hnot
        rw [hear_eq_none_iff.2 hnot] at h
        cases h
      simp [packet?, hlistens, receive_datagram hbound hl]
    | failure => rfl

/-- **What one arrival does to a session.** -/
theorem hears_receive (hd : ¬s.discovery.closed) (hbound : IsBound s.settings s.endpoints)
    (x : Delivery) : s.Hears (s.heard [x]) (s.receive x.position x.arrival).2 := by
  rw [heard_singleton hbound, receive]
  cases h : hear x.position x.arrival s.endpoints with
  | none => exact hears_nil rfl
  | some found =>
    obtain ⟨message?, endpoints⟩ := found
    obtain ⟨hbare, -⟩ := hear_eq_some h
    cases message? with
    | none => exact hears_nil hbare
    | some m => exact hears_process hd m hbare

/-- **What arrives one after another does to a session what the messages do that can be read of
it.** -/
theorem hears_foldl (hd : ¬s.discovery.closed) (hbound : IsBound s.settings s.endpoints)
    (network : Network) (xs : List Delivery) :
    s.Hears (s.heard xs) ((xs.map Delivery.incident).foldl (undergo network) s) := by
  induction xs generalizing s with
  | nil => exact hears_nil rfl
  | cons x xs ih =>
    have hstep : s.Hears (s.heard [x]) (undergo network s x.incident) := hears_receive hd hbound x
    have hopen : ¬(undergo network s x.incident).discovery.closed := by
      rwa [hstep.discovery.closed]
    have hrest := ih hopen (isBound_of_eq hstep.settings hstep.endpoints hbound)
    rw [heard, packets_eq hstep.settings hstep.endpoints] at hrest
    rw [heard_cons, List.map_cons, List.foldl_cons]
    exact hstep.trans hrest

end Session

end ServiceDiscovery
