import ServiceDiscovery.Discovery
import ServiceDiscovery.Proofs.Record.Wire
import ServiceDiscovery.Proofs.Service.Catalog
import Mathlib.Tactic.SplitIfs

/-!
# Operations on a discovery

A run is a list of operations on a discovery, in any order, failed ones included. What an operation
can do to an open discovery is said once (`Effect`), apart from what it does to the datagrams; the
rest is read off from there.

* `Operation`, `Discovery.perform`, `after`, `run`: one operation, and many;
* `Discovery.emits`, `emitted`: the events of one operation, and of many;
* `servicesOf`, `collect_eq`: what is made of a message;
* `effect`: what an operation does to an open discovery and which events it emits;
* `run_induction`: from what each operation does to what a run does;
* `run_open`, `run_ended`: a discovery is open until it is closed, and then nothing happens.
-/

namespace ServiceDiscovery

/-- Something that is done to a discovery. -/
inductive Operation where
  | start (request : Message) (now timeout : Nat)
  | receive (m : Message)
  | send (m : Message)
  | expire (now : Nat)
  | finish
  | nextDatagram
  | nextEvent
  | close

def Operation.isStart : Operation → Bool
  | start _ _ _ => true
  | _ => false

namespace Discovery

/-- The result of an operation and the state that it leaves. -/
def perform (d : Discovery) : Operation → Outcome
  | .start request now timeout => d.start request now timeout
  | .receive m => d.receive m
  | .send m => d.send m
  | .expire now => d.expire now
  | .finish => (.ok (), d.finish.2)
  | .nextDatagram => (.ok (), d.nextDatagram.2)
  | .nextEvent => (.ok (), d.nextEvent.2)
  | .close => (.ok (), d.close)

/-- The state after an operation, whether or not it failed. -/
def after (d : Discovery) (op : Operation) : Discovery := (d.perform op).2

def run (d : Discovery) (ops : List Operation) : Discovery := ops.foldl after d

/-- The events that an operation emits: those that it leaves in an empty queue. -/
def emits (d : Discovery) (op : Operation) : List Event := (d.withoutEvents.after op).events

/-- The events that operations emit one after another. -/
def emitted (d : Discovery) : List Operation → List Event
  | [] => []
  | op :: ops => d.emits op ++ (d.after op).emitted ops

theorem run_cons (d : Discovery) (op : Operation) (ops : List Operation) :
    d.run (op :: ops) = (d.after op).run ops := rfl

theorem run_append (d : Discovery) (ops ops' : List Operation) :
    d.run (ops ++ ops') = (d.run ops).run ops' := List.foldl_append

theorem emitted_cons (d : Discovery) (op : Operation) (ops : List Operation) :
    d.emitted (op :: ops) = d.emits op ++ (d.after op).emitted ops := rfl

/-! ### Messages -/

/-- The services that a discovery takes from a message: those that the pending query asks for, if
the message answers it. -/
def servicesOf (d : Discovery) (m : Message) : List Service :=
  if d.isOwn m || !m.isResponse then []
  else
    match d.pending with
    | none => []
    | some query =>
      if m.isAnswerTo query.request then Service.requested query.request m else []

theorem servicesOf_of_pending_eq_none {d : Discovery} (h : d.pending = none) (m : Message) :
    d.servicesOf m = [] := by
  unfold servicesOf
  rw [h]
  split_ifs <;> rfl

theorem collect_eq_foldl (d : Discovery) (m : Message) :
    d.collect m = (d.servicesOf m).foldl found d := by
  unfold collect servicesOf
  split_ifs with hown
  · rfl
  · cases d.pending with
    | none => rfl
    | some query =>
      show (if _ then _ else _) = List.foldl found d (if _ then _ else _)
      split_ifs <;> rfl

/-- Services are found as they are added to the catalog. -/
theorem foldl_found (d : Discovery) (ss : List Service) :
    ss.foldl found d = { d with
      catalog := d.catalog.insertAll ss
      events := d.events ++ (d.catalog.news ss).map .discovered } := by
  induction ss generalizing d with
  | nil =>
    rw [Catalog.news, List.map_nil, List.append_nil]
    rfl
  | cons s ss ih =>
    rw [List.foldl_cons, ih]
    unfold found
    by_cases h : d.catalog.contains s
    · rw [if_pos h, Catalog.news_cons_of_contains h, Catalog.insertAll, Catalog.insertAll,
        List.foldl_cons, Catalog.insert_of_contains h]
    · rw [if_neg h, Catalog.news_cons h, List.map_cons, ← List.append_cons]
      rfl

/-- **A message adds the services that are asked for to the catalog, with an event for each that was
not listed.** -/
theorem collect_eq (d : Discovery) (m : Message) :
    d.collect m = { d with
      catalog := d.catalog.insertAll (d.servicesOf m)
      events := d.events ++ (d.catalog.news (d.servicesOf m)).map .discovered } := by
  rw [collect_eq_foldl, foldl_found]

/-! ### What an operation does -/

/-- Queueing a message leaves all but the datagrams as it is. -/
theorem exists_enqueue (d : Discovery) (m : Message) (time? : Option Nat) :
    ∃ recent outgoing, (d.enqueue m time?).2 = { d with recent, outgoing } := by
  unfold enqueue
  cases m.encode with
  | error e => exact ⟨d.recent, d.outgoing, rfl⟩
  | ok bytes => exact ⟨_, _, rfl⟩

variable {d : Discovery}

theorem exists_after_start (hd : ¬d.closed) (request : Message) (now timeout : Nat) :
    ∃ recent outgoing, d.after (.start request now timeout) =
      { d with catalog := {}, pending := some ⟨request, now + timeout⟩, recent, outgoing } := by
  rw [after, perform, start, if_neg hd]
  exact exists_enqueue _ request (some now)

theorem after_receive (hd : ¬d.closed) (m : Message) :
    d.after (.receive m) = d.collect m := by
  rw [after, perform, receive, if_neg hd]

theorem exists_after_send (hd : ¬d.closed) (m : Message) :
    ∃ recent outgoing, d.after (.send m) = { d with recent, outgoing } := by
  rw [after, perform, send, if_neg hd]
  exact exists_enqueue d m none

theorem after_expire (hd : ¬d.closed) (now : Nat) :
    d.after (.expire now) = if ∃ query, d.pending = some query ∧ query.deadline ≤ now then
      { d with pending := none, events := d.events ++ [.finished d.catalog.size] } else d := by
  rw [after, perform, expire, if_neg hd]
  cases hp : d.pending with
  | none => simp
  | some query => by_cases h : query.deadline ≤ now <;> simp [h]

theorem after_nextDatagram (d : Discovery) :
    d.after .nextDatagram = { d with outgoing := d.outgoing.tail } := by
  rw [after, perform, nextDatagram]
  cases d with
  | mk _ _ _ _ outgoing => cases outgoing <;> rfl

theorem after_nextEvent (d : Discovery) :
    d.after .nextEvent = { d with events := d.events.tail } := by
  rw [after, perform, nextEvent]
  cases d with
  | mk _ _ _ _ _ events => cases events <;> rfl

/-- What an operation that does not close an open discovery does to it, and which events it emits.
Of the datagrams nothing is said. -/
inductive Effect (d : Discovery) : Operation → List Event → Discovery → Prop
  | asks (request : Message) (now timeout : Nat) (recent : List Bytes) (outgoing : List Datagram) :
      Effect d (.start request now timeout) []
        { d with catalog := {}, pending := some ⟨request, now + timeout⟩, recent, outgoing }
  | collects (m : Message) :
      Effect d (.receive m) ((d.catalog.news (d.servicesOf m)).map .discovered)
        { d with
          catalog := d.catalog.insertAll (d.servicesOf m)
          events := d.events ++ (d.catalog.news (d.servicesOf m)).map .discovered }
  | sends (m : Message) (recent : List Bytes) (outgoing : List Datagram) :
      Effect d (.send m) [] { d with recent, outgoing }
  | ends (query : PendingQuery) (now : Nat) (hp : d.pending = some query)
      (hd : query.deadline ≤ now) :
      Effect d (.expire now) [.finished d.catalog.size]
        { d with pending := none, events := d.events ++ [.finished d.catalog.size] }
  | waits (now : Nat) : Effect d (.expire now) [] d
  | finishes : Effect d .finish [] { d with pending := none }
  | handsDatagram : Effect d .nextDatagram [] { d with outgoing := d.outgoing.tail }
  | handsEvent : Effect d .nextEvent [] { d with events := d.events.tail }

/-- **What an operation does to an open discovery.** -/
theorem effect (hd : ¬d.closed) {op : Operation} (hop : op ≠ .close) :
    d.Effect op (d.emits op) (d.after op) := by
  -- The events are those that the operation leaves when the queue was empty.
  have hd' : ¬d.withoutEvents.closed := hd
  unfold emits
  cases op with
  | start request now timeout =>
    obtain ⟨recent, outgoing, h⟩ := exists_after_start hd request now timeout
    obtain ⟨_, _, h'⟩ := exists_after_start hd' request now timeout
    rw [h, h']
    exact .asks request now timeout recent outgoing
  | receive m =>
    rw [after_receive hd, after_receive hd', collect_eq, collect_eq]
    exact .collects m
  | send m =>
    obtain ⟨recent, outgoing, h⟩ := exists_after_send hd m
    obtain ⟨_, _, h'⟩ := exists_after_send hd' m
    rw [h, h']
    exact .sends m recent outgoing
  | expire now =>
    have hpending : d.withoutEvents.pending = d.pending := rfl
    rw [after_expire hd, after_expire hd', hpending]
    split_ifs with h
    · obtain ⟨query, hp, hdeadline⟩ := h
      exact .ends query now hp hdeadline
    · exact .waits now
  | finish => exact .finishes
  | nextDatagram =>
    rw [after_nextDatagram, after_nextDatagram]
    exact .handsDatagram
  | nextEvent =>
    rw [after_nextEvent, after_nextEvent]
    exact .handsEvent
  | close => exact absurd rfl hop

/-! ### Open and closed discoveries -/

theorem Effect.closed {op : Operation} {es : List Event} {d' : Discovery} (h : d.Effect op es d') :
    d'.closed = d.closed := by
  cases h <;> rfl

theorem after_open (hd : ¬d.closed) {op : Operation} (hop : op ≠ .close) :
    ¬(d.after op).closed := by
  rwa [(effect hd hop).closed]

/-- **What holds of the events and the state, and is kept by the effect of each operation, holds of
a whole run of an open discovery.** -/
theorem run_induction {motive : List Event → Discovery → Prop} (hd : ¬d.closed)
    {ops : List Operation} (hops : .close ∉ ops) (es : List Event) (start : motive es d)
    (step : ∀ op ∈ ops, ∀ ⦃es es' d d'⦄, motive es d → d.Effect op es' d' → motive (es ++ es') d') :
    motive (es ++ d.emitted ops) (d.run ops) := by
  induction ops generalizing d es with
  | nil =>
    rw [emitted, List.append_nil]
    exact start
  | cons op ops ih =>
    obtain ⟨hop, hops⟩ := List.ne_and_not_mem_of_not_mem_cons hops
    obtain ⟨hstep, hsteps⟩ := List.forall_mem_cons.1 step
    rw [emitted_cons, ← List.append_assoc]
    exact ih (after_open hd hop.symm) hops _ (hstep start (effect hd hop.symm)) hsteps

/-- A discovery stays open until it is closed. -/
theorem run_open (hd : ¬d.closed) {ops : List Operation} (hops : .close ∉ ops) :
    ¬(d.run ops).closed := by
  refine run_induction (motive := fun _ d => ¬d.closed) hd hops [] hd ?_
  intro op _ es es' d d' hd heffect
  rwa [heffect.closed]

/-- A discovery on which everything has ended. -/
def ended (destination : SocketAddress) : Discovery := { destination, closed := true }

theorem after_close (hd : ¬d.closed) : d.after .close = ended d.destination := by
  rw [after, perform, close, if_neg hd]
  rfl

theorem after_ended (destination : SocketAddress) (op : Operation) :
    (ended destination).after op = ended destination := by
  cases op <;> rfl

/-- **Nothing happens any more once everything has ended.** -/
theorem run_ended (destination : SocketAddress) (ops : List Operation) :
    (ended destination).run ops = ended destination := by
  induction ops with
  | nil => rfl
  | cons op ops ih => rw [run_cons, after_ended, ih]

/-! ### Some messages -/

/-- A request for web services. -/
def webRequest : Message :=
  (Message.request.addQuestion { name := "_http._tcp.local", type := .ptr }).2

/-- A request with a label that is too long to be written. -/
def longRequest : Message :=
  (Message.request.addQuestion { name := String.ofList (List.replicate 64 'x'), type := .ptr }).2

/-- A response that names a web service. -/
def webResponse (label : String) : Message :=
  (Message.answer.addAnswer (.made { name := "_http._tcp.local", type := .ptr, ttl := 120 }
    (.ptr (label ++ "._http._tcp.local")))).2

end Discovery

end ServiceDiscovery
