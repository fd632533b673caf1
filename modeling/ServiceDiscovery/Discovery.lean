import ServiceDiscovery.Interface
import ServiceDiscovery.Message.Comparison
import ServiceDiscovery.Message.Wire
import ServiceDiscovery.Service.Assembly

/-!
# Discovery

The state of looking for services, apart from all input and output: messages and times go in,
datagrams and events come out.

* `Discovery.start`, `expire`, `finish`: the life of a query;
* `receive`: a message that arrived. What this side has sent itself, what is not a response and what
  the pending query did not ask for is passed over;
* `send`: a message to be sent;
* `nextDatagram`, `nextEvent`: what has come out, the oldest first;
* `close`: the end of everything.

An operation that can fail gives its result beside the state that it leaves. Times are milliseconds
from a common start, without an upper bound: it is assumed that the clock can represent the end of
every query. With a timeout that leads beyond the last time of a clock, a query could not be started
at all.
-/

namespace ServiceDiscovery

/-- Bytes to be sent, from where and to where. -/
structure Datagram where
  bytes : Bytes
  source : SocketAddress
  destination : SocketAddress
  /-- When the query that it belongs to was started. -/
  time? : Option Nat
  deriving DecidableEq

inductive Event where
  /-- A service was seen for the first time in this query. -/
  | discovered (service : Service)
  /-- The time for answers is over, and so many services were found. -/
  | finished (count : Nat)
  deriving DecidableEq

structure PendingQuery where
  request : Message
  deadline : Nat
  deriving DecidableEq

/-- The state of looking for services. -/
structure Discovery where
  destination : SocketAddress := groupAddress none groupPort
  pending : Option PendingQuery := none
  catalog : Catalog := {}
  /-- The last datagrams that were queued, the oldest first. -/
  recent : List Bytes := []
  outgoing : List Datagram := []
  events : List Event := []
  closed : Bool := false
  deriving DecidableEq

namespace Discovery

/-- The result of an operation and the state that it leaves. -/
abbrev Outcome := Except Error Unit × Discovery

/-- How many of its own datagrams a discovery remembers. -/
def maxRecent : Nat := 16

/-- The last datagrams after one more. -/
def remember (bytes : Bytes) (recent : List Bytes) : List Bytes :=
  (if recent.length = maxRecent then recent.drop 1 else recent) ++ [bytes]

/-! ### Sending -/

/-- Queues the bytes of a message for sending. -/
def enqueue (d : Discovery) (m : Message) (time? : Option Nat) : Outcome :=
  match m.encode with
  | .error e => (.error e, d)
  | .ok bytes =>
    let datagram : Datagram :=
      { bytes, source := d.destination.unspecified, destination := d.destination, time? }
    (.ok (), { d with
      recent := remember bytes d.recent
      outgoing := d.outgoing ++ [datagram] })

def send (d : Discovery) (m : Message) : Outcome :=
  if d.closed then (.error .closed, d) else d.enqueue m none

def nextDatagram (d : Discovery) : Option Datagram × Discovery :=
  match d.outgoing with
  | [] => (none, d)
  | datagram :: rest => (some datagram, { d with outgoing := rest })

def allDatagrams (d : Discovery) : List Datagram × Discovery :=
  (d.outgoing, { d with outgoing := [] })

/-! ### The life of a query -/

/-- Forgets what was found and asks anew; answers count for `timeout` from `now` on. The sum of the
two is assumed to be a time of the clock. -/
def start (d : Discovery) (request : Message) (now timeout : Nat) : Outcome :=
  if d.closed then (.error .closed, d)
  else
    { d with catalog := {}, pending := some ⟨request, now + timeout⟩ }.enqueue request (some now)

/-- Ends the pending query if its time is over. -/
def expire (d : Discovery) (now : Nat) : Outcome :=
  if d.closed then (.error .closed, d)
  else
    match d.pending with
    | some query =>
      if query.deadline ≤ now then
        (.ok (), { d with
          pending := none
          events := d.events ++ [.finished d.catalog.size] })
      else (.ok (), d)
    | none => (.ok (), d)

/-- Ends the pending query, whenever that is. -/
def finish (d : Discovery) : List Service × Discovery :=
  (d.catalog.services, { d with pending := none })

def deadline? (d : Discovery) : Option Nat := d.pending.map (·.deadline)

/-! ### Receiving -/

/-- Whether a message has the bytes of one that was queued lately. -/
def isOwn (d : Discovery) (m : Message) : Bool :=
  match m.encode with
  | .ok bytes => d.recent.contains bytes
  | .error _ => false

/-- Adds a service and tells of it, unless the same one is known. -/
def found (d : Discovery) (s : Service) : Discovery :=
  if d.catalog.contains s then d
  else { d with catalog := d.catalog.insert s, events := d.events ++ [.discovered s] }

/-- Adds the services of a message that answers the pending query. -/
def collect (d : Discovery) (m : Message) : Discovery :=
  if d.isOwn m || !m.isResponse then d
  else
    match d.pending with
    | none => d
    | some query =>
      if m.isAnswerTo query.request then (Service.requested query.request m).foldl found d else d

def receive (d : Discovery) (m : Message) : Outcome :=
  if d.closed then (.error .closed, d) else (.ok (), d.collect m)

def nextEvent (d : Discovery) : Option Event × Discovery :=
  match d.events with
  | [] => (none, d)
  | event :: rest => (some event, { d with events := rest })

def withoutEvents (d : Discovery) : Discovery := { d with events := [] }

/-! ### The end -/

/-- Ends everything; nothing comes in or out any more. -/
def close (d : Discovery) : Discovery :=
  if d.closed then d else { destination := d.destination, closed := true }

end Discovery

end ServiceDiscovery
