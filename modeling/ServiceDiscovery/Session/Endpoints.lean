import ServiceDiscovery.Discovery
import ServiceDiscovery.Session.Settings

/-!
# Endpoints

A session listens on every interface that it could bind and sends on all of them.

* `Endpoint.offered`, `bindAll`: the interfaces to use, and the endpoints on those of them that can
  be bound;
* `Endpoint.attempts`, `outcome`: a datagram sent through all endpoints. It is enough that it gets
  out somewhere;
* `Endpoint.receive`, `receiveAll`: the messages of what arrives. What cannot be read is passed
  over.
-/

namespace ServiceDiscovery

/-- How the network behaves towards the interfaces that are used, by their positions. -/
structure Network where
  binds : Nat → Bool
  sends : Nat → Except Error Unit
  /-- What the host reports of its interfaces, unless that fails. -/
  candidates : Except (SystemFailure × String) (List Candidate) := .ok []

structure Endpoint where
  /-- The position of the interface among those that are used. -/
  position : Nat
  interface : Interface
  destination : SocketAddress
  /-- How many bytes of a datagram are read. -/
  bufferSize : Nat
  /-- What datagrams have left in the buffer, which all of them share. -/
  buffer : Bytes := []
  deriving DecidableEq

/-- A datagram on its way out through an interface. -/
structure Transmission where
  position : Nat
  destination : SocketAddress
  bytes : Bytes
  deriving DecidableEq

/-- What reading from an endpoint gives. -/
inductive Arrival where
  | datagram (bytes : Bytes) (sender : SocketAddress)
  | failure

namespace Endpoint

/-- The interfaces of the settings, or else the ones of the host that are fit. -/
def offered (settings : Settings) (network : Network) : Except Error (List Interface) :=
  match settings.interfaces, network.candidates with
  | some interfaces, _ => .ok interfaces
  | none, .ok candidates => .ok (candidates.filterMap Candidate.interface?)
  | none, .error (kind, reason) => .error (.system kind reason)

/-- The endpoints on those interfaces that are switched on and can be bound. -/
def bindAll (settings : Settings) (network : Network) (interfaces : List Interface) :
    List Endpoint :=
  interfaces.zipIdx.filterMap fun (i, position) =>
    if settings.allows i && network.binds position then
      some { position, interface := i, destination := groupAddress (some i) settings.port,
             bufferSize := settings.bufferSize }
    else none

/-! ### Sending -/

def transmission (bytes : Bytes) (l : Endpoint) : Transmission :=
  { position := l.position, destination := l.destination, bytes }

/-- One attempt for each endpoint to send a datagram, with its result. -/
def attempts (network : Network) (endpoints : List Endpoint) (bytes : Bytes) :
    List (Transmission × Except Error Unit) :=
  endpoints.map fun l => (l.transmission bytes, network.sends l.position)

/-- The result of several attempts: one success is enough, or else the last failure counts. -/
def outcome (results : List (Except Error Unit)) : Except Error Unit :=
  if results.any (·.toBool) then .ok () else results.getLast?.getD (.error .notRunning)

/-! ### Receiving -/

/-- The buffer after a datagram has been read into it. -/
def fill (buffer datagram : Bytes) : Bytes := datagram ++ buffer.drop datagram.length

/-- The message of what arrives: of a datagram only as much is seen as the buffer holds. -/
def receive (l : Endpoint) : Arrival → Option Message × Endpoint
  | .datagram bytes sender =>
    let read := bytes.take l.bufferSize
    let buffer := fill l.buffer read
    ((Message.decodeFrom (buffer.take read.length) sender).toOption, { l with buffer })
  | .failure => (none, l)

/-- The messages of all that arrives, in order. -/
def receiveAll : Endpoint → List Arrival → List Message
  | _, [] => []
  | l, arrival :: rest =>
    match l.receive arrival with
    | (some m, l) => m :: receiveAll l rest
    | (none, l) => receiveAll l rest

end Endpoint

end ServiceDiscovery
