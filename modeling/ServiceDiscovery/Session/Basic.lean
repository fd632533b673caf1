import ServiceDiscovery.Session.Roster
import ServiceDiscovery.Session.Endpoints

/-!
# Sessions

A session looks for services on the interfaces of a host. It goes from stopped over starting to
running and over stopping back to stopped.

* `Session.start`, `stop`: made of steps, between which other calls can take place;
* `Session.receive`: something that arrived at an endpoint;
* `Session.announce`: a message sent everywhere.

What the session does to the outside is kept in its record: what it has sent and what its handlers
have noted.
-/

namespace ServiceDiscovery

inductive Phase where
  | stopped
  | starting
  | running
  | stopping
  deriving DecidableEq

def Phase.text : Phase → String
  | stopped => "stopped"
  | starting => "starting"
  | running => "running"
  | stopping => "stopping"

/-- What a session has done to the outside. -/
structure Activity where
  sent : List Transmission := []
  notes : List Note := []

structure Session where
  settings : Settings := {}
  phase : Phase := .stopped
  discovery : Discovery := {}
  roster : Roster := {}
  endpoints : List Endpoint := []
  activity : Activity := {}

namespace Session

/-- The result of an operation and the session that it leaves. -/
abbrev Outcome := Except Error Unit × Session

/-! ### Stopping -/

/-- Announces the end, unless the session is stopped already. -/
def beginStop (s : Session) : Session :=
  if s.phase = .stopped then s else { s with phase := .stopping }

def closeEndpoints (s : Session) : Session := { s with endpoints := [] }

/-- Ends the discovery, and with it the life of the session. -/
def endStop (s : Session) : Session :=
  { s with discovery := s.discovery.close, phase := .stopped }

/-- Stops the session; one that is stopped stays as it is. -/
def stop (s : Session) : Session :=
  if s.phase = .stopped then s else s.beginStop.closeEndpoints.endStop

/-! ### Starting -/

def beginStart (s : Session) : Session := { s with phase := .starting }

/-- Begins a new discovery, if datagrams can be read at all, and gives the interfaces to use. -/
def renew (s : Session) (network : Network) : Except Error (List Interface) × Session :=
  if s.settings.bufferSize < Header.size then (.error .bufferTooSmall, s)
  else
    match Endpoint.offered s.settings network with
    | .error e => (.error e, s)
    | .ok interfaces =>
      (.ok interfaces, { s with discovery := { destination := groupAddress none s.settings.port } })

/-- Adds the endpoints that can be bound; there has to be one in the end. -/
def bind (s : Session) (network : Network) (interfaces : List Interface) : Outcome :=
  let endpoints := s.endpoints ++ Endpoint.bindAll s.settings network interfaces
  (if endpoints.isEmpty then .error .noInterface else .ok (), { s with endpoints })

/-- The session runs if all went well, and otherwise it is stopped. -/
def endStart : Outcome → Outcome
  | (.ok (), s) => (.ok (), { s with phase := .running })
  | (.error e, s) => (.error e, { s with phase := .stopped })

def start (s : Session) (network : Network) : Outcome :=
  endStart <|
    match s.stop.beginStart.renew network with
    | (.ok interfaces, s) => s.bind network interfaces
    | (.error e, s) => (.error e, s)

/-! ### Receiving -/

/-- Shows a message to the handlers, and then to the discovery. -/
def process (s : Session) (m : Message) : Session :=
  let (notes, roster) := s.roster.showAll m
  { s with
    roster
    discovery := (s.discovery.receive m).2.withoutEvents
    activity := { s.activity with notes := s.activity.notes ++ notes } }

/-- What the first endpoint on the interface with a given position makes of an arrival, if there is
one, beside the endpoints that are left. -/
def hear (position : Nat) (arrival : Arrival) : List Endpoint →
    Option (Option Message × List Endpoint)
  | [] => none
  | endpoint :: rest =>
    if endpoint.position = position then
      let (message?, endpoint) := endpoint.receive arrival
      some (message?, endpoint :: rest)
    else (hear position arrival rest).map fun (message?, rest) => (message?, endpoint :: rest)

/-- Takes in what arrived at the interface with a given position, and says whether there is an
endpoint. -/
def receive (s : Session) (position : Nat) (arrival : Arrival) : Bool × Session :=
  match hear position arrival s.endpoints with
  | some (some m, endpoints) => (true, { s with endpoints }.process m)
  | some (none, endpoints) => (true, { s with endpoints })
  | none => (false, s)

/-! ### Sending -/

/-- Sends datagrams through all endpoints, one after another up to the first that gets out
nowhere. -/
def transmit (s : Session) (network : Network) : List Datagram → Outcome
  | [] => (.ok (), s)
  | datagram :: rest =>
    let attempts := Endpoint.attempts network s.endpoints datagram.bytes
    let sent := (attempts.filter (·.2.toBool)).map (·.1)
    let s := { s with activity := { s.activity with sent := s.activity.sent ++ sent } }
    match Endpoint.outcome (attempts.map (·.2)) with
    | .ok () => transmit s network rest
    | .error e => (.error e, s)

/-- Sends all that the discovery has queued. -/
def flush (s : Session) (network : Network) : Outcome :=
  let (datagrams, discovery) := s.discovery.allDatagrams
  let s := { s with discovery }
  if s.endpoints.isEmpty then (.error .notRunning, s) else s.transmit network datagrams

/-- Sends a message through all endpoints. -/
def announce (s : Session) (network : Network) (m : Message) : Outcome :=
  if s.phase = .running then
    match s.discovery.send m with
    | (.ok (), discovery) => { s with discovery }.flush network
    | (.error e, discovery) => (.error e, { s with discovery })
  else (.error .notRunning, s)

/-! ### Handlers -/

def addHandler (s : Session) (h : Handler) : Nat × Session :=
  let (id, roster) := s.roster.add h
  (id, { s with roster })

/-- Removes a registration, and says whether it was present. -/
def removeHandler (s : Session) (id : Nat) : Bool × Session :=
  let (present, roster) := s.roster.remove id
  (present, { s with roster })

/-- What the session has done to the outside since this was last asked. -/
def takeActivity (s : Session) : Activity × Session := (s.activity, { s with activity := {} })

end Session

end ServiceDiscovery
