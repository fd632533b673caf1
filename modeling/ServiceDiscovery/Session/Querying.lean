import ServiceDiscovery.Session.Basic

/-!
# Queries of a session

A query sends its request everywhere, waits while other things go on, and gives the services that
were found. Queries of one session take turns.

* `Session.query`: one query with what happens while it waits;
* `Session.queryBoth`: two queries begun together, the second of which waits for the first.

Waiting is the only thing that takes time.
-/

namespace ServiceDiscovery

/-- Something that happens while a query waits. -/
inductive Incident where
  | receive (position : Nat) (arrival : Arrival)
  | stop
  | start

/-- A query with what happens while it waits and how it ends. -/
structure Call where
  query : Query
  handler? : Option Handler := none
  incidents : List Incident := []
  /-- Whether the query is told to end as soon as everything has happened. -/
  cancelled : Bool := false
  /-- After which time nobody waits for the query any more, in milliseconds. -/
  abandonedAfter? : Option Nat := none

/-- What becomes of a query. -/
inductive Answer where
  | services (found : List Service)
  | failed (e : Error)
  | abandoned

namespace Session

def undergo (network : Network) (s : Session) : Incident → Session
  | .receive position arrival => (s.receive position arrival).2
  | .stop => s.stop
  | .start => (s.start network).2

def timeout (s : Session) (call : Call) : Nat := call.query.timeout?.getD s.settings.queryTimeout

/-- Sends the request of a query. A query that gets out nowhere is over. -/
def ask (s : Session) (network : Network) (now timeout : Nat) (q : Query) : Outcome :=
  match q.request with
  | .error e => (.error e, s)
  | .ok request =>
    match s.discovery.start request now timeout with
    | (.error e, discovery) => (.error e, { s with discovery })
    | (.ok (), discovery) =>
      match { s with discovery }.flush network with
      | (.ok (), s) => (.ok (), s)
      | (.error e, s) => (.error e, { s with discovery := s.discovery.finish.2 })

/-- Ends the pending query and gives what it found. -/
def conclude (s : Session) (now : Nat) : Answer × Session :=
  match s.discovery.expire now with
  | (.error e, discovery) => (.failed e, { s with discovery })
  | (.ok (), discovery) =>
    let (found, discovery) := discovery.withoutEvents.finish
    (.services found, { s with discovery })

/-- How long a call takes once its request is out, and whether it is abandoned by then. -/
def waiting (s : Session) (call : Call) (patience? : Option Nat) : Nat × Bool :=
  if call.cancelled then (0, false)
  else
    let timeout := s.timeout call
    match patience? with
    | some patience => if patience < timeout then (patience, true) else (timeout, false)
    | none => (timeout, false)

/-- A call whose turn has come, where `patience?` is how long it may still take. Gives also the time
when it is over. -/
def takeTurn (s : Session) (network : Network) (now : Nat) (call : Call)
    (patience? : Option Nat) : Answer × Nat × Session :=
  let query := { call.query with domain? := some (call.query.domain?.getD s.settings.domain) }
  let (registration?, s) : Option Nat × Session := match call.handler? with
    | some h => let (id, s) := s.addHandler h; (some id, s)
    | none => (none, s)
  let (answer, later, s) : Answer × Nat × Session :=
    match s.ask network now (s.timeout call) query with
    | (.error e, s) => (.failed e, now, s)
    | (.ok (), s) =>
      let s := call.incidents.foldl (undergo network) s
      let (time, abandoned) := s.waiting call patience?
      if abandoned then (.abandoned, now + time, s)
      else
        let (answer, s) := s.conclude (now + time)
        (answer, now + time, s)
  match registration? with
  | some id => (answer, later, (s.removeHandler id).2)
  | none => (answer, later, s)

/-- A query, from its call to its end. -/
def query (s : Session) (network : Network) (call : Call) : Answer × Session :=
  if s.phase = .running then
    let (answer, _, s) := s.takeTurn network 0 call call.abandonedAfter?
    (answer, s)
  else (.failed .notRunning, s)

/-- Two queries called at the same time. Both find the session running or not when they are called;
the second one then waits until the first is over, unless it is abandoned by then. -/
def queryBoth (s : Session) (network : Network) (first second : Call) :
    (Answer × Answer) × Session :=
  if s.phase = .running then
    let (answer, later, s) := s.takeTurn network 0 first first.abandonedAfter?
    match second.abandonedAfter? with
    | some patience =>
      if patience < later then ((answer, .abandoned), s)
      else
        let (answer', _, s) := s.takeTurn network later second (some (patience - later))
        ((answer, answer'), s)
    | none =>
      let (answer', _, s) := s.takeTurn network later second none
      ((answer, answer'), s)
  else ((.failed .notRunning, .failed .notRunning), s)

end Session

end ServiceDiscovery
