import ServiceDiscovery.Proofs.Session.Hearing
import ServiceDiscovery.Proofs.Discovery.Dispatch

/-!
# What a session has queued since it was started

A session knows its own datagrams when they come back: the last sixteen that it has queued for
sending since it was started, whether by a query or by an announcement, and whether or not they got
out. Here the whole list of them is kept beside a run of the session, and a running session
remembers the end of that list.

* `Session.registered`, `meant`, `asked`, `takeTurn_eq`, `query_eq`: the parts of a query;
* `Episode`, `Session.pass`, `passAll`: calls one after another, and queries at the same time;
* `Queues`, `queues_ask`, `queues_announce`: what sending does to a session;
* `Asks`, `exists_asks`, `conclude_of_open`: the beginning and the end of a query;
* `queuedAfter`, `queuedBy`: the list beside one episode, and beside many;
* `Remembers`, `Remembers.pass`, `remembers_passAll`: the end of the list is what a session
  remembers.
-/

namespace ServiceDiscovery

/-- The bytes of a message, if it can be written. -/
def Message.packets (m : Message) : List Bytes := m.encode.toOption.toList

/-- The bytes of the request of a query, if there is one that can be written. -/
def Query.packets (q : Query) : List Bytes := q.request.toOption.toList.flatMap Message.packets

/-- Whether the session is stopped or started anew. -/
def Incident.restarts : Incident → Bool
  | .receive .. => false
  | .stop | .start => true

/-- What a session goes through: a single action, or two queries that are called at the same
time. -/
inductive Episode where
  | single (action : Action)
  | queries (network : Network) (first second : Call)

namespace Discovery

theorem recent_enqueue (d : Discovery) (m : Message) (time? : Option Nat) :
    (d.enqueue m time?).2.recent = rememberBytes d.recent m.packets := by
  unfold enqueue Message.packets
  cases m.encode with
  | error e => rfl
  | ok bytes => rfl

/-- What fails to be queued leaves nothing to be sent. -/
theorem outgoing_enqueue_of_error {d : Discovery} {m : Message} {time? : Option Nat} {e : Error}
    (h : (d.enqueue m time?).1 = .error e) : (d.enqueue m time?).2.outgoing = d.outgoing := by
  unfold enqueue at h ⊢
  cases hm : m.encode with
  | error e' => rfl
  | ok bytes =>
    rw [hm] at h
    cases h

end Discovery

namespace Session

variable {s s' : Session} {network : Network} {call : Call}

/-! ### The parts of a query -/

/-- The session with the handler of a call, if that has one. -/
def registered (s : Session) (call : Call) : Session :=
  match call.handler? with
  | some handler => (s.addHandler handler).2
  | none => s

/-- The session without the handler of a call that it got in the state `s`. -/
def released (s : Session) (call : Call) (s' : Session) : Session :=
  match call.handler? with
  | some _ => (s'.removeHandler (s.roster.last + 1)).2
  | none => s'

/-- The query of a call, in the domain of the session if it names none. -/
def meant (s : Session) (call : Call) : Query :=
  { call.query with domain? := some (call.query.domain?.getD s.settings.domain) }

/-- How sending the request of a call goes, and what it leaves. -/
def asked (s : Session) (network : Network) (now : Nat) (call : Call) : Outcome :=
  (s.registered call).ask network now (s.timeout call) (s.meant call)

/-- The rest of a call after its request. -/
def waited (s : Session) (network : Network) (now : Nat) (call : Call) (patience? : Option Nat) :
    Answer × Nat × Session :=
  afterAsk network now call patience? (s.asked network now call)

theorem takeTurn_eq (s : Session) (network : Network) (now : Nat) (call : Call)
    (patience? : Option Nat) : s.takeTurn network now call patience? =
      ((s.waited network now call patience?).1, (s.waited network now call patience?).2.1,
        s.released call (s.waited network now call patience?).2.2) := by
  rw [takeTurn, waited, asked, registered, released]
  cases call.handler? <;> rfl

theorem query_eq (hp : s.phase = .running) (network : Network) (call : Call) :
    s.query network call = ((s.waited network 0 call call.abandonedAfter?).1,
      s.released call (s.waited network 0 call call.abandonedAfter?).2.2) := by
  rw [query, if_pos hp, takeTurn_eq]

theorem registered_eq (s : Session) (call : Call) :
    s.registered call = { s with roster := (s.registered call).roster } := by
  unfold registered
  cases call.handler? <;> rfl

theorem released_eq (s : Session) (call : Call) (s' : Session) :
    s.released call s' = { s' with roster := (s.released call s').roster } := by
  unfold released
  cases call.handler? <;> rfl

/-! ### Sending -/

/-- Sending changes nothing but the record of what was sent. -/
theorem exists_transmit (s : Session) (network : Network) (datagrams : List Datagram) :
    ∃ sent, (s.transmit network datagrams).2 = { s with activity := { s.activity with sent } } := by
  induction datagrams generalizing s with
  | nil => exact ⟨s.activity.sent, rfl⟩
  | cons datagram datagrams ih =>
    rw [transmit]
    dsimp only
    split
    · obtain ⟨sent, h⟩ := ih { s with activity := _ }
      exact ⟨sent, h⟩
    · exact ⟨_, rfl⟩

theorem exists_flush (s : Session) (network : Network) :
    ∃ sent, (s.flush network).2 = { s with
      discovery := { s.discovery with outgoing := [] }
      activity := { s.activity with sent } } := by
  unfold flush Discovery.allDatagrams
  dsimp only
  split_ifs
  · exact ⟨s.activity.sent, rfl⟩
  · obtain ⟨sent, h⟩ := exists_transmit { s with discovery := _ } network s.discovery.outgoing
    exact ⟨sent, h⟩

/-- What a session becomes that queues datagrams and tries to send them. -/
structure Queues (s : Session) (packets : List Bytes) (s' : Session) : Prop where
  settings : s'.settings = s.settings
  phase : s'.phase = s.phase
  endpoints : s'.endpoints = s.endpoints
  recent : ¬s.discovery.closed →
    s'.discovery.recent = Discovery.rememberBytes s.discovery.recent packets
  outgoing : s.discovery.outgoing = [] → s'.discovery.outgoing = []

/-- A discovery that is closed queues nothing. -/
theorem queues_of_closed (hd : s.discovery.closed) (packets : List Bytes) : s.Queues packets s :=
  ⟨rfl, rfl, rfl, fun hopen => absurd hd hopen, id⟩

variable {d d' : Discovery} {m : Message} {time? : Option Nat}

/-- What is queued and then sent. -/
theorem queues_of_ok (hrecent : d.recent = s.discovery.recent)
    (h : d.enqueue m time? = (.ok (), d')) (network : Network) :
    s.Queues m.packets (flush { s with discovery := d' } network).2 := by
  obtain ⟨sent, hflush⟩ := exists_flush { s with discovery := d' } network
  have hd' : d'.recent = Discovery.rememberBytes s.discovery.recent m.packets := by
    rw [← hrecent, ← Discovery.recent_enqueue d m time?, h]
  rw [hflush]
  exact ⟨rfl, rfl, rfl, fun _ => hd', fun _ => rfl⟩

/-- What fails to be queued. -/
theorem queues_of_error {e : Error} (hrecent : d.recent = s.discovery.recent)
    (houtgoing : d.outgoing = s.discovery.outgoing) (h : d.enqueue m time? = (.error e, d')) :
    s.Queues m.packets { s with discovery := d' } := by
  have hd' := congrArg Prod.snd h
  refine ⟨rfl, rfl, rfl, fun _ => ?_, fun hempty => ?_⟩ <;> dsimp only at hd' ⊢ <;> rw [← hd']
  · rw [Discovery.recent_enqueue, hrecent]
  · rw [Discovery.outgoing_enqueue_of_error (congrArg Prod.fst h), houtgoing, hempty]

theorem queues_announce (hp : s.phase = .running) (hd : ¬s.discovery.closed) (network : Network)
    (m : Message) : s.Queues m.packets (s.announce network m).2 := by
  rw [announce, if_pos hp, Discovery.send, if_neg hd]
  rcases h : s.discovery.enqueue m none with ⟨e | _, d⟩
  · exact queues_of_error rfl rfl h
  · exact queues_of_ok rfl h network

/-- Whatever becomes of a request, its datagram counts as queued if it can be written. -/
theorem queues_ask (s : Session) (network : Network) (now timeout : Nat) (q : Query) :
    s.Queues q.packets (s.ask network now timeout q).2 := by
  rw [ask, Query.packets]
  rcases q.request with e | request
  · exact ⟨rfl, rfl, rfl, fun _ => rfl, id⟩
  have hpackets : (Except.toOption (.ok request : Except Error Message)).toList.flatMap
    Message.packets = request.packets := List.flatMap_singleton ..
  rw [hpackets]
  dsimp only
  by_cases hclosed : s.discovery.closed
  · rw [Discovery.start, if_pos hclosed]
    exact queues_of_closed hclosed _
  rw [Discovery.start, if_neg hclosed]
  generalize hasking : ({ s.discovery with
    catalog := {}, pending := some ⟨request, now + timeout⟩ } : Discovery) = asking
  have hrecent : asking.recent = s.discovery.recent := by rw [← hasking]
  have houtgoing : asking.outgoing = s.discovery.outgoing := by rw [← hasking]
  rcases h : asking.enqueue request (some now) with ⟨e | _, d⟩
  · exact queues_of_error hrecent houtgoing h
  · have hflush := queues_of_ok hrecent h network
    dsimp only
    rcases hflushed : flush { s with discovery := d } network with ⟨e | _, s'⟩
    · rw [hflushed] at hflush
      exact ⟨hflush.settings, hflush.phase, hflush.endpoints, hflush.recent, hflush.outgoing⟩
    · rw [hflushed] at hflush
      exact hflush

/-! ### The beginning and the end of a query -/

/-- What a session becomes whose request has got out: it waits for answers and knows the bytes. -/
structure Asks (s : Session) (request : Message) (bytes : Bytes) (deadline : Nat) (s' : Session) :
    Prop where
  settings : s'.settings = s.settings
  phase : s'.phase = s.phase
  endpoints : s'.endpoints = s.endpoints
  roster : s'.roster = s.roster
  notes : s'.activity.notes = s.activity.notes
  opened : ¬s'.discovery.closed
  pending : s'.discovery.pending = some ⟨request, deadline⟩
  catalog : s'.discovery.catalog = {}
  recent : s'.discovery.recent = Discovery.remember bytes s.discovery.recent

/-- **A request that gets out is pending.** -/
theorem exists_asks {now timeout : Nat} {q : Query}
    (h : s.ask network now timeout q = (.ok (), s')) : ∃ request bytes,
      q.request = .ok request ∧ request.encode = .ok bytes ∧
        s.Asks request bytes (now + timeout) s' := by
  unfold ask at h
  rcases hrequest : q.request with e | request <;> rw [hrequest] at h
  · cases h
  dsimp only at h
  by_cases hd : s.discovery.closed
  · rw [Discovery.start, if_pos hd] at h
    cases h
  rw [Discovery.start, if_neg hd, Discovery.enqueue] at h
  rcases hbytes : request.encode with e | bytes <;> rw [hbytes] at h
  · cases h
  dsimp only at h
  generalize hasking : ({ s with discovery := _ } : Session) = asking at h
  obtain ⟨sent, hflush⟩ := exists_flush asking network
  rcases hflushed : asking.flush network with ⟨e | _, s''⟩ <;> rw [hflushed] at h hflush
  · cases h
  · cases h
    have hs' : s' = _ := hflush
    refine ⟨request, bytes, rfl, hbytes, ?_⟩
    rw [hs', ← hasking]
    exact ⟨rfl, rfl, rfl, rfl, rfl, hd, rfl, rfl, rfl⟩

theorem conclude_of_closed (hd : s.discovery.closed) (now : Nat) :
    s.conclude now = (.failed .closed, s) := by
  rw [conclude, Discovery.expire, if_pos hd]

/-- **A query ends with what was found.** -/
theorem conclude_of_open (hd : ¬s.discovery.closed) (now : Nat) : s.conclude now =
    (.services s.discovery.catalog.services,
      { s with discovery := { s.discovery with pending := none, events := [] } }) := by
  rw [conclude, Discovery.expire, if_neg hd]
  rcases s.discovery.pending with _ | query
  · rfl
  · dsimp only
    split_ifs <;> rfl

/-! ### The list beside calls -/

/-- The session after an episode, whether or not something failed. -/
def pass (s : Session) : Episode → Session
  | .single action => s.act action
  | .queries network first second => (s.queryBoth network first second).2

def passAll (s : Session) (episodes : List Episode) : Session := episodes.foldl pass s

/-- What was queued since the session was started, after one more query has had its turn. -/
def queuedInTurn (s : Session) (queued : List Bytes) (network : Network) (now : Nat)
    (call : Call) : List Bytes :=
  match (s.asked network now call).1 with
  | .ok () =>
    if call.incidents.any Incident.restarts then [] else queued ++ (s.meant call).packets
  | .error _ => queued ++ (s.meant call).packets

/-- What was queued since the session was started, after one more action. -/
def queuedAfterAction (s : Session) (queued : List Bytes) : Action → List Bytes
  | .start _ | .stop => []
  | .announce _ m => if s.phase = .running then queued ++ m.packets else queued
  | .query network call =>
    if s.phase = .running then s.queuedInTurn queued network 0 call else queued
  | .addHandler _ | .removeHandler _ | .receive .. => queued

/-- What was queued since the session was started, after two more queries at the same time. -/
def queuedAfterBoth (s : Session) (queued : List Bytes) (network : Network)
    (first second : Call) : List Bytes :=
  if s.phase = .running then
    let queued := s.queuedInTurn queued network 0 first
    let (_, later, s) := s.takeTurn network 0 first first.abandonedAfter?
    match second.abandonedAfter? with
    | some patience =>
      if patience < later then queued else s.queuedInTurn queued network later second
    | none => s.queuedInTurn queued network later second
  else queued

/-- What was queued since the session was started, after one more episode. -/
def queuedAfter (s : Session) (queued : List Bytes) : Episode → List Bytes
  | .single action => s.queuedAfterAction queued action
  | .queries network first second => s.queuedAfterBoth queued network first second

/-- What was queued since the session was started, after several more episodes. -/
def queuedBy (s : Session) (queued : List Bytes) : List Episode → List Bytes
  | [] => queued
  | episode :: episodes => (s.pass episode).queuedBy (s.queuedAfter queued episode) episodes

/-- **A running session remembers the last of what it has queued since it was started.** Nothing
waits to be sent, and the endpoints are as they should be. -/
structure Remembers (queued : List Bytes) (s : Session) : Prop where
  recent : s.phase = .running → s.discovery.recent = queued.rtake Discovery.maxRecent
  outgoing : s.discovery.outgoing = []
  bound : IsBound s.settings s.endpoints

variable {settings : Settings} {queued packets : List Bytes}

theorem Queues.remembers (h : s.Queues packets s') (hs : s.Remembers queued)
    (hsettled : s.IsSettled settings) : s'.Remembers (queued ++ packets) where
  recent hp := by
    rw [h.phase] at hp
    rw [h.recent (hsettled.discovery hp), hs.recent hp, Discovery.rememberBytes_rtake]
  outgoing := h.outgoing hs.outgoing
  bound := isBound_of_eq h.settings (by rw [h.endpoints]) hs.bound

theorem Hears.remembers {ms : List Message} (h : s.Hears ms s') (hs : s.Remembers queued) :
    s'.Remembers queued where
  recent hp := by
    rw [h.phase] at hp
    rw [h.discovery.recent, hs.recent hp]
  outgoing := h.discovery.outgoing.trans hs.outgoing
  bound := isBound_of_eq h.settings h.endpoints hs.bound

theorem Remembers.registered (h : s.Remembers queued) (call : Call) :
    (s.registered call).Remembers queued := by
  rw [registered_eq]
  exact ⟨h.recent, h.outgoing, h.bound⟩

theorem Remembers.released (h : s'.Remembers queued) (s : Session) (call : Call) :
    (s.released call s').Remembers queued := by
  rw [released_eq]
  exact ⟨h.recent, h.outgoing, h.bound⟩

theorem Remembers.conclude (h : s.Remembers queued) (now : Nat) :
    (s.conclude now).2.Remembers queued := by
  by_cases hd : s.discovery.closed
  · rw [conclude_of_closed hd]
    exact h
  · rw [conclude_of_open hd]
    exact ⟨h.recent, h.outgoing, h.bound⟩

/-- A session that is not running has nothing to remember. -/
theorem remembers_of_stopped (hp : s.phase = .stopped) (houtgoing : s.discovery.outgoing = [])
    (hendpoints : s.endpoints = []) (queued : List Bytes) : s.Remembers queued where
  recent hrunning := by
    rw [hp] at hrunning
    cases hrunning
  outgoing := houtgoing
  bound := by
    refine ⟨?_, ?_, ?_⟩ <;> rw [hendpoints]
    · exact fun l hl => absurd hl List.not_mem_nil
    · exact List.nodup_nil
    · exact fun l hl => absurd hl List.not_mem_nil

theorem Remembers.stop (h : s.Remembers queued) (hs : s.IsSettled settings)
    (queued' : List Bytes) : s.stop.Remembers queued' := by
  have hstopped := hs.isStopped_stop
  refine remembers_of_stopped hstopped.phase ?_ hstopped.endpoints queued'
  unfold Session.stop beginStop closeEndpoints endStop Discovery.close
  split_ifs <;> first | exact h.outgoing | rfl

theorem of_mem_bindAll {network : Network} {interfaces : List Interface} {l : Endpoint}
    (hl : l ∈ Endpoint.bindAll settings network interfaces) :
    l.bufferSize = settings.bufferSize ∧
      l.destination = groupAddress (some l.interface) settings.port := by
  obtain ⟨⟨i, position⟩, -, h⟩ := List.mem_filterMap.1 hl
  dsimp only at h
  split_ifs at h
  cases h
  exact ⟨rfl, rfl⟩

/-- Every interface is bound once at most. -/
theorem nodup_bindAll (settings : Settings) (network : Network) (interfaces : List Interface) :
    ((Endpoint.bindAll settings network interfaces).map (·.position)).Nodup := by
  have hpositions : (Endpoint.bindAll settings network interfaces).map (·.position) =
      (used settings network interfaces).map Prod.snd := by
    rw [← map_bindAll, List.map_map]
    rfl
  have hsub : ((used settings network interfaces).map Prod.snd).Sublist
      (interfaces.zipIdx.map Prod.snd) := List.filter_sublist.map Prod.snd
  rw [hpositions]
  refine hsub.nodup ?_
  rw [List.zipIdx_map_snd]
  exact List.nodup_range'

/-- A session that was just started has queued nothing. -/
theorem Remembers.start (h : s.Remembers queued) (hs : s.IsSettled settings) (network : Network) :
    (s.start network).2.Remembers [] := by
  have hstopped := hs.isStopped_stop
  have hfailed : (endStart (.error .noInterface, s.stop.beginStart)).2.Remembers [] :=
    remembers_of_stopped (s := (endStart (.error .noInterface, s.stop.beginStart)).2) rfl
      (h.stop hs []).outgoing hstopped.endpoints []
  rw [Session.start, renew]
  split_ifs
  · exact hfailed
  · cases Endpoint.offered s.stop.beginStart.settings network with
    | error e => exact hfailed
    | ok interfaces =>
      have hendpoints : s.stop.beginStart.endpoints = [] := hstopped.endpoints
      dsimp only [bind]
      rw [hendpoints, List.nil_append]
      have hpositions := nodup_bindAll s.stop.beginStart.settings network interfaces
      split_ifs with hbound
      · exact remembers_of_stopped rfl rfl (List.isEmpty_iff.1 hbound) []
      · exact ⟨fun _ => rfl, rfl, fun _ hl => (of_mem_bindAll hl).1, hpositions,
          fun _ hl => (of_mem_bindAll hl).2⟩

/-- Nothing is heard while the session is stopped. -/
theorem receive_of_stopped (h : s.IsStopped settings) (position : Nat) (arrival : Arrival) :
    (s.receive position arrival).2 = s := by
  rw [receive, h.endpoints, hear]

theorem Remembers.receive (h : s.Remembers queued) (hs : s.IsSettled settings) (position : Nat)
    (arrival : Arrival) : (s.receive position arrival).2.Remembers queued := by
  rcases hs.phase with hp | hp
  · rw [receive_of_stopped (hs.isStopped hp)]
    exact h
  · have hheard := hears_receive (hs.discovery hp) h.bound ⟨position, arrival⟩
    exact hheard.remembers h

theorem Remembers.undergo (h : s.Remembers queued) (hs : s.IsSettled settings) (network : Network)
    (incident : Incident) : (undergo network s incident).Remembers
      (if incident.restarts then [] else queued) := by
  cases incident with
  | receive position arrival => exact h.receive hs position arrival
  | stop => exact h.stop hs []
  | start => exact h.start hs network

theorem Remembers.foldl_undergo (h : s.Remembers queued) (hs : s.IsSettled settings)
    (network : Network) (incidents : List Incident) :
    (incidents.foldl (Session.undergo network) s).Remembers
      (if incidents.any Incident.restarts then [] else queued) := by
  induction incidents generalizing s queued with
  | nil => exact h
  | cons incident incidents ih =>
    have hrest := ih (h.undergo hs network incident) (hs.undergo network incident)
    rw [List.foldl_cons, List.any_cons]
    cases hrestarts : incident.restarts with
    | false => simpa [hrestarts] using hrest
    | true =>
      rw [hrestarts, if_pos rfl, ite_self] at hrest
      exact hrest

theorem IsSettled.registered (h : s.IsSettled settings) (call : Call) :
    (s.registered call).IsSettled settings := by
  rw [registered_eq]
  exact h.of_keepsLife (keepsLife_roster s _)

/-- The list beside a query: its request comes last, unless the session was stopped meanwhile. -/
theorem Remembers.waited (h : s.Remembers queued) (hs : s.IsSettled settings) (network : Network)
    (now : Nat) (call : Call) (patience? : Option Nat) :
    (s.waited network now call patience?).2.2.Remembers
      (s.queuedInTurn queued network now call) := by
  have hregistered := hs.registered call
  have hasked : (s.asked network now call).2.Remembers (queued ++ (s.meant call).packets) :=
    (queues_ask _ network now _ _).remembers (h.registered call) hregistered
  have hsettled : (s.asked network now call).2.IsSettled settings :=
    hregistered.of_keepsLife (keepsLife_ask _ network now _ _)
  have hwaited := hasked.foldl_undergo hsettled network call.incidents
  rw [Session.waited, queuedInTurn]
  generalize s.asked network now call = o at hasked hwaited
  obtain ⟨_ | _, s'⟩ := o
  · exact hasked
  · rw [Session.afterAsk]
    dsimp only
    by_cases hended : ((call.incidents.foldl (Session.undergo network) s').waiting call patience?).2
    · rw [if_pos hended]
      exact hwaited
    · rw [if_neg hended]
      exact hwaited.conclude _

theorem Remembers.takeTurn (h : s.Remembers queued) (hs : s.IsSettled settings)
    (network : Network) (now : Nat) (call : Call) (patience? : Option Nat) :
    (s.takeTurn network now call patience?).2.2.Remembers
      (s.queuedInTurn queued network now call) := by
  rw [takeTurn_eq]
  exact (h.waited hs network now call patience?).released s call

theorem Remembers.act (h : s.Remembers queued) (hs : s.IsSettled settings) (action : Action) :
    (s.act action).Remembers (s.queuedAfterAction queued action) := by
  cases action with
  | start network => exact h.start hs network
  | stop => exact h.stop hs []
  | query network call =>
    rw [Session.act, Session.query, queuedAfterAction]
    by_cases hp : s.phase = .running
    · rw [if_pos hp, if_pos hp]
      exact h.takeTurn hs network 0 call call.abandonedAfter?
    · rw [if_neg hp, if_neg hp]
      exact h
  | announce network m =>
    rw [Session.act, queuedAfterAction]
    by_cases hp : s.phase = .running
    · rw [if_pos hp]
      exact (queues_announce hp (hs.discovery hp) network m).remembers h hs
    · rw [announce, if_neg hp, if_neg hp]
      exact h
  | addHandler handler => exact ⟨h.recent, h.outgoing, h.bound⟩
  | removeHandler id => exact ⟨h.recent, h.outgoing, h.bound⟩
  | receive position arrival => exact h.receive hs position arrival

/-- The list beside two queries that take turns. -/
theorem Remembers.queryBoth (h : s.Remembers queued) (hs : s.IsSettled settings)
    (network : Network) (first second : Call) :
    (s.queryBoth network first second).2.IsSettled settings ∧
      (s.queryBoth network first second).2.Remembers
        (s.queuedAfterBoth queued network first second) := by
  unfold Session.queryBoth queuedAfterBoth
  by_cases hp : s.phase = .running
  · rw [if_pos hp, if_pos hp]
    have hsettled := hs.takeTurn network 0 first first.abandonedAfter?
    have hfirst := h.takeTurn hs network 0 first first.abandonedAfter?
    generalize s.takeTurn network 0 first first.abandonedAfter? = turn at hsettled hfirst
    obtain ⟨answer, later, s'⟩ := turn
    rcases second.abandonedAfter? with _ | patience
    · exact ⟨hsettled.takeTurn network later second none,
        hfirst.takeTurn hsettled network later second none⟩
    · dsimp only
      by_cases hleft : patience < later
      · rw [if_pos hleft, if_pos hleft]
        exact ⟨hsettled, hfirst⟩
      · rw [if_neg hleft, if_neg hleft]
        exact ⟨hsettled.takeTurn network later second _,
          hfirst.takeTurn hsettled network later second _⟩
  · rw [if_neg hp, if_neg hp]
    exact ⟨hs, h⟩

theorem Remembers.pass (h : s.Remembers queued) (hs : s.IsSettled settings) (episode : Episode) :
    (s.pass episode).IsSettled settings ∧
      (s.pass episode).Remembers (s.queuedAfter queued episode) := by
  cases episode with
  | single action => exact ⟨hs.act action, h.act hs action⟩
  | queries network first second => exact h.queryBoth hs network first second

theorem Remembers.passAll (h : s.Remembers queued) (hs : s.IsSettled settings)
    (episodes : List Episode) : (s.passAll episodes).IsSettled settings ∧
      (s.passAll episodes).Remembers (s.queuedBy queued episodes) := by
  induction episodes generalizing s queued with
  | nil => exact ⟨hs, h⟩
  | cons episode episodes ih =>
    obtain ⟨hsettled, hremembers⟩ := h.pass hs episode
    exact ih hremembers hsettled

/-- **Whatever is called, a running session remembers the last sixteen datagrams that it has queued
since it was started.** -/
theorem remembers_passAll (settings : Settings) (episodes : List Episode) :
    (passAll { settings } episodes).IsSettled settings ∧
      (passAll { settings } episodes).Remembers (queuedBy { settings } [] episodes) := by
  have hnew : IsStopped settings { settings } := ⟨rfl, rfl, rfl⟩
  have hempty : Remembers [] { settings } := remembers_of_stopped rfl rfl rfl []
  exact hempty.passAll hnew.isSettled episodes

/-! ### A session -/

/-- Settings with one interface. -/
def wiredSettings : Settings := { interfaces := some [⟨"eth0", 2, .v4 ⟨10, 0, 0, 2⟩⟩] }

/-- A network on which everything works. -/
def wiredNetwork : Network := { binds := fun _ => true, sends := fun _ => .ok () }

end Session

end ServiceDiscovery
