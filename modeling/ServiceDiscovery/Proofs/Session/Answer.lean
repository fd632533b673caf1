import ServiceDiscovery.Proofs.Session.Sending

/-!
# What a query of a session gives

While a query waits, packets arrive. It gives the services of those that answer its request and are
none of the session's own last datagrams, each service where it was first seen. Every handler is
called once for each packet that can be parsed, and the handler of the query is gone in the end.

* `Catalog.services_insertAll_eq`: a catalog removes repetitions and keeps what comes first;
* `answering`, `flatMap_servicesOf`: the packets that count, and what is taken from them;
* `exists_ask_eq_ok`: a request that gets out somewhere;
* `Yields`, `yields_query`: a query of a session that remembers certain datagrams;
* `yields_query_passAll`: a query after all that a session can go through.
-/

namespace ServiceDiscovery

/-! ### Catalogs -/

theorem Service.same_comm (s s' : Service) : s.same s' = s'.same s := by
  rw [Bool.eq_iff_iff, same_iff, same_iff, eq_comm]

/-- The search for repetitions keeps what it has found in reverse. -/
theorem Catalog.loop_eq (found ss : List Service) :
    List.eraseDupsBy.loop Service.same ss found =
      (insertAll ⟨found.reverse⟩ ss).services := by
  induction ss generalizing found with
  | nil => rfl
  | cons s ss ih =>
    have hknown : contains ⟨found.reverse⟩ s = found.any (Service.same s) := by
      rw [contains, List.any_reverse]
      congr 1
      funext s'
      exact Service.same_comm s' s
    have hstep : insertAll ⟨found.reverse⟩ (s :: ss) =
      (insert ⟨found.reverse⟩ s).insertAll ss := rfl
    rw [List.eraseDupsBy.loop, hstep, insert, hknown]
    cases found.any (Service.same s) with
    | true => exact ih found
    | false =>
      have hnext := ih (s :: found)
      rw [List.reverse_cons] at hnext
      exact hnext

/-- **A catalog lists services without repetition, each where it comes first.** -/
theorem Catalog.services_insertAll_eq (ss : List Service) :
    (insertAll {} ss).services = ss.eraseDupsBy Service.same := (loop_eq [] ss).symm

/-! ### Answers -/

/-- The answers to a request among packets, apart from those with the bytes of own datagrams. -/
def answering (request : Message) (own : List Bytes) (packets : List Packet) : List Message :=
  ((packets.filter fun p => p.bytes ∉ own).filterMap Packet.message?).filter
    fun m => m.isAnswerTo request

namespace Discovery

variable {d : Discovery} {request : Message} {deadline : Nat}

/-- A message that was read of a packet is of use if the packet was not sent from here and answers
what is asked. -/
theorem servicesOf_of_message? (hpending : d.pending = some ⟨request, deadline⟩) {p : Packet}
    {m : Message} (h : p.message? = some m) : d.servicesOf m =
      if p.bytes ∉ d.recent ∧ m.isAnswerTo request then Service.requested request m else [] := by
  have hread : Message.decodeFrom p.bytes p.sender = .ok m := by
    rw [Packet.message?] at h
    cases hdecode : Message.decodeFrom p.bytes p.sender with
    | error e =>
      rw [hdecode] at h
      cases h
    | ok m' =>
      rw [hdecode] at h
      cases h
      rfl
  have hown : d.isOwn m = d.recent.contains p.bytes := by
    rw [isOwn, encode_of_decodeFrom hread]
  unfold servicesOf
  rw [hown, hpending]
  by_cases hmem : p.bytes ∈ d.recent
  · simp [hmem]
  · by_cases hanswer : m.isAnswerTo request
    · have hresponse : m.isResponse := by
        rw [Message.isAnswerTo, Bool.and_eq_true, Bool.and_eq_true] at hanswer
        exact hanswer.1.1
      simp [hmem, hresponse, hanswer]
    · simp [hmem, hanswer]

/-- **What is taken from packets is what their answers hold of the services that are asked for.** -/
theorem flatMap_servicesOf (hpending : d.pending = some ⟨request, deadline⟩)
    (packets : List Packet) : (packets.filterMap Packet.message?).flatMap d.servicesOf =
      (answering request d.recent packets).flatMap (Service.requested request) := by
  induction packets with
  | nil => rfl
  | cons p packets ih =>
    unfold answering at ih ⊢
    rw [List.filter_cons]
    cases h : p.message? with
    | none =>
      rw [List.filterMap_cons_none h, ih]
      split_ifs
      · rw [List.filterMap_cons_none h]
      · rfl
    | some m =>
      rw [List.filterMap_cons_some h, List.flatMap_cons, ih, servicesOf_of_message? hpending h]
      by_cases hmem : p.bytes ∈ d.recent
      · simp [hmem]
      · by_cases hanswer : m.isAnswerTo request
        · simp [hmem, List.filterMap_cons_some h, hanswer]
        · simp [hmem, List.filterMap_cons_some h, hanswer]

end Discovery

namespace Session

variable {s s' : Session} {network : Network} {call : Call} {request : Message} {bytes : Bytes}

/-! ### Requests that get out -/

/-- A datagram that gets out somewhere is sent. -/
theorem outcome_of_sent {endpoints : List Endpoint}
    (h : ∃ l ∈ endpoints, network.sends l.position = .ok ()) (bytes : Bytes) :
    Endpoint.outcome ((Endpoint.attempts network endpoints bytes).map (·.2)) = .ok () := by
  obtain ⟨l, hl, hsent⟩ := h
  rw [Endpoint.outcome_eq_ok_iff, Endpoint.map_snd_attempts, List.mem_map]
  exact ⟨l, hl, hsent⟩

/-- **A request that gets out somewhere is sent.** -/
theorem exists_ask_eq_ok (hd : ¬s.discovery.closed) (houtgoing : s.discovery.outgoing = [])
    {q : Query} (hrequest : q.request = .ok request) (hbytes : request.encode = .ok bytes)
    (hsent : ∃ l ∈ s.endpoints, network.sends l.position = .ok ()) (now timeout : Nat) :
    ∃ s', s.ask network now timeout q = (.ok (), s') := by
  have hne : s.endpoints ≠ [] := by
    obtain ⟨l, hl, -⟩ := hsent
    exact List.ne_nil_of_mem hl
  obtain ⟨s', hask, -⟩ := exists_ask_eq hd houtgoing hrequest hbytes hne network now timeout
  rw [outcome_of_sent hsent] at hask
  exact ⟨s', hask⟩

/-- How long a call takes depends on the settings only. -/
theorem waiting_eq (h : s'.settings = s.settings) (call : Call) (patience? : Option Nat) :
    s'.waiting call patience? = s.waiting call patience? := by
  unfold waiting timeout
  rw [h]

/-! ### Whole queries -/

/-- What a query of a session gives when certain packets are read while it waits, and what becomes
of the handlers. -/
structure Yields (s : Session) (call : Call) (request : Message) (own : List Bytes)
    (packets : List Packet) (o : Answer × Session) : Prop where
  answer : o.1 = .services
    (((answering request own packets).flatMap (Service.requested request)).eraseDupsBy Service.same)
  /-- The handlers do what they do when they are shown the messages one after another. -/
  notes : o.2.activity.notes = s.activity.notes ++
    ((s.registered call).roster.showEach (packets.filterMap Packet.message?)).1
  /-- Every handler that is registered by then is called once with each message, in order. -/
  calls : o.2.activity.notes.filter Note.isSeen = s.activity.notes.filter Note.isSeen ++
    (s.registered call).roster.calls (packets.filterMap Packet.message?)
  /-- The same, where handlers leave the registrations as they are. -/
  plain : (∀ e ∈ (s.registered call).roster.entries, e.2.isPlain) →
    o.2.activity.notes = s.activity.notes ++ (packets.filterMap Packet.message?).flatMap fun m =>
      (s.registered call).roster.entries.map fun e => e.2.sees m
  /-- Of what the handlers leave, only the registration of the query is taken away. -/
  registrations : ∀ e, e ∈ o.2.roster.entries ↔
    e ∈ ((s.registered call).roster.showEach (packets.filterMap Packet.message?)).2.entries ∧
      (call.handler?.isSome → e.1 ≠ s.roster.last + 1)

/-- The request of a call gets out, and its handler is registered by then. -/
theorem exists_asks_asked (hd : ¬s.discovery.closed) {queued : List Bytes}
    (hs : s.Remembers queued) (hrequest : (s.meant call).request = .ok request)
    (hbytes : request.encode = .ok bytes)
    (hsent : ∃ l ∈ s.endpoints, network.sends l.position = .ok ()) :
    ∃ s₁, s.asked network 0 call = (.ok (), s₁) ∧
      Asks { s with roster := (s.registered call).roster } request bytes (s.timeout call) s₁ := by
  obtain ⟨s₁, hask⟩ := exists_ask_eq_ok (s := { s with roster := (s.registered call).roster }) hd
    hs.outgoing hrequest hbytes hsent 0 (s.timeout call)
  obtain ⟨request', bytes', hrequest', hbytes', hasks⟩ := exists_asks hask
  rw [hrequest] at hrequest'
  cases hrequest'
  rw [hbytes] at hbytes'
  cases hbytes'
  rw [Nat.zero_add] at hasks
  rw [← registered_eq] at hask
  exact ⟨s₁, hask, hasks⟩

/-- The end of a call that is not abandoned. -/
theorem exists_waited_eq {s₁ : Session} (hasked : s.asked network 0 call = (.ok (), s₁))
    (hsettings : (call.incidents.foldl (undergo network) s₁).settings = s.settings)
    (hd : ¬(call.incidents.foldl (undergo network) s₁).discovery.closed)
    (hends : ¬(s.waiting call call.abandonedAfter?).2) :
    ∃ time discovery, s.waited network 0 call call.abandonedAfter? =
      (.services (call.incidents.foldl (undergo network) s₁).discovery.catalog.services, time,
        { call.incidents.foldl (undergo network) s₁ with discovery }) := by
  rw [waited, hasked, afterAsk]
  dsimp only
  rw [waiting_eq hsettings, if_neg hends]
  rw [conclude_of_open hd]
  exact ⟨_, _, rfl⟩

theorem mem_released {e : Nat × Handler} : e ∈ (s.released call s').roster.entries ↔
    e ∈ s'.roster.entries ∧ (call.handler?.isSome → e.1 ≠ s.roster.last + 1) := by
  unfold released
  cases call.handler? with
  | none => simp
  | some handler => simp [removeHandler, Roster.remove]

/-- **A query gives the services of the answers that it gets.** -/
theorem yields_query (hp : s.phase = .running) (hd : ¬s.discovery.closed)
    {queued : List Bytes} (hs : s.Remembers queued)
    (hrequest : (s.meant call).request = .ok request) (hbytes : request.encode = .ok bytes)
    (hsent : ∃ l ∈ s.endpoints, network.sends l.position = .ok ()) (xs : List Delivery)
    (hincidents : call.incidents = xs.map Delivery.incident)
    (hends : ¬(s.waiting call call.abandonedAfter?).2) :
    s.Yields call request ((queued ++ [bytes]).rtake Discovery.maxRecent) (s.packets xs)
      (s.query network call) := by
  rw [query_eq hp]
  obtain ⟨s₁, hasked, hasks⟩ := exists_asks_asked hd hs hrequest hbytes hsent
  have hsettings : s₁.settings = s.settings := hasks.settings
  have hroster : s₁.roster = (s.registered call).roster := hasks.roster
  have hkept : s₁.activity.notes = s.activity.notes := hasks.notes
  have hbare : s₁.endpoints.map Endpoint.bare = s.endpoints.map Endpoint.bare := by
    rw [hasks.endpoints]
  have hheard := hears_foldl hasks.opened (isBound_of_eq hsettings hbare hs.bound) network xs
  rw [← hincidents, heard, packets_eq hsettings hbare] at hheard
  obtain ⟨time, discovery, hwaited⟩ := exists_waited_eq hasked (hheard.settings.trans hsettings)
    (by rw [hheard.discovery.closed]; exact hasks.opened) hends
  have hnotes : (s.released call
      (s.waited network 0 call call.abandonedAfter?).2.2).activity.notes = s.activity.notes ++
        ((s.registered call).roster.showEach ((s.packets xs).filterMap Packet.message?)).1 := by
    rw [released_eq, hwaited]
    dsimp only
    rw [hheard.notes, hkept, hroster]
  refine ⟨?_, hnotes, ?_, fun hplain => ?_, fun e => ?_⟩
  · have hrecent : s₁.discovery.recent = (queued ++ [bytes]).rtake Discovery.maxRecent := by
      rw [hasks.recent, ← Discovery.remember_rtake, ← hs.recent hp]
    rw [hwaited]
    dsimp only
    rw [hheard.catalog, hasks.catalog, Catalog.services_insertAll_eq,
      Discovery.flatMap_servicesOf hasks.pending, hrecent]
  · rw [hnotes, List.filter_append, Roster.filter_isSeen_showEach]
  · rw [hnotes, Roster.showEach_of_isPlain hplain]
  · rw [mem_released, hwaited]
    dsimp only
    rw [hheard.roster, hroster]

/-- **A query of a running session, whatever happened before, gives exactly the services of the
packets that answer its request and are none of the last sixteen datagrams that the session has
queued since it was started.** Each handler is called once for each packet that can be parsed, and
for nothing else; the handler of the query is gone in the end. -/
theorem yields_query_passAll (settings : Settings) (episodes : List Episode)
    (hs : s = passAll { settings } episodes) (hp : s.phase = .running) (network : Network)
    (call : Call) (hrequest : (s.meant call).request = .ok request)
    (hbytes : request.encode = .ok bytes)
    (hsent : ∃ l ∈ s.endpoints, network.sends l.position = .ok ()) (xs : List Delivery)
    (hincidents : call.incidents = xs.map Delivery.incident)
    (hends : ¬(s.waiting call call.abandonedAfter?).2) :
    s.Yields call request ((queuedBy { settings } [] episodes ++ [bytes]).rtake 16) (s.packets xs)
      (s.query network call) := by
  obtain ⟨hsettled, hremembers⟩ := remembers_passAll settings episodes
  rw [← hs] at hsettled hremembers
  exact yields_query hp (hsettled.discovery hp) hremembers hrequest hbytes hsent xs hincidents hends

/-- The session has been started, has a handler and has announced something. -/
def wiredEpisodes : List Episode :=
  [.single (.start wiredNetwork), .single (.addHandler (.mk "log" none none)),
    .single (.announce wiredNetwork (Discovery.webResponse "Own"))]

/-- What reaches the session: its own request and announcement come back, a packet is broken, a web
service answers twice, another one answers on an interface that is not used, and reading fails. -/
def webDeliveries : List Delivery :=
  let other : SocketAddress := .v4 ⟨10, 0, 0, 9⟩ 5353
  [⟨0, .datagram Discovery.webRequest.wire other⟩,
    ⟨0, .datagram (Discovery.webResponse "Own").wire other⟩, ⟨0, .datagram [1, 2, 3] other⟩,
    ⟨0, .datagram (Discovery.webResponse "Web").wire other⟩,
    ⟨1, .datagram (Discovery.webResponse "Other").wire other⟩, ⟨0, .failure⟩,
    ⟨0, .datagram (Discovery.webResponse "Web").wire other⟩]

/-- A query for web services with a handler of its own. -/
def webCall : Call where
  query := { services := ["_http._tcp"] }
  handler? := some (.mk "query" none none)
  incidents := webDeliveries.map Delivery.incident

/-- The query gives the one service that has answered, and both handlers are called four times. -/
theorem yields_query_passAll_webCall :
    let s := passAll { settings := wiredSettings } wiredEpisodes
    let own := [(Discovery.webResponse "Own").wire, Discovery.webRequest.wire]
    s.Yields webCall Discovery.webRequest own (s.packets webDeliveries)
        (s.query wiredNetwork webCall) ∧
      (((answering Discovery.webRequest own (s.packets webDeliveries)).flatMap
        (Service.requested Discovery.webRequest)).eraseDupsBy Service.same).map Service.name =
          ["Web._http._tcp.local"] ∧
      ((s.registered webCall).roster.calls (s.heard webDeliveries)).length = 8 := by
  intro s own
  have hp : s.phase = .running := by decide +kernel
  have hrequest : (s.meant webCall).request = .ok Discovery.webRequest := by decide +kernel
  have hbytes : Discovery.webRequest.encode = .ok Discovery.webRequest.wire := by decide +kernel
  have hsent : ∃ l ∈ s.endpoints, wiredNetwork.sends l.position = .ok () := by decide +kernel
  have hends : ¬(s.waiting webCall webCall.abandonedAfter?).2 := by decide +kernel
  have hown : (queuedBy { settings := wiredSettings } [] wiredEpisodes ++
      [Discovery.webRequest.wire]).rtake 16 = own := by decide +kernel
  have hyields := yields_query_passAll wiredSettings wiredEpisodes rfl hp wiredNetwork webCall
    hrequest hbytes hsent webDeliveries rfl hends
  rw [hown] at hyields
  exact ⟨hyields, by decide +kernel, by decide +kernel⟩

end Session

end ServiceDiscovery
