import ServiceDiscovery.Proofs.Session.Queued

/-!
# Queries that are interrupted

A session can be stopped and started while a query waits. The query then belongs to a discovery that
is over: what had been found for it is gone, and nothing more is found. If the session was only
stopped, the query fails; if it was started again, the query gives no services, as if nothing had
been found.

* `Session.discovers`: the services that are found for a query while it waits;
* `Awaits`, `IsIdle`: a session with a query that goes on, and one whose query is over;
  `Awaits.foldl`: what they become by all that happens;
* `answers_discovered_iff`: when a query gives all that was found for it.
-/

namespace ServiceDiscovery

def Event.service? : Event → Option Service
  | .discovered service => some service
  | .finished _ => none

deriving instance DecidableEq for Answer

namespace Discovery

variable {d : Discovery}

theorem filterMap_emits_receive (hd : ¬d.closed) (m : Message) :
    (d.emits (.receive m)).filterMap Event.service? = d.catalog.news (d.servicesOf m) := by
  have hd' : ¬d.withoutEvents.closed := hd
  rw [emits, after_receive hd', collect_eq]
  have hnone : d.withoutEvents.events = [] := rfl
  rw [hnone, List.nil_append, List.filterMap_map]
  exact List.filterMap_some ..

/-- Nothing is discovered while nothing is asked for. -/
theorem emits_receive_of_pending_eq_none (hd : d.pending = none) (m : Message) :
    d.emits (.receive m) = [] := by
  by_cases hclosed : d.closed
  · have hclosed' : d.withoutEvents.closed := hclosed
    rw [emits, after, perform, receive, if_pos hclosed']
    rfl
  · have hclosed' : ¬d.withoutEvents.closed := hclosed
    have hnone : d.withoutEvents.pending = none := hd
    rw [emits, after_receive hclosed', collect_eq, servicesOf_of_pending_eq_none hnone]
    rfl

end Discovery

namespace Session

variable {s : Session} {network : Network} {call : Call} {found : List Service}

/-! ### What is found -/

/-- The services that are discovered through an incident. -/
def discoversIn (s : Session) : Incident → List Service
  | .receive position arrival =>
    match hear position arrival s.endpoints with
    | some (some m, _) => (s.discovery.emits (.receive m)).filterMap Event.service?
    | _ => []
  | .stop | .start => []

/-- The services that are discovered through all that happens. -/
def discovers (s : Session) (network : Network) : List Incident → List Service
  | [] => []
  | incident :: incidents =>
    s.discoversIn incident ++ (undergo network s incident).discovers network incidents

/-! ### A query that goes on -/

/-- A running session that has found certain services for the query that waits. -/
structure Awaits (found : List Service) (s : Session) : Prop where
  phase : s.phase = .running
  opened : ¬s.discovery.closed
  catalog : s.discovery.catalog.services = found

theorem Awaits.receive (h : s.Awaits found) (position : Nat) (arrival : Arrival) :
    (s.receive position arrival).2.Awaits
      (found ++ s.discoversIn (.receive position arrival)) := by
  dsimp only [Session.receive, discoversIn]
  rcases hear position arrival s.endpoints with _ | ⟨_ | m, endpoints⟩
  · rw [List.append_nil]
    exact h
  · rw [List.append_nil]
    exact ⟨h.phase, h.opened, h.catalog⟩
  · have hreceive : (s.discovery.receive m).2 = s.discovery.collect m :=
      Discovery.after_receive h.opened m
    dsimp only [process]
    rw [Discovery.filterMap_emits_receive h.opened, hreceive, Discovery.collect_eq]
    refine ⟨h.phase, h.opened, ?_⟩
    have hservices := Catalog.services_insertAll s.discovery.catalog (s.discovery.servicesOf m)
    rw [h.catalog] at hservices
    exact hservices

/-! ### A query that is over -/

/-- A session that asks for nothing and has found nothing. -/
structure IsIdle (s : Session) : Prop where
  pending : s.discovery.pending = none
  catalog : s.discovery.catalog = {}

theorem IsIdle.discoversIn (h : s.IsIdle) (incident : Incident) : s.discoversIn incident = [] := by
  cases incident with
  | receive position arrival =>
    dsimp only [Session.discoversIn]
    rcases hear position arrival s.endpoints with _ | ⟨_ | m, endpoints⟩
    · rfl
    · rfl
    · dsimp only
      rw [Discovery.emits_receive_of_pending_eq_none h.pending, List.filterMap_nil]
  | stop => rfl
  | start => rfl

theorem IsIdle.receive (h : s.IsIdle) (position : Nat) (arrival : Arrival) :
    (s.receive position arrival).2.IsIdle := by
  unfold Session.receive
  rcases hear position arrival s.endpoints with _ | ⟨_ | m, endpoints⟩
  · exact h
  · exact ⟨h.pending, h.catalog⟩
  · dsimp only [process]
    by_cases hd : s.discovery.closed
    · rw [Discovery.receive, if_pos hd]
      exact ⟨h.pending, h.catalog⟩
    · rw [Discovery.receive, if_neg hd, Discovery.collect_eq,
        Discovery.servicesOf_of_pending_eq_none h.pending]
      exact ⟨h.pending, h.catalog⟩

theorem isIdle_endStop (h : s.IsIdle ∨ ¬s.discovery.closed) : s.endStop.IsIdle := by
  unfold endStop Discovery.close
  by_cases hd : s.discovery.closed
  · have hidle := h.resolve_right (not_not_intro hd)
    rw [if_pos hd]
    exact ⟨hidle.pending, hidle.catalog⟩
  · rw [if_neg hd]
    exact ⟨rfl, rfl⟩

/-- A stop ends the query. -/
theorem isIdle_stop (h : s.IsIdle ∨ s.phase = .running ∧ ¬s.discovery.closed) :
    s.stop.IsIdle := by
  unfold Session.stop
  by_cases hp : s.phase = .stopped
  · rw [if_pos hp]
    rcases h with h | ⟨hrunning, -⟩
    · exact h
    · rw [hp] at hrunning
      cases hrunning
  · rw [if_neg hp, beginStop, if_neg hp]
    refine isIdle_endStop ?_
    rcases h with h | ⟨-, hopen⟩
    · exact .inl ⟨h.pending, h.catalog⟩
    · exact .inr hopen

/-- A start begins with a stop and, if it comes that far, with a new discovery. -/
theorem isIdle_start (h : s.stop.IsIdle) (network : Network) : (s.start network).2.IsIdle := by
  rw [Session.start, renew]
  split_ifs
  · exact ⟨h.pending, h.catalog⟩
  · rcases Endpoint.offered s.stop.beginStart.settings network with e | interfaces
    · exact ⟨h.pending, h.catalog⟩
    · dsimp only [bind]
      split_ifs <;> exact ⟨rfl, rfl⟩

theorem IsIdle.undergo (h : s.IsIdle) (network : Network) (incident : Incident) :
    (undergo network s incident).IsIdle := by
  have hstop := isIdle_stop (.inl h)
  cases incident with
  | receive position arrival => exact h.receive position arrival
  | stop => exact hstop
  | start => exact isIdle_start hstop network

/-! ### All that happens -/

theorem IsIdle.foldl (h : s.IsIdle) (network : Network) (incidents : List Incident) :
    (incidents.foldl (Session.undergo network) s).IsIdle ∧ s.discovers network incidents = [] := by
  induction incidents generalizing s with
  | nil => exact ⟨h, rfl⟩
  | cons incident incidents ih =>
    obtain ⟨hidle, hrest⟩ := ih (h.undergo network incident)
    refine ⟨hidle, ?_⟩
    rw [discovers, h.discoversIn, hrest]
    rfl

/-- **A query goes on as long as the session is neither stopped nor started.** -/
theorem Awaits.foldl (h : s.Awaits found) (network : Network) (incidents : List Incident) :
    if incidents.any Incident.restarts then
      (incidents.foldl (Session.undergo network) s).IsIdle
    else (incidents.foldl (Session.undergo network) s).Awaits
      (found ++ s.discovers network incidents) := by
  induction incidents generalizing s found with
  | nil =>
    rw [discovers, List.append_nil]
    exact h
  | cons incident incidents ih =>
    have hstop : s.stop.IsIdle := isIdle_stop (.inr ⟨h.phase, h.opened⟩)
    rw [List.any_cons, List.foldl_cons]
    cases incident with
    | receive position arrival =>
      have hrest := ih (h.receive position arrival)
      rw [List.append_assoc] at hrest
      exact hrest
    | stop => exact (hstop.foldl network incidents).1
    | start => exact ((isIdle_start hstop network).foldl network incidents).1

/-! ### Answers -/

/-- A request that was sent makes the session wait for answers to it. -/
theorem awaits_asked {s' : Session} (hp : s.phase = .running)
    (hasked : s.asked network 0 call = (.ok (), s')) : s'.Awaits [] := by
  obtain ⟨request, bytes, -, -, hasks⟩ := exists_asks hasked
  refine ⟨?_, hasks.opened, congrArg Catalog.services hasks.catalog⟩
  rw [hasks.phase, registered_eq]
  exact hp

/-- A query ends with what the catalog lists. -/
theorem services_of_conclude {now : Nat} {list : List Service}
    (h : (s.conclude now).1 = .services list) : list = s.discovery.catalog.services := by
  by_cases hd : s.discovery.closed
  · rw [conclude_of_closed hd] at h
    cases h
  · rw [conclude_of_open hd] at h
    cases h
    rfl

/-- What a query finds while it waits. -/
def discovered (s : Session) (network : Network) (call : Call) : List Service :=
  (s.asked network 0 call).2.discovers network call.incidents

/-- **A query gives all that was found for it, or nothing if the session was started anew.** -/
theorem answer_eq (hp : s.phase = .running) {list : List Service}
    (h : (s.query network call).1 = .services list) :
    list = if call.incidents.any Incident.restarts then [] else s.discovered network call := by
  rw [query_eq hp] at h
  unfold waited at h
  rcases hasked : s.asked network 0 call with ⟨e | _, s'⟩
  · rw [hasked] at h
    cases h
  · have hwaited := (awaits_asked hp hasked).foldl network call.incidents
    rw [hasked, afterAsk] at h
    dsimp only at h
    -- Where nobody waits for the query any more, it gives no services.
    split_ifs at h
    rw [services_of_conclude h, discovered, hasked]
    split_ifs at hwaited ⊢
    · rw [hwaited.catalog]
    · rw [hwaited.catalog, List.nil_append]

/-- **A query gives all that was found for it if and only if the session was not started anew, or
nothing had been found.** -/
theorem answers_discovered_iff (hp : s.phase = .running) {list : List Service}
    (h : (s.query network call).1 = .services list) :
    (∀ x ∈ s.discovered network call, ∃ y ∈ list, y.same x) ↔
      (∀ incident ∈ call.incidents, ¬incident.restarts) ∨ s.discovered network call = [] := by
  have hlist := answer_eq hp h
  by_cases hrestarts : call.incidents.any Incident.restarts
  · rw [if_pos hrestarts] at hlist
    have hnot : ¬∀ incident ∈ call.incidents, ¬incident.restarts := by
      obtain ⟨incident, hmem, hincident⟩ := List.any_eq_true.1 hrestarts
      exact fun hall => hall incident hmem hincident
    rw [hlist, or_iff_right hnot, List.eq_nil_iff_forall_not_mem]
    refine forall₂_congr fun x _ => iff_false_intro ?_
    rintro ⟨y, hy, -⟩
    exact List.not_mem_nil hy
  · rw [if_neg hrestarts] at hlist
    have hall : ∀ incident ∈ call.incidents, ¬incident.restarts := by
      intro incident hmem hincident
      exact hrestarts (List.any_eq_true.2 ⟨incident, hmem, hincident⟩)
    refine iff_of_true (fun x hx => ⟨x, ?_, Service.same_iff.2 rfl⟩) (.inl hall)
    rw [hlist]
    exact hx

/-- A query for web services; one is found, and then something else happens. -/
def interruptedCall (incidents : List Incident) : Call where
  query := { services := ["_http._tcp"] }
  incidents := .receive 0 (.datagram (Discovery.webResponse "Web").wire (.v4 ⟨10, 0, 0, 9⟩ 5353))
    :: incidents

/-- Without interruption the query gives the service that was found. -/
theorem answers_discovered_iff_interruptedCall :
    let s := run { settings := wiredSettings } [.start wiredNetwork]
    let found := s.discovered wiredNetwork (interruptedCall [])
    s.phase = .running ∧ (s.query wiredNetwork (interruptedCall [])).1 = .services found ∧
      ((∀ x ∈ found, ∃ y ∈ found, y.same x) ↔
        (∀ incident ∈ (interruptedCall []).incidents, ¬incident.restarts) ∨ found = []) ∧
      found.map Service.name = ["Web._http._tcp.local"] := by
  intro s found
  have hp : s.phase = .running := by decide +kernel
  have hfound : (s.query wiredNetwork (interruptedCall [])).1 = .services found ∧
      found.map Service.name = ["Web._http._tcp.local"] := by decide +kernel
  exact ⟨hp, hfound.1, answers_discovered_iff hp hfound.1, hfound.2⟩

/-- **A query loses the service that was found for it when the session is started anew, and says
nothing of that.** When the session is only stopped, the query fails. -/
theorem loses_discovered_on_start :
    let s := run { settings := wiredSettings } [.start wiredNetwork]
    s.phase = .running ∧ (s.query wiredNetwork (interruptedCall [.start])).1 = .services [] ∧
      (∃ x ∈ s.discovered wiredNetwork (interruptedCall [.start]),
        ¬∃ y ∈ ([] : List Service), y.same x) ∧
      (s.query wiredNetwork (interruptedCall [.stop])).1 = .failed .closed := by
  intro s
  have hp : s.phase = .running := by decide +kernel
  obtain ⟨hanswer, hfound, hstopped⟩ :
      (s.query wiredNetwork (interruptedCall [.start])).1 = .services [] ∧
        s.discovered wiredNetwork (interruptedCall [.start]) ≠ [] ∧
        (s.query wiredNetwork (interruptedCall [.stop])).1 = .failed .closed := by decide +kernel
  obtain ⟨x, hx⟩ := List.exists_mem_of_ne_nil _ hfound
  refine ⟨hp, hanswer, ⟨x, hx, ?_⟩, hstopped⟩
  rintro ⟨y, hy, -⟩
  exact List.not_mem_nil hy

end Session

end ServiceDiscovery
