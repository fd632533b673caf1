import ServiceDiscovery.Proofs.Discovery.Operation

/-!
# Events tell what is found

The events of a run and the services that are listed say the same. From the moment when something is
asked there is one event for each service, in the order of the list, and then at most one for the
end of the query. Nothing is added to the list once the query has ended, in whatever way.

* `handed`, `handed_append_events`: events are handed out in their order;
* `Effect.isDistinct`, `isDistinct_run`: no service is listed twice;
* `Effect.settled`, `run_settled`: without a pending query nothing is found and nothing emitted;
* `Effect.finished`: which operation emits the end of a query;
* `Tells`, `Tells.after`, `Tells.run`: what has been emitted since something was asked;
* `Tells.of_finished_mem`: where the end of a query is emitted, and what follows;
* `TellsOf`, `tellsOf_start`: what is told of a query, up to the next one;
* `IsChronicled`, `isChronicled_run`: all of this for every run until the discovery is closed, and
  what is left of it afterwards.
-/

namespace ServiceDiscovery

namespace Discovery

variable {d d' : Discovery} {op : Operation} {es : List Event} {query : PendingQuery}

/-! ### Handing out -/

/-- The events that an operation hands out. -/
def hands (d : Discovery) : Operation → List Event
  | .nextEvent => d.nextEvent.1.toList
  | _ => []

/-- The events that operations hand out one after another. -/
def handed (d : Discovery) : List Operation → List Event
  | [] => []
  | op :: ops => d.hands op ++ (d.after op).handed ops

theorem toList_nextEvent (d : Discovery) :
    d.nextEvent.1.toList ++ d.events.tail = d.events := by
  unfold nextEvent
  cases d.events <;> rfl

/-- What is handed out is the oldest event, and what is emitted comes last. -/
theorem Effect.hands_append_events (h : d.Effect op es d') :
    d.hands op ++ d'.events = d.events ++ es := by
  cases h with
  | handsEvent => rw [hands, toList_nextEvent, List.append_nil]
  | _ => simp [hands]

/-- **The events that are handed out and those that wait are the ones that waited before and those
that are emitted, in this order.** -/
theorem handed_append_events (hd : ¬d.closed) {ops : List Operation} (hops : .close ∉ ops) :
    d.handed ops ++ (d.run ops).events = d.events ++ d.emitted ops := by
  induction ops generalizing d with
  | nil => exact (List.append_nil _).symm
  | cons op ops ih =>
    obtain ⟨hop, hops⟩ := List.ne_and_not_mem_of_not_mem_cons hops
    have hstep := (effect hd hop.symm).hands_append_events
    have hrest := ih (after_open hd hop.symm) hops
    rw [handed, run_cons, emitted_cons, List.append_assoc, hrest, ← List.append_assoc, hstep,
      List.append_assoc]

/-! ### No service twice -/

theorem Effect.isDistinct (h : d.Effect op es d') (hc : d.catalog.IsDistinct) :
    d'.catalog.IsDistinct := by
  cases h with
  | asks => exact List.Pairwise.nil
  | collects m => exact hc.insertAll _
  | _ => exact hc

theorem isDistinct_run (hd : ¬d.closed) (hc : d.catalog.IsDistinct) {ops : List Operation}
    (hops : .close ∉ ops) : (d.run ops).catalog.IsDistinct :=
  run_induction (motive := fun _ d => d.catalog.IsDistinct) hd hops [] hc
    fun _ _ _ _ _ _ hc heffect => heffect.isDistinct hc

/-! ### Without a pending query -/

/-- What stays as it is while nothing is asked. -/
structure Settled (d : Discovery) (es : List Event) (d' : Discovery) : Prop where
  pending : d'.pending = none
  catalog : d'.catalog = d.catalog
  events : es = []

theorem Effect.settled (h : d.Effect op es d') (hs : ¬op.isStart) (hp : d.pending = none) :
    d.Settled es d' := by
  cases h with
  | asks => exact absurd rfl hs
  | collects m =>
    rw [servicesOf_of_pending_eq_none hp]
    exact ⟨hp, rfl, rfl⟩
  | ends query now hq =>
    rw [hp] at hq
    cases hq
  | finishes => exact ⟨rfl, rfl, rfl⟩
  | _ => exact ⟨hp, rfl, rfl⟩

theorem Settled.trans {d'' : Discovery} {es' : List Event} (h : d.Settled es d')
    (h' : d'.Settled es' d'') : d.Settled (es ++ es') d'' := by
  refine ⟨h'.pending, h'.catalog.trans h.catalog, ?_⟩
  rw [h.events, h'.events, List.append_nil]

/-- **Once no query is pending, nothing is found and nothing emitted until something is asked.** -/
theorem run_settled (hd : ¬d.closed) (hp : d.pending = none) {ops : List Operation}
    (hops : .close ∉ ops) (hs : ∀ op ∈ ops, ¬op.isStart) :
    d.Settled (d.emitted ops) (d.run ops) := by
  have hrefl : d.Settled [] d := ⟨hp, rfl, rfl⟩
  refine run_induction hd hops [] hrefl ?_
  intro op hop es es' d' d'' h heffect
  exact h.trans (heffect.settled (hs op hop) h.pending)

/-! ### While a query is pending and afterwards -/

/-- **The end of a query is emitted only when its time is over and it is still pending**, and it is
not pending any more then. -/
theorem Effect.finished {n : Nat} (h : d.Effect op es d') (hn : .finished n ∈ es) :
    ∃ query now, op = .expire now ∧ d.pending = some query ∧ query.deadline ≤ now ∧
      n = d.catalog.size ∧ d'.pending = none ∧ d'.catalog = d.catalog := by
  cases h with
  | collects m =>
    obtain ⟨s, -, hs⟩ := List.mem_map.1 hn
    cases hs
  | ends query now hp hdeadline =>
    cases List.mem_singleton.1 hn
    exact ⟨query, now, rfl, hp, hdeadline, rfl, rfl, rfl⟩
  | _ => exact absurd hn List.not_mem_nil

/-- What has been emitted since a query was asked, and the state at this time: one event for each
service and then, if the query has ended by itself, one for the end. -/
inductive Tells (query : PendingQuery) (es : List Event) (d : Discovery) : Prop
  | services (he : es = d.catalog.services.map .discovered)
      (hp : d.pending = some query ∨ d.pending = none)
  | finished (he : es = d.catalog.services.map .discovered ++ [.finished d.catalog.size])
      (hp : d.pending = none)

theorem Tells.pending (h : Tells query es d) : d.pending = some query ∨ d.pending = none := by
  cases h with
  | services he hp => exact hp
  | finished he hp => exact .inr hp

theorem Tells.of_settled {es' : List Event} (h : Tells query es d) (hs : d.Settled es' d') :
    Tells query (es ++ es') d' := by
  obtain ⟨hp, hc, rfl⟩ := hs
  rw [List.append_nil]
  cases h with
  | services he => exact .services (hc ▸ he) (.inr hp)
  | finished he => exact .finished (hc ▸ he) hp

theorem Tells.after {es' : List Event} (h : Tells query es d) (heffect : d.Effect op es' d')
    (hs : ¬op.isStart) : Tells query (es ++ es') d' := by
  by_cases hp : d.pending = none
  · exact h.of_settled (heffect.settled hs hp)
  · -- The query is pending, so its end has not been emitted.
    have hq : d.pending = some query := h.pending.resolve_right hp
    cases h with
    | finished he hp' => exact absurd hp' hp
    | services he =>
      cases heffect with
      | asks => exact absurd rfl hs
      | collects m =>
        refine .services ?_ (.inl hq)
        rw [he, Catalog.services_insertAll, List.map_append]
      | ends => exact .finished (congrArg (· ++ _) he) rfl
      | finishes => exact .services ((List.append_nil es).trans he) (.inr rfl)
      | _ => exact .services ((List.append_nil es).trans he) (.inl hq)

theorem Tells.run (h : Tells query es d) (hd : ¬d.closed) {ops : List Operation}
    (hops : .close ∉ ops) (hs : ∀ op ∈ ops, ¬op.isStart) :
    Tells query (es ++ d.emitted ops) (d.run ops) :=
  run_induction hd hops es h fun op hop _ _ _ _ h heffect => h.after heffect (hs op hop)

/-- Nothing is added to the list after an operation that ends the query and adds nothing itself. -/
theorem catalog_run_append (hd : ¬d.closed) {before after : List Operation}
    (hops : .close ∉ before ++ op :: after) (hs : ∀ op ∈ after, ¬op.isStart)
    (hp : ((d.run before).after op).pending = none)
    (hc : ((d.run before).after op).catalog = (d.run before).catalog) :
    (d.run (before ++ op :: after)).catalog = (d.run before).catalog := by
  rw [List.mem_append, not_or] at hops
  obtain ⟨hbefore, hops⟩ := hops
  obtain ⟨hop, hafter⟩ := List.ne_and_not_mem_of_not_mem_cons hops
  have hopen := after_open (run_open hd hbefore) hop.symm
  rw [run_append, run_cons, (run_settled hopen hp hafter hs).catalog, hc]

/-- **Where the end of a query is emitted after it was asked, and what follows.** -/
theorem Tells.of_finished_mem (h : Tells query es d) (hd : ¬d.closed)
    {before after : List Operation} (hops : .close ∉ before ++ op :: after)
    (hs : ∀ op' ∈ before ++ op :: after, ¬op'.isStart) {n : Nat}
    (hn : .finished n ∈ (d.run before).emits op) :
    ∃ now, op = .expire now ∧ query.deadline ≤ now ∧ (d.run before).pending = some query ∧
      n = (d.run before).catalog.size ∧
      (d.run (before ++ op :: after)).catalog = (d.run before).catalog := by
  obtain ⟨hquiet, hs⟩ := List.forall_mem_append.1 hs
  obtain ⟨-, hafter⟩ := List.forall_mem_cons.1 hs
  obtain ⟨hbefore, hop⟩ := not_or.1 (mt List.mem_append.2 hops)
  obtain ⟨hop, -⟩ := List.ne_and_not_mem_of_not_mem_cons hop
  obtain ⟨query', now, rfl, hp, hdeadline, hn, hp', hc⟩ :=
    (effect (run_open hd hbefore) hop.symm).finished hn
  -- Only the query that was asked can be pending.
  have hquery : query' = query := by
    rcases (h.run hd hbefore hquiet).pending with hq | hq
    · exact Option.some.inj (hp.symm.trans hq)
    · rw [hp] at hq
      cases hq
  rw [hquery] at hp hdeadline
  exact ⟨now, rfl, hdeadline, hp, hn, catalog_run_append hd hops hafter hp' hc⟩

/-! ### One query -/

/-- What operations that begin with asking a query and ask nothing else tell of it. -/
structure TellsOf (query : PendingQuery) (d : Discovery) (ops : List Operation) : Prop where
  /-- There is an event for each service, in the order of the list, and then at most one for the end
  of the query, with the number of services. -/
  events : d.emitted ops = (d.run ops).catalog.services.map .discovered ∨
    d.emitted ops = (d.run ops).catalog.services.map .discovered ++
      [.finished (d.run ops).catalog.size]
  /-- The end is only emitted when the time of the query is over and it is still pending, with the
  number of services at that time, and none is added any more. -/
  finished : ∀ before op after n, ops = before ++ op :: after →
    .finished n ∈ (d.run before).emits op →
      ∃ now, op = .expire now ∧ query.deadline ≤ now ∧ (d.run before).pending = some query ∧
        n = (d.run before).catalog.size ∧ (d.run ops).catalog = (d.run before).catalog
  /-- No service is added after the query was ended from outside. -/
  ended : ∀ before after, ops = before ++ .finish :: after →
    (d.run ops).catalog = (d.run before).catalog

theorem emits_start (hd : ¬d.closed) (request : Message) (now timeout : Nat) :
    d.emits (.start request now timeout) = [] := by
  have h : d.Effect (.start request now timeout) _ _ := effect hd nofun
  generalize d.emits _ = es, d.after _ = d' at h
  cases h
  rfl

theorem tells_after_start (hd : ¬d.closed) (request : Message) (now timeout : Nat) :
    Tells ⟨request, now + timeout⟩ [] (d.after (.start request now timeout)) := by
  obtain ⟨recent, outgoing, h⟩ := exists_after_start hd request now timeout
  rw [h]
  exact .services rfl (.inl rfl)

/-- **What is told of a query from the moment when it is asked.** -/
theorem tellsOf_start (hd : ¬d.closed) (request : Message) (now timeout : Nat)
    {ops : List Operation} (hops : .close ∉ ops) (hs : ∀ op ∈ ops, ¬op.isStart) :
    TellsOf ⟨request, now + timeout⟩ d (.start request now timeout :: ops) := by
  have hopen : ¬(d.after (.start request now timeout)).closed := after_open hd nofun
  have htells := tells_after_start hd request now timeout
  refine ⟨?_, ?_, ?_⟩
  · rw [emitted_cons, emits_start hd, run_cons]
    cases htells.run hopen hops hs with
    | services he => exact .inl he
    | finished he => exact .inr he
  · intro before op after n he hn
    cases before with
    | nil =>
      -- Asking itself emits nothing.
      obtain ⟨rfl, -⟩ := List.cons.inj he
      rw [run, List.foldl_nil, emits_start hd] at hn
      exact absurd hn List.not_mem_nil
    | cons first before =>
      obtain ⟨rfl, rfl⟩ := List.cons.inj he
      exact htells.of_finished_mem hopen hops hs hn
  · intro before after he
    cases before with
    | nil => cases he
    | cons first before =>
      obtain ⟨rfl, rfl⟩ := List.cons.inj he
      obtain ⟨-, hs⟩ := List.forall_mem_append.1 hs
      obtain ⟨-, hafter⟩ := List.forall_mem_cons.1 hs
      exact catalog_run_append hopen hops hafter rfl rfl

/-! ### Whole runs -/

/-- The events of a run tell what is found in it. -/
structure IsChronicled (d : Discovery) (ops : List Operation) : Prop where
  /-- No service is listed twice. -/
  distinct : (d.run ops).catalog.IsDistinct
  /-- Nothing is found and nothing emitted before something is asked. -/
  unasked : (∀ op ∈ ops, ¬op.isStart) → (d.run ops).catalog = {} ∧ d.emitted ops = []
  /-- From the last time on when something was asked, the events tell of this query. -/
  asked : ∀ before request now timeout after,
    ops = before ++ .start request now timeout :: after → (∀ op ∈ after, ¬op.isStart) →
      TellsOf ⟨request, now + timeout⟩ (d.run before) (.start request now timeout :: after)
  /-- The events that were handed out and those that wait are the ones that were emitted, in this
  order. -/
  handed : d.handed ops ++ (d.run ops).events = d.emitted ops
  /-- Once the discovery is closed, nothing is left of them for ever. -/
  closed : ∀ more, d.run (ops ++ .close :: more) = ended (d.run ops).destination

/-- **The events of a discovery tell what is found, as long as it is not closed.** -/
theorem isChronicled_run (destination : SocketAddress) {ops : List Operation}
    (hops : .close ∉ ops) : IsChronicled { destination } ops := by
  have hd : ¬({ destination } : Discovery).closed := Bool.false_ne_true
  refine ⟨?_, ?_, ?_, ?_, ?_⟩
  · exact isDistinct_run hd List.Pairwise.nil hops
  · intro hs
    have hsettled := run_settled hd rfl hops hs
    exact ⟨hsettled.catalog, hsettled.events⟩
  · rintro before request now timeout after rfl hs
    obtain ⟨hbefore, hafter⟩ := not_or.1 (mt List.mem_append.2 hops)
    exact tellsOf_start (run_open hd hbefore) request now timeout
      (List.not_mem_of_not_mem_cons hafter) hs
  · exact handed_append_events hd hops
  · intro more
    rw [run_append, run_cons, after_close (run_open hd hops), run_ended]

/-- A query that finds two services, one of them twice, and ends before a third one answers. -/
def webRun : List Operation :=
  [.start webRequest 0 1000, .receive (webResponse "Web"), .nextEvent, .receive (webResponse "Web"),
    .receive (webResponse "Other"), .expire 999, .expire 1000, .receive (webResponse "Late")]

theorem isChronicled_run_webRun : .close ∉ webRun ∧ IsChronicled {} webRun ∧
    ({} : Discovery).emitted webRun =
      [.discovered { name := "Web._http._tcp.local", domain := "local" },
        .discovered { name := "Other._http._tcp.local", domain := "local" }, .finished 2] := by
  have hopen : .close ∉ webRun := by simp [webRun]
  exact ⟨hopen, isChronicled_run (groupAddress none groupPort) hopen, by decide +kernel⟩

end Discovery

end ServiceDiscovery
