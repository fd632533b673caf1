import ServiceDiscovery.Proofs.Discovery.Operation

/-!
# The order in which messages arrive

Whether a message is of use depends on what is asked and on what was sent lately, and receiving
changes neither. So a list of messages adds the services of all of them, each at its first
occurrence, and up to their order these do not depend on the order of the messages or on how often
one of them arrives.

* `run_receive`: what a list of messages does;
* `Untouched`, `untouched_run_receive`: what it leaves as it is;
* `sameServices_run_receive`: the same messages in another order and number.
-/

namespace ServiceDiscovery

namespace Discovery

variable {d : Discovery}

/-- **Messages that arrive add all of their services, and change nothing but services and
events.** -/
theorem run_receive (hd : ¬d.closed) (ms : List Message) : d.run (ms.map .receive) = { d with
    catalog := d.catalog.insertAll (ms.flatMap d.servicesOf)
    events := d.events ++ (d.catalog.news (ms.flatMap d.servicesOf)).map .discovered } := by
  induction ms generalizing d with
  | nil =>
    rw [List.flatMap_nil, Catalog.news, List.map_nil, List.map_nil, List.append_nil]
    rfl
  | cons m ms ih =>
    -- Each message is judged by what is asked and what was sent, as before the ones ahead of it.
    rw [List.map_cons, run_cons, after_receive hd, collect_eq, List.flatMap_cons,
      Catalog.insertAll_append, Catalog.news_append, List.map_append, ← List.append_assoc]
    exact ih hd

/-- What stays as it is when messages arrive. -/
structure Untouched (d d' : Discovery) : Prop where
  closed : d'.closed = d.closed
  pending : d'.pending = d.pending
  recent : d'.recent = d.recent
  outgoing : d'.outgoing = d.outgoing

theorem untouched_run_receive (hd : ¬d.closed) (ms : List Message) :
    d.Untouched (d.run (ms.map .receive)) := by
  rw [run_receive hd]
  exact ⟨rfl, rfl, rfl, rfl⟩

/-- **Messages lead to the same services, up to their order, in whatever order and however often
they arrive, and leave the query and the datagrams as they are.** -/
theorem sameServices_run_receive (hd : ¬d.closed) {ms ms' : List Message}
    (h : ∀ m, m ∈ ms ↔ m ∈ ms') :
    (d.run (ms.map .receive)).catalog.SameServices (d.run (ms'.map .receive)).catalog ∧
      d.Untouched (d.run (ms.map .receive)) ∧ d.Untouched (d.run (ms'.map .receive)) := by
  refine ⟨?_, untouched_run_receive hd ms, untouched_run_receive hd ms'⟩
  rw [run_receive hd, run_receive hd]
  refine Catalog.sameServices_insertAll d.catalog fun s => ?_
  simp only [List.mem_flatMap, h]

/-- A discovery that asks for web services and has found none so far. -/
def askingWeb : Discovery := ({} : Discovery).after (.start webRequest 0 1000)

/-- Two responses, and the same two the other way round with one of them repeated. -/
theorem sameServices_run_receive_webResponses :
    let ms := [webResponse "Web", webResponse "Other"]
    let ms' := [webResponse "Other", webResponse "Web", webResponse "Other"]
    ¬askingWeb.closed ∧ (∀ m, m ∈ ms ↔ m ∈ ms') ∧
      ((askingWeb.run (ms.map .receive)).catalog.SameServices
          (askingWeb.run (ms'.map .receive)).catalog ∧
        askingWeb.Untouched (askingWeb.run (ms.map .receive)) ∧
        askingWeb.Untouched (askingWeb.run (ms'.map .receive))) ∧
      (askingWeb.run (ms.map .receive)).catalog.services.map Service.name =
        ["Web._http._tcp.local", "Other._http._tcp.local"] ∧
      (askingWeb.run (ms'.map .receive)).catalog.services.map Service.name =
        ["Other._http._tcp.local", "Web._http._tcp.local"] := by
  intro ms ms'
  have hopen : ¬askingWeb.closed := by decide +kernel
  have hms : ∀ m, m ∈ ms ↔ m ∈ ms' := by
    intro m
    simp only [ms, ms', List.mem_cons, List.not_mem_nil, or_false]
    exact ⟨.inr, Or.rec .inr id⟩
  exact ⟨hopen, hms, sameServices_run_receive hopen hms, by decide +kernel, by decide +kernel⟩

end Discovery

end ServiceDiscovery
