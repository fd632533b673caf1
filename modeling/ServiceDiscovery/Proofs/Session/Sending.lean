import ServiceDiscovery.Proofs.Session.Registrations

/-!
# Sending through all endpoints

A datagram is sent through one endpoint after another, whatever became of it at those before. What is
kept meanwhile is how often it got out and what went wrong last, and the result follows from these
two. A query whose request gets out nowhere is over, and leaves nothing behind.

* `Tally`, `Fanout`: what is kept, and a datagram on its way; `Fanout.isTallied_run`: what the
  numbers say;
* `Attempted`, `Fanout.attempted_run`: at which position, to which destination and with which bytes
  each attempt is made;
* `FansOut`, `Fanout.fansOut_run`: every endpoint is tried once, and what the result is;
* `Session.SendsOut`, `sendsOut_transmit`: one datagram of a session;
* `Endpoint.SendsToGroup`, `Session.sendsToGroup_passAll`: where the endpoints of a session send;
* `Session.exists_ask_eq_error`: a request that gets out nowhere;
* `Session.best_effort`: all endpoints, and a query that fails.
-/

namespace ServiceDiscovery

/-! ### One endpoint after another -/

/-- What is kept while a datagram is sent: how often it got out, and the error of the last send that
failed. -/
structure Tally where
  sent : Nat := 0
  lastError? : Option Error := none

namespace Tally

def count (t : Tally) : Except Error Unit → Tally
  | .ok () => { t with sent := t.sent + 1 }
  | .error e => { t with lastError? := some e }

/-- The result when all endpoints have been tried. -/
def result (t : Tally) (endpoints : List Endpoint) : Except Error Unit :=
  match t.lastError?, t.sent with
  | some e, 0 => .error e
  | _, _ => if endpoints.isEmpty then .error .notRunning else .ok ()

end Tally

/-- A datagram on its way through endpoints, in a world that sending changes. -/
structure Fanout (σ : Type) where
  world : σ
  tally : Tally := {}
  /-- The attempts so far with their results. -/
  attempts : List (Transmission × Except Error Unit) := []

/-- A datagram that is sent through endpoints one after another, from one world to the next. An
attempt is made at the position of its endpoint, to the destination of its endpoint and with the same
bytes as all others, and its result is what the world makes of just that. -/
inductive Attempted {σ : Type} (send : Transmission → σ → Except Error Unit × σ) (bytes : Bytes) :
    σ → List Endpoint → List (Transmission × Except Error Unit) → σ → Prop
  | nil (world : σ) : Attempted send bytes world [] [] world
  | cons {world world' world'' : σ} {l : Endpoint} {result : Except Error Unit}
      {endpoints : List Endpoint} {attempts : List (Transmission × Except Error Unit)}
      (hsend : send { position := l.position, destination := l.destination, bytes } world =
        (result, world'))
      (h : Attempted send bytes world' endpoints attempts world'') :
      Attempted send bytes world (l :: endpoints)
        (({ position := l.position, destination := l.destination, bytes }, result) :: attempts)
        world''

namespace Attempted

variable {σ : Type} {send : Transmission → σ → Except Error Unit × σ} {bytes : Bytes}
  {world world' : σ} {endpoints : List Endpoint} {attempts : List (Transmission × Except Error Unit)}

/-- What is sent, endpoint by endpoint. -/
theorem map_fst (h : Attempted send bytes world endpoints attempts world') :
    attempts.map Prod.fst =
      endpoints.map fun l => { position := l.position, destination := l.destination, bytes } := by
  induction h with
  | nil => rfl
  | cons hsend h ih => rw [List.map_cons, ih, List.map_cons]

/-- A network does the same to an endpoint whatever was sent before. -/
theorem eq_attempts {network : Network}
    (h : Attempted (fun x world => (network.sends x.position, world)) bytes world endpoints attempts
      world') : attempts = Endpoint.attempts network endpoints bytes := by
  induction h with
  | nil => rfl
  | cons hsend h ih =>
    obtain ⟨rfl, -⟩ := Prod.mk.inj hsend
    rw [ih]
    rfl

end Attempted

namespace Endpoint

theorem outcome_eq_ok_iff {results : List (Except Error Unit)} :
    outcome results = .ok () ↔ .ok () ∈ results := by
  have hany : results.any (·.toBool) ↔ .ok () ∈ results := by
    rw [List.any_eq_true]
    constructor
    · rintro ⟨e | _, hmem, hok⟩
      · cases hok
      · exact hmem
    · exact fun hmem => ⟨_, hmem, rfl⟩
  unfold outcome
  by_cases h : results.any (·.toBool)
  · rw [if_pos h]
    exact iff_of_true rfl (hany.1 h)
  · rw [if_neg h]
    refine iff_of_false (fun hlast => ?_) fun hmem => h (hany.2 hmem)
    cases hr : results.getLast? with
    | none =>
      rw [hr] at hlast
      cases hlast
    | some r =>
      rw [hr] at hlast
      exact h (hany.2 (hlast ▸ List.mem_of_getLast? hr))

/-- If nothing got out, the last failure counts. -/
theorem outcome_of_failed {results : List (Except Error Unit)} {last : Except Error Unit}
    (h : .ok () ∉ results) (hlast : results.getLast? = some last) : outcome results = last := by
  have hnone : ¬results.any (·.toBool) := by
    rw [List.any_eq_true]
    rintro ⟨e | _, hmem, hok⟩
    · cases hok
    · exact h hmem
  rw [outcome, if_neg hnone, hlast, Option.getD_some]

variable {network : Network} {endpoints : List Endpoint} {last : Endpoint}

theorem map_snd_attempts (network : Network) (endpoints : List Endpoint) (bytes : Bytes) :
    (attempts network endpoints bytes).map (·.2) =
      endpoints.map fun l => network.sends l.position := by
  rw [attempts, List.map_map]
  rfl

/-- What gets out of the attempts on a network. -/
theorem map_fst_sent (network : Network) (endpoints : List Endpoint) (bytes : Bytes) :
    ((attempts network endpoints bytes).filter (·.2.toBool)).map (·.1) =
      (endpoints.filter fun l => (network.sends l.position).toBool).map fun l =>
        { position := l.position, destination := l.destination, bytes } := by
  rw [attempts, List.filter_map, List.map_map]
  rfl

theorem outcome_attempts_of_failed (hfailed : ∀ l ∈ endpoints, network.sends l.position ≠ .ok ())
    (hlast : endpoints.getLast? = some last) (bytes : Bytes) :
    outcome ((attempts network endpoints bytes).map (·.2)) = network.sends last.position := by
  rw [map_snd_attempts]
  refine outcome_of_failed (fun hmem => ?_) (by rw [List.getLast?_map, hlast]; rfl)
  obtain ⟨l, hl, hok⟩ := List.mem_map.1 hmem
  exact hfailed l hl hok

theorem map_fst_sent_of_failed (hfailed : ∀ l ∈ endpoints, network.sends l.position ≠ .ok ())
    (bytes : Bytes) :
    ((attempts network endpoints bytes).filter (·.2.toBool)).map (·.1) = [] := by
  have hnone : endpoints.filter (fun l => (network.sends l.position).toBool) = [] := by
    refine List.filter_eq_nil_iff.2 fun l hl hok => ?_
    rcases hsends : network.sends l.position with e | _
    · rw [hsends] at hok
      cases hok
    · exact hfailed l hl hsends
  rw [map_fst_sent, hnone, List.map_nil]

end Endpoint

namespace Fanout

variable {σ : Type} (send : Transmission → σ → Except Error Unit × σ) (bytes : Bytes)
  {endpoints : List Endpoint}

/-- The datagram is sent through one more endpoint. -/
def step (f : Fanout σ) (l : Endpoint) : Fanout σ :=
  let (result, world) := send (l.transmission bytes) f.world
  { world, tally := f.tally.count result, attempts := f.attempts ++ [(l.transmission bytes, result)] }

/-- The datagram is sent through all endpoints. -/
def run (world : σ) (endpoints : List Endpoint) : Fanout σ :=
  endpoints.foldl (step send bytes) { world }

/-- What the numbers say about the attempts: whether one has succeeded, and if none has, how the last
one has failed. -/
structure IsTallied (f : Fanout σ) : Prop where
  sent : f.tally.sent = 0 ↔ .ok () ∉ f.attempts.map Prod.snd
  last : f.tally.sent = 0 → f.tally.lastError?.map .error = (f.attempts.map Prod.snd).getLast?

variable {send bytes} {f : Fanout σ}

theorem IsTallied.step (h : f.IsTallied) (l : Endpoint) : (f.step send bytes l).IsTallied := by
  unfold Fanout.step
  obtain ⟨result, world⟩ := send (l.transmission bytes) f.world
  cases result with
  | ok _ => exact ⟨by simp [Tally.count], by simp [Tally.count]⟩
  | error e => exact ⟨by simp [Tally.count, h.sent], by simp [Tally.count]⟩

theorem IsTallied.foldl (h : f.IsTallied) (endpoints : List Endpoint) :
    (endpoints.foldl (Fanout.step send bytes) f).IsTallied := by
  induction endpoints generalizing f with
  | nil => exact h
  | cons l endpoints ih => exact ih (h.step l)

theorem attempts_eq_nil_iff (hlength : f.attempts.length = endpoints.length) :
    f.attempts.map Prod.snd = [] ↔ endpoints = [] := by
  rw [← List.length_eq_zero_iff, List.length_map, hlength, List.length_eq_zero_iff]

/-- **The numbers give the result of the attempts.** -/
theorem IsTallied.result_eq (h : f.IsTallied) (hlength : f.attempts.length = endpoints.length) :
    f.tally.result endpoints = Endpoint.outcome (f.attempts.map Prod.snd) := by
  have hnil := attempts_eq_nil_iff hlength
  by_cases hsent : f.tally.sent = 0
  · have hlast := h.last hsent
    have hfailed := h.sent.1 hsent
    rw [Tally.result, hsent]
    cases herror : f.tally.lastError? with
    | none =>
      rw [herror] at hlast
      have hempty : f.attempts.map Prod.snd = [] := List.getLast?_eq_none_iff.1 hlast.symm
      rw [hempty, hnil.1 hempty]
      rfl
    | some e =>
      rw [herror] at hlast
      exact (Endpoint.outcome_of_failed hfailed hlast.symm).symm
  · have hok : .ok () ∈ f.attempts.map Prod.snd := not_not.1 fun hnone => hsent (h.sent.2 hnone)
    have hne : ¬endpoints.isEmpty := fun he =>
      List.ne_nil_of_mem hok (hnil.2 (List.isEmpty_iff.1 he))
    rw [Endpoint.outcome_eq_ok_iff.2 hok, Tally.result]
    cases f.tally.lastError? with
    | none => exact if_neg hne
    | some e =>
      obtain ⟨n, hn⟩ := Nat.exists_eq_succ_of_ne_zero hsent
      rw [hn]
      exact if_neg hne

end Fanout

/-- What sending through endpoints comes to: each is tried once, in order, with the same bytes and
its own destination. One success is enough, and if there is none, the last failure counts. -/
structure FansOut {σ : Type} (send : Transmission → σ → Except Error Unit × σ) (bytes : Bytes)
    (world : σ) (endpoints : List Endpoint) (f : Fanout σ) : Prop where
  attempted : Attempted send bytes world endpoints f.attempts f.world
  transmissions : f.attempts.map Prod.fst =
    endpoints.map fun l => { position := l.position, destination := l.destination, bytes }
  outcome : f.tally.result endpoints = Endpoint.outcome (f.attempts.map Prod.snd)
  ok_iff : f.tally.result endpoints = .ok () ↔ .ok () ∈ f.attempts.map Prod.snd
  failed : .ok () ∉ f.attempts.map Prod.snd → ∀ last ∈ f.attempts.getLast?,
    f.tally.result endpoints = last.2
  none : endpoints = [] → f.tally.result endpoints = .error .notRunning

namespace Fanout

variable {σ : Type} (send : Transmission → σ → Except Error Unit × σ) (bytes : Bytes) (world : σ)
  (endpoints : List Endpoint)

theorem isTallied_run : (run send bytes world endpoints).IsTallied :=
  IsTallied.foldl ⟨by simp, by simp⟩ endpoints

/-- **Every endpoint is tried once, in order.** -/
theorem attempted_foldl (f : Fanout σ) :
    ∃ attempts, (endpoints.foldl (step send bytes) f).attempts = f.attempts ++ attempts ∧
      Attempted send bytes f.world endpoints attempts
        (endpoints.foldl (step send bytes) f).world := by
  -- A step makes the attempt of one endpoint and hands the world on to the others.
  induction endpoints generalizing f with
  | nil => exact ⟨[], (List.append_nil _).symm, .nil f.world⟩
  | cons l endpoints ih =>
    obtain ⟨attempts, hattempts, hrest⟩ := ih (f.step send bytes l)
    refine ⟨_ :: attempts, ?_, .cons rfl hrest⟩
    rw [List.foldl_cons, hattempts, step, List.append_assoc]
    rfl

theorem attempted_run : Attempted send bytes world endpoints
    (run send bytes world endpoints).attempts (run send bytes world endpoints).world := by
  obtain ⟨attempts, hattempts, hattempted⟩ :=
    attempted_foldl send bytes endpoints { world }
  rw [List.nil_append] at hattempts
  rw [run, hattempts]
  exact hattempted

/-- **A datagram goes through all endpoints, whatever becomes of it at some of them.** -/
theorem fansOut_run : FansOut send bytes world endpoints (run send bytes world endpoints) := by
  have hattempted := attempted_run send bytes world endpoints
  have htransmissions := hattempted.map_fst
  have hlength : (run send bytes world endpoints).attempts.length = endpoints.length := by
    rw [← List.length_map (f := Prod.fst), htransmissions, List.length_map]
  have hresult := (isTallied_run send bytes world endpoints).result_eq hlength
  refine ⟨hattempted, htransmissions, hresult, ?_, fun hfailed last hlast => ?_, fun hnone => ?_⟩
  · rw [hresult, Endpoint.outcome_eq_ok_iff]
  · rw [hresult]
    exact Endpoint.outcome_of_failed hfailed (by rw [List.getLast?_map, hlast]; rfl)
  · rw [hresult, (attempts_eq_nil_iff hlength).2 hnone]
    rfl

theorem attempts_run (network : Network) :
    (run (fun x world => (network.sends x.position, world)) bytes world endpoints).attempts =
      Endpoint.attempts network endpoints bytes :=
  (attempted_run _ bytes world endpoints).eq_attempts

end Fanout

/-! ### Destinations -/

/-- The endpoint sends to the group of the family of its interface; over IPv6 that is meant on the
link of the interface. -/
structure Endpoint.SendsToGroup (port : UInt16) (l : Endpoint) : Prop where
  v4 : ∀ x, l.interface.address = .v4 x → l.destination = .v4 ⟨224, 0, 0, 251⟩ port
  v6 : ∀ x, l.interface.address = .v6 x →
    l.destination = .v6 ⟨0xFF02, 0, 0, 0, 0, 0, 0, 0xFB⟩ port l.interface.index

theorem Endpoint.sendsToGroup_of_eq {l : Endpoint} {port : UInt16}
    (h : l.destination = groupAddress (some l.interface) port) : l.SendsToGroup port := by
  obtain ⟨position, ⟨name, index, address⟩, destination, bufferSize, buffer⟩ := l
  constructor
  · rintro x rfl
    exact h
  · rintro x rfl
    exact h

namespace Session

variable {s : Session} {network : Network} {call : Call}

/-! ### One datagram of a session -/

theorem transmit_one (s : Session) (network : Network) (datagram : Datagram) :
    s.transmit network [datagram] =
      (Endpoint.outcome ((Endpoint.attempts network s.endpoints datagram.bytes).map (·.2)),
        { s with activity := { s.activity with
            sent := s.activity.sent ++ ((Endpoint.attempts network s.endpoints
              datagram.bytes).filter (·.2.toBool)).map (·.1) } }) := by
  rw [transmit]
  dsimp only
  cases Endpoint.outcome ((Endpoint.attempts network s.endpoints datagram.bytes).map (·.2)) <;> rfl

/-- What sending a datagram through the endpoints of a session comes to. -/
structure SendsOut (s : Session) (network : Network) (datagram : Datagram) (o : Outcome) :
    Prop where
  ok_iff : o.1 = .ok () ↔ ∃ l ∈ s.endpoints, network.sends l.position = .ok ()
  failed : (∀ l ∈ s.endpoints, network.sends l.position ≠ .ok ()) →
    ∀ last ∈ s.endpoints.getLast?, o.1 = network.sends last.position
  none : s.endpoints = [] → o.1 = .error .notRunning
  /-- The bytes of the datagram get out at each endpoint that works, to its own destination. -/
  sent : o.2.activity.sent = s.activity.sent ++
    (s.endpoints.filter fun l => (network.sends l.position).toBool).map fun l =>
      { position := l.position, destination := l.destination, bytes := datagram.bytes }
  /-- This is what sending through one endpoint after another gives. -/
  run :
    let f := Fanout.run (fun x world => (network.sends x.position, world)) datagram.bytes ()
      s.endpoints
    o.1 = f.tally.result s.endpoints ∧
      o.2.activity.sent = s.activity.sent ++ (f.attempts.filter (·.2.toBool)).map (·.1)

/-- **A session sends a datagram through all of its endpoints.** -/
theorem sendsOut_transmit (s : Session) (network : Network) (datagram : Datagram) :
    s.SendsOut network datagram (s.transmit network [datagram]) := by
  have hrun := Fanout.attempts_run datagram.bytes () s.endpoints network
  have hfans := Fanout.fansOut_run (fun x world => (network.sends x.position, world))
    datagram.bytes () s.endpoints
  rw [transmit_one]
  refine ⟨?_, fun hfailed last hlast => ?_, fun hnone => ?_, ?_, ?_, ?_⟩
  · rw [Endpoint.outcome_eq_ok_iff, Endpoint.map_snd_attempts, List.mem_map]
  · exact Endpoint.outcome_attempts_of_failed hfailed hlast datagram.bytes
  · rw [hnone]
    rfl
  · exact congrArg (s.activity.sent ++ ·) (Endpoint.map_fst_sent network s.endpoints datagram.bytes)
  · rw [hfans.outcome, hrun]
  · rw [hrun]

/-! ### Requests -/

variable {request : Message} {bytes : Bytes} {last : Endpoint} {e : Error}

/-- **A request is over if it gets out nowhere, and what was found before is forgotten.** -/
theorem exists_ask_eq (hd : ¬s.discovery.closed) (houtgoing : s.discovery.outgoing = [])
    {q : Query} (hrequest : q.request = .ok request) (hbytes : request.encode = .ok bytes)
    (hne : s.endpoints ≠ []) (network : Network) (now timeout : Nat) :
    ∃ s', s.ask network now timeout q =
        (match Endpoint.outcome ((Endpoint.attempts network s.endpoints bytes).map (·.2)) with
          | .ok () => (.ok (), s')
          | .error e => (.error e, { s' with discovery := s'.discovery.finish.2 })) ∧
      s'.discovery.catalog = {} ∧ s'.roster = s.roster ∧
      s'.activity.sent = s.activity.sent ++
        ((Endpoint.attempts network s.endpoints bytes).filter (·.2.toBool)).map (·.1) := by
  rw [ask, hrequest]
  dsimp only
  rw [Discovery.start, if_neg hd, Discovery.enqueue, hbytes]
  dsimp only
  rw [flush, Discovery.allDatagrams]
  dsimp only
  rw [if_neg fun he => hne (List.isEmpty_iff.1 he), houtgoing, List.nil_append, transmit_one]
  dsimp only
  cases Endpoint.outcome ((Endpoint.attempts network s.endpoints bytes).map (·.2)) <;>
    exact ⟨_, rfl, rfl, rfl, rfl⟩

/-- What a query leaves that is over before it could begin. -/
structure LeavesNothing (s s' : Session) : Prop where
  pending : s'.discovery.pending = none
  catalog : s'.discovery.catalog.services = []
  handlers : s'.roster.entries = s.roster.entries
  /-- Nothing has got out. -/
  sent : s'.activity.sent = s.activity.sent

/-- **A request that gets out nowhere is taken back.** -/
theorem exists_ask_eq_error (hd : ¬s.discovery.closed) (houtgoing : s.discovery.outgoing = [])
    {q : Query} (hrequest : q.request = .ok request) (hbytes : request.encode = .ok bytes)
    (hfailed : ∀ l ∈ s.endpoints, network.sends l.position ≠ .ok ())
    (hlast : s.endpoints.getLast? = some last) (he : network.sends last.position = .error e)
    (now timeout : Nat) :
    ∃ s', s.ask network now timeout q = (.error e, s') ∧ s.LeavesNothing s' := by
  have hne : s.endpoints ≠ [] := List.ne_nil_of_mem (List.mem_of_getLast? hlast)
  obtain ⟨s', hask, hcatalog, hroster, hsent⟩ :=
    exists_ask_eq hd houtgoing hrequest hbytes hne network now timeout
  rw [Endpoint.outcome_attempts_of_failed hfailed hlast, he] at hask
  rw [Endpoint.map_fst_sent_of_failed hfailed, List.append_nil] at hsent
  exact ⟨_, hask, rfl, congrArg Catalog.services hcatalog, congrArg Roster.entries hroster, hsent⟩

/-- **A query whose request gets out nowhere fails as the last endpoint does.** -/
theorem query_of_failed (hp : s.phase = .running) (hd : ¬s.discovery.closed)
    (houtgoing : s.discovery.outgoing = []) (hnumbered : s.roster.IsNumbered)
    (hrequest : (s.meant call).request = .ok request) (hbytes : request.encode = .ok bytes)
    (hfailed : ∀ l ∈ s.endpoints, network.sends l.position ≠ .ok ())
    (hlast : s.endpoints.getLast? = some last) (he : network.sends last.position = .error e) :
    ∃ s', s.query network call = (.failed e, s') ∧ s.LeavesNothing s' := by
  have hregistered := registered_eq s call
  obtain ⟨s₁, hask, hleft⟩ := exists_ask_eq_error (s := s.registered call)
    (by rw [hregistered]; exact hd) (by rw [hregistered]; exact houtgoing) hrequest hbytes
    (by rw [hregistered]; exact hfailed) (by rw [hregistered]; exact hlast) he 0 (s.timeout call)
  have hroster : s₁.roster = (s.registered call).roster := by
    have hkept := roster_ask (s.registered call) network 0 (s.timeout call) (s.meant call)
    rwa [hask] at hkept
  have hwaited : s.waited network 0 call call.abandonedAfter? = (.failed e, 0, s₁) := by
    rw [waited, asked, hask]
    rfl
  rw [query_eq hp, hwaited]
  refine ⟨_, rfl, ?_, ?_, entries_released hnumbered hroster, ?_⟩
  · rw [released_eq]
    exact hleft.pending
  · rw [released_eq]
    exact hleft.catalog
  · rw [released_eq]
    refine hleft.sent.trans ?_
    rw [hregistered]

/-- **Whatever a session goes through, its endpoints send to the groups of their interfaces.** -/
theorem sendsToGroup_passAll (settings : Settings) (episodes : List Episode) :
    ∀ l ∈ (passAll { settings } episodes).endpoints, l.SendsToGroup settings.port := by
  obtain ⟨hsettled, hremembers⟩ := remembers_passAll settings episodes
  intro l hl
  have hdestination := hremembers.bound.destinations l hl
  rw [hsettled.settings] at hdestination
  exact Endpoint.sendsToGroup_of_eq hdestination

/-- **It is enough that a datagram gets out somewhere.** Every endpoint is tried once, in order, with
the same bytes and its own destination, whatever became of it at the others. If it got out at some of
them, all is well, and otherwise the last failure counts. So it is with each datagram of a session,
whose endpoints send to the groups of their interfaces. A query of a running session, whatever
happened before, whose request gets out nowhere ends with the failure of the last endpoint: no query
is pending, no services are known, nothing has got out, and the handlers are those from before. -/
theorem best_effort :
    (∀ {σ : Type} (send : Transmission → σ → Except Error Unit × σ) (bytes : Bytes) (world : σ)
      (endpoints : List Endpoint),
        FansOut send bytes world endpoints (Fanout.run send bytes world endpoints)) ∧
    (∀ (s : Session) (network : Network) (datagram : Datagram),
      s.SendsOut network datagram (s.transmit network [datagram])) ∧
    (∀ (settings : Settings) (episodes : List Episode),
      ∀ l ∈ (passAll { settings } episodes).endpoints, l.SendsToGroup settings.port) ∧
    ∀ (settings : Settings) (episodes : List Episode) (network : Network) (call : Call)
      (request : Message) (bytes : Bytes),
      let s := passAll { settings } episodes
      s.phase = .running → (s.meant call).request = .ok request → request.encode = .ok bytes →
      (∀ l ∈ s.endpoints, network.sends l.position ≠ .ok ()) →
        ∃ last e s', s.endpoints.getLast? = some last ∧ network.sends last.position = .error e ∧
          s.query network call = (.failed e, s') ∧ s.LeavesNothing s' := by
  refine ⟨Fanout.fansOut_run, sendsOut_transmit, sendsToGroup_passAll, ?_⟩
  intro settings episodes network call request bytes s hp hrequest hbytes hfailed
  obtain ⟨hsettled, hremembers⟩ := remembers_passAll settings episodes
  have hnumbered : s.roster.IsNumbered := by
    refine isNumbered_passAll (fun e he => ?_) episodes
    cases he
  obtain ⟨last, hlast⟩ : ∃ last, s.endpoints.getLast? = some last :=
    Option.ne_none_iff_exists'.1 fun hnone =>
      hsettled.endpoints.1 hp (List.getLast?_eq_none_iff.1 hnone)
  obtain ⟨e, he⟩ : ∃ e, network.sends last.position = .error e := by
    rcases hsends : network.sends last.position with e | _
    · exact ⟨e, rfl⟩
    · exact absurd hsends (hfailed last (List.mem_of_getLast? hlast))
  obtain ⟨s', hquery, hleft⟩ := query_of_failed hp (hsettled.discovery hp) hremembers.outgoing
    hnumbered hrequest hbytes hfailed hlast he
  exact ⟨last, e, s', hlast, he, hquery, hleft⟩

/-- Two interfaces are in use, one of each family. What is sent goes to the group of each, though
only the second lets it out, and later neither does. -/
theorem best_effort_unplugged :
    let settings : Settings :=
      { interfaces := some [⟨"eth0", 2, .v4 ⟨10, 0, 0, 2⟩⟩,
          ⟨"wlan0", 3, .v6 ⟨0xFE80, 0, 0, 0, 0, 0, 0, 2⟩⟩] }
    let half : Network := {
      binds := fun _ => true
      sends := fun n => if n = 0 then .error (.system .other "unplugged") else .ok () }
    let network : Network := {
      binds := fun _ => true
      sends := fun n => .error (.system .other (if n = 0 then "unplugged" else "switched off")) }
    let call : Call :=
      { query := { services := ["_http._tcp"] }, handler? := some (.mk "query" none none) }
    let s := passAll { settings }
      [.single (.start wiredNetwork), .single (.addHandler (.mk "log" none none))]
    let bytes := Discovery.webRequest.wire
    let datagram : Datagram :=
      { bytes, source := s.discovery.destination.unspecified, destination := s.discovery.destination,
        time? := none }
    let wired : Transmission := ⟨0, .v4 ⟨224, 0, 0, 251⟩ 5353, bytes⟩
    let wireless : Transmission := ⟨1, .v6 ⟨0xFF02, 0, 0, 0, 0, 0, 0, 0xFB⟩ 5353 3, bytes⟩
    let f := Fanout.run (fun x seen => (half.sends x.position, seen ++ [x])) bytes [] s.endpoints
    f.attempts.map Prod.fst = [wired, wireless] ∧ f.world = [wired, wireless] ∧
      (s.transmit half [datagram]).1 = .ok () ∧
      (s.transmit half [datagram]).2.activity.sent = [wireless] ∧
      (∀ l ∈ s.endpoints, l.SendsToGroup 5353) ∧
      s.phase = .running ∧ (s.meant call).request = .ok Discovery.webRequest ∧
      Discovery.webRequest.encode = .ok bytes ∧
      (∀ l ∈ s.endpoints, network.sends l.position ≠ .ok ()) ∧
      ∃ s', s.query network call = (.failed (.system .other "switched off"), s') ∧
        s.LeavesNothing s' := by
  intro settings half network call s bytes datagram wired wireless f
  obtain ⟨hfans, hsends, hgroup, hquery⟩ := best_effort
  have htransmissions := (hfans (fun x seen => (half.sends x.position, seen ++ [x])) bytes []
    s.endpoints).transmissions
  have hsent := hsends s half datagram
  have hp : s.phase = .running := by decide +kernel
  have hrequest : (s.meant call).request = .ok Discovery.webRequest := by decide +kernel
  have hbytes : Discovery.webRequest.encode = .ok Discovery.webRequest.wire := by decide +kernel
  have hfailed : ∀ l ∈ s.endpoints, network.sends l.position ≠ .ok () := fun _ _ => nofun
  have hend : s.endpoints.getLast?.map (fun l => network.sends l.position) =
      some (.error (.system .other "switched off")) := by decide +kernel
  obtain ⟨last, e, s', hlast, he, hasked, hleft⟩ :=
    hquery settings _ network call _ _ hp hrequest hbytes hfailed
  rw [hlast, Option.map_some, he, Option.some.injEq, Except.error.injEq] at hend
  refine ⟨?_, ?_, ?_, ?_, hgroup settings _, hp, hrequest, hbytes, hfailed, s', hend ▸ hasked, hleft⟩
  · exact htransmissions.trans (by decide +kernel)
  · decide +kernel
  · exact hsent.ok_iff.2 (by decide +kernel)
  · exact hsent.sent.trans (by decide +kernel)

end Session

end ServiceDiscovery
