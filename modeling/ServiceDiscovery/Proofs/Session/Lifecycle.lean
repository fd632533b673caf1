import ServiceDiscovery.Session.Querying
import ServiceDiscovery.Proofs.Discovery.Operation

/-!
# The life of a session

Between calls a session is stopped or running. It runs exactly as long as it has an endpoint, and
then its discovery is open. Only starting and stopping change that, whatever fails: a start begins
with a stop, and it leaves the endpoints that it has bound itself, or none and a stopped session.

* `Action`, `Session.act`, `run`: calls of a session, one after another, and what reaches it;
* `KeepsLife`: calls that leave the session stopped or running as it was;
* `IsSettled`: what holds between calls; `IsSettled.act`, `IsSettled.run`: every call keeps it;
* `Offers`, `used`: the interfaces that there are to choose from, and those that are chosen;
* `Started`, `IsSettled.started`: how a start ends, and what it leaves;
* `isOrderly_run`: all of it for every run.
-/

namespace ServiceDiscovery

theorem Discovery.closed_after (d : Discovery) (op : Operation) (hop : op ≠ .close) :
    (d.after op).closed = d.closed := by
  by_cases hd : d.closed
  · cases op with
    | nextDatagram => rw [after_nextDatagram]
    | nextEvent => rw [after_nextEvent]
    | _ => simp [after, perform, start, receive, send, expire, finish, close, hd]
  · exact (effect hd hop).closed

/-- A call of a session with the way the network behaves meanwhile, or an arrival. -/
inductive Action where
  | start (network : Network)
  | stop
  | query (network : Network) (call : Call)
  | announce (network : Network) (m : Message)
  | addHandler (h : Handler)
  | removeHandler (id : Nat)
  | receive (position : Nat) (arrival : Arrival)

namespace Session

/-- The session after an action, whether or not it failed. -/
def act (s : Session) : Action → Session
  | .start network => (s.start network).2
  | .stop => s.stop
  | .query network call => (s.query network call).2
  | .announce network m => (s.announce network m).2
  | .addHandler h => (s.addHandler h).2
  | .removeHandler id => (s.removeHandler id).2
  | .receive position arrival => (s.receive position arrival).2

def run (s : Session) (actions : List Action) : Session := actions.foldl act s

/-! ### What leaves a session as alive as it was -/

structure KeepsLife (s s' : Session) : Prop where
  settings : s'.settings = s.settings
  phase : s'.phase = s.phase
  endpoints : s'.endpoints = [] ↔ s.endpoints = []
  closed : s'.discovery.closed = s.discovery.closed

variable {s s' s'' : Session}

theorem KeepsLife.refl (s : Session) : s.KeepsLife s := ⟨rfl, rfl, Iff.rfl, rfl⟩

theorem KeepsLife.trans (h : s.KeepsLife s') (h' : s'.KeepsLife s'') : s.KeepsLife s'' :=
  ⟨h'.settings.trans h.settings, h'.phase.trans h.phase, h'.endpoints.trans h.endpoints,
    h'.closed.trans h.closed⟩

/-- A discovery may do anything but close. -/
theorem keepsLife_discovery (s : Session) {d : Discovery} (h : d.closed = s.discovery.closed) :
    s.KeepsLife { s with discovery := d } := ⟨rfl, rfl, Iff.rfl, h⟩

theorem keepsLife_roster (s : Session) (roster : Roster) : s.KeepsLife { s with roster } :=
  ⟨rfl, rfl, Iff.rfl, rfl⟩

theorem keepsLife_activity (s : Session) (activity : Activity) : s.KeepsLife { s with activity } :=
  ⟨rfl, rfl, Iff.rfl, rfl⟩

theorem keepsLife_transmit (s : Session) (network : Network) (datagrams : List Datagram) :
    s.KeepsLife (s.transmit network datagrams).2 := by
  induction datagrams generalizing s with
  | nil => exact .refl s
  | cons datagram datagrams ih =>
    rw [transmit]
    dsimp only
    split
    · exact (keepsLife_activity s _).trans (ih _)
    · exact keepsLife_activity s _

theorem keepsLife_flush (s : Session) (network : Network) : s.KeepsLife (s.flush network).2 := by
  have hdrained : s.KeepsLife { s with discovery := s.discovery.allDatagrams.2 } :=
    keepsLife_discovery s rfl
  rw [flush]
  dsimp only
  split_ifs
  · exact hdrained
  · exact hdrained.trans (keepsLife_transmit _ network _)

theorem keepsLife_announce (s : Session) (network : Network) (m : Message) :
    s.KeepsLife (s.announce network m).2 := by
  have hsend : (s.discovery.send m).2.closed = s.discovery.closed :=
    s.discovery.closed_after (.send m) (by simp)
  rw [announce]
  split_ifs
  · cases h : s.discovery.send m with
    | mk result d =>
      rw [h] at hsend
      cases result with
      | ok _ => exact (keepsLife_discovery s hsend).trans (keepsLife_flush _ network)
      | error e => exact keepsLife_discovery s hsend
  · exact .refl s

theorem keepsLife_ask (s : Session) (network : Network) (now timeout : Nat) (q : Query) :
    s.KeepsLife (s.ask network now timeout q).2 := by
  rw [ask]
  cases q.request with
  | error e => exact .refl s
  | ok request =>
    have hstart : (s.discovery.start request now timeout).2.closed = s.discovery.closed :=
      s.discovery.closed_after (.start request now timeout) (by simp)
    dsimp only
    cases h : s.discovery.start request now timeout with
    | mk result d =>
      rw [h] at hstart
      have hasked : s.KeepsLife { s with discovery := d } := keepsLife_discovery s hstart
      cases result with
      | error e => exact hasked
      | ok _ =>
        have hflush := hasked.trans (keepsLife_flush _ network)
        dsimp only
        cases h : flush { s with discovery := d } network with
        | mk result s' =>
          rw [h] at hflush
          cases result with
          | ok _ => exact hflush
          | error e => exact hflush.trans (keepsLife_discovery s' rfl)

theorem keepsLife_conclude (s : Session) (now : Nat) : s.KeepsLife (s.conclude now).2 := by
  have hexpire : (s.discovery.expire now).2.closed = s.discovery.closed :=
    s.discovery.closed_after (.expire now) (by simp)
  rw [conclude]
  cases h : s.discovery.expire now with
  | mk result d =>
    rw [h] at hexpire
    cases result with
    | error e => exact keepsLife_discovery s hexpire
    | ok _ => exact keepsLife_discovery s hexpire

theorem hear_eq_nil {position : Nat} {arrival : Arrival} {endpoints endpoints' : List Endpoint}
    {message? : Option Message} (h : hear position arrival endpoints = some (message?, endpoints')) :
    endpoints' = [] ↔ endpoints = [] := by
  cases endpoints with
  | nil => cases h
  | cons endpoint rest =>
    refine iff_of_false ?_ (List.cons_ne_nil _ _)
    rintro rfl
    rw [hear] at h
    split_ifs at h
    · cases h
    · cases hrest : hear position arrival rest <;> rw [hrest] at h <;> cases h

theorem keepsLife_receive (s : Session) (position : Nat) (arrival : Arrival) :
    s.KeepsLife (s.receive position arrival).2 := by
  rw [receive]
  split
  · next m endpoints h =>
    have hreceive : (s.discovery.receive m).2.withoutEvents.closed = s.discovery.closed :=
      s.discovery.closed_after (.receive m) (by simp)
    exact ⟨rfl, rfl, hear_eq_nil h, hreceive⟩
  · next endpoints h => exact ⟨rfl, rfl, hear_eq_nil h, rfl⟩
  · exact .refl s

/-! ### Between calls -/

/-- What holds of a session with the given settings between calls. -/
structure IsSettled (settings : Settings) (s : Session) : Prop where
  settings : s.settings = settings
  phase : s.phase = .stopped ∨ s.phase = .running
  endpoints : s.phase = .running ↔ s.endpoints ≠ []
  discovery : s.phase = .running → ¬s.discovery.closed

variable {settings : Settings}

theorem IsSettled.of_keepsLife (h : s.IsSettled settings) (hkeeps : s.KeepsLife s') :
    s'.IsSettled settings := by
  obtain ⟨hsettings, hphase, hendpoints, hclosed⟩ := hkeeps
  refine ⟨hsettings.trans h.settings, ?_, ?_, ?_⟩
  · rw [hphase]
    exact h.phase
  · rw [hphase, h.endpoints, ne_eq, ne_eq, hendpoints]
  · rw [hphase, hclosed]
    exact h.discovery

/-- What a stop leaves behind. -/
structure IsStopped (settings : Settings) (s : Session) : Prop where
  settings : s.settings = settings
  phase : s.phase = .stopped
  endpoints : s.endpoints = []

theorem IsStopped.isSettled (h : s.IsStopped settings) : s.IsSettled settings := by
  obtain ⟨hsettings, hphase, hendpoints⟩ := h
  have hnot : s.phase ≠ .running := by
    rw [hphase]
    decide
  exact ⟨hsettings, .inl hphase, iff_of_false hnot fun hne => hne hendpoints,
    fun hp => absurd hp hnot⟩

/-- A settled session that is stopped has no endpoints left. -/
theorem IsSettled.isStopped (h : s.IsSettled settings) (hp : s.phase = .stopped) :
    s.IsStopped settings := by
  refine ⟨h.settings, hp, ?_⟩
  by_contra hne
  have hrunning := h.endpoints.2 hne
  rw [hp] at hrunning
  cases hrunning

/-! ### Stopping and starting -/

theorem stop_of_stopped (hp : s.phase = .stopped) : s.stop = s := by
  rw [Session.stop, if_pos hp]

theorem IsSettled.isStopped_stop (h : s.IsSettled settings) : s.stop.IsStopped settings := by
  by_cases hp : s.phase = .stopped
  · rw [stop_of_stopped hp]
    exact h.isStopped hp
  · rw [Session.stop, if_neg hp, beginStop, if_neg hp]
    exact ⟨h.settings, rfl, rfl⟩

/-- The interfaces that are offered to a session: the list in its settings as it stands, or if there
is none, those that the host reports and that are fit. -/
inductive Offers (settings : Settings) (network : Network) : List Interface → Prop
  | configured {interfaces : List Interface} (h : settings.interfaces = some interfaces) :
      Offers settings network interfaces
  | reported {candidates : List Candidate} (hnone : settings.interfaces = none)
      (h : network.candidates = .ok candidates) :
      Offers settings network (candidates.filterMap Candidate.interface?)

/-- The settings name no interfaces, and the host does not say which there are. -/
structure Unreported (settings : Settings) (network : Network) (kind : SystemFailure)
    (reason : String) : Prop where
  interfaces : settings.interfaces = none
  candidates : network.candidates = .error (kind, reason)

theorem offered_eq_ok_iff {network : Network} {interfaces : List Interface} :
    Endpoint.offered settings network = .ok interfaces ↔ Offers settings network interfaces := by
  constructor
  · intro h
    unfold Endpoint.offered at h
    split at h
    · next hconfigured =>
      cases h
      exact .configured hconfigured
    · next hnone hreported =>
      cases h
      exact .reported hnone hreported
    · cases h
  · rintro (hconfigured | ⟨hnone, hreported⟩)
    · rw [Endpoint.offered, hconfigured]
    · rw [Endpoint.offered, hnone, hreported]

theorem exists_unreported {network : Network} {e : Error}
    (h : Endpoint.offered settings network = .error e) :
    ∃ kind reason, e = .system kind reason ∧ Unreported settings network kind reason := by
  unfold Endpoint.offered at h
  split at h
  · cases h
  · cases h
  · next hnone hreported =>
    cases h
    exact ⟨_, _, rfl, hnone, hreported⟩

theorem Offers.unique {network : Network} {interfaces interfaces' : List Interface}
    (h : Offers settings network interfaces) (h' : Offers settings network interfaces') :
    interfaces = interfaces' :=
  Except.ok.inj ((offered_eq_ok_iff.2 h).symm.trans (offered_eq_ok_iff.2 h'))

theorem Unreported.not_offers {network : Network} {kind : SystemFailure} {reason : String}
    (h : Unreported settings network kind reason) (interfaces : List Interface) :
    ¬Offers settings network interfaces := by
  rintro (hconfigured | ⟨-, hreported⟩)
  · cases h.interfaces.symm.trans hconfigured
  · cases h.candidates.symm.trans hreported

/-- Whether the addresses of a family are used. -/
def isSwitchedOn (settings : Settings) : IpAddress → Bool
  | .v4 _ => settings.ipv4
  | .v6 _ => settings.ipv6

/-- The interfaces on which a session listens, each with its position among those that are offered:
they are switched on and can be bound. -/
def used (settings : Settings) (network : Network) (interfaces : List Interface) :
    List (Interface × Nat) :=
  interfaces.zipIdx.filter fun (i, position) =>
    isSwitchedOn settings i.address && network.binds position

theorem allows_eq (settings : Settings) (i : Interface) :
    settings.allows i = isSwitchedOn settings i.address := by
  obtain ⟨name, index, _ | _⟩ := i <;> rfl

theorem map_bindAll (settings : Settings) (network : Network) (interfaces : List Interface) :
    (Endpoint.bindAll settings network interfaces).map (fun l => (l.interface, l.position)) =
      used settings network interfaces := by
  rw [Endpoint.bindAll, used, List.map_filterMap, ← List.filterMap_eq_filter]
  congr 1
  funext ⟨i, position⟩
  dsimp only [Option.guard]
  rw [allows_eq]
  split_ifs <;> rfl

/-- How a start ends, and what it leaves. -/
inductive Started (settings : Settings) (network : Network) : Outcome → Prop
  | bufferTooSmall {t : Session} (hsize : settings.bufferSize < Header.size)
      (h : t.IsStopped settings) : Started settings network (.error .bufferTooSmall, t)
  | unreported {t : Session} (kind : SystemFailure) (reason : String)
      (hsize : Header.size ≤ settings.bufferSize)
      (hunreported : Unreported settings network kind reason) (h : t.IsStopped settings) :
      Started settings network (.error (.system kind reason), t)
  | noInterface {t : Session} (interfaces : List Interface)
      (hsize : Header.size ≤ settings.bufferSize) (hoffers : Offers settings network interfaces)
      (hused : used settings network interfaces = []) (h : t.IsStopped settings) :
      Started settings network (.error .noInterface, t)
  | running {t : Session} (interfaces : List Interface)
      (hsize : Header.size ≤ settings.bufferSize) (hoffers : Offers settings network interfaces)
      (hused : used settings network interfaces ≠ []) (hsettings : t.settings = settings)
      (hphase : t.phase = .running)
      (hendpoints : t.endpoints = Endpoint.bindAll settings network interfaces)
      (hopen : ¬t.discovery.closed) : Started settings network (.ok (), t)

theorem bindAll_eq_nil {network : Network} {interfaces : List Interface} :
    Endpoint.bindAll settings network interfaces = [] ↔ used settings network interfaces = [] := by
  rw [← map_bindAll, List.map_eq_nil_iff]

/-- **A start keeps nothing of what was there before.** -/
theorem IsSettled.started (h : s.IsSettled settings) (network : Network) :
    Started settings network (s.start network) := by
  obtain ⟨hsettings, -, hendpoints⟩ := h.isStopped_stop
  have hsettings' : s.stop.beginStart.settings = settings := hsettings
  have hendpoints' : s.stop.beginStart.endpoints = [] := hendpoints
  rw [start, renew]
  split_ifs with hsize
  · rw [hsettings'] at hsize
    exact .bufferTooSmall hsize ⟨hsettings, rfl, hendpoints⟩
  · rw [hsettings', Nat.not_lt] at hsize
    cases hoffered : Endpoint.offered s.stop.beginStart.settings network with
    | error e =>
      rw [hsettings'] at hoffered
      obtain ⟨kind, reason, rfl, hunreported⟩ := exists_unreported hoffered
      exact .unreported kind reason hsize hunreported ⟨hsettings, rfl, hendpoints⟩
    | ok interfaces =>
      rw [hsettings'] at hoffered
      have hoffers := offered_eq_ok_iff.1 hoffered
      dsimp only [bind]
      rw [hendpoints', hsettings', List.nil_append]
      split_ifs with hbound
      · have hnil := List.isEmpty_iff.1 hbound
        exact .noInterface interfaces hsize hoffers (bindAll_eq_nil.1 hnil) ⟨rfl, rfl, hnil⟩
      · have hne : used settings network interfaces ≠ [] :=
          fun he => hbound (List.isEmpty_iff.2 (bindAll_eq_nil.2 he))
        exact .running interfaces hsize hoffers hne rfl rfl rfl (by simp)

theorem Started.isSettled {network : Network} {o : Outcome} (h : Started settings network o) :
    o.2.IsSettled settings := by
  cases h with
  | bufferTooSmall hsize h => exact h.isSettled
  | unreported kind reason hsize hunreported h => exact h.isSettled
  | noInterface interfaces hsize hoffers hused h => exact h.isSettled
  | running interfaces hsize hoffers hused hsettings hphase hendpoints hopen =>
    refine ⟨hsettings, .inr hphase, iff_of_true hphase ?_, fun _ => hopen⟩
    rw [hendpoints, ne_eq, bindAll_eq_nil]
    exact hused

variable {network : Network} {o : Outcome}

theorem Started.bufferTooSmall_iff (h : Started settings network o) :
    o.1 = .error .bufferTooSmall ↔ settings.bufferSize < Header.size := by
  cases h with
  | bufferTooSmall hsize h => simp [hsize]
  | unreported kind reason hsize hunreported h => simp [hsize]
  | noInterface interfaces hsize hoffers hused h => simp [hsize]
  | running interfaces hsize => simp [hsize]

theorem Started.unreported_iff (h : Started settings network o) {kind : SystemFailure}
    {reason : String} : o.1 = .error (.system kind reason) ↔
      Header.size ≤ settings.bufferSize ∧ Unreported settings network kind reason := by
  cases h with
  | bufferTooSmall hsize h => simp [not_le.2 hsize]
  | unreported kind' reason' hsize hunreported h =>
    constructor
    · intro heq
      cases heq
      exact ⟨hsize, hunreported⟩
    · rintro ⟨-, h'⟩
      cases hunreported.candidates.symm.trans h'.candidates
      rfl
  | noInterface interfaces hsize hoffers hused h =>
    exact iff_of_false nofun fun hboth => hboth.2.not_offers interfaces hoffers
  | running interfaces hsize hoffers =>
    exact iff_of_false nofun fun hboth => hboth.2.not_offers interfaces hoffers

theorem Started.noInterface_iff (h : Started settings network o) :
    o.1 = .error .noInterface ↔ Header.size ≤ settings.bufferSize ∧
      ∃ interfaces, Offers settings network interfaces ∧ used settings network interfaces = [] := by
  cases h with
  | bufferTooSmall hsize h => simp [not_le.2 hsize]
  | unreported kind reason hsize hunreported h => simp [hunreported.not_offers]
  | noInterface interfaces hsize hoffers hused h =>
    exact iff_of_true rfl ⟨hsize, interfaces, hoffers, hused⟩
  | running interfaces hsize hoffers hused =>
    refine iff_of_false nofun ?_
    rintro ⟨-, interfaces', hoffers', hused'⟩
    exact hused (hoffers.unique hoffers' ▸ hused')

theorem Started.ok_iff (h : Started settings network o) :
    o.1 = .ok () ↔ Header.size ≤ settings.bufferSize ∧
      ∃ interfaces, Offers settings network interfaces ∧ used settings network interfaces ≠ [] := by
  cases h with
  | bufferTooSmall hsize h => simp [not_le.2 hsize]
  | unreported kind reason hsize hunreported h => simp [hunreported.not_offers]
  | noInterface interfaces hsize hoffers hused h =>
    refine iff_of_false nofun ?_
    rintro ⟨-, interfaces', hoffers', hused'⟩
    exact hused' (hoffers.unique hoffers' ▸ hused)
  | running interfaces hsize hoffers hused =>
    exact iff_of_true rfl ⟨hsize, interfaces, hoffers, hused⟩

theorem Started.endpoints (h : Started settings network o) (hok : o.1 = .ok ())
    {interfaces : List Interface} (hoffers : Offers settings network interfaces) :
    o.2.endpoints.map (fun l => (l.interface, l.position)) = used settings network interfaces := by
  cases h with
  | running interfaces' hsize hoffers' hused hsettings hphase hendpoints hopen =>
    rw [hendpoints, map_bindAll, hoffers'.unique hoffers]
  | bufferTooSmall | unreported | noInterface => cases hok

theorem Started.isStopped (h : Started settings network o) {e : Error} (herror : o.1 = .error e) :
    o.2.IsStopped settings := by
  cases h with
  | bufferTooSmall hsize h => exact h
  | unreported kind reason hsize hunreported h => exact h
  | noInterface interfaces hsize hoffers hused h => exact h
  | running => cases herror

/-! ### Queries -/

theorem IsSettled.undergo (h : s.IsSettled settings) (network : Network) (incident : Incident) :
    (undergo network s incident).IsSettled settings := by
  cases incident with
  | receive position arrival => exact h.of_keepsLife (keepsLife_receive s position arrival)
  | stop => exact h.isStopped_stop.isSettled
  | start => exact (h.started network).isSettled

theorem IsSettled.foldl_undergo (h : s.IsSettled settings) (network : Network)
    (incidents : List Incident) :
    (incidents.foldl (Session.undergo network) s).IsSettled settings := by
  induction incidents generalizing s with
  | nil => exact h
  | cons incident incidents ih => exact ih (h.undergo network incident)

/-- The rest of a turn, once the request has been sent or could not be. -/
def afterAsk (network : Network) (now : Nat) (call : Call) (patience? : Option Nat) :
    Outcome → Answer × Nat × Session
  | (.error e, s) => (.failed e, now, s)
  | (.ok (), s) =>
    let s := call.incidents.foldl (Session.undergo network) s
    let (time, abandoned) := s.waiting call patience?
    if abandoned then (.abandoned, now + time, s)
    else
      let (answer, s) := s.conclude (now + time)
      (answer, now + time, s)

theorem IsSettled.afterAsk (h : o.2.IsSettled settings) (now : Nat) (call : Call)
    (patience? : Option Nat) :
    (afterAsk network now call patience? o).2.2.IsSettled settings := by
  obtain ⟨_ | _, s⟩ := o
  · exact h
  · have hwaited := IsSettled.foldl_undergo h network call.incidents
    rw [Session.afterAsk]
    dsimp only
    split_ifs
    · exact hwaited
    · exact hwaited.of_keepsLife (keepsLife_conclude _ _)

theorem IsSettled.takeTurn (h : s.IsSettled settings) (network : Network) (now : Nat) (call : Call)
    (patience? : Option Nat) :
    (s.takeTurn network now call patience?).2.2.IsSettled settings := by
  rw [Session.takeTurn]
  cases call.handler? with
  | none => exact (h.of_keepsLife (keepsLife_ask s network now _ _)).afterAsk now call patience?
  | some handler =>
    have hadded := h.of_keepsLife (keepsLife_roster s (s.roster.add handler).2)
    have hasked := hadded.of_keepsLife (keepsLife_ask _ network now (s.timeout call)
      { call.query with domain? := some (call.query.domain?.getD s.settings.domain) })
    have hturn : (Session.afterAsk network now call patience? _).2.2.IsSettled settings :=
      hasked.afterAsk now call patience?
    exact hturn.of_keepsLife (keepsLife_roster _ _)

theorem IsSettled.query (h : s.IsSettled settings) (network : Network) (call : Call) :
    (s.query network call).2.IsSettled settings := by
  rw [Session.query]
  split_ifs
  · exact h.takeTurn network 0 call call.abandonedAfter?
  · exact h

/-! ### Runs -/

theorem IsSettled.act (h : s.IsSettled settings) (action : Action) :
    (s.act action).IsSettled settings := by
  cases action with
  | start network => exact (h.started network).isSettled
  | stop => exact h.isStopped_stop.isSettled
  | query network call => exact h.query network call
  | announce network m => exact h.of_keepsLife (keepsLife_announce s network m)
  | addHandler handler => exact h.of_keepsLife (keepsLife_roster s _)
  | removeHandler id => exact h.of_keepsLife (keepsLife_roster s _)
  | receive position arrival => exact h.of_keepsLife (keepsLife_receive s position arrival)

theorem IsSettled.run (h : s.IsSettled settings) (actions : List Action) :
    (s.run actions).IsSettled settings := by
  induction actions generalizing s with
  | nil => exact h
  | cons action actions ih => exact ih (h.act action)

/-- The result of a start, by the settings and the network, and what it leaves. -/
structure Starts (settings : Settings) (network : Network) (o : Outcome) : Prop where
  bufferTooSmall : o.1 = .error .bufferTooSmall ↔ settings.bufferSize < Header.size
  unreported : ∀ kind reason, o.1 = .error (.system kind reason) ↔
    Header.size ≤ settings.bufferSize ∧ Unreported settings network kind reason
  noInterface : o.1 = .error .noInterface ↔ Header.size ≤ settings.bufferSize ∧
    ∃ interfaces, Offers settings network interfaces ∧ used settings network interfaces = []
  ok : o.1 = .ok () ↔ Header.size ≤ settings.bufferSize ∧
    ∃ interfaces, Offers settings network interfaces ∧ used settings network interfaces ≠ []
  /-- There is one endpoint for each interface that is used, in their order, and no other. -/
  endpoints : o.1 = .ok () → ∀ interfaces, Offers settings network interfaces →
    o.2.endpoints.map (fun l => (l.interface, l.position)) = used settings network interfaces
  error : ∀ e, o.1 = .error e → o.2.phase = .stopped ∧ o.2.endpoints = []

/-- What is known of a session between its calls. -/
structure IsOrderly (settings : Settings) (s : Session) : Prop where
  settled : IsSettled settings s
  starts : ∀ network, Starts settings network (s.start network)
  stop : s.phase = .stopped → s.stop = s
  query : s.phase = .stopped → ∀ network call, s.query network call = (.failed .notRunning, s)
  announce : s.phase = .stopped → ∀ network m, s.announce network m = (.error .notRunning, s)

theorem IsSettled.isOrderly (h : s.IsSettled settings) : s.IsOrderly settings where
  settled := h
  starts network :=
    have hstarted := h.started network
    { bufferTooSmall := hstarted.bufferTooSmall_iff
      unreported := fun _ _ => hstarted.unreported_iff
      noInterface := hstarted.noInterface_iff
      ok := hstarted.ok_iff
      endpoints := fun hok _ hoffers => hstarted.endpoints hok hoffers
      error := fun _ herror =>
        ⟨(hstarted.isStopped herror).phase, (hstarted.isStopped herror).endpoints⟩ }
  stop := stop_of_stopped
  query hp network call := by
    have hnot : ¬s.phase = .running := by rw [hp]; decide
    rw [Session.query, if_neg hnot]
  announce hp network m := by
    have hnot : ¬s.phase = .running := by rw [hp]; decide
    rw [Session.announce, if_neg hnot]

/-- **Whatever is called, in whatever order and with whatever luck, a session is stopped or running
between calls, and it runs exactly as long as it listens somewhere. A start listens where it can, and
otherwise says why not; nothing can be asked or announced while the session is stopped.** -/
theorem isOrderly_run (settings : Settings) (actions : List Action) :
    IsOrderly settings (run { settings } actions) := by
  have hnew : IsStopped settings { settings } := ⟨rfl, rfl, rfl⟩
  exact (hnew.isSettled.run actions).isOrderly

/-- A second start, for which fewer interfaces can be bound, drops the endpoints of the first. -/
example :
    let wired : Interface := ⟨"eth0", 2, .v4 ⟨10, 0, 0, 2⟩⟩
    let wireless : Interface := ⟨"wlan0", 3, .v4 ⟨10, 0, 1, 2⟩⟩
    let settings : Settings := { interfaces := some [wired, wireless] }
    let both : Network := { binds := fun _ => true, sends := fun _ => .ok () }
    let one : Network := { binds := fun n => n = 1, sends := fun _ => .ok () }
    (run { settings } [.start both]).endpoints.map (·.interface) = [wired, wireless] ∧
      (run { settings } [.start both, .start one]).endpoints.map (·.interface) = [wireless] := by
  decide

end Session

end ServiceDiscovery
