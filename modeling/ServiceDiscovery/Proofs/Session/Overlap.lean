import ServiceDiscovery.Proofs.Session.Queued

/-!
# Calls that overlap

Starting and stopping take time: a call waits for the lock of the endpoints, which is given to those
who ask in their order, and for the endpoints that it has closed. At these points other calls can go
on, even where the call would not have to wait. Here any number of calls take place in any order of
their parts.

A session that is stopped never has an endpoint. Beyond that all is well as long as each start finds
nobody else at the lock when it begins its discovery. Otherwise one call can close the discovery
that another has just begun, or add endpoints to those of another.

* `Work`, `Overlap`, `Move`: calls under way, and how they go on; `run_alone_stop`,
  `run_alone_start`: one call by itself;
* `IsGuarded`, `IsGuarded.after`, `IsGuarded.run`: what holds whatever happens;
* `IsSteady`, `IsSteady.after`, `IsSteady.run`: what holds if starts are alone;
* `isCoherent_run`: sessions after calls that overlap;
* `incoherent_after_overlap`: what can happen otherwise.
-/

namespace ServiceDiscovery

/-- What a call that is under way does next, once it is first in line. -/
inductive Work where
  /-- It stops the session, and if it is a start, it goes on afterwards. -/
  | stopping (network? : Option Network)
  /-- It has closed the endpoints and waits until nobody reads from them any more. -/
  | joining (network? : Option Network)
  /-- It has begun a discovery and binds interfaces. -/
  | binding (network : Network) (interfaces : List Interface)

def Work.isStopping : Work → Bool
  | .stopping _ => true
  | .joining _ | .binding .. => false

def Work.isJoining : Work → Bool
  | .joining _ => true
  | .stopping _ | .binding .. => false

/-- A session with the calls under way. -/
structure Overlap where
  session : Session
  /-- The calls in the order in which they have asked for the lock. The first one has it. -/
  line : List Work := []

inductive Move where
  /-- Somebody calls: a start on a network, or a stop. -/
  | call (network? : Option Network)
  /-- The first in line goes on until it has to wait again. -/
  | resume

namespace Overlap

/-- A start goes on after the session has been stopped. -/
def renew (o : Overlap) (network : Network) : Overlap :=
  match o.session.beginStart.renew network with
  | (.ok interfaces, s) => ⟨s, o.line ++ [.binding network interfaces]⟩
  | (.error e, s) => ⟨(Session.endStart (.error e, s)).2, o.line⟩

def call (o : Overlap) (network? : Option Network) : Overlap :=
  if o.session.phase = .stopped then
    match network? with
    | some network => o.renew network
    | none => o
  else ⟨o.session.beginStop, o.line ++ [.stopping network?]⟩

def resume (o : Overlap) : Overlap :=
  match o.line with
  | [] => o
  | .stopping network? :: rest => ⟨o.session.closeEndpoints, .joining network? :: rest⟩
  | .joining none :: rest => ⟨o.session.endStop, rest⟩
  | .joining (some network) :: rest => renew ⟨o.session.endStop, rest⟩ network
  | .binding network interfaces :: rest =>
    ⟨(Session.endStart (o.session.bind network interfaces)).2, rest⟩

def after (o : Overlap) : Move → Overlap
  | .call network? => o.call network?
  | .resume => o.resume

def run (o : Overlap) (moves : List Move) : Overlap := moves.foldl after o

variable {o : Overlap} {s : Session} {network : Network}

/-! ### Parts of calls -/

/-- A start begins a discovery and gets in line to bind, or it fails. -/
theorem renew_cases (o : Overlap) (network : Network) :
    (∃ interfaces, o.renew network = ⟨{ o.session with
        phase := .starting
        discovery := { destination := groupAddress none o.session.settings.port } },
      o.line ++ [.binding network interfaces]⟩) ∨
    o.renew network = ⟨{ o.session with phase := .stopped }, o.line⟩ := by
  unfold renew Session.renew
  by_cases hsize : o.session.beginStart.settings.bufferSize < Header.size
  · rw [if_pos hsize]
    exact .inr rfl
  · rw [if_neg hsize]
    rcases Endpoint.offered o.session.beginStart.settings network with e | interfaces
    · exact .inr rfl
    · exact .inl ⟨interfaces, rfl⟩

/-- A start that binds runs if there is an endpoint then. -/
theorem endStart_bind (s : Session) (network : Network) (interfaces : List Interface) :
    (Session.endStart (s.bind network interfaces)).2 = { s with
      endpoints := s.endpoints ++ Endpoint.bindAll s.settings network interfaces
      phase := if (s.endpoints ++ Endpoint.bindAll s.settings network interfaces).isEmpty
        then .stopped else .running } := by
  dsimp only [Session.bind]
  split_ifs <;> rfl

/-- A start by itself binds next. -/
theorem resume_renew (s : Session) (network : Network) :
    (renew ⟨s, []⟩ network).resume = ⟨(Session.endStart <|
      match s.beginStart.renew network with
      | (.ok interfaces, s) => s.bind network interfaces
      | (.error e, s) => (.error e, s)).2, []⟩ := by
  unfold renew
  dsimp only
  rcases s.beginStart.renew network with ⟨_ | interfaces, s'⟩ <;> rfl

/-- A stop by itself does what a stop of the session does. -/
theorem run_alone_stop (s : Session) :
    run ⟨s, []⟩ [.call none, .resume, .resume] = ⟨s.stop, []⟩ := by
  by_cases hp : s.phase = .stopped
  · simp [run, after, call, resume, hp, Session.stop]
  · simp [run, after, call, resume, hp, Session.stop]

/-- A start by itself does what a start of the session does. -/
theorem run_alone_start (s : Session) (network : Network) :
    run ⟨s, []⟩ [.call (some network), .resume, .resume, .resume] =
      ⟨(s.start network).2, []⟩ := by
  by_cases hp : s.phase = .stopped
  · have hcall : call ⟨s, []⟩ (some network) = renew ⟨s, []⟩ network := if_pos hp
    simp only [run, List.foldl_cons, List.foldl_nil, after, hcall, resume_renew]
    rw [Session.start, Session.stop_of_stopped hp]
    rfl
  · have hcall : call ⟨s, []⟩ (some network) = ⟨s.beginStop, [.stopping (some network)]⟩ :=
      if_neg hp
    have hstop : s.stop = s.beginStop.closeEndpoints.endStop := if_neg hp
    have hresume : resume ⟨s.beginStop.closeEndpoints, [.joining (some network)]⟩ =
      renew ⟨s.stop, []⟩ network := by rw [hstop]; rfl
    simp only [run, List.foldl_cons, List.foldl_nil, after, hcall]
    have hclose : resume ⟨s.beginStop, [.stopping (some network)]⟩ =
      ⟨s.beginStop.closeEndpoints, [.joining (some network)]⟩ := rfl
    rw [hclose, hresume, resume_renew]
    rfl

/-! ### Whatever happens -/

/-- What holds of calls that overlap: only the first in line waits for endpoints that it has closed,
and then there are none, as there are none while the session is stopped. -/
structure IsGuarded (o : Overlap) : Prop where
  stopped : o.session.phase = .stopped → o.session.endpoints = []
  joining : ∀ network? rest, o.line = .joining network? :: rest → o.session.endpoints = []
  tail : ∀ w ∈ o.line.tail, ¬w.isJoining

theorem mem_tail_concat {α : Type} {l : List α} {x y : α} (h : y ∈ (l ++ [x]).tail) :
    y ∈ l.tail ∨ y = x := by
  cases l with
  | nil => exact absurd h List.not_mem_nil
  | cons z l =>
    rw [List.cons_append, List.tail_cons, List.mem_append, List.mem_singleton] at h
    exact h

/-- A start that goes on has no endpoints. -/
theorem isGuarded_renew (hendpoints : o.session.endpoints = [])
    (htail : ∀ w ∈ o.line.tail, ¬w.isJoining) (network : Network) :
    (o.renew network).IsGuarded := by
  rcases renew_cases o network with ⟨interfaces, h⟩ | h
  · rw [h]
    refine ⟨fun _ => hendpoints, fun _ _ _ => hendpoints, fun w hw => ?_⟩
    rcases mem_tail_concat hw with hw | rfl
    · exact htail w hw
    · exact Bool.false_ne_true
  · rw [h]
    exact ⟨fun _ => hendpoints, fun _ _ _ => hendpoints, htail⟩

theorem IsGuarded.call (h : o.IsGuarded) (network? : Option Network) :
    (o.call network?).IsGuarded := by
  unfold Overlap.call
  by_cases hp : o.session.phase = .stopped
  · rw [if_pos hp]
    rcases network? with _ | network
    · exact h
    · exact isGuarded_renew (h.stopped hp) h.tail network
  · rw [if_neg hp, Session.beginStop, if_neg hp]
    refine ⟨fun hstopped => ?_, fun network?' rest hline => ?_, fun w hw => ?_⟩
    · cases hstopped
    · rcases hhead : o.line with _ | ⟨w, ws⟩
      · rw [hhead] at hline
        cases hline
      · rw [hhead] at hline
        cases hline
        exact h.joining _ _ hhead
    · rcases mem_tail_concat hw with hw | rfl
      · exact h.tail w hw
      · exact Bool.false_ne_true

theorem IsGuarded.resume (h : o.IsGuarded) : o.resume.IsGuarded := by
  obtain ⟨s, line⟩ := o
  obtain ⟨hstopped, hjoining, htail⟩ := h
  rcases line with _ | ⟨_ | _ | _, rest⟩
  · exact ⟨hstopped, hjoining, htail⟩
  · exact ⟨fun _ => rfl, fun _ _ _ => rfl, htail⟩
  · next network? =>
    have hendpoints : s.endpoints = [] := hjoining _ _ rfl
    have hrest : ∀ w ∈ rest.tail, ¬w.isJoining := fun w hw => htail w (List.mem_of_mem_tail hw)
    rcases network? with _ | network
    · exact ⟨fun _ => hendpoints, fun _ _ _ => hendpoints, hrest⟩
    · exact isGuarded_renew (o := ⟨s.endStop, rest⟩) hendpoints hrest network
  · next network interfaces =>
    unfold Overlap.resume
    dsimp only
    rw [endStart_bind]
    refine ⟨fun hp => ?_, fun network? rest' hline => ?_,
      fun w hw => htail w (List.mem_of_mem_tail hw)⟩
    · by_contra hne
      dsimp only at hp hne
      rw [if_neg (by rwa [List.isEmpty_iff])] at hp
      cases hp
    · have hnot := htail (.joining network?) (by
        dsimp only at hline
        rw [List.tail_cons, hline]
        exact List.mem_cons_self)
      exact absurd rfl hnot

theorem IsGuarded.after (h : o.IsGuarded) (move : Move) : (o.after move).IsGuarded := by
  cases move with
  | call network? => exact h.call network?
  | resume => exact h.resume

/-- **Whatever happens, a session that is stopped has no endpoints.** -/
theorem IsGuarded.run (h : o.IsGuarded) (moves : List Move) : (o.run moves).IsGuarded := by
  induction moves generalizing o with
  | nil => exact h
  | cons move moves ih => exact ih (h.after move)

/-! ### Starts that are alone -/

/-- Whether nobody else is in line if this is where a start begins its discovery. -/
def isAlone (o : Overlap) : Move → Bool
  | .call (some _) => o.session.phase ≠ .stopped || o.line.isEmpty
  | .call none => true
  | .resume =>
    match o.line with
    | .joining (some _) :: rest => rest.isEmpty
    | _ => true

/-- Whether nobody else is in line whenever a start begins its discovery. -/
def areAlone (o : Overlap) : List Move → Bool
  | [] => true
  | move :: moves => o.isAlone move && (o.after move).areAlone moves

end Overlap

namespace Session

/-- A session is as it should be while nobody starts or stops it: it runs on an open discovery with
one endpoint at most for each interface, or it is stopped and has none. -/
structure IsCoherent (s : Session) : Prop where
  phase : s.phase = .stopped ∨ s.phase = .running
  running : s.phase = .running → ¬s.discovery.closed ∧ (s.endpoints.map (·.position)).Nodup
  stopped : s.phase = .stopped → s.endpoints = []

theorem isCoherent_of_stopped {s : Session} (hp : s.phase = .stopped)
    (hendpoints : s.endpoints = []) : s.IsCoherent where
  phase := .inl hp
  running hrunning := by
    rw [hp] at hrunning
    cases hrunning
  stopped _ := hendpoints

theorem isCoherent_of_running {s : Session} (hp : s.phase = .running)
    (hopen : ¬s.discovery.closed) (hpositions : (s.endpoints.map (·.position)).Nodup) :
    s.IsCoherent where
  phase := .inr hp
  running _ := ⟨hopen, hpositions⟩
  stopped hstopped := by
    rw [hp] at hstopped
    cases hstopped

/-- A session is as it should be between calls. -/
theorem isCoherent_passAll (settings : Settings) (episodes : List Episode) :
    (passAll { settings } episodes).IsCoherent := by
  obtain ⟨hsettled, hremembers⟩ := remembers_passAll settings episodes
  rcases hsettled.phase with hp | hp
  · exact isCoherent_of_stopped hp (hsettled.isStopped hp).endpoints
  · exact isCoherent_of_running hp (hsettled.discovery hp) hremembers.bound.positions

end Session

namespace Overlap

variable {o : Overlap}

/-- What holds of calls that overlap when starts are alone: only the first in line has begun, and it
goes on as if it were alone. -/
structure IsSteady (o : Overlap) : Prop where
  idle : o.line = [] → o.session.IsCoherent
  binding : ∀ network interfaces rest, o.line = .binding network interfaces :: rest →
    o.session.endpoints = [] ∧ ¬o.session.discovery.closed
  tail : ∀ w ∈ o.line.tail, w.isStopping

/-- A start that is alone begins its discovery. -/
theorem isSteady_renew {s : Session} (hendpoints : s.endpoints = []) (network : Network) :
    (renew ⟨s, []⟩ network).IsSteady := by
  rcases renew_cases ⟨s, []⟩ network with ⟨interfaces, h⟩ | h
  · rw [h]
    refine ⟨fun hline => ?_, fun _ _ _ _ => ⟨hendpoints, Bool.false_ne_true⟩,
      fun w hw => absurd hw List.not_mem_nil⟩
    cases hline
  · rw [h]
    refine ⟨fun _ => Session.isCoherent_of_stopped rfl hendpoints, fun _ _ _ hline => ?_,
      fun w hw => absurd hw List.not_mem_nil⟩
    cases hline

theorem IsSteady.call (h : o.IsSteady) (hguarded : o.IsGuarded) {network? : Option Network}
    (halone : o.isAlone (.call network?)) : (o.call network?).IsSteady := by
  obtain ⟨s, line⟩ := o
  unfold Overlap.call
  dsimp only
  by_cases hp : s.phase = .stopped
  · rw [if_pos hp]
    rcases network? with _ | network
    · exact h
    · simp only [isAlone, hp, ne_eq, not_true_eq_false, decide_false, Bool.false_or,
        List.isEmpty_iff] at halone
      rw [halone]
      exact isSteady_renew (hguarded.stopped hp) network
  · rw [if_neg hp, Session.beginStop, if_neg hp]
    refine ⟨fun hline => ?_, fun network interfaces rest hline => ?_, fun w hw => ?_⟩
    · exact absurd hline (List.append_ne_nil_of_right_ne_nil line (List.cons_ne_nil _ _))
    · rcases line with _ | ⟨w, ws⟩
      · cases hline
      · cases hline
        exact h.binding _ _ _ rfl
    · rcases mem_tail_concat hw with hw | rfl
      · exact h.tail w hw
      · rfl

/-- Those who wait to stop the session do not bind. -/
theorem not_binding {rest rest' : List Work} (h : ∀ w ∈ rest, w.isStopping) {network : Network}
    {interfaces : List Interface} : rest ≠ .binding network interfaces :: rest' := by
  rintro rfl
  exact Bool.false_ne_true (h _ List.mem_cons_self)

theorem IsSteady.resume (h : o.IsSteady) (hguarded : o.IsGuarded) (halone : o.isAlone .resume) :
    o.resume.IsSteady := by
  obtain ⟨s, line⟩ := o
  obtain ⟨hidle, hbinding, htail⟩ := h
  rcases line with _ | ⟨_ | _ | _, rest⟩
  · exact ⟨hidle, hbinding, htail⟩
  · refine ⟨fun hline => ?_, fun _ _ _ hline => ?_, htail⟩ <;> cases hline
  · next network? =>
    have hendpoints : s.endpoints = [] := hguarded.joining _ _ rfl
    rcases network? with _ | network
    · exact ⟨fun _ => Session.isCoherent_of_stopped rfl hendpoints,
        fun _ _ _ hline => absurd hline (not_binding htail),
        fun w hw => htail w (List.mem_of_mem_tail hw)⟩
    · obtain rfl : rest = [] := List.isEmpty_iff.1 halone
      exact isSteady_renew (s := s.endStop) hendpoints network
  · next network interfaces =>
    obtain ⟨hendpoints, hopen⟩ := hbinding _ _ _ rfl
    dsimp only at hendpoints hopen
    unfold Overlap.resume
    dsimp only
    rw [endStart_bind, hendpoints, List.nil_append]
    refine ⟨fun _ => ?_, fun _ _ _ hline => absurd hline (not_binding htail),
      fun w hw => htail w (List.mem_of_mem_tail hw)⟩
    by_cases hbound : (Endpoint.bindAll s.settings network interfaces).isEmpty
    · rw [if_pos hbound]
      exact Session.isCoherent_of_stopped rfl (List.isEmpty_iff.1 hbound)
    · rw [if_neg hbound]
      exact Session.isCoherent_of_running rfl hopen
        (Session.nodup_bindAll s.settings network interfaces)

theorem IsSteady.after (h : o.IsSteady) (hguarded : o.IsGuarded) {move : Move}
    (halone : o.isAlone move) : (o.after move).IsSteady := by
  cases move with
  | call network? => exact h.call hguarded halone
  | resume => exact h.resume hguarded halone

theorem IsSteady.run (h : o.IsSteady) (hguarded : o.IsGuarded) {moves : List Move}
    (halone : o.areAlone moves) : (o.run moves).IsSteady := by
  induction moves generalizing o with
  | nil => exact h
  | cons move moves ih =>
    obtain ⟨hmove, hmoves⟩ := Bool.and_eq_true_iff.1 halone
    exact ih (h.after hguarded hmove) (hguarded.after move) hmoves

/-! ### Sessions after calls that overlap -/

/-- **Whatever a session has been through, and however calls overlap, once all of them are over it
has no endpoints if it is stopped. If moreover each start found nobody else in line when it began
its discovery, the session is as if it had been called by one after another.** -/
theorem isCoherent_run (settings : Settings) (episodes : List Episode) (moves : List Move)
    (hdone : (run ⟨Session.passAll { settings } episodes, []⟩ moves).line = []) :
    ((run ⟨Session.passAll { settings } episodes, []⟩ moves).session.phase = .stopped →
      (run ⟨Session.passAll { settings } episodes, []⟩ moves).session.endpoints = []) ∧
    (areAlone ⟨Session.passAll { settings } episodes, []⟩ moves →
      (run ⟨Session.passAll { settings } episodes, []⟩ moves).session.IsCoherent) := by
  have hcoherent := Session.isCoherent_passAll settings episodes
  generalize Session.passAll { settings } episodes = s at hcoherent hdone ⊢
  have hguarded : IsGuarded ⟨s, []⟩ := by
    refine ⟨hcoherent.stopped, fun _ _ hline => ?_, fun w hw => absurd hw List.not_mem_nil⟩
    cases hline
  have hsteady : IsSteady ⟨s, []⟩ := by
    refine ⟨fun _ => hcoherent, fun _ _ _ hline => ?_, fun w hw => absurd hw List.not_mem_nil⟩
    cases hline
  exact ⟨(hguarded.run moves).stopped, fun halone => (hsteady.run hguarded halone).idle hdone⟩

/-- Two stops overlap; behind them comes a start, which is interrupted by a stop and that by another
start. -/
def patientMoves : List Move :=
  [.call none, .call none, .resume, .resume, .resume, .resume, .call (some Session.wiredNetwork),
    .call none, .resume, .call (some Session.wiredNetwork), .resume, .resume, .resume, .resume,
    .resume]

/-- A running session that nobody starts or stops. -/
def wiredOverlap : Overlap where
  session := .passAll { settings := Session.wiredSettings } [.single (.start Session.wiredNetwork)]

/-- Both starts are alone when they begin their discoveries, and in the end the session runs. -/
theorem isCoherent_run_patientMoves :
    (wiredOverlap.run patientMoves).line = [] ∧ wiredOverlap.areAlone patientMoves ∧
      (((wiredOverlap.run patientMoves).session.phase = .stopped →
          (wiredOverlap.run patientMoves).session.endpoints = []) ∧
        (wiredOverlap.areAlone patientMoves →
          (wiredOverlap.run patientMoves).session.IsCoherent)) ∧
      (wiredOverlap.run patientMoves).session.phase = .running := by
  have hdone : (wiredOverlap.run patientMoves).line = [] :=
    List.isEmpty_iff.1 (by decide +kernel)
  have hcoherent := isCoherent_run Session.wiredSettings [.single (.start Session.wiredNetwork)]
    patientMoves hdone
  exact ⟨hdone, by decide +kernel, hcoherent, by decide +kernel⟩

/-- **A stop that comes while a running session is started anew closes the discovery that the start
has begun, and the session runs without it. Of two starts at the same time each adds its endpoints,
so that the session listens twice on one interface.** -/
theorem incoherent_after_overlap :
    let startAndStop := wiredOverlap.run [.call (some Session.wiredNetwork), .resume, .call none,
      .resume, .resume, .resume, .resume]
    let twoStarts := wiredOverlap.run [.call (some Session.wiredNetwork), .resume,
      .call (some Session.wiredNetwork), .resume, .resume, .resume, .resume, .resume]
    (startAndStop.line = [] ∧ startAndStop.session.phase = .running ∧
      startAndStop.session.discovery.closed) ∧
    twoStarts.line = [] ∧ twoStarts.session.phase = .running ∧
      twoStarts.session.endpoints.map (·.position) = [0, 0] :=
  ⟨⟨List.isEmpty_iff.1 (by decide +kernel), by decide +kernel, by decide +kernel⟩,
    List.isEmpty_iff.1 (by decide +kernel), by decide +kernel, by decide +kernel⟩

end Overlap

end ServiceDiscovery
