import ServiceDiscovery.Proofs.Session.Registrations

/-!
# Registrations while queries take turns

Several callers use a session. They register handlers and remove them, they start, stop and
announce, datagrams arrive, and the queries take turns. Each query may have a handler of its own,
which is registered when its turn begins and removed when its turn ends, in whichever way. All these
moments can follow each other in any order, and handlers may change the registrations in the middle
of a message.

What is known of the registrations after any moments follows from the answers that were given. The
handler of a query is registered exactly during its turn, unless somebody removes it by its number.

* `Shared`, `Moment`, `Shared.run`: a session in use;
* `Session.turn`, `Shared.run_turn`: the turn of a query, moment by moment;
* `Shared.changes`, `roster_after`, `roster_run`: what is asked of the registrations;
* `Shared.turn_run`, `mem_run_begin`: the handler of a query;
* `Shared.IsExact`, `isExact_run`: registrations and messages after any moments;
* `Shared.unheard_after_removal`: a query whose handler is removed.
-/

namespace ServiceDiscovery

/-- A session that several callers use. -/
structure Shared where
  session : Session
  /-- The query whose turn it is, by the number of its handler if it has one. -/
  turn? : Option (Option Nat) := none

inductive Moment where
  | addHandler (h : Handler)
  | removeHandler (id : Nat)
  | process (m : Message)
  | undergo (network : Network) (incident : Incident)
  | announce (network : Network) (m : Message)
  /-- The turn of a query begins, unless it is the turn of another one. -/
  | begin (handler? : Option Handler)
  /-- The query sends its request. If that fails, its turn is over. -/
  | ask (network : Network) (now timeout : Nat) (q : Query)
  /-- The turn ends with what was found. -/
  | conclude (now : Nat)
  /-- The turn ends since nobody waits for the query any more. -/
  | abandon

namespace Session

/-- Shows a message to the handlers. -/
def tell (s : Session) (m : Message) : Session :=
  let (notes, roster) := s.roster.showAll m
  { s with roster, activity := { s.activity with notes := s.activity.notes ++ notes } }

/-- Shows a message to the discovery. -/
def heed (s : Session) (m : Message) : Session :=
  { s with discovery := (s.discovery.receive m).2.withoutEvents }

/-- A message is shown to all handlers before it is shown to the discovery. -/
theorem process_eq (s : Session) (m : Message) : s.process m = (s.tell m).heed m := rfl

/-- The turn of a query, moment by moment. -/
def turn (s : Session) (network : Network) (now : Nat) (call : Call) (patience? : Option Nat) :
    List Moment :=
  .begin call.handler? :: .ask network now (s.timeout call) (s.meant call) ::
    match s.asked network now call with
    | (.error _, _) => []
    | (.ok (), s') =>
      let (time, abandoned) :=
        (call.incidents.foldl (undergo network) s').waiting call patience?
      call.incidents.map (.undergo network) ++
        [if abandoned then .abandon else .conclude (now + time)]

end Session

namespace Shared

/-- The end of a turn. The handler of the query is removed. -/
def endTurn (c : Shared) : Shared :=
  match c.turn? with
  | some (some id) => { session := (c.session.removeHandler id).2 }
  | some none | none => { session := c.session }

def after (c : Shared) : Moment → Shared
  | .addHandler h => { c with session := (c.session.addHandler h).2 }
  | .removeHandler id => { c with session := (c.session.removeHandler id).2 }
  | .process m => { c with session := c.session.process m }
  | .undergo network incident => { c with session := c.session.undergo network incident }
  | .announce network m => { c with session := (c.session.announce network m).2 }
  | .begin handler? =>
    match c.turn?, handler? with
    | none, some h =>
      let (id, session) := c.session.addHandler h
      { session, turn? := some (some id) }
    | none, none => { c with turn? := some none }
    -- The query has to wait until the other one is over.
    | some _, _ => c
  | .ask network now timeout q =>
    if c.turn?.isSome then
      match c.session.ask network now timeout q with
      | (.ok (), session) => { c with session }
      | (.error _, session) => endTurn { c with session }
    else c
  | .conclude now =>
    if c.turn?.isSome then endTurn { c with session := (c.session.conclude now).2 } else c
  | .abandon => c.endTurn

def run (c : Shared) (moments : List Moment) : Shared := moments.foldl after c

variable {c : Shared} {s : Session} {id : Nat}

/-! ### Turns as moments -/

theorem run_append (c : Shared) (moments moments' : List Moment) :
    c.run (moments ++ moments') = (c.run moments).run moments' := List.foldl_append

theorem run_incidents (c : Shared) (network : Network) (incidents : List Incident) :
    c.run (incidents.map (.undergo network)) =
      { c with session := incidents.foldl (Session.undergo network) c.session } := by
  induction incidents generalizing c with
  | nil => rfl
  | cons incident incidents ih => exact ih { c with session := _ }

/-- The number of the handler of a call that begins its turn. -/
def number? (s : Session) (call : Call) : Option Nat :=
  call.handler?.map fun _ => s.roster.last + 1

theorem after_begin (s : Session) (call : Call) :
    after { session := s } (.begin call.handler?) =
      { session := s.registered call, turn? := some (number? s call) } := by
  unfold Session.registered number?
  cases call.handler? <;> rfl

theorem endTurn_released (s s' : Session) (call : Call) :
    endTurn { session := s', turn? := some (number? s call) } =
      { session := s.released call s' } := by
  unfold Session.released number?
  cases call.handler? <;> rfl

/-- **A query that takes its turn goes through these moments.** -/
theorem run_turn (s : Session) (network : Network) (now : Nat) (call : Call)
    (patience? : Option Nat) : run { session := s } (s.turn network now call patience?) =
      { session := (s.takeTurn network now call patience?).2.2 } := by
  rw [Session.takeTurn_eq, Session.waited, Session.turn, run, List.foldl_cons, List.foldl_cons,
    after_begin]
  have hask : after { session := s.registered call, turn? := some (number? s call) }
      (.ask network now (s.timeout call) (s.meant call)) =
      match s.asked network now call with
      | (.ok (), session) => { session, turn? := some (number? s call) }
      | (.error _, session) => { session := s.released call session } := by
    show (match s.asked network now call with
      | (.ok (), session) => Shared.mk session (some (number? s call))
      | (.error _, session) => endTurn ⟨session, some (number? s call)⟩) = _
    rcases s.asked network now call with ⟨_ | _, s'⟩
    · exact endTurn_released s s' call
    · rfl
  rw [hask]
  rcases s.asked network now call with ⟨e | _, s'⟩
  · rfl
  · rw [Session.afterAsk, ← run]
    dsimp only
    rw [run_append, run_incidents]
    generalize call.incidents.foldl (Session.undergo network) s' = waited
    rcases waited.waiting call patience? with ⟨time, _ | _⟩
    · exact endTurn_released s _ call
    · exact endTurn_released s waited call

/-! ### What is asked of the registrations -/

/-- What the end of a turn removes. -/
def release (c : Shared) : List Change :=
  match c.turn? with
  | some (some id) => [.remove id]
  | some none | none => []

def changes (c : Shared) : Moment → List Change
  | .addHandler h => [.add h]
  | .removeHandler id => [.remove id]
  | .process _ => c.session.roster.reactions
  | .undergo _ (.receive position arrival) =>
    match Session.hear position arrival c.session.endpoints with
    | some (some _, _) => c.session.roster.reactions
    | some (none, _) | none => []
  | .undergo _ .stop | .undergo _ .start | .announce .. => []
  | .begin handler? => if c.turn?.isSome then [] else (handler?.map .add).toList
  | .ask network now timeout q =>
    match (c.session.ask network now timeout q).1 with
    | .ok () => []
    | .error _ => c.release
  | .conclude _ | .abandon => c.release

/-- What is asked of the registrations in several moments. -/
def changesIn (c : Shared) : List Moment → List Change
  | [] => []
  | moment :: moments => c.changes moment ++ (c.after moment).changesIn moments

/-- What is answered to that. -/
def log (c : Shared) (moments : List Moment) : List Deed :=
  c.session.roster.deeds (c.changesIn moments)

/-- What the end of a turn does to registrations that have not changed before. -/
theorem roster_endTurn {s' : Session} (hroster : s'.roster = s.roster)
    (turn? : Option (Option Nat)) : (endTurn { session := s', turn? }).session.roster =
      s.roster.changeAll (release { session := s, turn? }) := by
  rcases turn? with _ | _ | id
  · exact hroster
  · exact hroster
  · exact congrArg (fun r => (r.remove id).2) hroster

/-- **What a moment does to the registrations.** -/
theorem roster_after (c : Shared) (moment : Moment) :
    (c.after moment).session.roster = c.session.roster.changeAll (c.changes moment) := by
  cases moment with
  | addHandler h => rfl
  | removeHandler id => rfl
  | process m => exact Roster.snd_showAll c.session.roster m
  | undergo network incident =>
    cases incident with
    | receive position arrival =>
      simp only [after, changes, Session.undergo, Session.receive]
      rcases Session.hear position arrival c.session.endpoints with _ | ⟨_ | m, endpoints⟩
      · rfl
      · rfl
      · exact Roster.snd_showAll c.session.roster m
    | stop => exact Session.roster_stop c.session
    | start => exact Session.roster_start c.session network
  | announce network m => exact Session.roster_announce c.session network m
  | begin handler? =>
    obtain ⟨s, _ | number?⟩ := c
    · cases handler? <;> rfl
    · rfl
  | ask network now timeout q =>
    have hroster := Session.roster_ask c.session network now timeout q
    obtain ⟨s, turn?⟩ := c
    dsimp only at hroster
    rcases hask : s.ask network now timeout q with ⟨_ | _, s'⟩ <;> rw [hask] at hroster <;>
      simp only [after, changes, hask]
    · rcases turn? with _ | number?
      · rfl
      · exact roster_endTurn hroster (some number?)
    · rcases turn? with _ | number?
      · rfl
      · exact hroster
  | conclude now =>
    have hroster := Session.roster_conclude c.session now
    obtain ⟨s, _ | number?⟩ := c
    · rfl
    · exact roster_endTurn hroster (some number?)
  | abandon => exact roster_endTurn rfl c.turn?

theorem roster_run (c : Shared) (moments : List Moment) :
    (c.run moments).session.roster = c.session.roster.changeAll (c.changesIn moments) := by
  induction moments generalizing c with
  | nil => rfl
  | cons moment moments ih =>
    rw [run, List.foldl_cons, ← run, ih, roster_after, changesIn, Roster.changeAll_append]

/-! ### The end of a turn -/

/-- A turn goes on, or its handler is to be removed. -/
theorem turn_after (h : c.turn? = some (some id)) (moment : Moment) :
    (c.after moment).turn? = some (some id) ∨ .remove id ∈ c.changes moment := by
  obtain ⟨s, turn?⟩ := c
  obtain rfl : turn? = some (some id) := h
  cases moment with
  | addHandler | removeHandler | process | undergo | announce | begin => exact .inl rfl
  | ask network now timeout q =>
    rcases hask : s.ask network now timeout q with ⟨_ | _, s'⟩
    · exact .inr (by simp [changes, hask, release])
    · exact .inl (by simp [after, hask])
  | conclude | abandon => exact .inr List.mem_cons_self

/-- **A turn that is over has removed its handler.** -/
theorem turn_run (h : c.turn? = some (some id)) (moments : List Moment) :
    (c.run moments).turn? = some (some id) ∨ Removes (c.log moments) id := by
  induction moments generalizing c with
  | nil => exact .inl h
  | cons moment moments ih =>
    rw [log, changesIn, Roster.deeds_append]
    rcases turn_after h moment with hturn | hremove
    · refine (ih hturn).imp_right fun ⟨present, hmem⟩ => ⟨present, List.mem_append_right _ ?_⟩
      rwa [log, roster_after] at hmem
    · obtain ⟨present, hmem⟩ := Roster.removes_deeds c.session.roster hremove
      exact .inr ⟨present, List.mem_append_left _ hmem⟩

/-! ### Registrations and messages -/

/-- What holds after any moments of a session, where `log` is all that has been answered to those
who have asked for changes of the registrations. -/
structure IsExact (c : Shared) (log : List Deed) : Prop where
  /-- What is answered to callers is kept. -/
  answered : (∀ h, c.log [.addHandler h] = [.added h (c.session.addHandler h).1]) ∧
    ∀ id, c.log [.removeHandler id] = [.removed id (c.session.removeHandler id).1]
  /-- No number is given twice. -/
  numbers : (log.filterMap Deed.number?).Pairwise (· < ·)
  /-- No number is greater than there were registrations, so fewer than `2 ^ 64` of these get numbers
  of 64 bits. -/
  bounded : ∀ id ∈ log.filterMap Deed.number?, id ≤ (log.filterMap Deed.number?).length
  /-- Whoever asks to remove a registration is told whether it stands. -/
  removed : ∀ before id present after, log = before ++ .removed id present :: after →
    (present = true ↔ ∃ h, Stands before id h)
  /-- Exactly those handlers are registered that stand, in the order of their numbers. -/
  registered : ∀ id h, (id, h) ∈ c.session.roster.entries ↔ Stands log id h
  increasing : c.session.roster.entries.Pairwise fun e e' => e.1 < e'.1
  /-- A removal takes away the one registration that is meant, if it stands. -/
  removal : ∀ id,
    (∃ before h after, c.session.roster.entries = before ++ (id, h) :: after ∧ Stands log id h ∧
      c.session.removeHandler id =
        (true, { c.session with roster := { c.session.roster with entries := before ++ after } })) ∨
    (∀ h, ¬Stands log id h) ∧ c.session.removeHandler id = (false, c.session)
  /-- The handler of a query is registered exactly during its turn, unless somebody removes it. -/
  turn : ∀ h moments, c.turn? = none →
    let id := (c.session.addHandler h).1
    let begun := c.after (.begin (some h))
    (∀ h', (id, h') ∉ c.session.roster.entries) ∧
    ((id, h) ∈ (begun.run moments).session.roster.entries ↔
      (begun.run moments).turn? = some (some id) ∧ ¬Removes (begun.log moments) id)
  /-- A query of the session takes its turn in moments like these. -/
  taken : ∀ network now call patience?, c.turn? = none →
    c.run (c.session.turn network now call patience?) =
      { session := (c.session.takeTurn network now call patience?).2.2 }
  /-- A message is shown once to each registered handler, in their order, while the discovery waits,
  and what handlers are answered meanwhile is what is kept of it. -/
  shown : ∀ m, c.session.process m = (c.session.tell m).heed m ∧
    (c.session.tell m).discovery = c.session.discovery ∧
    ∃ notes, (c.session.tell m).activity.notes = c.session.activity.notes ++ notes ∧
      notes.filter Note.isSeen = c.session.roster.entries.map (fun e => e.2.sees m) ∧
      notes.filterMap Note.answer? = (c.log [.process m]).map Deed.answer

theorem after_begin_some (hturn : c.turn? = none) (h : Handler) :
    c.after (.begin (some h)) =
      ⟨(c.session.addHandler h).2, some (some (c.session.addHandler h).1)⟩ := by
  obtain ⟨s, turn?⟩ := c
  obtain rfl : turn? = none := hturn
  rfl

/-- **The handler of a query is registered until its turn is over or somebody removes it.** -/
theorem mem_run_begin (hturn : c.turn? = none) (h : Handler) (moments : List Moment) :
    let id := (c.session.addHandler h).1
    let begun := c.after (.begin (some h))
    (id, h) ∈ (begun.run moments).session.roster.entries ↔
      (begun.run moments).turn? = some (some id) ∧ ¬Removes (begun.log moments) id := by
  intro id begun
  have hbegun : begun = ⟨(c.session.addHandler h).2, some (some id)⟩ := after_begin_some hturn h
  have hmem : (id, h) ∈ begun.session.roster.entries := by
    rw [hbegun]
    exact List.mem_append_right _ (List.mem_singleton_self _)
  -- Its number is not given once more.
  have hnew : ¬Stands (begun.log moments) id h := by
    rintro ⟨before, after, heq, -⟩
    have hlt : begun.session.roster.last < id := by
      refine Roster.lt_of_added (h := h) (begun.changesIn moments) ?_
      rw [← log, heq]
      exact List.mem_append_right _ List.mem_cons_self
    rw [hbegun] at hlt
    exact lt_irrefl _ hlt
  have hturn' : begun.turn? = some (some id) := by rw [hbegun]
  rw [roster_run, Roster.mem_changeAll_iff, ← log, or_iff_left hnew, and_iff_right hmem]
  exact ⟨fun hnot => ⟨(turn_run hturn' moments).resolve_right hnot, hnot⟩, And.right⟩

/-- What handlers note of a message. -/
theorem shown_process (c : Shared) (m : Message) :
    ∃ notes, (c.session.tell m).activity.notes = c.session.activity.notes ++ notes ∧
      notes.filter Note.isSeen = c.session.roster.entries.map (fun e => e.2.sees m) ∧
      notes.filterMap Note.answer? = (c.log [.process m]).map Deed.answer := by
  refine ⟨(c.session.roster.showAll m).1, rfl, ?_, ?_⟩
  · exact c.session.roster.filter_isSeen_showAll m
  · rw [Roster.answers_showAll, log, changesIn, changesIn, List.append_nil]
    rfl

/-- **Whatever happens, the answers tell what is registered.** No number is given twice, a removal
takes away the registration that is meant and tells whether it stood, the handler of a query is
registered during its turn unless somebody removes it, and a message is shown once to every
registered handler before the discovery sees it. -/
theorem isExact_run (settings : Settings) (moments : List Moment) :
    let c : Shared := { session := { settings } }
    (c.run moments).IsExact (c.log moments) := by
  intro c
  have hroster : (c.run moments).session.roster = Roster.changeAll {} (c.changesIn moments) :=
    roster_run c moments
  have hordered : (c.run moments).session.roster.IsOrdered := by
    rw [hroster]
    exact Roster.isOrdered_empty.changeAll _
  have hregistered : ∀ id h, (id, h) ∈ (c.run moments).session.roster.entries ↔
      Stands (c.log moments) id h := by
    intro id h
    rw [hroster, Roster.mem_changeAll_iff]
    exact or_iff_right fun hold => List.not_mem_nil hold.1
  obtain ⟨n, hnumbers⟩ : ∃ n, (c.log moments).filterMap Deed.number? = List.range' 1 n := by
    obtain ⟨n, hnumbers, -⟩ := Roster.exists_numbers_deeds {} (c.changesIn moments)
    exact ⟨n, hnumbers⟩
  refine ⟨⟨fun _ => rfl, fun _ => rfl⟩, ?_, ?_, fun _ _ _ _ heq => Roster.present_iff heq,
    hregistered, hordered.increasing, ?_, ?_, ?_,
    fun m => ⟨Session.process_eq _ m, rfl, shown_process _ m⟩⟩
  · rw [hnumbers]
    exact List.pairwise_lt_range'
  · intro id hid
    rw [hnumbers] at hid ⊢
    rw [List.length_range', ← Nat.lt_one_add_iff]
    exact (List.mem_range'_1.1 hid).2
  · intro id
    rcases Roster.remove_cases hordered id with ⟨before, h, after, heq, hremove⟩ | ⟨hnone, hremove⟩
    · have hstands : Stands (c.log moments) id h := by
        rw [← hregistered, heq]
        exact List.mem_append_right _ List.mem_cons_self
      refine .inl ⟨before, h, after, heq, hstands, ?_⟩
      rw [Session.removeHandler, hremove]
    · refine .inr ⟨fun h => (hregistered id h).not.1 (hnone h), ?_⟩
      rw [Session.removeHandler, hremove]
  · intro h later hturn
    refine ⟨fun h' hmem => ?_, mem_run_begin hturn h later⟩
    exact Nat.not_succ_le_self _ (hordered.numbered _ hmem)
  · intro network now call patience? hturn
    have hidle : c.run moments = { session := (c.run moments).session } := by rw [← hturn]
    conv_lhs => rw [hidle]
    exact run_turn _ network now call patience?

/-- One handler is registered twice, and a query has its turn while the first registration is
removed. -/
def twinMoments (h : Handler) : List Moment :=
  [.addHandler h, .addHandler h, .begin (some h), .removeHandler 1, .removeHandler 1, .abandon]

/-- The second registration stands, and the next query has a handler until its turn is over. -/
theorem isExact_run_twinMoments :
    let h := Handler.mk "twin" none none
    let c := run { session := {} } (twinMoments h)
    let begun := c.after (.begin (some h))
    c.turn? = none ∧
      ((∀ h', (4, h') ∉ c.session.roster.entries) ∧
        ((4, h) ∈ (begun.run [.abandon]).session.roster.entries ↔
          (begun.run [.abandon]).turn? = some (some 4) ∧ ¬Removes (begun.log [.abandon]) 4)) ∧
      c.session.roster.entries.map (·.1) = [2] ∧
      (log { session := {} } (twinMoments h)).map Deed.answer =
        [.inl 1, .inl 2, .inl 3, .inr true, .inr false, .inr true] := by
  intro h c begun
  exact ⟨rfl, (isExact_run {} (twinMoments h)).turn h [.abandon] rfl, rfl, rfl⟩

/-- A query for web services whose handler removes the first registration, which is its own. Two
empty messages arrive while it waits. -/
def leavingCall : Call where
  query := { services := ["_http._tcp"] }
  handler? := some (.mk "leaving" (some 1) none)
  incidents := List.replicate 2
    (.receive 0 (.datagram (List.replicate 12 0) (.v4 ⟨10, 0, 0, 9⟩ 5353)))

/-- **A query goes on without its handler when that has been removed.** After the first message it
is still the turn of the query, but its handler is not called with the second one. -/
theorem unheard_after_removal :
    let s := Session.run { settings := Session.wiredSettings } [.start Session.wiredNetwork]
    let c := run { session := s } ((s.turn Session.wiredNetwork 0 leavingCall none).take 3)
    let notes := (s.query Session.wiredNetwork leavingCall).2.activity.notes
    s.phase = .running ∧ c.turn? = some (some 1) ∧ (¬∃ h, (1, h) ∈ c.session.roster.entries) ∧
      (notes.filter Note.isSeen).length = 1 := by
  intro s c notes
  obtain ⟨hp, hturn, hempty, hnotes⟩ : s.phase = .running ∧ c.turn? = some (some 1) ∧
      c.session.roster.contains 1 = false ∧ (notes.filter Note.isSeen).length = 1 := by
    decide +kernel
  refine ⟨hp, hturn, ?_, hnotes⟩
  rw [← Roster.contains_iff, hempty]
  exact Bool.false_ne_true

end Shared

end ServiceDiscovery
