import ServiceDiscovery.Proofs.Discovery.Operation

/-!
# Failed operations

An operation on a closed discovery fails and changes nothing, and so does sending a message that
cannot be written. Asking with a request that cannot be written fails too, but by then the services
are forgotten and the request is pending.

* `enqueue_eq_error_iff`: when a message cannot be queued;
* `eq_of_perform_eq_error`, `start_eq_error_iff`: what is left when something else fails, and when
  asking fails;
* `eq_iff_of_perform_eq_error`: which failed operations change something, and what they change;
* `forgets_on_failedStart`: services are lost to a request that is never sent.
-/

namespace ServiceDiscovery

namespace Discovery

/-- A message cannot be queued exactly if it cannot be written, and then nothing is queued. -/
theorem enqueue_eq_error_iff {d d' : Discovery} {m : Message} {time? : Option Nat} {e : Error} :
    d.enqueue m time? = (.error e, d') ↔ m.encode = .error e ∧ d' = d := by
  unfold enqueue
  constructor
  · intro h
    cases hm : m.encode with
    | error e' =>
      rw [hm] at h
      cases h
      exact ⟨rfl, rfl⟩
    | ok bytes =>
      rw [hm] at h
      cases h
  · rintro ⟨hm, rfl⟩
    rw [hm]

/-- **A failed operation that asks nothing changes nothing.** -/
theorem eq_of_perform_eq_error {d d' : Discovery} {op : Operation} {e : Error}
    (h : d.perform op = (.error e, d')) (hs : ¬op.isStart) : d' = d := by
  cases op with
  | start => exact absurd rfl hs
  | receive m =>
    rw [perform, receive] at h
    split_ifs at h <;> cases h
    rfl
  | send m =>
    rw [perform, send] at h
    split_ifs at h
    · cases h
      rfl
    · exact (enqueue_eq_error_iff.1 h).2
  | expire now =>
    rw [perform, expire] at h
    split_ifs at h
    · cases h
      rfl
    · -- On an open discovery time never fails to pass.
      cases hp : d.pending with
      | none =>
        rw [hp] at h
        cases h
      | some query =>
        rw [hp] at h
        dsimp only at h
        split_ifs at h <;> cases h
  | finish => cases h
  | nextDatagram => cases h
  | nextEvent => cases h
  | close => cases h

/-- **What is left when asking fails**: a closed discovery as it was, or else no services and a
request pending that cannot be written. -/
theorem start_eq_error_iff {d d' : Discovery} {request : Message} {now timeout : Nat} {e : Error} :
    d.start request now timeout = (.error e, d') ↔
      (d.closed ∧ e = .closed ∧ d' = d) ∨ (¬d.closed ∧ request.encode = .error e ∧
        d' = { d with catalog := {}, pending := some ⟨request, now + timeout⟩ }) := by
  unfold start
  split_ifs with hd
  · simp [hd, eq_comm]
  · rw [enqueue_eq_error_iff]
    simp [hd]

/-- Forgetting the services and asking anew changes nothing exactly if there is nothing to forget
and the same is asked already. -/
theorem asking_eq_self_iff {d : Discovery} {query : PendingQuery} :
    { d with catalog := {}, pending := some query } = d ↔
      d.catalog = {} ∧ d.pending = some query := by
  constructor
  · intro h
    exact ⟨(congrArg catalog h).symm, (congrArg pending h).symm⟩
  · rintro ⟨hc, hp⟩
    rw [← hc, ← hp]

/-- **A failed operation changes nothing, unless it asks something on an open discovery: then it
forgets the services and leaves the request pending, which shows exactly if there were services or
something else was pending.** Datagrams and events stay in any case. -/
theorem eq_iff_of_perform_eq_error {d d' : Discovery} {op : Operation} {e : Error}
    (h : d.perform op = (.error e, d')) :
    (d' = d ↔ ∀ request now timeout, op = .start request now timeout →
      d.closed ∨ d.catalog = {} ∧ d.pending = some ⟨request, now + timeout⟩) ∧
    d' = { d with catalog := d'.catalog, pending := d'.pending } := by
  by_cases hs : op.isStart
  · cases op with
    | start request now timeout =>
      rcases start_eq_error_iff.1 h with ⟨hd, -, rfl⟩ | ⟨hd, -, rfl⟩
      · exact ⟨iff_of_true rfl fun _ _ _ _ => .inl hd, rfl⟩
      · refine ⟨?_, rfl⟩
        rw [asking_eq_self_iff]
        constructor
        · rintro hsame _ _ _ ⟨⟩
          exact .inr hsame
        · intro hsame
          exact (hsame request now timeout rfl).resolve_left hd
    | _ => exact absurd hs Bool.false_ne_true
  · obtain rfl := eq_of_perform_eq_error h hs
    refine ⟨iff_of_true rfl ?_, rfl⟩
    rintro _ _ _ rfl
    exact absurd rfl hs

/-- A discovery that has found one service. -/
def foundWeb : Discovery :=
  ({} : Discovery).run [.start webRequest 0 1000, .receive (webResponse "Web")]

/-- What is left when the request is asked. -/
def forgottenWeb : Discovery :=
  { foundWeb with catalog := {}, pending := some ⟨longRequest, 2500⟩ }

theorem eq_iff_of_perform_eq_error_longRequest :
    foundWeb.perform (.start longRequest 500 2000) = (.error .labelTooLong, forgottenWeb) ∧
      (forgottenWeb = foundWeb ↔ ∀ request now timeout,
        Operation.start longRequest 500 2000 = .start request now timeout →
          foundWeb.closed ∨ foundWeb.catalog = {} ∧
            foundWeb.pending = some ⟨request, now + timeout⟩) ∧
      forgottenWeb = { foundWeb with
        catalog := forgottenWeb.catalog
        pending := forgottenWeb.pending } := by
  have h : foundWeb.perform (.start longRequest 500 2000) =
      (.error .labelTooLong, forgottenWeb) := by decide +kernel
  exact ⟨h, eq_iff_of_perform_eq_error h⟩

/-- A request that cannot be sent makes a discovery forget the service that it has found, and is
pending afterwards. -/
theorem forgets_on_failedStart :
    foundWeb.perform (.start longRequest 500 2000) = (.error .labelTooLong, forgottenWeb) ∧
      foundWeb.catalog.size = 1 ∧ foundWeb.deadline? = some 1000 ∧
        forgottenWeb.catalog.size = 0 ∧ forgottenWeb.deadline? = some 2500 ∧
          forgottenWeb ≠ foundWeb := by
  decide +kernel

end Discovery

end ServiceDiscovery
