import ServiceDiscovery.Proofs.Session.Queued
import ServiceDiscovery.Proofs.Session.Deeds

/-!
# The numbers of registrations

A registered handler is told by its number. Every call keeps the numbers below the next one that is
given, so that the handler a query registers for itself is the only one that is gone when the query
is over.

* `Roster.IsNumbered.showAll`: every number in use has been given, which stays so while handlers
  add and remove one another;
* `Session.roster_flush` to `Session.roster_start`: the calls that leave the registrations alone;
* `Session.isNumbered_passAll`: whatever is called;
* `Session.entries_released`: what a query leaves of the registrations.
-/

namespace ServiceDiscovery

namespace Roster

variable {r : Roster}

theorem IsNumbered.showAll (h : r.IsNumbered) (m : Message) : (r.showAll m).2.IsNumbered := by
  rw [snd_showAll]
  exact h.changeAll r.reactions

/-- **A new registration that is removed leaves the others.** -/
theorem IsNumbered.entries_remove_add (h : r.IsNumbered) (handler : Handler) :
    ((r.add handler).2.remove (r.last + 1)).2.entries = r.entries := by
  have hold : r.entries.filter (·.1 != r.last + 1) = r.entries := by
    refine List.filter_eq_self.2 fun e he => ?_
    rw [bne_iff_ne]
    have hle := h e he
    omega
  show (r.entries ++ [(r.last + 1, handler)]).filter (·.1 != r.last + 1) = r.entries
  rw [List.filter_append, hold, List.filter_cons_of_neg (by simp), List.filter_nil,
    List.append_nil]

end Roster

namespace Session

variable {s s' : Session} {network : Network} {call : Call}

theorem roster_flush (s : Session) (network : Network) : (s.flush network).2.roster = s.roster := by
  obtain ⟨sent, hflush⟩ := exists_flush s network
  rw [hflush]

theorem roster_announce (s : Session) (network : Network) (m : Message) :
    (s.announce network m).2.roster = s.roster := by
  unfold announce
  split_ifs
  · rcases s.discovery.send m with ⟨_ | _, d⟩
    · rfl
    · exact roster_flush _ network
  · rfl

theorem roster_ask (s : Session) (network : Network) (now timeout : Nat) (q : Query) :
    (s.ask network now timeout q).2.roster = s.roster := by
  unfold ask
  rcases q.request with _ | request
  · rfl
  dsimp only
  rcases s.discovery.start request now timeout with ⟨_ | _, d⟩
  · rfl
  have hflush := roster_flush { s with discovery := d } network
  dsimp only
  rcases h : flush { s with discovery := d } network with ⟨_ | _, s'⟩
  · rw [h] at hflush
    exact hflush
  · rw [h] at hflush
    exact hflush

theorem roster_conclude (s : Session) (now : Nat) : (s.conclude now).2.roster = s.roster := by
  by_cases hd : s.discovery.closed
  · rw [conclude_of_closed hd]
  · rw [conclude_of_open hd]

theorem roster_stop (s : Session) : s.stop.roster = s.roster := by
  unfold stop beginStop closeEndpoints endStop
  split_ifs <;> rfl

theorem roster_start (s : Session) (network : Network) :
    (s.start network).2.roster = s.roster := by
  rw [← roster_stop s, start, renew]
  split_ifs
  · rfl
  · cases Endpoint.offered s.stop.beginStart.settings network with
    | error e => rfl
    | ok interfaces =>
      dsimp only [bind]
      split_ifs <;> rfl

theorem isNumbered_receive (h : s.roster.IsNumbered) (position : Nat) (arrival : Arrival) :
    (s.receive position arrival).2.roster.IsNumbered := by
  unfold receive
  split
  · exact h.showAll _
  · exact h
  · exact h

theorem isNumbered_undergo (h : s.roster.IsNumbered) (network : Network) (incident : Incident) :
    (undergo network s incident).roster.IsNumbered := by
  cases incident with
  | receive position arrival => exact isNumbered_receive h position arrival
  | stop => exact (roster_stop s).symm ▸ h
  | start => exact (roster_start s network).symm ▸ h

theorem isNumbered_foldl (h : s.roster.IsNumbered) (network : Network)
    (incidents : List Incident) :
    (incidents.foldl (undergo network) s).roster.IsNumbered := by
  induction incidents generalizing s with
  | nil => exact h
  | cons incident incidents ih => exact ih (isNumbered_undergo h network incident)

theorem isNumbered_registered (h : s.roster.IsNumbered) (call : Call) :
    (s.registered call).roster.IsNumbered := by
  unfold registered
  cases call.handler? with
  | none => exact h
  | some handler => exact h.add handler

theorem isNumbered_released (h : s'.roster.IsNumbered) (s : Session) (call : Call) :
    (s.released call s').roster.IsNumbered := by
  unfold released
  cases call.handler? with
  | none => exact h
  | some _ => exact h.remove _

theorem isNumbered_afterAsk {o : Outcome} (h : o.2.roster.IsNumbered) (now : Nat)
    (patience? : Option Nat) :
    (afterAsk network now call patience? o).2.2.roster.IsNumbered := by
  obtain ⟨_ | _, s⟩ := o
  · exact h
  · have hwaited := isNumbered_foldl h network call.incidents
    rw [afterAsk]
    dsimp only
    split_ifs
    · exact hwaited
    · exact (roster_conclude _ _).symm ▸ hwaited

theorem isNumbered_takeTurn (h : s.roster.IsNumbered) (network : Network) (now : Nat)
    (call : Call) (patience? : Option Nat) :
    (s.takeTurn network now call patience?).2.2.roster.IsNumbered := by
  have hasked : (s.asked network now call).2.roster.IsNumbered :=
    (roster_ask _ network now _ _).symm ▸ isNumbered_registered h call
  rw [takeTurn_eq]
  exact isNumbered_released (isNumbered_afterAsk hasked now patience?) s call

theorem isNumbered_act (h : s.roster.IsNumbered) (action : Action) :
    (s.act action).roster.IsNumbered := by
  cases action with
  | start network => exact (roster_start s network).symm ▸ h
  | stop => exact (roster_stop s).symm ▸ h
  | query network call =>
    rw [act, query]
    split_ifs
    · exact isNumbered_takeTurn h network 0 call _
    · exact h
  | announce network m => exact (roster_announce s network m).symm ▸ h
  | addHandler handler => exact h.add handler
  | removeHandler id => exact h.remove id
  | receive position arrival => exact isNumbered_receive h position arrival

theorem isNumbered_queryBoth (h : s.roster.IsNumbered) (network : Network) (first second : Call) :
    (s.queryBoth network first second).2.roster.IsNumbered := by
  unfold queryBoth
  split_ifs
  · have hfirst := isNumbered_takeTurn h network 0 first first.abandonedAfter?
    generalize s.takeTurn network 0 first first.abandonedAfter? = turn at hfirst
    obtain ⟨answer, later, s'⟩ := turn
    rcases second.abandonedAfter? with _ | patience
    · exact isNumbered_takeTurn hfirst network later second none
    · dsimp only
      split_ifs
      · exact hfirst
      · exact isNumbered_takeTurn hfirst network later second _
  · exact h

/-- **Whatever is called, no number of a registration is above the last one that was given.** -/
theorem isNumbered_passAll (h : s.roster.IsNumbered) (episodes : List Episode) :
    (s.passAll episodes).roster.IsNumbered := by
  induction episodes generalizing s with
  | nil => exact h
  | cons episode episodes ih =>
    refine ih ?_
    cases episode with
    | single action => exact isNumbered_act h action
    | queries network first second => exact isNumbered_queryBoth h network first second

theorem entries_released (h : s.roster.IsNumbered)
    (hroster : s'.roster = (s.registered call).roster) :
    (s.released call s').roster.entries = s.roster.entries := by
  unfold registered at hroster
  unfold released
  cases hcall : call.handler? with
  | none =>
    rw [hcall] at hroster
    rw [hroster]
  | some handler =>
    rw [hcall] at hroster
    show (s'.roster.remove (s.roster.last + 1)).2.entries = s.roster.entries
    rw [hroster]
    exact h.entries_remove_add handler

end Session

end ServiceDiscovery
