import ServiceDiscovery.Proofs.Session.Hearing

/-!
# What is done with registrations

Handlers are registered and removed, by callers and by each other, and every time there is an
answer: the number of the new registration, or whether there was one to remove. Whoever keeps these
answers knows all registrations: those stand that were made and have not been removed since.

* `Change`, `Deed`, `Roster.changeAll`, `Roster.deeds`: changes of registrations, and the answers;
* `Roster.apply_eq`, `answers_applyAll`, `snd_showAll`: what handlers change, and what they are
  answered;
* `Roster.exists_numbers_deeds`: the numbers that are given;
* `Stands`, `Roster.mem_change_iff`, `mem_changeAll_iff`, `present_iff`: registrations by the
  answers;
* `Roster.IsNumbered`, `Roster.IsOrdered`: how registrations are numbered;
  `Roster.remove_cases`: what a removal does.
-/

namespace ServiceDiscovery

/-- A change of registrations that somebody asks for. -/
inductive Change where
  | add (h : Handler)
  | remove (id : Nat)

/-- A change that was made, with what was answered. -/
inductive Deed where
  | added (h : Handler) (id : Nat)
  | removed (id : Nat) (present : Bool)

namespace Deed

/-- The number that was given, if one was. -/
def number? : Deed → Option Nat
  | .added _ id => some id
  | .removed .. => none

/-- What was answered: a number, or whether there was anything to remove. -/
def answer : Deed → Nat ⊕ Bool
  | .added _ id => .inl id
  | .removed _ present => .inr present

/-- What a handler notes that has done this. -/
def note (label : String) : Deed → Note
  | .added _ id => .added label id
  | .removed _ present => .removed label present

end Deed

/-- The answer that a handler has noted, if this is one. -/
def Note.answer? : Note → Option (Nat ⊕ Bool)
  | .seen .. => none
  | .removed _ done => some (.inr done)
  | .added _ id => some (.inl id)

/-- What a handler changes whenever it is called. -/
def Handler.changes : Handler → List Change
  | .mk _ removes? adds? => (removes?.map .remove).toList ++ (adds?.map .add).toList

namespace Roster

def change (r : Roster) : Change → Roster
  | .add h => (r.add h).2
  | .remove id => (r.remove id).2

def deed (r : Roster) : Change → Deed
  | .add h => .added h (r.add h).1
  | .remove id => .removed id (r.remove id).1

/-- The registrations after several changes. -/
def changeAll (r : Roster) (changes : List Change) : Roster := changes.foldl change r

/-- What several changes are answered. -/
def deeds (r : Roster) : List Change → List Deed
  | [] => []
  | change :: changes => r.deed change :: (r.change change).deeds changes

/-- What the registered handlers change together when a message is shown to them. -/
def reactions (r : Roster) : List Change := r.entries.flatMap fun e => e.2.changes

variable {r : Roster} {before after : List Deed} {d : Deed} {id : Nat} {h : Handler}

theorem changeAll_append (r : Roster) (changes changes' : List Change) :
    r.changeAll (changes ++ changes') = (r.changeAll changes).changeAll changes' :=
  List.foldl_append

theorem deeds_append (r : Roster) (changes changes' : List Change) :
    r.deeds (changes ++ changes') = r.deeds changes ++ (r.changeAll changes).deeds changes' := by
  induction changes generalizing r with
  | nil => rfl
  | cons change changes ih =>
    rw [List.cons_append, deeds, ih, deeds, List.cons_append]
    rfl

/-! ### Handlers -/

/-- A handler notes the message and what it has done. -/
theorem apply_eq (r : Roster) (m : Message) (h : Handler) : r.apply m h =
    (h.sees m :: (r.deeds h.changes).map (Deed.note h.label), r.changeAll h.changes) := by
  obtain ⟨label, removes?, adds?⟩ := h
  rcases removes? with _ | id <;> rcases adds? with _ | h <;> rfl

theorem snd_applyAll (r : Roster) (m : Message) (hs : List Handler) :
    (applyAll m hs r).2 = r.changeAll (hs.flatMap Handler.changes) := by
  induction hs generalizing r with
  | nil => rfl
  | cons h hs ih => rw [applyAll_cons, ih, apply_eq, List.flatMap_cons, changeAll_append]

/-- What several handlers note of answers is what is answered to all their changes. -/
theorem answers_applyAll (r : Roster) (m : Message) (hs : List Handler) :
    (applyAll m hs r).1.filterMap Note.answer? =
      (r.deeds (hs.flatMap Handler.changes)).map Deed.answer := by
  have hnote : ∀ label, Note.answer? ∘ Deed.note label = some ∘ Deed.answer := by
    intro label
    funext d
    cases d <;> rfl
  induction hs generalizing r with
  | nil => rfl
  | cons h hs ih =>
    have hseen : (h.sees m).answer? = none := rfl
    rw [applyAll_cons, List.filterMap_append, ih, apply_eq, List.filterMap_cons_none hseen,
      List.filterMap_map, hnote, List.filterMap_eq_map, List.flatMap_cons, deeds_append,
      List.map_append]

theorem snd_showAll (r : Roster) (m : Message) : (r.showAll m).2 = r.changeAll r.reactions := by
  rw [showAll, snd_applyAll, reactions, List.flatMap_map]

theorem answers_showAll (r : Roster) (m : Message) :
    (r.showAll m).1.filterMap Note.answer? = (r.deeds r.reactions).map Deed.answer := by
  rw [showAll, answers_applyAll, reactions, List.flatMap_map]

/-! ### Numbers -/

/-- **Numbers are given one after another.** -/
theorem exists_numbers_deeds (r : Roster) (changes : List Change) :
    ∃ n, (r.deeds changes).filterMap Deed.number? = List.range' (r.last + 1) n ∧
      (r.changeAll changes).last = r.last + n := by
  induction changes generalizing r with
  | nil => exact ⟨0, rfl, rfl⟩
  | cons change changes ih =>
    obtain ⟨n, hnumbers, hlast⟩ := ih (r.change change)
    rw [deeds]
    cases change with
    | add h =>
      have hnumber : (r.deed (.add h)).number? = some (r.last + 1) := rfl
      refine ⟨n + 1, ?_, hlast.trans (Nat.add_right_comm r.last 1 n)⟩
      rw [List.filterMap_cons_some hnumber, hnumbers, List.range'_succ]
      rfl
    | remove id =>
      have hnumber : (r.deed (.remove id)).number? = none := rfl
      refine ⟨n, ?_, hlast⟩
      rw [List.filterMap_cons_none hnumber, hnumbers]
      rfl

/-- A number that has been given is not given again. -/
theorem lt_of_added (changes : List Change) (hmem : .added h id ∈ r.deeds changes) :
    r.last < id := by
  obtain ⟨n, hnumbers, -⟩ := exists_numbers_deeds r changes
  have hid : id ∈ (r.deeds changes).filterMap Deed.number? :=
    List.mem_filterMap.2 ⟨_, hmem, rfl⟩
  rw [hnumbers] at hid
  exact (List.mem_range'_1.1 hid).1

end Roster

/-! ### Registrations that stand -/

/-- Whether somebody has asked to remove a registration. -/
def Removes (deeds : List Deed) (id : Nat) : Prop := ∃ present, .removed id present ∈ deeds

/-- A handler was registered under a number, and nobody has asked to remove that registration
since. -/
def Stands (deeds : List Deed) (id : Nat) (h : Handler) : Prop :=
  ∃ before after, deeds = before ++ .added h id :: after ∧ ¬Removes after id

section

variable {deeds : List Deed} {d : Deed} {id : Nat} {h : Handler}

theorem removes_cons_iff :
    Removes (d :: deeds) id ↔ (∃ present, d = .removed id present) ∨ Removes deeds id := by
  simp only [Removes, List.mem_cons, exists_or, eq_comm]

theorem not_stands_nil : ¬Stands [] id h := by
  rintro ⟨before, after, heq, -⟩
  exact List.append_ne_nil_of_right_ne_nil before (List.cons_ne_nil _ _) heq.symm

theorem stands_cons_iff :
    Stands (d :: deeds) id h ↔ (d = .added h id ∧ ¬Removes deeds id) ∨ Stands deeds id h := by
  constructor
  · rintro ⟨_ | ⟨d', before⟩, after, heq, hafter⟩
    · obtain ⟨rfl, rfl⟩ := List.cons.inj heq
      exact .inl ⟨rfl, hafter⟩
    · obtain ⟨rfl, rfl⟩ := List.cons.inj heq
      exact .inr ⟨before, after, rfl, hafter⟩
  · rintro (⟨rfl, hdeeds⟩ | ⟨before, after, rfl, hafter⟩)
    · exact ⟨[], deeds, rfl, hdeeds⟩
    · exact ⟨d :: before, after, rfl, hafter⟩

end

namespace Roster

variable {r : Roster} {changes : List Change} {before after : List Deed} {id : Nat} {h : Handler}

theorem removes_deeds (r : Roster) (hremove : .remove id ∈ changes) :
    Removes (r.deeds changes) id := by
  induction changes generalizing r with
  | nil => cases hremove
  | cons change changes ih =>
    rw [deeds, removes_cons_iff]
    rcases List.mem_cons.1 hremove with rfl | hremove
    · exact .inl ⟨_, rfl⟩
    · exact .inr (ih _ hremove)

/-- After a change those handlers are registered that were so before and have not just been removed,
and one that has just been added. -/
theorem mem_change_iff (r : Roster) (change : Change) : (id, h) ∈ (r.change change).entries ↔
    ((id, h) ∈ r.entries ∧ ¬∃ present, r.deed change = .removed id present) ∨
      r.deed change = .added h id := by
  cases change with
  | add handler =>
    have hnot : ¬∃ present, r.deed (.add handler) = .removed id present := nofun
    have hnew : (id, h) ∈ [(r.last + 1, handler)] ↔ r.deed (.add handler) = .added h id := by
      rw [List.mem_singleton, Prod.mk.injEq, deed, Deed.added.injEq]
      exact ⟨fun ⟨hid, hh⟩ => ⟨hh.symm, hid.symm⟩, fun ⟨hh, hid⟩ => ⟨hid.symm, hh.symm⟩⟩
    rw [and_iff_left hnot, ← hnew]
    exact List.mem_append
  | remove removed =>
    have hnot : r.deed (.remove removed) ≠ .added h id := nofun
    have hremoved : id ≠ removed ↔ ¬∃ present, r.deed (.remove removed) = .removed id present := by
      refine not_congr ⟨?_, ?_⟩
      · rintro rfl
        exact ⟨_, rfl⟩
      · rintro ⟨present, heq⟩
        exact (Deed.removed.inj heq).1.symm
    rw [or_iff_left hnot, ← hremoved, ← bne_iff_ne]
    exact List.mem_filter

/-- **After several changes those handlers are registered that were so before and have not been
removed, and those that stand of the new ones.** -/
theorem mem_changeAll_iff (r : Roster) (changes : List Change) :
    (id, h) ∈ (r.changeAll changes).entries ↔
      (id, h) ∈ r.entries ∧ ¬Removes (r.deeds changes) id ∨ Stands (r.deeds changes) id h := by
  -- The first change comes before all the others, which may undo it.
  induction changes generalizing r with
  | nil => simp [changeAll, deeds, Removes, not_stands_nil]
  | cons change changes ih =>
    rw [changeAll, List.foldl_cons, ← changeAll, ih, mem_change_iff, deeds, removes_cons_iff,
      stands_cons_iff]
    tauto

theorem contains_iff : r.contains id = true ↔ ∃ h, (id, h) ∈ r.entries := by
  simp [contains]

/-- Every answer was given to one of the changes. -/
theorem exists_of_deeds_eq {d : Deed} (heq : r.deeds changes = before ++ d :: after) :
    ∃ earlier change, r.deeds earlier = before ∧ (r.changeAll earlier).deed change = d := by
  induction before generalizing r changes with
  | nil =>
    rcases changes with _ | ⟨change, changes⟩
    · cases heq
    · exact ⟨[], change, rfl, (List.cons.inj heq).1⟩
  | cons d' before ih =>
    rcases changes with _ | ⟨change, changes⟩
    · cases heq
    · obtain ⟨rfl, hrest⟩ := List.cons.inj heq
      obtain ⟨earlier, last, rfl, rfl⟩ := ih hrest
      exact ⟨change :: earlier, last, rfl, rfl⟩

/-- **Whoever asks to remove a registration is told whether it stands.** -/
theorem present_iff {present : Bool}
    (heq : deeds {} changes = before ++ .removed id present :: after) :
    present = true ↔ ∃ h, Stands before id h := by
  obtain ⟨earlier, change, rfl, hdeed⟩ := exists_of_deeds_eq heq
  cases change with
  | add h => cases hdeed
  | remove removed =>
    obtain ⟨rfl, rfl⟩ := Deed.removed.inj hdeed
    show contains _ removed = true ↔ _
    rw [contains_iff]
    refine exists_congr fun h => ?_
    rw [mem_changeAll_iff]
    exact or_iff_right fun hold => List.not_mem_nil hold.1

/-! ### Order and removal -/

/-- Every number in use has been given. -/
def IsNumbered (r : Roster) : Prop := ∀ e ∈ r.entries, e.1 ≤ r.last

theorem IsNumbered.add (h : r.IsNumbered) (handler : Handler) : (r.add handler).2.IsNumbered := by
  intro e he
  rcases List.mem_append.1 he with he | he
  · exact Nat.le_succ_of_le (h e he)
  · rw [List.mem_singleton.1 he]
    exact Nat.le_refl _

theorem IsNumbered.remove (h : r.IsNumbered) (id : Nat) : (r.remove id).2.IsNumbered :=
  fun e he => h e (List.mem_filter.1 he).1

theorem IsNumbered.changeAll (h : r.IsNumbered) (changes : List Change) :
    (r.changeAll changes).IsNumbered := by
  induction changes generalizing r with
  | nil => exact h
  | cons change changes ih =>
    cases change with
    | add handler => exact ih (h.add handler)
    | remove id => exact ih (h.remove id)

/-- The registrations stand in the order of their numbers, all of which have been given. -/
structure IsOrdered (r : Roster) : Prop where
  numbered : r.IsNumbered
  increasing : r.entries.Pairwise fun e e' => e.1 < e'.1

theorem isOrdered_empty : ({} : Roster).IsOrdered := ⟨nofun, .nil⟩

theorem IsOrdered.change (h : r.IsOrdered) (change : Change) : (r.change change).IsOrdered := by
  cases change with
  | add handler =>
    refine ⟨h.numbered.add handler, List.pairwise_append.2 ⟨h.increasing, ?_, ?_⟩⟩
    · exact List.pairwise_singleton _ _
    · intro e he e' he'
      rw [List.mem_singleton.1 he']
      exact Nat.lt_succ_of_le (h.numbered e he)
  | remove id => exact ⟨h.numbered.remove id, h.increasing.filter _⟩

theorem IsOrdered.changeAll (h : r.IsOrdered) (changes : List Change) :
    (r.changeAll changes).IsOrdered := by
  induction changes generalizing r with
  | nil => exact h
  | cons change changes ih => exact ih (h.change change)

/-- **A removal takes away a single registration, if it is there, and otherwise it changes
nothing.** -/
theorem remove_cases (h : r.IsOrdered) (id : Nat) :
    (∃ before handler after, r.entries = before ++ (id, handler) :: after ∧
      r.remove id = (true, { r with entries := before ++ after })) ∨
    (∀ handler, (id, handler) ∉ r.entries) ∧ r.remove id = (false, r) := by
  unfold remove
  by_cases hpresent : ∃ handler, (id, handler) ∈ r.entries
  · obtain ⟨handler, hmem⟩ := hpresent
    obtain ⟨before, after, heq⟩ := List.append_of_mem hmem
    have hincreasing := h.increasing
    rw [heq, List.pairwise_append, List.pairwise_cons] at hincreasing
    obtain ⟨-, ⟨hafter, -⟩, hbefore⟩ := hincreasing
    have hfilter : r.entries.filter (·.1 != id) = before ++ after := by
      rw [heq, List.filter_append, List.filter_cons_of_neg (by simp)]
      congr 1
      · refine List.filter_eq_self.2 fun e he => bne_iff_ne.2 ?_
        exact (hbefore e he _ List.mem_cons_self).ne
      · exact List.filter_eq_self.2 fun e he => bne_iff_ne.2 (hafter e he).ne'
    exact .inl ⟨before, handler, after, heq, by rw [contains_iff.2 ⟨handler, hmem⟩, hfilter]⟩
  · have hcontains : r.contains id = false := by
      rw [← Bool.not_eq_true, contains_iff]
      exact hpresent
    have hfilter : r.entries.filter (·.1 != id) = r.entries := by
      refine List.filter_eq_self.2 fun e he => bne_iff_ne.2 ?_
      rintro rfl
      exact hpresent ⟨e.2, he⟩
    exact .inr ⟨not_exists.1 hpresent, by rw [hcontains, hfilter]⟩

end Roster

end ServiceDiscovery
