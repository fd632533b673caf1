import ServiceDiscovery.Proofs.Message.Wire

/-!
# Messages built entry by entry

An entry is added to its section together with its number in the header, or not at all. So header
and entries agree after any number of additions exactly if they agreed before, and all entries
are among those that were added.

* `Entry`, `Message.add`, `addAll`: additions to any section, one or many;
* `entries`, `pushed`, `add_eq`: the entries of a section, and what an addition does to them;
* `isCounted_add`, `isCounted_addAll`: additions do not change whether the header announces the
  entries;
* `Holds.addAll`: what all entries are;
* `entries_addAll`: where entries are added that there is room for;
* `exists_header_addAll`: of the header, only the numbers of entries change.
-/

namespace ServiceDiscovery

/-- An entry for one of the sections of a message. -/
inductive Entry where
  | question (q : Question)
  | answer (r : Record)
  | authority (r : Record)
  | additional (r : Record)

namespace Entry

def place : Entry → Section
  | question _ => .question
  | answer _ => .answer
  | authority _ => .authority
  | additional _ => .additional

/-- Questions have one property and records another. -/
def Is (P : Question → Prop) (R : Record → Prop) : Entry → Prop
  | question q => P q
  | answer r | authority r | additional r => R r

end Entry

/-- The number that is announced for a section. -/
def Counts.of (c : Counts) : Section → UInt16
  | .question => c.questions
  | .answer => c.answers
  | .authority => c.authorities
  | .additional => c.additionals

namespace Message

def add (m : Message) : Entry → Outcome
  | .question q => m.addQuestion q
  | .answer r => m.addAnswer r
  | .authority r => m.addAuthority r
  | .additional r => m.addAdditional r

/-- More entries, of which those for full sections are left out. -/
def addAll (m : Message) (es : List Entry) : Message := es.foldl (fun m e => (m.add e).2) m

theorem addAll_nil (m : Message) : m.addAll [] = m := rfl

theorem addAll_cons (m : Message) (e : Entry) (es : List Entry) :
    m.addAll (e :: es) = (m.add e).2.addAll es := rfl

/-! ### What an addition does -/

def entries (m : Message) : Section → List Entry
  | .question => m.questions.toList.map .question
  | .answer => m.answers.toList.map .answer
  | .authority => m.authorities.toList.map .authority
  | .additional => m.additionals.toList.map .additional

/-- The message with an entry at the end of its section, and a higher number of entries there. -/
def pushed (m : Message) : Entry → Message
  | .question q => { m with
      header := recount m.header fun c => { c with questions := c.questions + 1 }
      questions := m.questions.push q
      received := none }
  | .answer r => { m with
      header := recount m.header fun c => { c with answers := c.answers + 1 }
      answers := m.answers.push r
      received := none }
  | .authority r => { m with
      header := recount m.header fun c => { c with authorities := c.authorities + 1 }
      authorities := m.authorities.push r
      received := none }
  | .additional r => { m with
      header := recount m.header fun c => { c with additionals := c.additionals + 1 }
      additionals := m.additionals.push r
      received := none }

/-- **An entry is added to its section, or the section is full and the message stays as it is.** -/
theorem add_eq (m : Message) (e : Entry) :
    m.add e = if m.header.counts.of e.place = maxEntries
      then (.error (.sectionFull e.place), m) else (.ok (), m.pushed e) := by
  cases e <;> rfl

theorem entries_pushed (m : Message) (e : Entry) (place : Section) :
    (m.pushed e).entries place = m.entries place ++ if e.place = place then [e] else [] := by
  cases e <;> cases place <;> simp [entries, pushed, Entry.place]

theorem counts_pushed (m : Message) (e : Entry) (place : Section) :
    (m.pushed e).header.counts.of place =
      m.header.counts.of place + if e.place = place then 1 else 0 := by
  cases e <;> cases place <;> simp [Counts.of, pushed, recount, Entry.place]

theorem exists_header_pushed (m : Message) (e : Entry) :
    ∃ c, (m.pushed e).header = { m.header with counts := c } := by
  cases e <;> exact ⟨_, rfl⟩

theorem received_pushed (m : Message) (e : Entry) : (m.pushed e).received = none := by
  cases e <;> rfl

/-! ### Numbers of entries -/

theorem isCounted_iff {m : Message} :
    m.IsCounted ↔ ∀ place, (m.header.counts.of place).toNat = (m.entries place).length := by
  simp only [IsCounted, announce_iff]
  constructor
  · rintro ⟨hq, han, hau, had⟩ place
    cases place <;> simpa [Counts.of, entries]
  · intro h
    have hq := h .question
    have han := h .answer
    have hau := h .authority
    have had := h .additional
    simp only [Counts.of, entries, List.length_map, Array.length_toList] at hq han hau had
    exact ⟨hq, han, hau, had⟩

theorem toNat_succ {n : UInt16} (h : n ≠ maxEntries) : (n + 1).toNat = n.toNat + 1 := by
  have hlt : n.toNat < 65536 := n.toNat_lt
  have hne : n.toNat ≠ 65535 := fun he => h (UInt16.toNat_inj.1 he)
  rw [UInt16.toNat_add, UInt16.toNat_one, Nat.mod_eq_of_lt (by omega)]

theorem isCounted_ofHeader (h : Header) : (ofHeader h).IsCounted := ⟨rfl, rfl, rfl, rfl⟩

/-- **One more entry leaves it as it is whether the header announces the entries.** -/
theorem isCounted_add (m : Message) (e : Entry) : (m.add e).2.IsCounted ↔ m.IsCounted := by
  rw [add_eq]
  split_ifs with h
  · exact Iff.rfl
  · rw [isCounted_iff, isCounted_iff]
    refine forall_congr' fun place => ?_
    rw [counts_pushed, entries_pushed, List.length_append]
    by_cases hp : e.place = place
    · rw [if_pos hp, if_pos hp, toNat_succ (hp ▸ h), List.length_singleton]
      omega
    · rw [if_neg hp, if_neg hp, UInt16.add_zero, List.length_nil, Nat.add_zero]

theorem isCounted_addAll (m : Message) (es : List Entry) :
    (m.addAll es).IsCounted ↔ m.IsCounted := by
  induction es generalizing m with
  | nil => exact Iff.rfl
  | cons e es ih => rw [addAll_cons, ih, isCounted_add]

/-! ### What the entries are -/

/-- All questions of the message have one property and all records another. -/
def Holds (P : Question → Prop) (R : Record → Prop) (m : Message) : Prop :=
  ∀ place, ∀ e ∈ m.entries place, e.Is P R

variable {P : Question → Prop} {R : Record → Prop}

theorem Holds.questions {m : Message} (h : m.Holds P R) : ∀ q ∈ m.questions.toList, P q :=
  fun q hq => h .question (.question q) (List.mem_map_of_mem hq)

theorem Holds.records {m : Message} (h : m.Holds P R) : ∀ r ∈ m.records, R r :=
  forall_mem_records.2 ⟨fun r hr => h .answer (.answer r) (List.mem_map_of_mem hr),
    fun r hr => h .authority (.authority r) (List.mem_map_of_mem hr),
    fun r hr => h .additional (.additional r) (List.mem_map_of_mem hr)⟩

theorem entries_ofHeader (h : Header) (place : Section) : (ofHeader h).entries place = [] := by
  cases place <;> rfl

theorem holds_ofHeader (h : Header) : (ofHeader h).Holds P R := by
  intro place e he
  rw [entries_ofHeader] at he
  exact absurd he List.not_mem_nil

theorem Holds.add {m : Message} (hm : m.Holds P R) {e : Entry} (he : e.Is P R) :
    (m.add e).2.Holds P R := by
  rw [add_eq]
  split_ifs
  · exact hm
  · intro place e' he'
    rw [entries_pushed] at he'
    rcases List.mem_append.1 he' with he' | he'
    · exact hm place e' he'
    · split_ifs at he'
      · rwa [List.mem_singleton.1 he']
      · exact absurd he' List.not_mem_nil

/-- **All entries are among those that were there before or added.** -/
theorem Holds.addAll {m : Message} (hm : m.Holds P R) {es : List Entry}
    (he : ∀ e ∈ es, e.Is P R) : (m.addAll es).Holds P R := by
  induction es generalizing m with
  | nil => exact hm
  | cons e es ih =>
    obtain ⟨he, hes⟩ := List.forall_mem_cons.1 he
    exact ih (hm.add he) hes

/-! ### Where the entries are -/

/-- An entry for a section with room is added at its end, and to no other section. -/
theorem entries_add {m : Message} (hm : m.IsCounted) {e : Entry}
    (h : (m.entries e.place).length < 65535) (place : Section) :
    (m.add e).2.entries place = m.entries place ++ if e.place = place then [e] else [] := by
  have hroom : m.header.counts.of e.place ≠ maxEntries := by
    intro hfull
    have hn := isCounted_iff.1 hm e.place
    rw [hfull] at hn
    have hmax : maxEntries.toNat = 65535 := rfl
    omega
  rw [add_eq, if_neg hroom, entries_pushed]

/-- **Entries that there is room for are added to their sections in their order.** -/
theorem entries_addAll {m : Message} (hm : m.IsCounted) {es : List Entry}
    (h : ∀ place, (m.entries place).length + (es.filter (·.place = place)).length ≤ 65535)
    (place : Section) :
    (m.addAll es).entries place = m.entries place ++ es.filter (·.place = place) := by
  induction es generalizing m with
  | nil => rw [addAll_nil, List.filter_nil, List.append_nil]
  | cons e es ih =>
    -- Room for all of the entries is room for the first, and for the others behind it.
    have hroom : (m.entries e.place).length < 65535 := by
      have he := h e.place
      rw [List.filter_cons_of_pos (by simp), List.length_cons] at he
      omega
    have hadd := entries_add hm hroom
    rw [addAll_cons, ih ((isCounted_add m e).2 hm), hadd, List.append_assoc, List.filter_cons]
    · split_ifs <;> simp_all
    · intro place
      have hp := h place
      rw [List.filter_cons] at hp
      rw [hadd, List.length_append]
      split_ifs at hp ⊢ <;> simp_all
      omega

/-! ### What stays -/

theorem exists_header_addAll (m : Message) (es : List Entry) :
    ∃ c, (m.addAll es).header = { m.header with counts := c } := by
  induction es generalizing m with
  | nil => exact ⟨m.header.counts, rfl⟩
  | cons e es ih =>
    obtain ⟨c', hc'⟩ := ih (m.add e).2
    rw [addAll_cons, hc', add_eq]
    split_ifs
    · exact ⟨c', rfl⟩
    · obtain ⟨c, hc⟩ := exists_header_pushed m e
      exact ⟨c', by rw [hc]⟩

theorem isSendable_header_addAll {m : Message} (h : m.header.IsSendable) (es : List Entry) :
    (m.addAll es).header.IsSendable := by
  obtain ⟨c, hc⟩ := exists_header_addAll m es
  rw [hc]
  exact ⟨h.operation, h.code⟩

theorem received_add (m : Message) (e : Entry) :
    (m.add e).2.received = none ∨ (m.add e).2 = m := by
  rw [add_eq]
  split_ifs
  · exact .inr rfl
  · exact .inl (received_pushed m e)

theorem received_addAll {m : Message} (h : m.received = none) (es : List Entry) :
    (m.addAll es).received = none := by
  induction es generalizing m with
  | nil => exact h
  | cons e es ih =>
    rw [addAll_cons]
    refine ih ?_
    rcases received_add m e with he | he
    · exact he
    · rw [he, h]

end Message

end ServiceDiscovery
