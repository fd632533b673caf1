import ServiceDiscovery.Proofs.Message.Building

/-!
# What a message announces

The header of a message announces how many entries every section has, and it is sent with these
numbers. Additions keep them right, and so do writes to the other fields of the header. A header
that is assigned as a whole brings its own numbers with it, so they are right afterwards only if it
announced the entries that the message held at that time.

* `Message.IsFresh`: messages that were made without entries, or read;
* `Message.Change`, `run`: writes to a message, one after another;
* `AssignsCounted`: the last header assigned as a whole announced what the message held;
* `isCounted_run`: that is when header and entries agree after a run;
* `announced_run`: the numbers in the header are those that are sent;
* `announces_entries_iff`: so it also decides what any sent packet announces.
-/

namespace ServiceDiscovery

namespace Message

/-! ### Messages and writes to them -/

/-- Messages without any writes to them: made with a header, or read from a packet. -/
inductive IsFresh : Message → Prop
  | ofHeader (h : Header) : IsFresh (ofHeader h)
  | decoded {packet : Bytes} {m : Message} (h : decode packet = .ok m) : IsFresh m
  | decodedFrom {packet : Bytes} {sender : SocketAddress} {m : Message}
      (h : decodeFrom packet sender = .ok m) : IsFresh m

/-- A write to a message: one more entry, a sender, a write to fields of the header other than the
numbers of entries, or a whole header. -/
inductive Change where
  | add (e : Entry)
  | tag (sender : SocketAddress)
  | edit (f : Header → Header) (keeps : ∀ h, (f h).counts = h.counts)
  | assign (h : Header)

def change (m : Message) : Change → Message
  | .add e => (m.add e).2
  | .tag sender => m.tagged sender
  | .edit f _ => m.withHeader f
  | .assign h => m.withHeader fun _ => h

def run (m : Message) (cs : List Change) : Message := cs.foldl change m

theorem run_concat (m : Message) (cs : List Change) (c : Change) :
    m.run (cs ++ [c]) = (m.run cs).change c := by
  rw [run, List.foldl_concat]
  rfl

/-- The last header that was assigned as a whole, if any, announced what the message then held. -/
def AssignsCounted (m : Message) (cs : List Change) : Prop :=
  ∀ before h after, cs = before ++ .assign h :: after → (∀ h', .assign h' ∉ after) →
    Announce h.counts (m.run before)

/-! ### Header and entries -/

theorem IsFresh.isCounted {m : Message} (h : m.IsFresh) : m.IsCounted := by
  cases h with
  | ofHeader h => exact isCounted_ofHeader h
  | decoded h => exact (isFrom_of_decode h).counted
  | decodedFrom h =>
    obtain ⟨m, hm, h⟩ := bind_eq_ok.1 h
    cases pure_eq_ok.1 h
    obtain ⟨hq, han, hau, had⟩ := (isFrom_of_decode hm).counted
    exact ⟨hq, han, hau, had⟩

theorem isCounted_assign (m : Message) (h : Header) :
    (m.change (.assign h)).IsCounted ↔ Announce h.counts m := by
  simp only [IsCounted, announce_iff, change, withHeader]

/-- A write that assigns no header leaves it as it is whether the header announces the entries. -/
theorem isCounted_change (m : Message) {c : Change} (hc : ∀ h, c ≠ .assign h) :
    (m.change c).IsCounted ↔ m.IsCounted := by
  cases c with
  | add e => exact isCounted_add m e
  | tag sender => simp only [IsCounted, announce_iff, change, tagged]
  | edit f keeps => simp only [IsCounted, announce_iff, change, withHeader, keeps]
  | assign h => exact absurd rfl (hc h)

theorem assignsCounted_nil (m : Message) : m.AssignsCounted [] := by
  intro before h after he
  exact absurd he.symm (List.append_ne_nil_of_right_ne_nil _ (List.cons_ne_nil _ _))

theorem assignsCounted_assign (m : Message) (cs : List Change) (h : Header) :
    m.AssignsCounted (cs ++ [.assign h]) ↔ Announce h.counts (m.run cs) := by
  constructor
  · intro hm
    exact hm cs h [] rfl fun _ => List.not_mem_nil
  · intro hm before h' after he hlast
    rcases List.eq_nil_or_concat after with rfl | ⟨after, c, rfl⟩
    · obtain ⟨rfl, hh⟩ := List.append_inj' he rfl
      cases hh
      exact hm
    · -- Then the write at the end would come after the last assignment.
      rw [List.concat_eq_append, ← List.cons_append, ← List.append_assoc] at he
      obtain ⟨-, hc⟩ := List.append_inj' he rfl
      cases hc
      exact absurd (by simp) (hlast h)

theorem assignsCounted_concat (m : Message) (cs : List Change) {c : Change}
    (hc : ∀ h, c ≠ .assign h) : m.AssignsCounted (cs ++ [c]) ↔ m.AssignsCounted cs := by
  constructor
  · intro hm before h after he hlast
    refine hm before h (after ++ [c]) (by rw [he]; simp) fun h' hmem => ?_
    rcases List.mem_append.1 hmem with hmem | hmem
    · exact hlast h' hmem
    · exact hc h' (List.mem_singleton.1 hmem).symm
  · intro hm before h after he hlast
    rcases List.eq_nil_or_concat after with rfl | ⟨after, c', rfl⟩
    · obtain ⟨-, hh⟩ := List.append_inj' he rfl
      cases hh
      exact absurd rfl (hc h)
    · rw [List.concat_eq_append, ← List.cons_append, ← List.append_assoc] at he
      obtain ⟨rfl, -⟩ := List.append_inj' he rfl
      exact hm before h after rfl fun h' hmem => hlast h' (by simp [hmem])

/-- **Header and entries agree after a run exactly if the last header assigned as a whole, if any,
announced what the message then held.** -/
theorem isCounted_run {m : Message} (hm : m.IsFresh) (cs : List Change) :
    (m.run cs).IsCounted ↔ m.AssignsCounted cs := by
  -- By the last write: an assignment at the end makes all that came before it irrelevant, and any
  -- other write changes neither side.
  induction cs using List.reverseRecOn with
  | nil => exact iff_of_true hm.isCounted (assignsCounted_nil m)
  | append_singleton cs c ih =>
    rw [run_concat]
    by_cases hc : ∃ h, c = .assign h
    · obtain ⟨h, rfl⟩ := hc
      rw [isCounted_assign, assignsCounted_assign]
    · have hc : ∀ h, c ≠ .assign h := fun h he => hc ⟨h, he⟩
      rw [isCounted_change _ hc, ih, assignsCounted_concat m cs hc]

/-! ### What is sent -/

/-- The numbers of entries that a packet announces. -/
def announced (packet : Bytes) : Except Error Counts := do
  return (← Reader.readAll Header.read (.start packet)).counts

/-- The bytes that the message was read from announce what its header does. -/
def IsKept (m : Message) : Prop :=
  ∀ packet, m.received = some packet → announced packet = .ok m.header.counts

theorem header_of_readKeeping {packet : Bytes} {c c' : Cursor} {m : Message}
    (h : readKeeping packet c = .ok m c') : ∃ c'', Header.read c = .ok m.header c'' := by
  obtain ⟨header, c'', hh, h⟩ := Reader.exists_of_bind_ok h
  obtain ⟨questions, _, -, h⟩ := Reader.exists_of_bind_ok h
  obtain ⟨answers, _, -, h⟩ := Reader.exists_of_bind_ok h
  obtain ⟨authorities, _, -, h⟩ := Reader.exists_of_bind_ok h
  obtain ⟨additionals, _, -, h⟩ := Reader.exists_of_bind_ok h
  cases h
  exact ⟨c'', hh⟩

theorem isKept_of_decode {packet : Bytes} {m : Message} (h : decode packet = .ok m) :
    m.IsKept := by
  intro packet' hp
  rw [(isFrom_of_decode h).received] at hp
  cases hp
  obtain ⟨c', hr⟩ := Reader.exists_of_readAll_eq_ok h
  rw [read_eq_readKeeping] at hr
  obtain ⟨c'', hh⟩ := header_of_readKeeping hr
  rw [announced, Reader.readAll, hh]
  rfl

theorem IsFresh.isKept {m : Message} (h : m.IsFresh) : m.IsKept := by
  cases h with
  | ofHeader h =>
    rintro _ ⟨⟩
  | decoded h => exact isKept_of_decode h
  | decodedFrom h =>
    obtain ⟨m, hm, h⟩ := bind_eq_ok.1 h
    cases pure_eq_ok.1 h
    exact fun packet hp => isKept_of_decode hm packet hp

theorem IsKept.change {m : Message} (h : m.IsKept) (c : Change) : (m.change c).IsKept := by
  cases c with
  | add e =>
    show (m.add e).2.IsKept
    rcases received_add m e with he | he
    · intro packet hp
      rw [he] at hp
      cases hp
    · rwa [he]
  | tag sender => exact h
  | edit f keeps =>
    rintro _ ⟨⟩
  | assign h' =>
    rintro _ ⟨⟩

theorem IsKept.run {m : Message} (h : m.IsKept) (cs : List Change) : (m.run cs).IsKept := by
  induction cs generalizing m with
  | nil => exact h
  | cons c cs ih => exact ih (h.change c)

theorem announced_wire (m : Message) : announced m.wire = .ok m.header.counts := by
  rw [announced, Reader.readAll, Header.takes_bytes m.header _ _ (rest_start_wire m)]
  rfl

/-- The numbers in the header are those that are sent. -/
theorem announced_encode {m : Message} (h : m.IsKept) {b : Bytes} (hb : m.encode = .ok b) :
    announced b = .ok m.header.counts := by
  rw [encode] at hb
  cases hr : m.received with
  | some packet =>
    rw [hr] at hb
    cases hb
    exact h b hr
  | none =>
    rw [hr] at hb
    obtain ⟨-, rfl⟩ := build_eq_ok.1 hb
    exact announced_wire m

/-- **A message announces its entries, in its header and in every packet that is made of it, exactly
if the last header assigned to it as a whole, if any, announced what it then held.** -/
theorem announces_entries_iff {m : Message} (hm : m.IsFresh) (cs : List Change) :
    ((m.run cs).IsCounted ↔ m.AssignsCounted cs) ∧
      ∀ b, (m.run cs).encode = .ok b →
        ∃ c, announced b = .ok c ∧ (Announce c (m.run cs) ↔ m.AssignsCounted cs) :=
  ⟨isCounted_run hm cs, fun _ hb =>
    ⟨_, announced_encode (hm.isKept.run cs) hb, isCounted_run hm cs⟩⟩

/-- The header of a request with one question, assigned to a request without any. -/
def copiedHeader : List Change :=
  [.assign (request.add (.question { name := "local", type := .ptr })).2.header]

theorem announces_entries_iff_copiedHeader : request.IsFresh ∧
    ((request.run copiedHeader).IsCounted ↔ request.AssignsCounted copiedHeader) ∧
      ∀ b, (request.run copiedHeader).encode = .ok b → ∃ c, announced b = .ok c ∧
        (Announce c (request.run copiedHeader) ↔ request.AssignsCounted copiedHeader) :=
  ⟨.ofHeader .request, announces_entries_iff (.ofHeader .request) copiedHeader⟩

/-- A copied header makes a message announce a question that it does not hold, and a packet that
cannot be read. -/
theorem not_isCounted_copiedHeader :
    request.IsFresh ∧ ¬(request.run copiedHeader).IsCounted ∧
      ∃ b, (request.run copiedHeader).encode = .ok b ∧
        decode b = .error (.malformedEntry .question 0 .unexpectedEnd) :=
  ⟨.ofHeader .request, fun h => absurd h.questions (by decide), (request.run copiedHeader).wire,
    by decide +kernel, by decide +kernel⟩

end Message

end ServiceDiscovery
