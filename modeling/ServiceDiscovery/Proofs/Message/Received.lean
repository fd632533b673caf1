import ServiceDiscovery.Proofs.Message.Counts
import ServiceDiscovery.Proofs.Message.NormalForm

/-!
# The bytes that a message was read from

A message that was read holds its bytes and is sent as these bytes. Only a sender can be written to
it without the bytes being dropped, and an addition that fails writes nothing at all. So the bytes
that a message holds always say what the message says.

* `IsCurrent`: the bytes that are held are read as the message, and are what is sent;
* `change_of_received_eq_some`: what a write does that does not drop the bytes;
* `IsCurrent.change`, `IsCurrent.run`: writes keep the bytes current;
* `add_eq_error_iff`: when an addition fails, and what it leaves;
* `isCurrent_run`: both for every message that was made or read and then written to.
-/

namespace ServiceDiscovery

namespace Message

/-- The bytes that the message holds, if any, are read as the message itself, from nobody, and are
what is sent. -/
def IsCurrent (m : Message) : Prop :=
  ∀ b, m.received = some b → decode b = .ok { m with sender := none } ∧ m.encode = .ok b

/-! ### Messages without writes -/

theorem encode_of_received {m : Message} {b : Bytes} (h : m.received = some b) :
    m.encode = .ok b := by
  unfold encode
  rw [h]

theorem isCurrent_of_decode {packet : Bytes} {m : Message} (h : decode packet = .ok m) :
    m.IsCurrent := by
  have hm := isFrom_of_decode h
  intro b hb
  have hpacket : packet = b := Option.some.inj (hm.received.symm.trans hb)
  have hsender : { m with sender := none } = m := by rw [← hm.sender]
  rw [hsender, ← hpacket]
  exact ⟨h, encode_of_received hm.received⟩

/-- Bytes do not say who sent them. -/
theorem IsCurrent.tagged {m : Message} (h : m.IsCurrent) (sender : SocketAddress) :
    (m.tagged sender).IsCurrent := by
  intro b hb
  have hb : m.received = some b := hb
  exact ⟨(h b hb).1, encode_of_received hb⟩

theorem IsFresh.isCurrent {m : Message} (h : m.IsFresh) : m.IsCurrent := by
  cases h with
  | ofHeader h =>
    intro b hb
    cases hb
  | decoded h => exact isCurrent_of_decode h
  | decodedFrom h =>
    obtain ⟨m, hm, h⟩ := bind_eq_ok.1 h
    cases pure_eq_ok.1 h
    exact (isCurrent_of_decode hm).tagged _

/-! ### Writes -/

/-- **A write after which the message holds bytes writes a sender or nothing.** -/
theorem change_of_received_eq_some {m : Message} {c : Change} {b : Bytes}
    (h : (m.change c).received = some b) :
    m.change c = m ∨ ∃ sender, m.change c = m.tagged sender := by
  cases c with
  | add e =>
    left
    rcases received_add m e with hnone | hsame
    · have hsome : (m.add e).2.received = some b := h
      rw [hnone] at hsome
      cases hsome
    · exact hsame
  | tag sender => exact .inr ⟨sender, rfl⟩
  | edit f keeps => cases h
  | assign h' => cases h

theorem IsCurrent.change {m : Message} (h : m.IsCurrent) (c : Change) :
    (m.change c).IsCurrent := by
  intro b hb
  rcases change_of_received_eq_some hb with hsame | ⟨sender, htagged⟩
  · rw [hsame] at hb ⊢
    exact h b hb
  · rw [htagged] at hb ⊢
    exact h.tagged sender b hb

theorem IsCurrent.run {m : Message} (h : m.IsCurrent) (cs : List Change) :
    (m.run cs).IsCurrent := by
  induction cs generalizing m with
  | nil => exact h
  | cons c cs ih => exact ih (h.change c)

/-- **An addition fails exactly if its section is full, and then the message stays as it is.** -/
theorem add_eq_error_iff {m m' : Message} {e : Entry} {err : Error} :
    m.add e = (.error err, m') ↔
      m.header.counts.of e.place = maxEntries ∧ err = .sectionFull e.place ∧ m' = m := by
  rw [add_eq]
  constructor
  · intro h
    split_ifs at h with hfull
    · cases h
      exact ⟨hfull, rfl, rfl⟩
    · cases h
  · rintro ⟨hfull, rfl, rfl⟩
    rw [if_pos hfull]

/-- **Whatever is written to a message that was made or read, the bytes that it holds are read as
what it says and are what is sent; and an addition that fails, as those to full sections do,
changes nothing.** -/
theorem isCurrent_run {m : Message} (hm : m.IsFresh) (cs : List Change) :
    (m.run cs).IsCurrent ∧ ∀ e err m', (m.run cs).add e = (.error err, m') ↔
      (m.run cs).header.counts.of e.place = maxEntries ∧ err = .sectionFull e.place ∧
        m' = m.run cs :=
  ⟨hm.isCurrent.run cs, fun _ _ _ => add_eq_error_iff⟩

/-- A message that was read and then written a sender to. -/
def taggedMessage : Message := compressedMessage.run [.tag (.v4 ⟨192, 168, 1, 20⟩ 5353)]

theorem isCurrent_run_taggedMessage : compressedMessage.IsFresh ∧
    taggedMessage.received = some compressedPacket ∧ taggedMessage.IsCurrent ∧
      ∀ e err m', taggedMessage.add e = (.error err, m') ↔
        taggedMessage.header.counts.of e.place = maxEntries ∧ err = .sectionFull e.place ∧
          m' = taggedMessage := by
  have hdecode : decode compressedPacket = .ok compressedMessage := by decide +kernel
  have hfresh : compressedMessage.IsFresh := .decoded hdecode
  exact ⟨hfresh, rfl, isCurrent_run hfresh [.tag (.v4 ⟨192, 168, 1, 20⟩ 5353)]⟩

end Message

end ServiceDiscovery
