import ServiceDiscovery.Message.Wire
import ServiceDiscovery.Proofs.Header
import ServiceDiscovery.Proofs.Record.Wire
import Mathlib.Tactic.MkIffOfInductiveProp

/-!
# Messages on the wire

A message whose header announces the entries that it holds is read back from its bytes with its
names tidied, and a message that was read is of this kind.

* `Message.IsCounted`: the header announces the entries that are held;
* `Message.wire`, `build_eq_ok`: when and as what a message is written;
* `takes_readEntries`: the entries of a section, one after another;
* `decode_wire_sent`, `decode_wire`: what a written message is read as;
* `isFrom_of_decode`: what reading gives.
-/

namespace ServiceDiscovery

namespace Message

/-! ### Counted entries -/

/-- The numbers are those of the entries in the sections of a message. -/
@[mk_iff announce_iff]
structure Announce (c : Counts) (m : Message) : Prop where
  questions : c.questions.toNat = m.questions.size
  answers : c.answers.toNat = m.answers.size
  authorities : c.authorities.toNat = m.authorities.size
  additionals : c.additionals.toNat = m.additionals.size

/-- The header announces the entries that the message holds. -/
def IsCounted (m : Message) : Prop := Announce m.header.counts m

theorem forall_mem_records {m : Message} {P : Record → Prop} :
    (∀ r ∈ m.records, P r) ↔ (∀ r ∈ m.answers.toList, P r) ∧ (∀ r ∈ m.authorities.toList, P r) ∧
      ∀ r ∈ m.additionals.toList, P r := by
  simp only [records, List.forall_mem_append, and_assoc]

/-! ### Writing -/

/-- All names and data of the message can be written. -/
structure Fits (m : Message) : Prop where
  questions : ∀ q ∈ m.questions.toList, Name.Fits q.name
  records : ∀ r ∈ m.records, r.Fits

def wire (m : Message) : Bytes :=
  m.header.bytes ++ m.questions.toList.flatMap Question.wire ++ m.records.flatMap Record.wire

/-- **When and as what a message is written.** -/
theorem build_eq_ok {m : Message} {bytes : Bytes} :
    m.build = .ok bytes ↔ m.Fits ∧ bytes = m.wire := by
  simp only [build, bind_eq_ok, pure_eq_ok,
    mapM_write_eq_ok (fun q _ => Question.write_eq_ok (q := q)),
    mapM_write_eq_ok (fun r _ => Record.write_eq_ok (r := r))]
  constructor
  · rintro ⟨_, ⟨hq, rfl⟩, _, ⟨hr, rfl⟩, rfl⟩
    exact ⟨⟨hq, hr⟩, rfl⟩
  · rintro ⟨⟨hq, hr⟩, rfl⟩
    exact ⟨_, ⟨hq, rfl⟩, _, ⟨hr, rfl⟩, rfl⟩

theorem encode_of_unreceived {m : Message} (h : m.received = none) : m.encode = m.build := by
  rw [encode, h]

theorem wire_append_sections (m : Message) :
    m.wire = m.header.bytes ++ (m.questions.toList.flatMap Question.wire ++
      (m.answers.toList.flatMap Record.wire ++ (m.authorities.toList.flatMap Record.wire ++
        m.additionals.toList.flatMap Record.wire))) := by
  simp only [wire, records, List.flatMap_append, List.append_assoc]

/-! ### Reading the entries of a section -/

section Sections
variable {α : Type} {read : Reader α} {place : Section}

theorem readEntries_succ_of_ok {c c' : Cursor} {a : α} (h : read c = .ok a c') (n : Nat)
    (seen : Array α) :
    readEntries read place (n + 1) seen c = readEntries read place n (seen.push a) c' := by
  rw [readEntries, h]

theorem readEntries_succ_eq_ok {c c'' : Cursor} {n : Nat} {seen all : Array α}
    (h : readEntries read place (n + 1) seen c = .ok all c'') :
    ∃ a c', read c = .ok a c' ∧ readEntries read place n (seen.push a) c' = .ok all c'' := by
  rw [readEntries] at h
  cases hr : read c with
  | ok a c' =>
    rw [hr] at h
    exact ⟨a, c', rfl, h⟩
  | error e c' =>
    rw [hr] at h
    cases h

/-- **Entries that are taken one by one are taken in a row.** -/
theorem takes_readEntries {wire : α → Bytes} {tidied : α → α} {as : List α}
    (h : ∀ a ∈ as, Reader.Takes read (wire a) (tidied a)) (seen : Array α) :
    Reader.Takes (readEntries read place as.length seen) (as.flatMap wire)
      (seen ++ (as.map tidied).toArray) := by
  induction as generalizing seen with
  | nil =>
    intro c rest _
    simp [readEntries, Cursor.skip_zero]
  | cons a as ih =>
    obtain ⟨ha, has⟩ := List.forall_mem_cons.1 h
    intro c rest hc
    rw [List.flatMap_cons, List.append_assoc] at hc
    rw [List.length_cons, readEntries_succ_of_ok (ha c _ hc),
      ih has (seen.push (tidied a)) _ rest (Cursor.rest_skip hc), Cursor.skip_skip,
      ← List.length_append]
    simp

theorem takes_readSection {wire : α → Bytes} {tidied : α → α} {as : Array α} {count : UInt16}
    (hn : count.toNat = as.size) (h : ∀ a ∈ as.toList, Reader.Takes read (wire a) (tidied a)) :
    Reader.Takes (readSection read place count) (as.toList.flatMap wire) (as.map tidied) := by
  rw [readSection, hn, ← Array.length_toList]
  have ht : Reader.Takes (readEntries read place as.toList.length #[]) _ _ :=
    takes_readEntries h #[]
  rwa [← List.map_toArray, Array.empty_append] at ht

/-- As many entries are read as are announced, each of them by the reader of entries. -/
theorem gives_readEntries {P : α → Prop} (h : Reader.Gives read P) (place : Section) (n : Nat)
    (seen : Array α) (hs : ∀ a ∈ seen.toList, P a) : Reader.Gives (readEntries read place n seen) fun all =>
      n + seen.size = all.size ∧ ∀ a ∈ all.toList, P a := by
  induction n generalizing seen with
  | zero =>
    intro c all c' hr
    cases hr
    exact ⟨Nat.zero_add _, hs⟩
  | succ n ih =>
    intro c all c'' hr
    obtain ⟨a, c', ha, hr⟩ := readEntries_succ_eq_ok hr
    have hs' : ∀ b ∈ (seen.push a).toList, P b := by
      rw [Array.toList_push, List.forall_mem_append]
      exact ⟨hs, by simpa using h c a c' ha⟩
    obtain ⟨hn, hall⟩ := ih (seen.push a) hs' c' all c'' hr
    rw [Array.size_push] at hn
    exact ⟨by omega, hall⟩

theorem gives_readSection {P : α → Prop} (h : Reader.Gives read P) (place : Section)
    (count : UInt16) : Reader.Gives (readSection read place count) fun all =>
      count.toNat = all.size ∧ ∀ a ∈ all.toList, P a := by
  have hs : ∀ a ∈ (#[] : Array α).toList, P a := by simp
  exact gives_readEntries h place count.toNat #[] hs

end Sections

/-! ### Reading a message -/

/-- The header, the entries and the data of the records keep their meaning when sent. -/
structure IsSendable (m : Message) : Prop where
  header : m.header.IsSendable
  questions : ∀ q ∈ m.questions.toList, q.IsSendable
  records : ∀ r ∈ m.records, r.IsSendable

/-- The message that is read from what was written. -/
def tidied (m : Message) : Message where
  header := m.header
  questions := m.questions.map Question.tidied
  answers := m.answers.map Record.tidied
  authorities := m.authorities.map Record.tidied
  additionals := m.additionals.map Record.tidied
  received := some m.wire

theorem records_tidied (m : Message) : m.tidied.records = m.records.map Record.tidied := by
  simp only [records, tidied, Array.toList_map, List.map_append]

theorem map_eq_self {α : Type} {f : α → α} {as : Array α} (h : ∀ a ∈ as.toList, f a = a) :
    as.map f = as := by
  rw [← Array.toList_inj, Array.toList_map]
  exact (List.map_congr_left h).trans (List.map_id _)

theorem tidied_eq_self {m : Message} (hq : ∀ q ∈ m.questions.toList, q.tidied = q)
    (hr : ∀ r ∈ m.records, r.tidied = r) :
    m.tidied = { m with received := some m.wire, sender := none } := by
  obtain ⟨han, hau, had⟩ := forall_mem_records.1 hr
  simp only [tidied, map_eq_self hq, map_eq_self han, map_eq_self hau, map_eq_self had]

/-- Reads a message that keeps the given bytes. -/
def readKeeping (packet : Bytes) : Reader Message := do
  let header ← Header.read
  let questions ← readSection Question.read .question header.counts.questions
  let answers ← readSection Record.read .answer header.counts.answers
  let authorities ← readSection Record.read .authority header.counts.authorities
  let additionals ← readSection Record.read .additional header.counts.additionals
  return { header, questions, answers, authorities, additionals, received := some packet }

theorem read_eq_readKeeping (c : Cursor) : read c = readKeeping c.packet c := Reader.get_bind _ c

theorem decode_eq (packet : Bytes) :
    decode packet = Reader.readAll (readKeeping packet) (.start packet) := by
  rw [decode, Reader.readAll, Reader.readAll, read_eq_readKeeping]
  rfl

/-- The entries of a message are taken behind any header that announces them. -/
theorem takes_readKeeping_sent {m : Message} (hc : m.IsCounted)
    (hq : ∀ q ∈ m.questions.toList, q.IsSendable) (hr : ∀ r ∈ m.records, r.IsSendable)
    (hf : m.Fits) (packet : Bytes) :
    Reader.Takes (readKeeping packet) m.wire
      { m.tidied with header := m.header.sent, received := some packet } := by
  obtain ⟨hanswers, hauthorities, hadditionals⟩ := forall_mem_records.1
    fun r hmem => Record.takes_wire (hr r hmem) (hf.records r hmem)
  have hquestions : ∀ q ∈ m.questions.toList, Reader.Takes Question.read q.wire q.tidied :=
    fun q hmem => Question.takes_wire (hq q hmem) (hf.questions q hmem)
  rw [wire_append_sections]
  refine (Header.takes_bytes m.header).bind ?_
  refine (takes_readSection hc.questions hquestions).bind ?_
  refine (takes_readSection hc.answers hanswers).bind ?_
  refine (takes_readSection hc.authorities hauthorities).bind ?_
  exact (takes_readSection hc.additionals hadditionals).bind_pure (Reader.takes_pure _)

/-- **A written message is read back** with its names tidied and what its header can carry. -/
theorem decode_wire_sent {m : Message} (hc : m.IsCounted)
    (hq : ∀ q ∈ m.questions.toList, q.IsSendable) (hr : ∀ r ∈ m.records, r.IsSendable)
    (hf : m.Fits) : decode m.wire = .ok { m.tidied with header := m.header.sent } := by
  have he : Reader.Exhausts (readKeeping m.wire) m.wire
      { m.tidied with header := m.header.sent } :=
    (takes_readKeeping_sent hc hq hr hf m.wire).exhausts
  obtain ⟨c', he⟩ := he (.start m.wire) rfl
  have hp : (Cursor.start m.wire).packet = m.wire := rfl
  rw [decode, Reader.readAll, read_eq_readKeeping, hp, he]

/-- **A written message is read back** with its names tidied. -/
theorem decode_wire {m : Message} (hc : m.IsCounted) (hs : m.IsSendable) (hf : m.Fits) :
    decode m.wire = .ok m.tidied := by
  have h := decode_wire_sent hc hs.questions hs.records hf
  rwa [Header.sent_eq_self hs.header] at h

theorem rest_start_wire (m : Message) : (Cursor.start m.wire).rest = m.header.bytes ++
    (m.questions.toList.flatMap Question.wire ++ m.records.flatMap Record.wire) := by
  rw [← List.append_assoc]
  rfl

/-- The bytes of a message say all of its header. -/
theorem header_eq_of_wire_eq {m m' : Message} (hs : m.header.IsSendable)
    (hs' : m'.header.IsSendable) (h : m.wire = m'.wire) : m.header = m'.header := by
  have hm := Header.takes_bytes_of_isSendable hs _ _ (rest_start_wire m)
  have hm' := Header.takes_bytes_of_isSendable hs' _ _ (rest_start_wire m')
  rw [h, hm'] at hm
  injection hm with hheader _
  exact hheader.symm

/-! ### What reading gives -/

/-- What is known of a message that was read from a packet. -/
structure IsFrom (packet : Bytes) (m : Message) : Prop where
  counted : m.IsCounted
  sendable : m.IsSendable
  labelled : ∀ r ∈ m.records, r.body.IsLabelled r.header.name
  received : m.received = some packet
  sender : m.sender = none

theorem gives_isFrom (packet : Bytes) : Reader.Gives (readKeeping packet) (IsFrom packet) := by
  have hrecords (place : Section) (count : UInt16) :=
    gives_readSection Record.gives_isSendable place count
  refine Header.gives_isSendable.bind fun header hh => ?_
  refine (gives_readSection Question.gives_isSendable .question _).bind fun questions hq => ?_
  refine (hrecords .answer _).bind fun answers han => ?_
  refine (hrecords .authority _).bind fun authorities hau => ?_
  refine (hrecords .additional _).bind fun additionals had => ?_
  refine Reader.gives_pure ⟨⟨hq.1, han.1, hau.1, had.1⟩, ⟨hh, hq.2, ?_⟩, ?_, rfl, rfl⟩
  · exact forall_mem_records.2 ⟨fun r hr => (han.2 r hr).1, fun r hr => (hau.2 r hr).1,
      fun r hr => (had.2 r hr).1⟩
  · exact forall_mem_records.2 ⟨fun r hr => (han.2 r hr).2, fun r hr => (hau.2 r hr).2,
      fun r hr => (had.2 r hr).2⟩

/-- **A message that was read holds what it announces, and all of it can be sent.** -/
theorem isFrom_of_decode {packet : Bytes} {m : Message} (h : decode packet = .ok m) :
    m.IsFrom packet := by
  obtain ⟨c', hr⟩ := Reader.exists_of_readAll_eq_ok h
  rw [read_eq_readKeeping] at hr
  exact gives_isFrom packet _ m c' hr

end Message

end ServiceDiscovery
